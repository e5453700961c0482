/-
This file gives the four parsers of the program, one namespace for each.
-/

import IgwP4.Construction.Dataplane.ParserStates

namespace IgwP4.Dataplane
open Packet

namespace P02IngressParser

def parseJdInnerEthernet : ParserState → Option ParserState :=
  innerEthernetState vxlanTypeJd parseInnerIpv4 parseInnerIpv6

def parseInnerEthernet : ParserState → Option ParserState :=
  innerEthernetState vxlanTypeStd parseInnerIpv4 parseInnerIpv6

/-- This parser alone asks for version one as well before it takes a packet for a JD packet. -/
def parseStdVxlan (s : ParserState) : Option ParserState := do
  let s ← s.extract Vxlan.codec fun hdr vxlan => { hdr with vxlan }
  if s.hdr.vxlan.fields.flags.getLsbD 2 = true ∧ s.hdr.vxlan.fields.version = 1 then
    parseJdInnerEthernet s
  else parseInnerEthernet s

def parseUdp6 (s : ParserState) : Option ParserState := extractUdp s

def parseUdp (s : ParserState) : Option ParserState := do
  let s ← extractUdp s
  if s.hdr.udp.fields.dstPort = udpPortVxlan then parseStdVxlan s else some s

def parseIpv6 (s : ParserState) : Option ParserState := do
  let s ← extractIpv6 s
  if s.hdr.ipv6.fields.nextHdr = ipProtocolsTcp then parseTcp s
  else if s.hdr.ipv6.fields.nextHdr = ipProtocolsUdp then parseUdp6 s
  else some s

def parseIpv4NoOptions (s : ParserState) : Option ParserState :=
  if s.hdr.ipv4.fields.selects ipProtocolsIcmp then parseIcmp s
  else if s.hdr.ipv4.fields.selects ipProtocolsTcp then parseTcp s
  else if s.hdr.ipv4.fields.selects ipProtocolsUdp then parseUdp s
  else some s

def parseIpv4 (s : ParserState) : Option ParserState := do
  let s ← extractIpv4 s
  if s.hdr.ipv4.fields.ihl = 5 then parseIpv4NoOptions s else some s

def parseCpu (s : ParserState) : Option ParserState := do
  let s ← extractCpu s
  if s.hdr.cpu.fields.etherType = etherTypeIpv4 then parseIpv4 s else some s

def parseEthernet (s : ParserState) : Option ParserState := do
  let s ← s.extract Ethernet.codec fun hdr ethernet => { hdr with ethernet }
  if s.hdr.ethernet.fields.etherType = etherTypeIpv4 then parseIpv4 s
  else if s.hdr.ethernet.fields.etherType = etherTypeIpv6 then parseIpv6 s
  else if s.hdr.ethernet.fields.etherType = etherTypeBfn then parseCpu s
  else some s

/-- The parser drops a frame that ends inside a header it extracts. -/
def parse (containers : Headers) (frame : Bits) : Option ParserState :=
  parseEthernet (.start containers frame)

end P02IngressParser

namespace P13EgressParser

def parseJdInnerEthernet : ParserState → Option ParserState :=
  innerEthernetState vxlanTypeJd parseInnerIpv4Egress parseInnerIpv6Egress

/-- This parser does not follow inner IPv6 under standard VXLAN. -/
def parseInnerEthernet : ParserState → Option ParserState :=
  innerEthernetState vxlanTypeStd parseInnerIpv4Egress some

def parseStdVxlan (s : ParserState) : Option ParserState := do
  let s ← s.extract Vxlan.codec fun hdr vxlan => { hdr with vxlan }
  if s.hdr.vxlan.fields.flags.getLsbD 2 = true then parseJdInnerEthernet s
  else parseInnerEthernet s

def parseUdp (s : ParserState) : Option ParserState := do
  let s ← extractUdp s
  if s.hdr.udp.fields.dstPort = udpPortVxlan then parseStdVxlan s else some s

def parseUdpV2 (s : ParserState) : Option ParserState := extractUdp s

def parseIpv6 (s : ParserState) : Option ParserState := do
  let s ← extractIpv6 s
  if s.hdr.ipv6.fields.nextHdr = ipProtocolsTcp then parseTcp s
  else if s.hdr.ipv6.fields.nextHdr = ipProtocolsUdp then parseUdpV2 s
  else some s

def parseIpv4NoOptions (s : ParserState) : Option ParserState :=
  if s.hdr.ipv4.fields.selects ipProtocolsTcp then parseTcp s
  else if s.hdr.ipv4.fields.selects ipProtocolsUdp then parseUdp s
  else some s

def parseIpv4NoOptionsV2 (s : ParserState) : Option ParserState :=
  if s.hdr.ipv4.fields.selects ipProtocolsTcp then parseTcp s
  else if s.hdr.ipv4.fields.selects ipProtocolsUdp then parseUdpV2 s
  else some s

def parseIpv4 (s : ParserState) : Option ParserState := do
  let s ← extractIpv4 s
  if s.hdr.ipv4.fields.ihl = 5 then parseIpv4NoOptions s else some s

def parseIpv4V2 (s : ParserState) : Option ParserState := do
  let s ← extractIpv4 s
  if s.hdr.ipv4.fields.ihl = 5 then parseIpv4NoOptionsV2 s else some s

def parseEthernet (s : ParserState) : Option ParserState := do
  let s ← s.extract Ethernet.codec fun hdr ethernet => { hdr with ethernet }
  if s.hdr.ethernet.fields.etherType = etherTypeIpv4 then parseIpv4 s else some s

def parseBridgeHeader (s : ParserState) : Option ParserState := do
  let s ← s.extract BridgeMetadata.codec fun hdr bgMd => { hdr with bgMd }
  let bgMd := s.hdr.bgMd.fields
  if bgMd.outerEthernetType = etherTypeIpv4 ∧ bgMd.outerEthernetInvalid = 1 ∧ bgMd.dlPkt = 1 then
    parseIpv4 s
  else if bgMd.outerEthernetType = etherTypeIpv4 ∧ bgMd.outerEthernetInvalid = 1 ∧
      bgMd.dlPkt = 0 then
    parseIpv4V2 s
  else if bgMd.outerEthernetType = etherTypeIpv6 ∧ bgMd.outerEthernetInvalid = 1 ∧
      bgMd.dlPkt = 0 then
    parseIpv6 s
  else if bgMd.outerEthernetInvalid = 0 then parseEthernet s
  else some s

/-- `parse_ig_mirror_metadata` and `parse_eg_mirror_metadata` -/
def parseMirrorMetadata (s : ParserState) : Option ParserState := do
  let (mirror, pkt) ← MirrorMetadata.codec.extract s.pkt
  parseEthernet { s with metadata.mirror := mirror, pkt }

def parseHeaderCheck (s : ParserState) : Option ParserState := do
  let proto ← s.lookahead
  if proto = pktMirrMdIg then parseMirrorMetadata s
  else if proto = pktMirrMdEg then parseMirrorMetadata s
  else if proto = pktBridge then parseBridgeHeader s
  else some s

def parse (containers : Headers) (pkt : Bits) : Option ParserState :=
  parseHeaderCheck (.start containers pkt)

end P13EgressParser

namespace P13IngressParser

def parseJdInnerEthernet : ParserState → Option ParserState :=
  innerEthernetState vxlanTypeJd parseInnerIpv4 parseInnerIpv6

def parseInnerEthernet : ParserState → Option ParserState :=
  innerEthernetState vxlanTypeStd parseInnerIpv4 parseInnerIpv6

def parseStdVxlan (s : ParserState) : Option ParserState := do
  let s ← s.extract Vxlan.codec fun hdr vxlan => { hdr with vxlan }
  if s.hdr.vxlan.fields.flags.getLsbD 2 = true then parseJdInnerEthernet s
  else parseInnerEthernet s

def parseUdp (s : ParserState) : Option ParserState := do
  let s ← extractUdp s
  if s.hdr.udp.fields.dstPort = udpPortVxlan then parseStdVxlan s else some s

def parseIpv4NoOptions (s : ParserState) : Option ParserState :=
  if s.hdr.ipv4.fields.selects ipProtocolsIcmp then parseIcmp s
  else if s.hdr.ipv4.fields.selects ipProtocolsTcp then parseTcp s
  else if s.hdr.ipv4.fields.selects ipProtocolsUdp then parseUdp s
  else some s

def parseIpv4 (s : ParserState) : Option ParserState := do
  let s ← extractIpv4 s
  if s.hdr.ipv4.fields.ihl = 5 then parseIpv4NoOptions s else some s

def parseEthernet (s : ParserState) : Option ParserState := do
  let s ← s.extract Ethernet.codec fun hdr ethernet => { hdr with ethernet }
  if s.hdr.ethernet.fields.etherType = etherTypeIpv4 then parseIpv4 s else some s

def parseBridgeHeader (s : ParserState) : Option ParserState := do
  let s ← s.extract BridgeMetadata.codec fun hdr bgMd => { hdr with bgMd }
  let bgMd := s.hdr.bgMd.fields
  if bgMd.outerEthernetType = etherTypeIpv4 ∧ bgMd.outerEthernetInvalid = 1 then parseIpv4 s
  else if bgMd.outerEthernetInvalid = 0 then parseEthernet s
  else some s

def parseHeaderCheck (s : ParserState) : Option ParserState := do
  let proto ← s.lookahead
  if proto = pktBridge then parseBridgeHeader s else some s

def parse (containers : Headers) (pkt : Bits) : Option ParserState :=
  parseHeaderCheck (.start containers pkt)

end P13IngressParser

namespace P02EgressParser

def parseJdInnerEthernet : ParserState → Option ParserState :=
  innerEthernetState vxlanTypeJd parseInnerIpv4Egress parseInnerIpv6Egress

def parseInnerEthernet : ParserState → Option ParserState :=
  innerEthernetState vxlanTypeStd parseInnerIpv4Egress parseInnerIpv6Egress

def parseStdVxlan (s : ParserState) : Option ParserState := do
  let s ← s.extract Vxlan.codec fun hdr vxlan => { hdr with vxlan }
  if s.hdr.vxlan.fields.flags.getLsbD 2 = true then parseJdInnerEthernet s
  else parseInnerEthernet s

def parseUdp (s : ParserState) : Option ParserState := do
  let s ← extractUdp s
  if s.hdr.udp.fields.dstPort = udpPortVxlan then parseStdVxlan s else some s

def parseIpv4NoOptions (s : ParserState) : Option ParserState :=
  if s.hdr.ipv4.fields.selects ipProtocolsTcp then parseTcp s
  else if s.hdr.ipv4.fields.selects ipProtocolsUdp then parseUdp s
  else some s

def parseIpv4 (s : ParserState) : Option ParserState := do
  let s ← extractIpv4 s
  if s.hdr.ipv4.fields.ihl = 5 then parseIpv4NoOptions s else some s

def parseCpu (s : ParserState) : Option ParserState := do
  let s ← extractCpu s
  if s.hdr.cpu.fields.etherType = etherTypeIpv4 then parseIpv4 s else some s

def parseEthernet (s : ParserState) : Option ParserState := do
  let s ← s.extract Ethernet.codec fun hdr ethernet => { hdr with ethernet }
  if s.hdr.ethernet.fields.etherType = etherTypeIpv4 then parseIpv4 s
  else if s.hdr.ethernet.fields.etherType = etherTypeBfn then parseCpu s
  else some s

def parseBridgeHeader (s : ParserState) : Option ParserState := do
  let s ← s.extract BridgeMetadata.codec fun hdr bgMd => { hdr with bgMd }
  let bgMd := s.hdr.bgMd.fields
  if bgMd.outerEthernetType = etherTypeIpv4 ∧ bgMd.outerEthernetInvalid = 1 then parseIpv4 s
  else if bgMd.outerEthernetType = etherTypeBfn ∧ bgMd.outerEthernetInvalid = 1 then parseCpu s
  else if bgMd.outerEthernetInvalid = 0 then parseEthernet s
  else some s

/-- `parse_ig_mirror_metadata` and `parse_eg_mirror_metadata` -/
def parseMirrorMetadata (s : ParserState) : Option ParserState := do
  let (mirror, pkt) ← MirrorMetadata.codec.extract s.pkt
  parseEthernet { s with metadata.mirror := mirror, pkt }

def parseHeaderCheck (s : ParserState) : Option ParserState := do
  let proto ← s.lookahead
  if proto = pktMirrMdIg then parseMirrorMetadata s
  else if proto = pktMirrMdEg then parseMirrorMetadata s
  else if proto = pktBridge then parseBridgeHeader s
  else some s

def parse (containers : Headers) (pkt : Bits) : Option ParserState :=
  parseHeaderCheck (.start containers pkt)

end P02EgressParser

end IgwP4.Dataplane
