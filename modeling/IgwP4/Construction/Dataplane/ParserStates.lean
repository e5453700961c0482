/-
This file gives the parser machine and the states that the four parsers of the program share.
-/

import IgwP4.Construction.Dataplane.Meta

namespace IgwP4.Dataplane
open Packet

/-- A parser carries the headers, the metadata and the bits it has not read. -/
structure ParserState where
  hdr : Headers
  metadata : CommonMetadata
  pkt : Bits

namespace ParserState

/-- The intrinsic metadata is already removed when the first state runs. -/
def start (containers : Headers) (pkt : Bits) : ParserState :=
  ⟨containers.unparsed, {}, pkt⟩

/-- `pkt.extract` fails when the packet ends inside the header. -/
def extract {A : Type} (codec : Codec A) (store : Headers → Header A → Headers)
    (s : ParserState) : Option ParserState :=
  (codec.extract s.pkt).map fun result =>
    { s with hdr := store s.hdr ⟨true, result.1⟩, pkt := result.2 }

/-- An extraction succeeds exactly when the header stands at the front. -/
theorem extract_eq_some_iff {A : Type} (codec : Codec A) (store : Headers → Header A → Headers)
    (s t : ParserState) :
    s.extract codec store = some t ↔ ∃ fields rest, s.pkt = codec.encode fields ++ rest ∧
      t = { s with hdr := store s.hdr ⟨true, fields⟩, pkt := rest } := by
  simp only [extract, Option.map_eq_some_iff, Prod.exists, codec.extract_eq_some_iff]
  constructor
  · rintro ⟨fields, rest, shape, rfl⟩
    exact ⟨fields, rest, shape, rfl⟩
  · rintro ⟨fields, rest, shape, rfl⟩
    exact ⟨fields, rest, shape, rfl⟩

/-- A header at the front of the packet is extracted. -/
theorem extract_encode {A : Type} (codec : Codec A) (store : Headers → Header A → Headers)
    (hdr : Headers) (metadata : CommonMetadata) (fields : A) (rest : Bits) :
    ParserState.extract codec store ⟨hdr, metadata, codec.encode fields ++ rest⟩ =
      some ⟨store hdr ⟨true, fields⟩, metadata, rest⟩ := by
  simp [extract]

/-- `pkt.lookahead<bit<8>>()` reads the first byte and leaves it in place. -/
def lookahead (s : ParserState) : Option (BitVec 8) :=
  ((Codec.word 8).extract s.pkt).map Prod.fst

end ParserState

open ParserState

/-! The states below the outer transport ports. -/

def parseTcp (s : ParserState) : Option ParserState := do
  let s ← s.extract Tcp.codec fun hdr tcp => { hdr with tcp }
  some { s with
    metadata.l3.lkpOuterL4Sport := s.hdr.tcp.fields.srcPort
    metadata.l3.lkpOuterL4Dport := s.hdr.tcp.fields.dstPort }

def parseIcmp (s : ParserState) : Option ParserState := do
  let s ← s.extract Icmp.codec fun hdr icmp => { hdr with icmp }
  some { s with
    metadata.l3.lkpOuterL4Sport := 0
    metadata.l3.lkpOuterL4Dport := 0 }

/-- Every UDP state extracts the header and records the ports before it selects. -/
def extractUdp (s : ParserState) : Option ParserState := do
  let s ← s.extract Udp.codec fun hdr udp => { hdr with udp }
  some { s with
    metadata.l3.lkpOuterL4Sport := s.hdr.udp.fields.srcPort
    metadata.l3.lkpOuterL4Dport := s.hdr.udp.fields.dstPort }

/-- The two inner Ethernet states differ in the type they record and in their successors. -/
def innerEthernetState (vxlanType : BitVec 2) (ipv4 ipv6 : ParserState → Option ParserState)
    (s : ParserState) : Option ParserState := do
  let s ← s.extract Ethernet.codec fun hdr innerEthernet => { hdr with innerEthernet }
  let s := { s with metadata.tunnel.vxlanType := vxlanType }
  if s.hdr.innerEthernet.fields.etherType = etherTypeIpv4 then ipv4 s
  else if s.hdr.innerEthernet.fields.etherType = etherTypeIpv6 then ipv6 s
  else some s

/-! The inner transport states, which only the ingress parsers reach. -/

def parseInnerTcp (s : ParserState) : Option ParserState := do
  let s ← s.extract Tcp.codec fun hdr innerTcp => { hdr with innerTcp }
  some { s with
    metadata.l3.lkpL4Sport := s.hdr.innerTcp.fields.srcPort
    metadata.l3.lkpL4Dport := s.hdr.innerTcp.fields.dstPort }

def parseInnerUdp (s : ParserState) : Option ParserState := do
  let s ← s.extract Udp.codec fun hdr innerUdp => { hdr with innerUdp }
  some { s with
    metadata.l3.lkpL4Sport := s.hdr.innerUdp.fields.srcPort
    metadata.l3.lkpL4Dport := s.hdr.innerUdp.fields.dstPort }

def parseInnerIpv4NoInnerOptions (s : ParserState) : Option ParserState :=
  if s.hdr.innerIpv4.fields.protocol = ipProtocolsTcp ∧ s.hdr.innerIpv4.fields.fragOffset = 0 then
    parseInnerTcp s
  else if s.hdr.innerIpv4.fields.protocol = ipProtocolsUdp ∧
      s.hdr.innerIpv4.fields.fragOffset = 0 then
    parseInnerUdp s
  else some s

/-- The ten option states extract one to ten words and then continue alike. -/
def innerOptionsState : Nat → ParserState → Option ParserState
  | 0, s => parseInnerIpv4NoInnerOptions s
  | count + 1, s => do
      let s ← s.extract OptionWord.codec fun hdr word =>
        { hdr with innerOptionWords := hdr.innerOptionWords ++ [word.fields] }
      innerOptionsState count s

abbrev parseInnerIpv4InnerOptions1 := innerOptionsState 1
abbrev parseInnerIpv4InnerOptions2 := innerOptionsState 2
abbrev parseInnerIpv4InnerOptions3 := innerOptionsState 3
abbrev parseInnerIpv4InnerOptions4 := innerOptionsState 4
abbrev parseInnerIpv4InnerOptions5 := innerOptionsState 5
abbrev parseInnerIpv4InnerOptions6 := innerOptionsState 6
abbrev parseInnerIpv4InnerOptions7 := innerOptionsState 7
abbrev parseInnerIpv4InnerOptions8 := innerOptionsState 8
abbrev parseInnerIpv4InnerOptions9 := innerOptionsState 9
abbrev parseInnerIpv4InnerOptions10 := innerOptionsState 10

/-- `parse_inner_ipv4` of the two ingress parsers -/
def parseInnerIpv4 (s : ParserState) : Option ParserState := do
  let s ← s.extract Ipv4.codec fun hdr innerIpv4 => { hdr with innerIpv4 }
  let s := { s with metadata.l3.lkpIpProto := s.hdr.innerIpv4.fields.protocol }
  match s.hdr.innerIpv4.fields.ihl.toNat with
  | 0x5 => parseInnerIpv4NoInnerOptions s
  | 0x6 => parseInnerIpv4InnerOptions1 s
  | 0x7 => parseInnerIpv4InnerOptions2 s
  | 0x8 => parseInnerIpv4InnerOptions3 s
  | 0x9 => parseInnerIpv4InnerOptions4 s
  | 0xA => parseInnerIpv4InnerOptions5 s
  | 0xB => parseInnerIpv4InnerOptions6 s
  | 0xC => parseInnerIpv4InnerOptions7 s
  | 0xD => parseInnerIpv4InnerOptions8 s
  | 0xE => parseInnerIpv4InnerOptions9 s
  | 0xF => parseInnerIpv4InnerOptions10 s
  | _ => some s

/-- `parse_inner_ipv6` of the two ingress parsers -/
def parseInnerIpv6 (s : ParserState) : Option ParserState := do
  let s ← s.extract Ipv6.codec fun hdr innerIpv6 => { hdr with innerIpv6 }
  let s := { s with metadata.l3.lkpIpProto := s.hdr.innerIpv6.fields.nextHdr }
  if s.hdr.innerIpv6.fields.nextHdr = ipProtocolsTcp then parseInnerTcp s
  else if s.hdr.innerIpv6.fields.nextHdr = ipProtocolsUdp then parseInnerUdp s
  else some s

/-- `parse_inner_ipv4` of the two egress parsers under `__SDE_9_7_SUPPORT__` -/
def parseInnerIpv4Egress (s : ParserState) : Option ParserState := do
  let s ← s.extract Ipv4.codec fun hdr innerIpv4 => { hdr with innerIpv4 }
  some { s with metadata.l3.lkpIpProto := s.hdr.innerIpv4.fields.protocol }

/-- `parse_inner_ipv6` of the two egress parsers under `__SDE_9_7_SUPPORT__` -/
def parseInnerIpv6Egress (s : ParserState) : Option ParserState := do
  let s ← s.extract Ipv6.codec fun hdr innerIpv6 => { hdr with innerIpv6 }
  some { s with metadata.l3.lkpIpProto := s.hdr.innerIpv6.fields.nextHdr }

/-- `parse_cpu` of the two parsers of the external pipes, up to its selection -/
def extractCpu (s : ParserState) : Option ParserState := do
  let s ← s.extract Fabric.codec fun hdr fabric => { hdr with fabric }
  s.extract Cpu.codec fun hdr cpu => { hdr with cpu }

/-- Every outer IPv4 state extracts the header and records the protocol before it selects. -/
def extractIpv4 (s : ParserState) : Option ParserState := do
  let s ← s.extract Ipv4.codec fun hdr ipv4 => { hdr with ipv4 }
  some { s with metadata.l3.lkpOuterIpProto := s.hdr.ipv4.fields.protocol }

def extractIpv6 (s : ParserState) : Option ParserState := do
  let s ← s.extract Ipv6.codec fun hdr ipv6 => { hdr with ipv6 }
  some { s with metadata.l3.lkpOuterIpProto := s.hdr.ipv6.fields.nextHdr }

/-- `select(hdr.ipv4.protocol, hdr.ipv4.ihl, hdr.ipv4.fragOffset)` with its last two keys fixed -/
def Ipv4.selects (ip : Ipv4) (protocol : BitVec 8) : Prop :=
  ip.protocol = protocol ∧ ip.ihl = 5 ∧ ip.fragOffset = 0

instance (ip : Ipv4) (protocol : BitVec 8) : Decidable (ip.selects protocol) :=
  inferInstanceAs (Decidable (_ ∧ _))

end IgwP4.Dataplane
