/-
This file shows that each later parser finds the tunnel packet that the pipe before it has sent.
-/

import IgwP4.Proof.Dataplane.Deparsers

namespace IgwP4.Dataplane
open Packet

/-- The headers before the outer IP header do not belong to the tunnel packet. -/
theorem Headers.Bears.outside {hdr : Headers} {pkt : Bits} {t : TunnelPacket} (bears : hdr.Bears pkt t)
    (bgMd : Header BridgeMetadata) (ethernet : Header Ethernet) (fabric : Header Fabric)
    (cpu : Header Cpu) : ({ hdr with bgMd, ethernet, fabric, cpu } : Headers).Bears pkt t := by
  obtain ⟨ip, udp, vxlan, inner, parcel⟩ := t
  obtain ⟨hasIp, ipv6, hasUdp, tcp, icmp, hasVxlan, hasEthernet, hasInner⟩ := bears
  refine ⟨hasIp, ipv6, hasUdp, tcp, icmp, hasVxlan, hasEthernet, ?_⟩
  cases parcel <;> exact hasInner

/-- Exactly one inner IP header is valid. -/
theorem Headers.Bears.inner {hdr : Headers} {pkt : Bits} {t : TunnelPacket} (bears : hdr.Bears pkt t) :
    (hdr.innerIpv4.valid = true ∧ hdr.innerIpv6.valid = false) ∨
      (hdr.innerIpv4.valid = false ∧ hdr.innerIpv6.valid = true) := by
  have parcel := bears.parcel
  cases shape : t.parcel with
  | v4 ip payload =>
      rw [shape] at parcel
      exact .inl ⟨congrArg Header.valid parcel.1, parcel.2.1⟩
  | v6 ip payload =>
      rw [shape] at parcel
      exact .inr ⟨parcel.1, congrArg Header.valid parcel.2.1⟩

/-- A bridged tunnel packet goes out as its bridge header and its bits. -/
theorem Headers.Bears.emit_bridged {hdr : Headers} {pkt : Bits} {t : TunnelPacket} (bears : hdr.Bears pkt t)
    {bgMd : BridgeMetadata} (bridged : hdr.bgMd = ⟨true, bgMd⟩) (ethernet : hdr.ethernet.valid = false)
    (fabric : hdr.fabric.valid = false) (cpu : hdr.cpu.valid = false) :
    hdr.emit ++ pkt = BridgeMetadata.codec.encode bgMd ++ t.bits := by
  rw [Headers.emit_uncpu fabric cpu, bears.emitIp, bridged, Header.emit_of_invalid _ _ ethernet,
    Header.emit_valid]
  rfl

/-- Behind the outer IPv4 states of a later parser -/
structure ParserState.Carries (s : ParserState) (bgMd : BridgeMetadata) (t : TunnelPacket) : Prop where
  bgMd : s.hdr.bgMd = ⟨true, bgMd⟩
  ethernet : s.hdr.ethernet.valid = false
  fabric : s.hdr.fabric.valid = false
  cpu : s.hdr.cpu.valid = false
  bears : s.hdr.Bears s.pkt t
  ratelimit : s.metadata.ratelimit = {}
  mirror : s.metadata.mirror = {}
  unchecked : s.metadata.tunnel.innerIpv4ChecksumEn = false

/-- A bridged packet leads to the outer IPv4 states of the later parsers. -/
structure BridgeMetadata.Bridges (bgMd : BridgeMetadata) (etherType : BitVec 16) : Prop where
  proto : bgMd.proto = pktBridge
  outerEthernetType : bgMd.outerEthernetType = etherType
  outerEthernetInvalid : bgMd.outerEthernetInvalid = 1

/-- The bridge header of an inbound packet that no table has met yet -/
def inboundBridge : BridgeMetadata where
  proto := pktBridge
  tunnelSrcId := 0
  l3EcmpEntryIdx := 0
  sharedBandwidthId := 0
  tunnelNexthop := 0
  innerMacId := 0
  pad0 := 0
  igrPort := 0
  outerEthernetType := etherTypeIpv4
  eipOrBwid := 0
  lkpVni := 0
  dlPkt := 0
  pad01 := 0
  igrTunnelType := typeIngressInternetIn
  outerEthernetInvalid := 1
  needDrop := 0
  pad02 := 0
  tunnelDstId := 0
  tunnelDirectSend := matchPacket
  nlbEip := 0
  meterPacketColor := 0
  egrTunnelType := 0
  lkpL4Sport := 0
  lkpL4Dport := 0

theorem P13EgressParser.parse_redirected (containers : Headers) {bgMd : BridgeMetadata} (rest : Bits)
    (bridges : bgMd.Bridges etherTypeIpv4) (redirected : bgMd.dlPkt = 1) :
    P13EgressParser.parse containers (BridgeMetadata.codec.encode bgMd ++ rest) =
      p13EgressDialect.ipv4 (.bridged containers bgMd rest) := by
  rw [parse, parseHeaderCheck, ParserState.start, ParserState.lookahead_bridge, bridges.proto]
  simp only [Option.bind_eq_bind, Option.bind_some, parseBridgeHeader, ParserState.extract_encode, ← parseIpv4_eq]
  change (if bgMd.outerEthernetType = etherTypeIpv4 ∧ bgMd.outerEthernetInvalid = 1 ∧ bgMd.dlPkt = 1 then _
    else _) = _
  rw [if_pos ⟨bridges.outerEthernetType, bridges.outerEthernetInvalid, redirected⟩]
  rfl

theorem P13EgressParser.parse_direct (containers : Headers) {bgMd : BridgeMetadata} (rest : Bits)
    (bridges : bgMd.Bridges etherTypeIpv4) (direct : bgMd.dlPkt = 0) :
    P13EgressParser.parse containers (BridgeMetadata.codec.encode bgMd ++ rest) =
      p13EgressV2Dialect.ipv4 (.bridged containers bgMd rest) := by
  rw [parse, parseHeaderCheck, ParserState.start, ParserState.lookahead_bridge, bridges.proto]
  simp only [Option.bind_eq_bind, Option.bind_some, parseBridgeHeader, ParserState.extract_encode, ← parseIpv4V2_eq]
  change (if bgMd.outerEthernetType = etherTypeIpv4 ∧ bgMd.outerEthernetInvalid = 1 ∧ bgMd.dlPkt = 1 then _
    else if bgMd.outerEthernetType = etherTypeIpv4 ∧ bgMd.outerEthernetInvalid = 1 ∧ bgMd.dlPkt = 0 then _
    else _) = _
  rw [if_neg (by rw [direct]; simp),
    if_pos ⟨bridges.outerEthernetType, bridges.outerEthernetInvalid, direct⟩]
  rfl

theorem P13EgressParser.parse_direct6 (containers : Headers) {bgMd : BridgeMetadata} (rest : Bits)
    (bridges : bgMd.Bridges etherTypeIpv6) (direct : bgMd.dlPkt = 0) :
    P13EgressParser.parse containers (BridgeMetadata.codec.encode bgMd ++ rest) =
      P02IngressParser.parseIpv6 (.bridged containers bgMd rest) := by
  rw [parse, parseHeaderCheck, ParserState.start, ParserState.lookahead_bridge, bridges.proto]
  simp only [Option.bind_eq_bind, Option.bind_some, parseBridgeHeader, ParserState.extract_encode]
  change (if bgMd.outerEthernetType = etherTypeIpv4 ∧ bgMd.outerEthernetInvalid = 1 ∧ bgMd.dlPkt = 1 then _
    else if bgMd.outerEthernetType = etherTypeIpv4 ∧ bgMd.outerEthernetInvalid = 1 ∧ bgMd.dlPkt = 0 then _
    else if bgMd.outerEthernetType = etherTypeIpv6 ∧ bgMd.outerEthernetInvalid = 1 ∧ bgMd.dlPkt = 0 then _
    else _) = _
  rw [if_neg (by rw [direct]; simp), if_neg (by rw [bridges.outerEthernetType]; simp),
    if_pos ⟨bridges.outerEthernetType, bridges.outerEthernetInvalid, direct⟩]
  rfl

theorem P13IngressParser.parse_bridged (containers : Headers) {bgMd : BridgeMetadata} (rest : Bits)
    (bridges : bgMd.Bridges etherTypeIpv4) :
    P13IngressParser.parse containers (BridgeMetadata.codec.encode bgMd ++ rest) =
      p13IngressDialect.ipv4 (.bridged containers bgMd rest) := by
  rw [parse, parseHeaderCheck, ParserState.start, ParserState.lookahead_bridge, bridges.proto]
  simp only [Option.bind_eq_bind, Option.bind_some, parseBridgeHeader, ParserState.extract_encode, ← parseIpv4_eq]
  change (if bgMd.outerEthernetType = etherTypeIpv4 ∧ bgMd.outerEthernetInvalid = 1 then _ else _) = _
  rw [if_pos ⟨bridges.outerEthernetType, bridges.outerEthernetInvalid⟩]
  rfl

theorem P02EgressParser.parse_bridged (containers : Headers) {bgMd : BridgeMetadata} (rest : Bits)
    (bridges : bgMd.Bridges etherTypeIpv4) :
    P02EgressParser.parse containers (BridgeMetadata.codec.encode bgMd ++ rest) =
      p02EgressDialect.ipv4 (.bridged containers bgMd rest) := by
  rw [parse, parseHeaderCheck, ParserState.start, ParserState.lookahead_bridge, bridges.proto]
  simp only [Option.bind_eq_bind, Option.bind_some, parseBridgeHeader, ParserState.extract_encode, ← parseIpv4_eq]
  change (if bgMd.outerEthernetType = etherTypeIpv4 ∧ bgMd.outerEthernetInvalid = 1 then _ else _) = _
  rw [if_pos ⟨bridges.outerEthernetType, bridges.outerEthernetInvalid⟩]
  rfl

namespace Dialect

variable (d : Dialect)

/-- A later parser that accepts a bridged tunnel packet carries it. -/
theorem ipv4_carries {t : TunnelPacket} (tunnels : t.Tunnels) (follows : d.readsVxlan = true)
    (reads : d.Reads t) {containers : Headers} {bgMd : BridgeMetadata}
    {r : ParserState} (found : d.ipv4 (.bridged containers bgMd t.bits) = some r) : r.Carries bgMd t := by
  obtain ⟨inner, carried, fits, rfl⟩ := d.ipv4_tunnel tunnels follows reads rfl found
  have kept := (Outer.overlay ⟨t.udp, t.vxlan, t.ethernet, inner⟩).place_keeps d
    { ParserState.bridged containers bgMd t.bits with
      hdr.ipv4 := ⟨true, t.ip⟩, metadata.l3.lkpOuterIpProto := t.ip.protocol }
  refine ⟨kept.bgMd, congrArg Header.valid kept.ethernet, congrArg Header.valid kept.fabric,
    congrArg Header.valid kept.cpu, ?_, kept.ratelimit, kept.mirror, kept.innerIpv4ChecksumEn⟩
  exact Overlay.place_bears d ⟨t.udp, t.vxlan, t.ethernet, inner⟩ _
    { containers.blank_unparsed with } rfl carried fits

/-- A parser that leaves the inner transport unread accepts every tunnel packet. -/
theorem ipv4_accepts {t : TunnelPacket} (tunnels : t.Tunnels) (follows : d.readsVxlan = true)
    (reads : d.Reads t) (bare : d.readsTransport = false)
    {s : ParserState} (stands : s.pkt = t.bits) : ∃ r, d.ipv4 s = some r := by
  have inside : ∃ inner : Inner, inner.bits = t.parcel.bits ∧
      inner.Fits d (d.jd t.vxlan) t.ethernet.etherType := by
    have type := tunnels.type
    unfold Reads at reads
    generalize t.parcel = parcel at type reads
    cases parcel with
    | v4 ip payload =>
        refine ⟨.v4 ip ⟨[], .unread, payload⟩, rfl, type, ?_⟩
        rw [if_neg (by rw [bare]; decide)]
        exact ⟨rfl, rfl⟩
    | v6 ip payload =>
        refine ⟨.v6 ip ⟨[], .unread, payload⟩, rfl, type, reads.resolve_left Bool.false_ne_true, ?_⟩
        rw [if_neg (by rw [bare]; decide)]
        exact ⟨rfl, rfl⟩
  obtain ⟨inner, bits, fits⟩ := inside
  refine ⟨_, (d.ipv4_eq_some_iff s _).mpr ⟨t.ip, .overlay ⟨t.udp, t.vxlan, t.ethernet, inner⟩,
    ⟨tunnels.selects, follows, tunnels.port, fits⟩, ?_, rfl⟩⟩
  rw [stands, TunnelPacket.bits, Outer.bits, Overlay.bits, bits]

end Dialect

end IgwP4.Dataplane
