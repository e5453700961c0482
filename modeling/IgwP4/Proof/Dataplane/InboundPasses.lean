/-
This file gives what the first internal pipe does to an inbound packet, direct or redirected.
-/

import IgwP4.Proof.Dataplane.Encapsulation
import IgwP4.Proof.Dataplane.Redirections

namespace IgwP4.Dataplane
open Packet

namespace Outer

/-- The states of the second version read an outer packet no further than its transport header. -/
def direct : Outer → Outer
  | .unread rest => .unread rest
  | .icmp h rest => .unread (Icmp.codec.encode h ++ rest)
  | .tcp h rest => .tcp h rest
  | .udp h rest => .udp h rest
  | .overlay o => .udp o.udp (Vxlan.codec.encode o.vxlan ++ (Ethernet.codec.encode o.ethernet ++ o.inner.bits))

theorem direct_bits (outer : Outer) : outer.direct.bits = outer.bits := by
  cases outer <;> rfl

theorem direct_fits {ip : Ipv4} {outer : Outer} (fits : outer.Fits p02IngressDialect ip) :
    outer.direct.Fits p13EgressV2Dialect ip := by
  have noIcmp : ¬ (p13EgressV2Dialect.readsIcmp = true ∧ ip.selects ipProtocolsIcmp) :=
    fun h => absurd h.1 Bool.false_ne_true
  cases outer with
  | unread rest => exact ⟨noIcmp, fits.2⟩
  | icmp h rest =>
      exact ⟨noIcmp, fun other => absurd (Ipv4.selects_inj fits.2 other) (by decide),
        fun other => absurd (Ipv4.selects_inj fits.2 other) (by decide)⟩
  | tcp h rest => exact fits
  | udp h rest => exact ⟨fits.1, fun h => absurd h.1 Bool.false_ne_true⟩
  | overlay o => exact ⟨fits.1, fun h => absurd h.1 Bool.false_ne_true⟩

end Outer

/-- The IP packet of a frame that carries one behind its Ethernet header -/
def Frame.parcel : Frame → Option Parcel
  | .ipv4 _ ip outer => some (.v4 ip outer.bits)
  | .ipv6 _ ip transport rest => some (.v6 ip (transport.encode ++ rest))
  | _ => none

theorem Frame.body_of_parcel {frame : Frame} {parcel : Parcel} (carried : frame.parcel = some parcel) :
    frame.body = parcel.bits := by
  cases frame with
  | ipv4 ethernet ip outer =>
      obtain rfl := Option.some.inj carried
      rfl
  | ipv6 ethernet ip transport rest =>
      obtain rfl := Option.some.inj carried
      rfl
  | _ => contradiction

/-- A frame with an IP EtherType has an IP packet behind its Ethernet header. -/
theorem Frame.exists_parcel {frame : Frame} (fits : frame.Fits)
    (etherType : frame.ethernet.etherType = etherTypeIpv4 ∨ frame.ethernet.etherType = etherTypeIpv6) :
    ∃ parcel, frame.parcel = some parcel ∧ parcel.etherType = frame.ethernet.etherType := by
  rcases Frame.ip_cases fits etherType with ⟨header, ip, outer, rfl⟩ | ⟨header, ip, transport, rest, rfl⟩
  · exact ⟨_, rfl, fits.1.symm⟩
  · exact ⟨_, rfl, fits.1.symm⟩

/-- Behind the outer IP states that read a direct packet -/
structure ParserState.Direct (s : ParserState) (bgMd : BridgeMetadata) (parcel : Parcel) : Prop where
  bgMd : s.hdr.bgMd = ⟨true, bgMd⟩
  ethernet : s.hdr.ethernet.valid = false
  fabric : s.hdr.fabric.valid = false
  cpu : s.hdr.cpu.valid = false
  plain : s.hdr.Plain s.pkt parcel
  ratelimit : s.metadata.ratelimit = {}
  mirror : s.metadata.mirror = {}

namespace P13EgressParser

/-- A direct IPv4 packet is read down to its outer transport header. -/
theorem place_direct (containers : Headers) (bgMd : BridgeMetadata) (ip : Ipv4) {outer : Outer}
    (fits : outer.Fits p13EgressV2Dialect ip) (rest : Bits) :
    (outer.place p13EgressV2Dialect { ParserState.bridged containers bgMd rest with
      hdr.ipv4 := ⟨true, ip⟩, metadata.l3.lkpOuterIpProto := ip.protocol }).Direct bgMd
        (.v4 ip outer.bits) := by
  cases outer with
  | icmp h rest => exact absurd fits.1 Bool.false_ne_true
  | overlay o => exact absurd fits.2.1 Bool.false_ne_true
  | unread rest =>
      refine ⟨rfl, rfl, rfl, rfl, ?_, rfl, rfl⟩
      exact ⟨⟨rfl, rfl, rfl⟩, fun h => absurd h.1 Bool.false_ne_true, rfl, rfl, rfl, rfl, rfl, rfl, rfl, rfl⟩
  | tcp h rest =>
      refine ⟨rfl, rfl, rfl, rfl, ?_, rfl, rfl⟩
      exact ⟨⟨rfl, rfl, rfl⟩, fun h => absurd h.1 Bool.false_ne_true, rfl, rfl, rfl, rfl, rfl, rfl, rfl, rfl⟩
  | udp h rest =>
      refine ⟨rfl, rfl, rfl, rfl, ?_, rfl, rfl⟩
      exact ⟨⟨rfl, rfl, rfl⟩, fun h => absurd h.2 Bool.false_ne_true, rfl, rfl, rfl, rfl, rfl, rfl, rfl, rfl⟩

theorem place_direct6 (containers : Headers) (bgMd : BridgeMetadata) (ip : Ipv6) (transport : Transport)
    (rest : Bits) :
    (transport.placeOuter { ParserState.bridged containers bgMd [] with
      hdr.ipv6 := ⟨true, ip⟩, metadata.l3.lkpOuterIpProto := ip.nextHdr, pkt := rest }).Direct bgMd
        (.v6 ip (transport.encode ++ rest)) := by
  cases transport with
  | unread =>
      refine ⟨rfl, rfl, rfl, rfl, ?_, rfl, rfl⟩
      exact ⟨⟨rfl, rfl, rfl⟩, fun h => absurd h.1 Bool.false_ne_true, rfl, rfl, rfl, rfl, rfl, rfl, rfl, rfl⟩
  | tcp h =>
      refine ⟨rfl, rfl, rfl, rfl, ?_, rfl, rfl⟩
      exact ⟨⟨rfl, rfl, rfl⟩, fun h => absurd h.1 Bool.false_ne_true, rfl, rfl, rfl, rfl, rfl, rfl, rfl, rfl⟩
  | udp h =>
      refine ⟨rfl, rfl, rfl, rfl, ?_, rfl, rfl⟩
      exact ⟨⟨rfl, rfl, rfl⟩, fun h => absurd h.2 Bool.false_ne_true, rfl, rfl, rfl, rfl, rfl, rfl, rfl, rfl⟩

/-- The parser accepts every direct packet of a frame that the first parser has accepted. -/
theorem parse_parcel (containers : Headers) {frame : Frame} (fits : frame.Fits) {parcel : Parcel}
    (carried : frame.parcel = some parcel) {bgMd : BridgeMetadata}
    (bridges : bgMd.Bridges parcel.etherType) (direct : bgMd.dlPkt = 0) :
    ∃ r, parse containers (BridgeMetadata.codec.encode bgMd ++ parcel.bits) = some r ∧
      r.Direct bgMd parcel := by
  cases frame with
  | ipv4 ethernet ip outer =>
      obtain rfl := Option.some.inj carried
      have fits := Outer.direct_fits fits.2
      have placed := place_direct containers bgMd ip fits (Parcel.v4 ip outer.bits).bits
      rw [Outer.direct_bits] at placed
      refine ⟨_, ?_, placed⟩
      rw [parse_direct containers _ bridges direct]
      refine (p13EgressV2Dialect.ipv4_eq_some_iff _ _).mpr ⟨ip, outer.direct, fits, ?_, rfl⟩
      rw [Outer.direct_bits]
      rfl
  | ipv6 ethernet ip transport rest =>
      obtain rfl := Option.some.inj carried
      refine ⟨_, ?_, place_direct6 containers bgMd ip transport rest⟩
      rw [parse_direct6 containers _ bridges direct]
      exact (P02IngressParser.parseIpv6_eq_some_iff _ _).mpr ⟨ip, transport, rest, fits.2, rfl, rfl⟩
  | _ => contradiction

end P13EgressParser

/-! The effect of the controls -/

/-- The redirection entry of the address of an inbound packet -/
def Parcel.inboundEntry (tables : Tables) : Parcel → Option EipInBwId
  | .v4 ip _ => tables.eipInRedirect ip.dstAddr
  | .v6 ip _ => tables.eip6InRedirect ip.dstAddr

/-- The metadata that an entry gives for the meters and for the redirection -/
def limits : Option EipInBwId → RatelimitMetadata
  | some data => { ({} : RatelimitMetadata) with
      bandwidthId := data.bandwidthId
      withinCluster := data.withinCluster
      betweenCluster := data.betweenCluster }
  | none => {}

namespace BridgeMetadata

/-- The bridge header keeps an IPv4 address for the counters. -/
def own : Parcel → BridgeMetadata → BridgeMetadata
  | .v4 ip _, bgMd => { bgMd with eipOrBwid := ip.dstAddr }
  | .v6 _ _, bgMd => bgMd

def enter : Option EipInBwId → BridgeMetadata → BridgeMetadata
  | some data, bgMd => { bgMd with sharedBandwidthId := data.sharedBandwidthId, nlbEip := data.nlbEip }
  | none, bgMd => { bgMd with sharedBandwidthId := 0 }

end BridgeMetadata

/-- The redirection that the tables choose for an inbound tunnel packet -/
def TunnelPacket.redirectIn (tables : Tables) (bgMd : BridgeMetadata) (t : TunnelPacket) :
    Option TunnelPacket :=
  let entry := t.parcel.inboundEntry tables
  t.redirect (.inbound tables) (limits entry).betweenCluster (limits entry).withinCluster
    (hashIndex (limits entry).bandwidthId (bgMd.enter entry).sharedBandwidthId)

/-- A redirected packet skips the meter, every other packet is coloured by it. -/
def BridgeMetadata.police (tables : Tables) (t : TunnelPacket) (bgMd : BridgeMetadata) : BridgeMetadata :=
  let entry := t.parcel.inboundEntry tables
  if (t.redirectIn tables bgMd).isSome then { bgMd.enter entry with tunnelDirectSend := dlPacket }
  else { bgMd.enter entry with
    meterPacketColor := (tables.eipInMeter (limits entry).bandwidthId).getD bgMd.meterPacketColor }

/-- A redirection leaves everything behind the outer headers alone. -/
theorem TunnelPacket.redirectIn_kept (tables : Tables) (bgMd : BridgeMetadata) (t : TunnelPacket) :
    ((t.redirectIn tables bgMd).getD t).ethernet = t.ethernet ∧
      ((t.redirectIn tables bgMd).getD t).parcel = t.parcel ∧
      (t.Tunnels → ((t.redirectIn tables bgMd).getD t).Tunnels) := by
  unfold TunnelPacket.redirectIn TunnelPacket.redirect
  dsimp only
  generalize (TunnelPacket.Redirection.inbound tables).action _ = action
  cases action with
  | none => exact ⟨rfl, rfl, id⟩
  | some action =>
      obtain ⟨ethernet, parcel⟩ := TunnelPacket.rewrite_kept (.inbound tables)
        (hashIndex (limits (t.parcel.inboundEntry tables)).bandwidthId
          (bgMd.enter (t.parcel.inboundEntry tables)).sharedBandwidthId) t action
      exact ⟨ethernet, parcel, fun tunnels => tunnels.rewrite _ _ action⟩

/-- The controls of the first internal pipe keep the fields that lead the later parsers. -/
theorem BridgeMetadata.police_bridges (tables : Tables) (t : TunnelPacket) {bgMd : BridgeMetadata}
    {etherType : BitVec 16} (bridges : bgMd.Bridges etherType) : (bgMd.police tables t).Bridges etherType := by
  unfold police enter
  dsimp only
  split
  · split <;> exact ⟨bridges.proto, bridges.outerEthernetType, bridges.outerEthernetInvalid⟩
  · split <;> exact ⟨bridges.proto, bridges.outerEthernetType, bridges.outerEthernetInvalid⟩

namespace P13Egress

theorem eipInEntry_eq (entry : Option EipInBwId) (s : EgressState) (clear : s.metadata.ratelimit = {}) :
    eipInEntry entry s = { s with
      hdr.bgMd.fields := s.hdr.bgMd.fields.enter entry
      metadata.ratelimit := limits entry } := by
  obtain ⟨hdr, ⟨tunnel, l3, mirror, ratelimit⟩, port, stamp, dropCtl, mirrorType, events⟩ := s
  obtain rfl : ratelimit = {} := clear
  cases entry <;> rfl

theorem eipInLookup_eq (tables : Tables) (s : EgressState) {pkt : Bits} {parcel : Parcel}
    (bears : s.hdr.BearsParcel pkt parcel) (clear : s.metadata.ratelimit = {}) :
    eipInLookup tables s = { s with
      hdr.bgMd.fields := s.hdr.bgMd.fields.enter (parcel.inboundEntry tables)
      metadata.ratelimit := limits (parcel.inboundEntry tables) } := by
  rw [eipInLookup]
  cases parcel with
  | v4 ip payload =>
      obtain ⟨inner4, _⟩ := bears
      obtain rfl : s.hdr.innerIpv4.fields = ip := congrArg Header.fields inner4
      rw [if_pos (congrArg Header.valid inner4), eipInEntry_eq _ s clear]
      rfl
  | v6 ip payload =>
      obtain ⟨inner4, inner6, _⟩ := bears
      obtain rfl : s.hdr.innerIpv6.fields = ip := congrArg Header.fields inner6
      rw [if_neg (by rw [inner4]; decide), if_pos (congrArg Header.valid inner6), eipInEntry_eq _ s clear]
      rfl

theorem eipInMeter_eq (tables : Tables) (s : EgressState)
    (inner : s.hdr.innerIpv4.valid = true ∨ s.hdr.innerIpv6.valid = true) :
    eipInMeter tables s = { s with
      hdr.bgMd.fields.meterPacketColor :=
        (tables.eipInMeter s.metadata.ratelimit.bandwidthId).getD s.hdr.bgMd.fields.meterPacketColor
      events := s.events ++ [⟨.eipInMeter, s.metadata.ratelimit.bandwidthId.toNat, 0⟩] } := by
  rw [eipInMeter, if_pos inner]
  dsimp only
  cases tables.eipInMeter s.metadata.ratelimit.bandwidthId <;> rfl

/-- The controls behind the encapsulation -/
def policed (tables : Tables) (s : EgressState) : EgressState :=
  let s := eipInRedirect tables s
  if s.hdr.bgMd.fields.tunnelDirectSend = matchPacket then eipInMeter tables s else s

/-- A tunnel packet stands in this state before the controls behind the encapsulation. -/
structure Holds (s : EgressState) (bgMd : BridgeMetadata) (pkt : Bits) (t : TunnelPacket) : Prop where
  bgMd : s.hdr.bgMd = ⟨true, bgMd⟩
  ethernet : s.hdr.ethernet.valid = false
  fabric : s.hdr.fabric.valid = false
  cpu : s.hdr.cpu.valid = false
  bears : s.hdr.Bears pkt t

/-- Behind the redirection the packet has its new form, and the bridge header its new treatment. -/
theorem eipInRedirect_holds (tables : Tables) (s : EgressState) {bgMd : BridgeMetadata} {pkt : Bits}
    {t : TunnelPacket} (holds : Holds s bgMd pkt t) (clear : s.metadata.ratelimit = {}) :
    ∃ r, eipInRedirect tables s = r ∧
      Holds r { bgMd.enter (t.parcel.inboundEntry tables) with
        tunnelDirectSend :=
          if (t.redirectIn tables bgMd).isSome then dlPacket else bgMd.tunnelDirectSend } pkt
        ((t.redirectIn tables bgMd).getD t) ∧
      r.metadata.ratelimit = limits (t.parcel.inboundEntry tables) ∧ r.dropCtl = s.dropCtl ∧
      r.events = s.events := by
  obtain rfl : s.hdr.bgMd.fields = bgMd := congrArg Header.fields holds.bgMd
  have on : s.hdr.bgMd.valid = true := congrArg Header.valid holds.bgMd
  obtain ⟨hdr, modified, bears, bridge, ethernet, fabric, cpu⟩ := modifyJdVxlanIn_rewrites tables
    { s with
      hdr.bgMd.fields := s.hdr.bgMd.fields.enter (t.parcel.inboundEntry tables)
      metadata.ratelimit := limits (t.parcel.inboundEntry tables) }
    (holds.bears.outside _ _ _ _)
  have kept : (s.hdr.bgMd.fields.enter (t.parcel.inboundEntry tables)).tunnelDirectSend =
      s.hdr.bgMd.fields.tunnelDirectSend := by
    cases t.parcel.inboundEntry tables <;> rfl
  refine ⟨{ s with
      hdr := hdr
      metadata.ratelimit := limits (t.parcel.inboundEntry tables) }, ?_,
    ⟨bridge.trans ?_, (congrArg Header.valid ethernet).trans holds.ethernet,
    (congrArg Header.valid fabric).trans holds.fabric, (congrArg Header.valid cpu).trans holds.cpu, bears⟩,
    rfl, rfl, rfl⟩
  · rw [eipInRedirect, eipInLookup_eq tables s holds.bears.parcel clear, modified]
  · dsimp only
    rw [on, kept]
    rfl

/-- The meter colours a tunnel packet and changes nothing else of it. -/
theorem eipInMeter_holds (tables : Tables) (s : EgressState) {bgMd : BridgeMetadata} {pkt : Bits}
    {t : TunnelPacket} (holds : Holds s bgMd pkt t) :
    ∃ r, eipInMeter tables s = r ∧
      Holds r { bgMd with
        meterPacketColor :=
          (tables.eipInMeter s.metadata.ratelimit.bandwidthId).getD bgMd.meterPacketColor } pkt t ∧
      r.dropCtl = s.dropCtl ∧
      r.events = s.events ++ [⟨.eipInMeter, s.metadata.ratelimit.bandwidthId.toNat, 0⟩] := by
  obtain rfl : s.hdr.bgMd.fields = bgMd := congrArg Header.fields holds.bgMd
  have on : s.hdr.bgMd.valid = true := congrArg Header.valid holds.bgMd
  refine ⟨_, eipInMeter_eq tables s (holds.bears.inner.imp And.left And.right),
    ⟨?_, holds.ethernet, holds.fabric, holds.cpu, holds.bears.outside _ _ _ _⟩, rfl, rfl⟩
  exact congrArg (Header.mk · _) on

theorem policed_eq (tables : Tables) (s : EgressState) {bgMd : BridgeMetadata} {pkt : Bits}
    {t : TunnelPacket} (holds : Holds s bgMd pkt t) (clear : s.metadata.ratelimit = {})
    (matched : bgMd.tunnelDirectSend = matchPacket) :
    Holds (policed tables s) (bgMd.police tables t) pkt ((t.redirectIn tables bgMd).getD t) ∧
      (policed tables s).dropCtl = s.dropCtl ∧
      (policed tables s).events = s.events ++
        (if (t.redirectIn tables bgMd).isSome then []
          else [⟨.eipInMeter, (limits (t.parcel.inboundEntry tables)).bandwidthId.toNat, 0⟩]) := by
  obtain ⟨r, redirected, after, limited, drops, events⟩ := eipInRedirect_holds tables s holds clear
  have treatment := congrArg (fun h : Header BridgeMetadata => h.fields.tunnelDirectSend) after.bgMd
  rw [policed, redirected, ← drops, ← events]
  unfold BridgeMetadata.police
  generalize t.redirectIn tables bgMd = found at after treatment ⊢
  cases found with
  | some other =>
      have treated : r.hdr.bgMd.fields.tunnelDirectSend = dlPacket := treatment
      rw [if_neg (by rw [treated]; decide)]
      exact ⟨after, rfl, (List.append_nil _).symm⟩
  | none =>
      have treated : r.hdr.bgMd.fields.tunnelDirectSend = matchPacket := treatment.trans matched
      have colour : (bgMd.enter (t.parcel.inboundEntry tables)).meterPacketColor = bgMd.meterPacketColor := by
        cases t.parcel.inboundEntry tables <;> rfl
      have kept : (bgMd.enter (t.parcel.inboundEntry tables)).tunnelDirectSend = bgMd.tunnelDirectSend := by
        cases t.parcel.inboundEntry tables <;> rfl
      obtain ⟨u, metered, final, drops, events⟩ := eipInMeter_holds tables r after
      rw [if_pos treated, metered, drops, events, limited]
      rw [limited] at final
      refine ⟨?_, rfl, rfl⟩
      dsimp only [Option.isSome_none, Option.getD_none] at final ⊢
      rw [colour, if_neg Bool.false_ne_true, ← kept] at final
      rw [if_neg Bool.false_ne_true]
      exact final

/-- The lookups of a direct packet come from its own outer header. -/
theorem decapMetaDataI2E13_direct (s : EgressState) {pkt : Bits} {parcel : Parcel}
    (plain : s.hdr.Plain pkt parcel) :
    ∃ l3, decapMetaDataI2E13 s = { s with
      hdr.bgMd.fields := s.hdr.bgMd.fields.own parcel
      metadata.l3 := l3 } := by
  have emits := plain.parcel
  unfold decapMetaDataI2E13
  rw [plain.vxlan, plain.innerIpv4]
  cases parcel with
  | v4 ip payload =>
      obtain ⟨outer, ipv6, _⟩ := emits
      obtain rfl : s.hdr.ipv4.fields = ip := congrArg Header.fields outer
      rw [ipv6]
      exact ⟨_, rfl⟩
  | v6 ip payload =>
      obtain ⟨_, outer, _⟩ := emits
      rw [congrArg Header.valid outer]
      exact ⟨_, rfl⟩

/-- The lookups of a tunnel packet come from its inner header. -/
theorem decapMetaDataI2E13_carried (s : EgressState) {pkt : Bits} {t : TunnelPacket}
    (bears : s.hdr.Bears pkt t) :
    ∃ l3, decapMetaDataI2E13 s = { s with
      hdr.bgMd.fields := s.hdr.bgMd.fields.own t.parcel
      metadata.l3 := l3 } := by
  have onVxlan : s.hdr.vxlan.valid = true := congrArg Header.valid bears.vxlan
  have inner := bears.parcel
  unfold decapMetaDataI2E13
  rw [onVxlan, bears.ipv6]
  cases shape : t.parcel with
  | v4 ip payload =>
      rw [shape] at inner
      obtain ⟨inner4, _⟩ := inner
      obtain rfl : s.hdr.innerIpv4.fields = ip := congrArg Header.fields inner4
      rw [congrArg Header.valid inner4]
      exact ⟨_, rfl⟩
  | v6 ip payload =>
      rw [shape] at inner
      rw [inner.1]
      exact ⟨_, rfl⟩

theorem apply_policed (tables : Tables) (fresh : Headers) (s : EgressState)
    (original : s.metadata.mirror.flag = 0) :
    apply tables fresh s = policed tables (encap fresh (decapMetaDataI2E13 s)) := by
  rw [apply, if_neg (not_not.mpr original)]
  rfl

/-- The bridge header of a direct packet behind its encapsulation -/
def enveloped (bgMd : BridgeMetadata) (parcel : Parcel) : BridgeMetadata :=
  { bgMd.own parcel with outerEthernetType := etherTypeIpv4 }

/-- The meter is asked unless the packet is redirected. -/
def meterings (tables : Tables) (bgMd : BridgeMetadata) (t : TunnelPacket) : List Event :=
  if (t.redirectIn tables bgMd).isSome then []
  else [⟨.eipInMeter, (limits (t.parcel.inboundEntry tables)).bandwidthId.toNat, 0⟩]

/-- A direct packet is wrapped and policed. -/
theorem apply_direct (tables : Tables) (fresh : Headers) (around : Surroundings) (port : BitVec 9)
    {parsed : ParserState} {bgMd : BridgeMetadata} {parcel : Parcel} (reads : parsed.Direct bgMd parcel)
    (direct : bgMd.dlPkt = 0) (matched : bgMd.tunnelDirectSend = matchPacket) :
    let s := apply tables fresh (egressStart around port parsed)
    let t := wrap fresh bgMd.outerEthernetType parcel
    Holds s ((enveloped bgMd parcel).police tables t) parsed.pkt
        ((t.redirectIn tables (enveloped bgMd parcel)).getD t) ∧
      s.dropCtl = 0 ∧ s.events = meterings tables (enveloped bgMd parcel) t := by
  have fields : parsed.hdr.bgMd.fields = bgMd := congrArg Header.fields reads.bgMd
  have on : parsed.hdr.bgMd.valid = true := congrArg Header.valid reads.bgMd
  have original : (egressStart around port parsed).metadata.mirror.flag = 0 :=
    congrArg MirrorMetadata.flag reads.mirror
  obtain ⟨l3, looked⟩ := decapMetaDataI2E13_direct (egressStart around port parsed) reads.plain
  let s : EgressState := { egressStart around port parsed with
    hdr.bgMd.fields := parsed.hdr.bgMd.fields.own parcel
    metadata.l3 := l3 }
  have entered : decapMetaDataI2E13 (egressStart around port parsed) = s := looked
  have plain : s.hdr.Plain parsed.pkt parcel := by
    obtain ⟨emits, transport, icmp, vxlan, ethernet, inner4, words, inner6, innerTcp, innerUdp⟩ := reads.plain
    refine ⟨?_, transport, icmp, vxlan, ethernet, inner4, words, inner6, innerTcp, innerUdp⟩
    cases parcel <;> exact emits
  obtain ⟨hdr, wrapped, bears, bridge, ethernet, fabric, cpu⟩ := enCapVxlan_wraps fresh s plain
  have kept : (bgMd.own parcel).dlPkt = 0 ∧ (bgMd.own parcel).outerEthernetType = bgMd.outerEthernetType ∧
      (bgMd.own parcel).tunnelDirectSend = matchPacket := by
    cases parcel <;> exact ⟨direct, rfl, matched⟩
  obtain ⟨dl, type, treated⟩ := kept
  have encapped : encap fresh s = { s with hdr := hdr } := by
    have test : s.hdr.bgMd.fields.dlPkt = 0 ∧ s.hdr.vxlan.valid = false := by
      refine ⟨?_, reads.plain.vxlan⟩
      change (parsed.hdr.bgMd.fields.own parcel).dlPkt = 0
      rw [fields, dl]
    rw [encap, if_pos test, wrapped]
  have bridge : hdr.bgMd = ⟨true, enveloped bgMd parcel⟩ := by
    rw [bridge]
    change (⟨parsed.hdr.bgMd.valid, { parsed.hdr.bgMd.fields.own parcel with
      outerEthernetType := etherTypeIpv4 }⟩ : Header BridgeMetadata) = _
    rw [on, fields]
    rfl
  have bears : hdr.Bears parsed.pkt (wrap fresh bgMd.outerEthernetType parcel) := by
    have same : s.hdr.bgMd.fields.outerEthernetType = bgMd.outerEthernetType := by
      change (parsed.hdr.bgMd.fields.own parcel).outerEthernetType = _
      rw [fields, type]
    rw [← same]
    exact bears
  have holds : Holds { s with hdr := hdr } (enveloped bgMd parcel) parsed.pkt
      (wrap fresh bgMd.outerEthernetType parcel) :=
    ⟨bridge, ethernet.trans reads.ethernet, (congrArg Header.valid fabric).trans reads.fabric,
      (congrArg Header.valid cpu).trans reads.cpu, bears⟩
  dsimp only
  rw [apply_policed tables fresh _ original, entered, encapped]
  exact policed_eq tables { s with hdr := hdr } holds reads.ratelimit treated

/-- A tunnel packet comes to the redirection without an encapsulation. -/
theorem encap_carried (fresh : Headers) (around : Surroundings) (port : BitVec 9) {parsed : ParserState}
    {bgMd : BridgeMetadata} {t : TunnelPacket} (carries : parsed.Carries bgMd t) :
    ∃ s, encap fresh (decapMetaDataI2E13 (egressStart around port parsed)) = s ∧
      Holds s (bgMd.own t.parcel) parsed.pkt t ∧ s.metadata.ratelimit = {} ∧ s.dropCtl = 0 ∧
      s.events = [] := by
  have fields : parsed.hdr.bgMd.fields = bgMd := congrArg Header.fields carries.bgMd
  have on : parsed.hdr.bgMd.valid = true := congrArg Header.valid carries.bgMd
  obtain ⟨l3, looked⟩ := decapMetaDataI2E13_carried (egressStart around port parsed) carries.bears
  let s : EgressState := { egressStart around port parsed with
    hdr.bgMd.fields := parsed.hdr.bgMd.fields.own t.parcel
    metadata.l3 := l3 }
  have entered : decapMetaDataI2E13 (egressStart around port parsed) = s := looked
  have onVxlan : s.hdr.vxlan.valid = true := congrArg Header.valid carries.bears.vxlan
  have bridge : s.hdr.bgMd = ⟨true, bgMd.own t.parcel⟩ := by
    change (⟨parsed.hdr.bgMd.valid, parsed.hdr.bgMd.fields.own t.parcel⟩ : Header BridgeMetadata) = _
    rw [on, fields]
  refine ⟨s, ?_, ⟨bridge, carries.ethernet, carries.fabric, carries.cpu, carries.bears.outside _ _ _ _⟩,
    carries.ratelimit, rfl, rfl⟩
  rw [entered, encap, if_neg (by rw [onVxlan]; simp)]

theorem original_of_carries (around : Surroundings) (port : BitVec 9) {parsed : ParserState}
    {bgMd : BridgeMetadata} {t : TunnelPacket} (carries : parsed.Carries bgMd t) :
    (egressStart around port parsed).metadata.mirror.flag = 0 :=
  congrArg MirrorMetadata.flag carries.mirror

/-- A redirected packet is policed as it comes. -/
theorem apply_carried (tables : Tables) (fresh : Headers) (around : Surroundings) (port : BitVec 9)
    {parsed : ParserState} {bgMd : BridgeMetadata} {t : TunnelPacket} (carries : parsed.Carries bgMd t)
    (matched : bgMd.tunnelDirectSend = matchPacket) :
    let s := apply tables fresh (egressStart around port parsed)
    Holds s ((bgMd.own t.parcel).police tables t) parsed.pkt
        ((t.redirectIn tables (bgMd.own t.parcel)).getD t) ∧
      s.dropCtl = 0 ∧ s.events = meterings tables (bgMd.own t.parcel) t := by
  obtain ⟨s, entered, holds, clear, drops, events⟩ := encap_carried fresh around port carries
  have treated : (bgMd.own t.parcel).tunnelDirectSend = matchPacket := by
    cases t.parcel <;> exact matched
  have policing := policed_eq tables s holds clear treated
  rw [drops, events] at policing
  dsimp only
  rw [apply_policed tables fresh _ (original_of_carries around port carries), entered]
  exact policing

/-- What leaves the pipe is the bridge header and the tunnel packet. -/
theorem Holds.deparse {s : EgressState} {bgMd : BridgeMetadata} {pkt : Bits} {t : TunnelPacket}
    (holds : Holds s bgMd pkt t) :
    P13Egress.deparse s ++ pkt = BridgeMetadata.codec.encode bgMd ++ t.bits :=
  holds.bears.emit_bridged holds.bgMd holds.ethernet holds.fabric holds.cpu

end P13Egress

end IgwP4.Dataplane
