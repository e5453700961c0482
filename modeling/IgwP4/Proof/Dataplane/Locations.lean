/-
This file gives what the second internal pipe does to a tunnel packet that stays at the gateway.
-/

import IgwP4.Proof.Dataplane.BridgedPackets

namespace IgwP4.Dataplane
open Packet

namespace Parcel

/-- The destination translation reaches IPv4 only. -/
def dnat (tables : Tables) : Parcel → Parcel
  | .v4 ip payload => .v4 { ip with dstAddr := (tables.fipDnat ip.dstAddr).getD ip.dstAddr } payload
  | .v6 ip payload => .v6 ip payload

/-- The location table of the family gives the next hop. -/
def location (tables : Tables) : Parcel → Option (BitVec 16)
  | .v4 ip _ => (tables.vmLocMapping ip.dstAddr).map Prod.fst
  | .v6 ip _ => tables.ipv6VmLocMapping ip.dstAddr

def lkpSip : Parcel → BitVec 128
  | .v4 ip _ => ip.srcAddr.setWidth 128
  | .v6 ip _ => ip.srcAddr

def lkpDip : Parcel → BitVec 128
  | .v4 ip _ => ip.dstAddr.setWidth 128
  | .v6 ip _ => ip.dstAddr

/-- The flow of a packet takes its addresses from the parcel and the rest from the parser. -/
def flow (l3 : L3Metadata) (parcel : Parcel) : FlowKey where
  lkpSip := parcel.lkpSip
  lkpL4Sport := l3.lkpL4Sport
  lkpDip := parcel.lkpDip
  lkpL4Dport := l3.lkpL4Dport
  lkpIpProto := l3.lkpIpProto

@[simp] theorem dnat_etherType (tables : Tables) (parcel : Parcel) :
    (parcel.dnat tables).etherType = parcel.etherType := by
  cases parcel <;> rfl

end Parcel

namespace BridgeMetadata

/-- The shared meter colours the IPv4 packets that are not red yet. -/
def colour (tables : Tables) (parcel : Parcel) (bgMd : BridgeMetadata) : BridgeMetadata :=
  if bgMd.meterPacketColor ≠ colorRed ∧ parcel.isV4 then
    { bgMd with meterPacketColor :=
        (tables.eipInSharedMeter bgMd.sharedBandwidthId).getD bgMd.meterPacketColor }
  else bgMd

/-- The source port of the outer header comes from the flow, or from the source behind a balancer. -/
def hash (tables : Tables) (flow : FlowKey) (bgMd : BridgeMetadata) : BridgeMetadata :=
  { bgMd with l3EcmpEntryIdx := if bgMd.nlbEip = 1 then flow.lkpSip.setWidth 16 else tables.ipHash flow }

def place (location : Option (BitVec 16)) (bgMd : BridgeMetadata) : BridgeMetadata :=
  match location with
  | some nexthop => { bgMd with tunnelNexthop := nexthop }
  | none => { bgMd with needDrop := 1 }

def balance (tables : Tables) (bgMd : BridgeMetadata) : BridgeMetadata :=
  if bgMd.nlbEip = 1 then
    { bgMd with tunnelNexthop :=
        (tables.azEcmp bgMd.tunnelNexthop bgMd.l3EcmpEntryIdx).getD bgMd.tunnelNexthop }
  else bgMd

def route (tables : Tables) (flow : FlowKey) (bgMd : BridgeMetadata) : BridgeMetadata :=
  { bgMd with tunnelNexthop := (tables.routeEcmp bgMd.tunnelNexthop flow).getD bgMd.tunnelNexthop }

/-- A next hop that exists and misses marks the packet. -/
def resolve (tables : Tables) (bgMd : BridgeMetadata) : BridgeMetadata :=
  match tables.routeNexthop bgMd.tunnelNexthop with
  | some data => { bgMd with
      lkpVni := data.vni
      tunnelSrcId := data.srcid
      tunnelDstId := data.dstid
      innerMacId := data.innerMacId }
  | none => if bgMd.tunnelNexthop ≠ 0 then { bgMd with needDrop := 1 } else bgMd

/-- The bridge header behind `locate` -/
def locate (tables : Tables) (parcel : Parcel) (flow : FlowKey) (bgMd : BridgeMetadata) : BridgeMetadata :=
  ((((((bgMd.colour tables parcel).hash tables flow).place ((parcel.dnat tables).location tables)).balance
    tables).route tables flow).resolve tables)

/-- The location of a packet leaves these fields as they are. -/
structure Keeps (first second : BridgeMetadata) : Prop where
  proto : second.proto = first.proto
  igrPort : second.igrPort = first.igrPort
  outerEthernetType : second.outerEthernetType = first.outerEthernetType
  outerEthernetInvalid : second.outerEthernetInvalid = first.outerEthernetInvalid
  eipOrBwid : second.eipOrBwid = first.eipOrBwid
  igrTunnelType : second.igrTunnelType = first.igrTunnelType
  tunnelDirectSend : second.tunnelDirectSend = first.tunnelDirectSend
  nlbEip : second.nlbEip = first.nlbEip

theorem Keeps.trans {first second third : BridgeMetadata} (one : Keeps first second)
    (two : Keeps second third) : Keeps first third :=
  ⟨two.proto.trans one.proto, two.igrPort.trans one.igrPort,
    two.outerEthernetType.trans one.outerEthernetType,
    two.outerEthernetInvalid.trans one.outerEthernetInvalid, two.eipOrBwid.trans one.eipOrBwid,
    two.igrTunnelType.trans one.igrTunnelType, two.tunnelDirectSend.trans one.tunnelDirectSend,
    two.nlbEip.trans one.nlbEip⟩

theorem place_keeps (location : Option (BitVec 16)) (bgMd : BridgeMetadata) :
    Keeps bgMd (bgMd.place location) ∧ (bgMd.place location).meterPacketColor = bgMd.meterPacketColor := by
  cases location <;> exact ⟨⟨rfl, rfl, rfl, rfl, rfl, rfl, rfl, rfl⟩, rfl⟩

theorem balance_keeps (tables : Tables) (bgMd : BridgeMetadata) :
    Keeps bgMd (bgMd.balance tables) ∧ (bgMd.balance tables).meterPacketColor = bgMd.meterPacketColor := by
  unfold balance
  split <;> exact ⟨⟨rfl, rfl, rfl, rfl, rfl, rfl, rfl, rfl⟩, rfl⟩

theorem resolve_keeps (tables : Tables) (bgMd : BridgeMetadata) :
    Keeps bgMd (bgMd.resolve tables) ∧ (bgMd.resolve tables).meterPacketColor = bgMd.meterPacketColor := by
  unfold resolve
  split
  · exact ⟨⟨rfl, rfl, rfl, rfl, rfl, rfl, rfl, rfl⟩, rfl⟩
  · split <;> exact ⟨⟨rfl, rfl, rfl, rfl, rfl, rfl, rfl, rfl⟩, rfl⟩

theorem locate_keeps (tables : Tables) (parcel : Parcel) (flow : FlowKey) (bgMd : BridgeMetadata) :
    Keeps bgMd (bgMd.locate tables parcel flow) ∧
      (bgMd.locate tables parcel flow).meterPacketColor = (bgMd.colour tables parcel).meterPacketColor := by
  have coloured : Keeps bgMd (bgMd.colour tables parcel) := by
    unfold colour
    split <;> exact ⟨rfl, rfl, rfl, rfl, rfl, rfl, rfl, rfl⟩
  have hashed (b : BridgeMetadata) : Keeps b (b.hash tables flow) := ⟨rfl, rfl, rfl, rfl, rfl, rfl, rfl, rfl⟩
  have routed (b : BridgeMetadata) : Keeps b (b.route tables flow) := ⟨rfl, rfl, rfl, rfl, rfl, rfl, rfl, rfl⟩
  constructor
  · exact ((((coloured.trans (hashed _)).trans (place_keeps _ _).1).trans (balance_keeps tables _).1).trans
      (routed _)).trans (resolve_keeps tables _).1
  · rw [locate, (resolve_keeps tables _).2, route, (balance_keeps tables _).2, (place_keeps _ _).2, hash]

/-- The two counters of the address, unless a miss has marked the packet -/
def inStats (bgMd : BridgeMetadata) (parcel : Parcel) : List Event :=
  if bgMd.needDrop ≠ 1 then
    match parcel with
    | .v4 _ _ =>
        if bgMd.meterPacketColor ≠ colorRed then
          [⟨.eipInEgress, bgMd.eipOrBwid.toNat, eip46InEgressAdjust⟩]
        else [⟨.eipInDrop, bgMd.eipOrBwid.toNat, 0⟩]
    | .v6 ip _ =>
        if bgMd.meterPacketColor ≠ colorRed then
          [⟨.eip6InEgress, ip.dstAddr.toNat, eip46InEgressAdjust⟩]
        else [⟨.eip6InDrop, ip.dstAddr.toNat, 0⟩]
  else []

end BridgeMetadata

/-- The event belongs to one of the four counters of the inbound addresses. -/
def Site.countsInbound : Site → Bool
  | .eipInEgress => true
  | .eipInDrop => true
  | .eip6InEgress => true
  | .eip6InDrop => true
  | _ => false

/-- The second list continues the first without touching the counters of the inbound addresses. -/
def Continues (first second : List Event) : Prop :=
  ∃ between : List Event, second = first ++ between ∧ ∀ event ∈ between, event.site.countsInbound = false

theorem Continues.refl (events : List Event) : Continues events events :=
  ⟨[], (List.append_nil _).symm, fun _ h => absurd h List.not_mem_nil⟩

theorem Continues.note (events : List Event) {event : Event} (other : event.site.countsInbound = false) :
    Continues events (events ++ [event]) := by
  refine ⟨[event], rfl, ?_⟩
  intro e member
  rw [List.mem_singleton.mp member]
  exact other

theorem Continues.trans {first second third : List Event} (one : Continues first second)
    (two : Continues second third) : Continues first third := by
  obtain ⟨between, rfl, plain⟩ := one
  obtain ⟨after, rfl, plain'⟩ := two
  refine ⟨between ++ after, List.append_assoc _ _ _, ?_⟩
  intro event member
  rcases List.mem_append.mp member with h | h
  · exact plain event h
  · exact plain' event h

namespace P13Ingress

theorem sharedBwRatelimit_eq (tables : Tables) (s : IngressState) :
    ∃ events, sharedBwRatelimit tables s = { s with
        hdr.bgMd.fields.meterPacketColor :=
          (tables.eipInSharedMeter s.hdr.bgMd.fields.sharedBandwidthId).getD
            s.hdr.bgMd.fields.meterPacketColor
        events := events } ∧ Continues s.events events := by
  unfold sharedBwRatelimit
  dsimp only
  cases tables.eipInSharedMeter s.hdr.bgMd.fields.sharedBandwidthId
  · exact ⟨_, rfl, .note _ rfl⟩
  · exact ⟨_, rfl, .note _ rfl⟩

theorem sharedBwStats_eq (s : IngressState) :
    ∃ events, sharedBwStats s = { s with events := events } ∧ Continues s.events events := by
  unfold sharedBwStats
  split
  · exact ⟨_, rfl, .note _ rfl⟩
  · exact ⟨_, rfl, .note _ rfl⟩

theorem ratelimitDrop_eq (tables : Tables) (s : IngressState) :
    ∃ events, ratelimitDrop tables s = { s with
        dropCtl := if tables.ratelimitDrop s.hdr.bgMd.fields.meterPacketColor then 1 else s.dropCtl
        events := events } ∧ Continues s.events events := by
  unfold ratelimitDrop
  dsimp only
  cases tables.ratelimitDrop s.hdr.bgMd.fields.meterPacketColor
  · exact ⟨_, rfl, .note _ rfl⟩
  · exact ⟨_, rfl, .note _ rfl⟩

/-- The shared meter and the drop of the red packets -/
theorem eipInSharedMeter_eq (tables : Tables) (s : IngressState) {parcel : Parcel}
    (family : s.hdr.innerIpv4.valid = true ↔ parcel.isV4 = true) :
    ∃ events, eipInSharedMeter tables s = { s with
        hdr.bgMd.fields := s.hdr.bgMd.fields.colour tables parcel
        dropCtl :=
          if tables.ratelimitDrop (s.hdr.bgMd.fields.colour tables parcel).meterPacketColor then 1
          else s.dropCtl
        events := events } ∧ Continues s.events events := by
  rw [eipInSharedMeter, BridgeMetadata.colour]
  simp only [← family]
  split
  · obtain ⟨first, metered, one⟩ := sharedBwRatelimit_eq tables s
    rw [metered]
    obtain ⟨second, counted, two⟩ := sharedBwStats_eq { s with
      hdr.bgMd.fields.meterPacketColor :=
        (tables.eipInSharedMeter s.hdr.bgMd.fields.sharedBandwidthId).getD
          s.hdr.bgMd.fields.meterPacketColor
      events := first }
    rw [counted]
    obtain ⟨third, limited, three⟩ := ratelimitDrop_eq tables { s with
      hdr.bgMd.fields.meterPacketColor :=
        (tables.eipInSharedMeter s.hdr.bgMd.fields.sharedBandwidthId).getD
          s.hdr.bgMd.fields.meterPacketColor
      events := second }
    exact ⟨third, limited, (one.trans two).trans three⟩
  · exact ratelimitDrop_eq tables s

theorem computeIpHashes_eq (tables : Tables) (s : IngressState) :
    computeIpHashes tables s = { s with
      hdr.bgMd.fields := s.hdr.bgMd.fields.hash tables s.flowKey } := by
  rw [computeIpHashes, BridgeMetadata.hash]
  split
  · rfl
  · rfl

theorem azSelector_eq (tables : Tables) (s : IngressState) :
    azSelector tables s = { s with hdr.bgMd.fields := s.hdr.bgMd.fields.balance tables } := by
  rw [azSelector, BridgeMetadata.balance]
  split
  · cases tables.azEcmp s.hdr.bgMd.fields.tunnelNexthop s.hdr.bgMd.fields.l3EcmpEntryIdx <;> rfl
  · rfl

theorem routeEcmp_eq (tables : Tables) (s : IngressState) :
    routeEcmp tables s = { s with hdr.bgMd.fields := s.hdr.bgMd.fields.route tables s.flowKey } := by
  rw [routeEcmp, BridgeMetadata.route]
  cases tables.routeEcmp s.hdr.bgMd.fields.tunnelNexthop s.flowKey <;> rfl

theorem routeNexthop_eq (tables : Tables) (s : IngressState) :
    ∃ events, routeNexthop tables s = { s with
        hdr.bgMd.fields := s.hdr.bgMd.fields.resolve tables
        events := events } ∧ Continues s.events events := by
  rw [routeNexthop, BridgeMetadata.resolve]
  cases tables.routeNexthop s.hdr.bgMd.fields.tunnelNexthop with
  | some data => exact ⟨_, rfl, .refl _⟩
  | none =>
      dsimp only
      split
      · exact ⟨_, rfl, .note _ rfl⟩
      · exact ⟨_, rfl, .refl _⟩

theorem eipInEgressPktStats_eq (s : IngressState) {pkt : Bits} {parcel : Parcel}
    (bears : s.hdr.BearsParcel pkt parcel) :
    eipInEgressPktStats s = { s with events := s.events ++ s.hdr.bgMd.fields.inStats parcel } := by
  have unmarked (t : IngressState) : t = { t with events := t.events ++ [] } := by
    rw [List.append_nil]
  unfold eipInEgressPktStats BridgeMetadata.inStats
  dsimp only
  split
  · cases parcel with
    | v4 ip payload =>
        have on : s.hdr.innerIpv4.valid = true := congrArg Header.valid bears.1
        rw [if_pos on]
        split <;> rfl
    | v6 ip payload =>
        obtain ⟨off, inner, _⟩ := bears
        obtain rfl : s.hdr.innerIpv6.fields = ip := congrArg Header.fields inner
        have on : s.hdr.innerIpv6.valid = true := congrArg Header.valid inner
        rw [if_neg (by rw [off]; decide), if_pos on]
        dsimp only
        split <;> rfl
  · exact unmarked s

/-- The drop of a packet without a location is counted. -/
def hostDropped (s : IngressState) : IngressState :=
  if s.hdr.bgMd.fields.needDrop = 1 then s.note .vmHostDrop 1 else s

theorem hostDropped_eq (s : IngressState) :
    ∃ events, hostDropped s = { s with events := events } ∧ Continues s.events events := by
  unfold hostDropped
  split
  · exact ⟨_, rfl, .note _ rfl⟩
  · exact ⟨_, rfl, .refl _⟩

theorem vmLocationMapping_v4 (tables : Tables) (s : IngressState) (on : s.hdr.innerIpv4.valid = true) :
    vmLocationMapping tables s = hostDropped { vmLocMapping tables s with
      hdr.innerIpv4.fields.dstAddr := (vmLocMapping tables s).metadata.tunnel.fipDip } := by
  have opened : vmLocationMapping tables s = hostDropped
      (if s.hdr.innerIpv4.valid then { vmLocMapping tables s with
          hdr.innerIpv4.fields.dstAddr := (vmLocMapping tables s).metadata.tunnel.fipDip }
        else if s.hdr.innerIpv6.valid then ipv6VmLocMapping tables s
        else s) := rfl
  rw [opened, if_pos on]

theorem vmLocationMapping_v6 (tables : Tables) (s : IngressState) (off : s.hdr.innerIpv4.valid = false)
    (on : s.hdr.innerIpv6.valid = true) :
    vmLocationMapping tables s = hostDropped (ipv6VmLocMapping tables s) := by
  have opened : vmLocationMapping tables s = hostDropped
      (if s.hdr.innerIpv4.valid then { vmLocMapping tables s with
          hdr.innerIpv4.fields.dstAddr := (vmLocMapping tables s).metadata.tunnel.fipDip }
        else if s.hdr.innerIpv6.valid then ipv6VmLocMapping tables s
        else s) := rfl
  rw [opened, if_neg (by rw [off]; decide), if_pos on]

theorem fipIpDnat_eq (tables : Tables) (s : IngressState) (tunnel : s.hdr.vxlan.valid = true)
    (on : s.hdr.innerIpv4.valid = true) :
    fipIpDnat tables s = { s with
      metadata.tunnel.fip := s.hdr.innerIpv4.fields.dstAddr
      metadata.tunnel.fipDip :=
        (tables.fipDnat s.hdr.innerIpv4.fields.dstAddr).getD s.hdr.innerIpv4.fields.dstAddr } := by
  rw [fipIpDnat, if_pos ⟨tunnel, on⟩]

theorem fipIpDnat_off (tables : Tables) (s : IngressState) (off : s.hdr.innerIpv4.valid = false) :
    fipIpDnat tables s = s := by
  rw [fipIpDnat, if_neg (by rw [off]; simp)]

theorem vmLocMapping_eq (tables : Tables) (s : IngressState) :
    ∃ routeIdx, vmLocMapping tables s = { s with
      hdr.bgMd.fields :=
        s.hdr.bgMd.fields.place ((tables.vmLocMapping s.metadata.tunnel.fipDip).map Prod.fst)
      metadata.tunnel.routeIdx := routeIdx } := by
  rw [vmLocMapping]
  cases tables.vmLocMapping s.metadata.tunnel.fipDip <;> exact ⟨_, rfl⟩

theorem ipv6VmLocMapping_eq (tables : Tables) (s : IngressState) :
    ∃ routeIdx, ipv6VmLocMapping tables s = { s with
      hdr.bgMd.fields :=
        s.hdr.bgMd.fields.place (tables.ipv6VmLocMapping s.hdr.innerIpv6.fields.dstAddr)
      metadata.tunnel.routeIdx := routeIdx } := by
  rw [ipv6VmLocMapping]
  cases tables.ipv6VmLocMapping s.hdr.innerIpv6.fields.dstAddr <;> exact ⟨_, rfl⟩

/-- The translation and the location of a tunnel packet -/
theorem vmLocationMapping_eq (tables : Tables) (s : IngressState) {pkt : Bits} {t : TunnelPacket}
    (bears : s.hdr.Bears pkt t) :
    ∃ (hdr : Headers) (tunnel : TunnelMetadata) (events : List Event),
      vmLocationMapping tables (fipIpDnat tables s) =
        { s with hdr := hdr, metadata.tunnel := tunnel, events := events } ∧
      hdr.Bears pkt { t with parcel := t.parcel.dnat tables } ∧
      hdr.bgMd = ⟨s.hdr.bgMd.valid,
        s.hdr.bgMd.fields.place ((t.parcel.dnat tables).location tables)⟩ ∧
      hdr.ethernet = s.hdr.ethernet ∧ hdr.fabric = s.hdr.fabric ∧ hdr.cpu = s.hdr.cpu ∧
      Continues s.events events := by
  obtain ⟨ip, udp, vxlan, ethernet, parcel⟩ := t
  obtain ⟨hasIp, ipv6, hasUdp, tcp, icmp, hasVxlan, hasEthernet, inner⟩ := bears
  have onVxlan : s.hdr.vxlan.valid = true := congrArg Header.valid hasVxlan
  cases parcel with
  | v4 header payload =>
      obtain ⟨inner4, inner6, rest⟩ := inner
      obtain rfl : s.hdr.innerIpv4.fields = header := congrArg Header.fields inner4
      have on4 : s.hdr.innerIpv4.valid = true := congrArg Header.valid inner4
      rw [fipIpDnat_eq tables s onVxlan on4, vmLocationMapping_v4]
      case on => exact on4
      obtain ⟨routeIdx, placed⟩ := vmLocMapping_eq tables _
      rw [placed]
      obtain ⟨events, counted, continues⟩ := hostDropped_eq _
      rw [counted]
      refine ⟨_, _, _, rfl, ⟨hasIp, ipv6, hasUdp, tcp, icmp, hasVxlan, hasEthernet, ?_, inner6, rest⟩,
        rfl, rfl, rfl, rfl, continues⟩
      exact congrArg (Header.mk · _) on4
  | v6 header payload =>
      obtain ⟨inner4, inner6, words, rest⟩ := inner
      obtain rfl : s.hdr.innerIpv6.fields = header := congrArg Header.fields inner6
      have on6 : s.hdr.innerIpv6.valid = true := congrArg Header.valid inner6
      rw [fipIpDnat_off tables s inner4, vmLocationMapping_v6 tables s inner4 on6]
      obtain ⟨routeIdx, placed⟩ := ipv6VmLocMapping_eq tables s
      rw [placed]
      obtain ⟨events, counted, continues⟩ := hostDropped_eq _
      rw [counted]
      exact ⟨_, _, _, rfl, ⟨hasIp, ipv6, hasUdp, tcp, icmp, hasVxlan, hasEthernet, inner4, inner6,
        words, rest⟩, rfl, rfl, rfl, rfl, continues⟩

/-- The whole control on a tunnel packet -/
theorem locate_eq (tables : Tables) (s : IngressState) {pkt : Bits} {t : TunnelPacket}
    (bears : s.hdr.Bears pkt t) :
    let bgMd := s.hdr.bgMd.fields.locate tables t.parcel s.flowKey
    ∃ (hdr : Headers) (tunnel : TunnelMetadata) (events : List Event),
      locate tables s = { s with
        hdr := hdr
        metadata.tunnel := tunnel
        dropCtl := if tables.ratelimitDrop bgMd.meterPacketColor then 1 else s.dropCtl
        events := events ++ bgMd.inStats (t.parcel.dnat tables) } ∧
      hdr.Bears pkt { t with parcel := t.parcel.dnat tables } ∧
      hdr.bgMd = ⟨s.hdr.bgMd.valid, bgMd⟩ ∧
      hdr.ethernet = s.hdr.ethernet ∧ hdr.fabric = s.hdr.fabric ∧ hdr.cpu = s.hdr.cpu ∧
      Continues s.events events := by
  have family : s.hdr.innerIpv4.valid = true ↔ t.parcel.isV4 = true := by
    have inner := bears.parcel
    cases shape : t.parcel with
    | v4 ip payload =>
        rw [shape] at inner
        exact ⟨fun _ => rfl, fun _ => congrArg Header.valid inner.1⟩
    | v6 ip payload =>
        rw [shape] at inner
        rw [inner.1]
        exact ⟨fun h => absurd h Bool.false_ne_true, fun h => absurd h Bool.false_ne_true⟩
  obtain ⟨first, metered, one⟩ := eipInSharedMeter_eq tables s family
  let dropCtl :=
    if tables.ratelimitDrop (s.hdr.bgMd.fields.colour tables t.parcel).meterPacketColor then 1
    else s.dropCtl
  let hashed : IngressState := { s with
    hdr.bgMd.fields := (s.hdr.bgMd.fields.colour tables t.parcel).hash tables s.flowKey
    dropCtl := dropCtl
    events := first }
  have hashes : computeIpHashes tables (eipInSharedMeter tables s) = hashed := by
    rw [metered]
    exact computeIpHashes_eq tables _
  obtain ⟨hdr, tunnel, second, placed, bears', bridge, ethernet, fabric, cpu, two⟩ :=
    vmLocationMapping_eq tables hashed (bears.outside _ _ _ _)
  have fields := congrArg Header.fields bridge
  obtain ⟨third, resolved, three⟩ := routeNexthop_eq tables { hashed with
    hdr := { hdr with bgMd.fields := (hdr.bgMd.fields.balance tables).route tables s.flowKey }
    metadata.tunnel := tunnel
    events := second }
  let bgMd := s.hdr.bgMd.fields.locate tables t.parcel s.flowKey
  have final : nexthopProcess tables (azSelector tables (vmLocationMapping tables (fipIpDnat tables hashed))) =
      { hashed with
        hdr := { hdr with bgMd := ⟨s.hdr.bgMd.valid, bgMd⟩ }
        metadata.tunnel := tunnel
        events := third } := by
    rw [placed, azSelector_eq, nexthopProcess, routeEcmp_eq]
    refine resolved.trans ?_
    rw [fields, bridge]
    rfl
  have counted := eipInEgressPktStats_eq { hashed with
    hdr := { hdr with bgMd := ⟨s.hdr.bgMd.valid, bgMd⟩ }
    metadata.tunnel := tunnel
    events := third } (bears'.outside _ _ _ _).parcel
  have whole : locate tables s = eipInEgressPktStats (nexthopProcess tables (azSelector tables
      (vmLocationMapping tables (fipIpDnat tables (computeIpHashes tables (eipInSharedMeter tables s)))))) :=
    rfl
  refine ⟨{ hdr with bgMd := ⟨s.hdr.bgMd.valid, bgMd⟩ }, tunnel, third, ?_, bears'.outside _ _ _ _, rfl,
    ethernet, fabric, cpu, (one.trans two).trans three⟩
  rw [whole, hashes, final, counted, (BridgeMetadata.locate_keeps tables t.parcel s.flowKey _).2]

/-! The pass of a tunnel packet -/

theorem dropped_ite (drop : Bool) : dropped (if drop then 1 else 0) = drop := by
  cases drop <;> decide

theorem decapMetaData13_eq (s : IngressState) {pkt : Bits} {parcel : Parcel}
    (bears : s.hdr.BearsParcel pkt parcel) :
    decapMetaData13 s = { s with
      metadata.l3.lkpSip := parcel.lkpSip
      metadata.l3.lkpDip := parcel.lkpDip } := by
  unfold decapMetaData13
  cases parcel with
  | v4 ip payload =>
      obtain ⟨inner4, inner6, _⟩ := bears
      obtain rfl : s.hdr.innerIpv4.fields = ip := congrArg Header.fields inner4
      have on : s.hdr.innerIpv4.valid = true := congrArg Header.valid inner4
      rw [on, inner6]
      rfl
  | v6 ip payload =>
      obtain ⟨inner4, inner6, _⟩ := bears
      obtain rfl : s.hdr.innerIpv6.fields = ip := congrArg Header.fields inner6
      have on : s.hdr.innerIpv6.valid = true := congrArg Header.valid inner6
      rw [inner4, on]
      rfl

/-- A packet that stays at the gateway comes back with its location. -/
theorem pass_located (tables : Tables) {around : Surroundings} {port : BitVec 9} {packet : Bits}
    {parsed : ParserState} (accepted : P13IngressParser.parse around.containers packet = some parsed)
    {bgMd : BridgeMetadata} {t : TunnelPacket} (carries : parsed.Carries bgMd t)
    (matched : bgMd.tunnelDirectSend = matchPacket) :
    let located := bgMd.locate tables t.parcel (t.parcel.flow parsed.metadata.l3)
    ∃ events, Continues [] events ∧ pass tables around port packet =
      ⟨events ++ located.inStats (t.parcel.dnat tables),
        if tables.ratelimitDrop located.meterPacketColor then none
        else some (bgMd.igrPort, BridgeMetadata.codec.encode located ++
          ({ t with parcel := t.parcel.dnat tables } : TunnelPacket).bits)⟩ := by
  have fields : parsed.hdr.bgMd.fields = bgMd := congrArg Header.fields carries.bgMd
  let s : IngressState := { ingressStart around port parsed with
    metadata.l3 := { parsed.metadata.l3 with lkpSip := t.parcel.lkpSip, lkpDip := t.parcel.lkpDip }
    ucastEgressPort := bgMd.igrPort }
  have entered : apply tables (ingressStart around port parsed) = locate tables s := by
    have test : parsed.hdr.bgMd.fields.tunnelDirectSend = matchPacket := by
      rw [fields, matched]
    rw [apply, decapMetaData13_eq (ingressStart around port parsed) carries.bears.parcel]
    refine (if_pos test).trans ?_
    exact congrArg (fun port => locate tables { s with ucastEgressPort := port })
      (congrArg BridgeMetadata.igrPort fields)
  obtain ⟨hdr, tunnel, events, located, bears, bridge, ethernet, fabric, cpu, continues⟩ :=
    locate_eq tables s carries.bears
  have on : s.hdr.bgMd.valid = true := congrArg Header.valid carries.bgMd
  have same : s.hdr.bgMd.fields = bgMd := fields
  have flow : s.flowKey = t.parcel.flow parsed.metadata.l3 := rfl
  rw [same, flow] at located bridge
  rw [on] at bridge
  have emitted := bears.emit_bridged bridge ((congrArg Header.valid ethernet).trans carries.ethernet)
    ((congrArg Header.valid fabric).trans carries.fabric) ((congrArg Header.valid cpu).trans carries.cpu)
  refine ⟨events, continues, ?_⟩
  rw [pass, ingressPass, accepted]
  dsimp only
  rw [entered, located]
  dsimp only [deparse]
  rw [emitted]
  have clear : s.dropCtl = 0 := rfl
  rw [clear, dropped_ite]

/-- A redirected packet goes back to the port of its arrival. -/
theorem pass_redirected (tables : Tables) {around : Surroundings} {port : BitVec 9} {packet : Bits}
    {parsed : ParserState} (accepted : P13IngressParser.parse around.containers packet = some parsed)
    {bgMd : BridgeMetadata} {t : TunnelPacket} (carries : parsed.Carries bgMd t)
    (redirected : bgMd.tunnelDirectSend = dlPacket) :
    pass tables around port packet =
      ⟨[], some (bgMd.igrPort, BridgeMetadata.codec.encode bgMd ++ t.bits)⟩ := by
  have fields : parsed.hdr.bgMd.fields = bgMd := congrArg Header.fields carries.bgMd
  have test : parsed.hdr.bgMd.fields.tunnelDirectSend ≠ matchPacket := by
    rw [fields, redirected]
    decide
  let s : IngressState := { ingressStart around port parsed with
    metadata.l3 := { parsed.metadata.l3 with lkpSip := t.parcel.lkpSip, lkpDip := t.parcel.lkpDip }
    ucastEgressPort := bgMd.igrPort }
  have entered : apply tables (ingressStart around port parsed) = s := by
    rw [apply, decapMetaData13_eq (ingressStart around port parsed) carries.bears.parcel]
    refine (if_neg test).trans ?_
    exact congrArg (fun port => { s with ucastEgressPort := port } : BitVec 9 → IngressState)
      (congrArg BridgeMetadata.igrPort fields)
  have emitted := carries.bears.emit_bridged carries.bgMd carries.ethernet carries.fabric carries.cpu
  rw [pass, ingressPass, accepted]
  dsimp only
  rw [entered]
  have clear : dropped s.dropCtl = false := dropped_ite false
  rw [if_neg (by rw [clear]; decide)]
  exact congrArg (fun bits => (⟨[], some (bgMd.igrPort, bits)⟩ : Traced (BitVec 9 × Bits))) emitted

end P13Ingress

end IgwP4.Dataplane
