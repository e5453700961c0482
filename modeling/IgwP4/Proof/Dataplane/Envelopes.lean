/-
This file shows that the redirections do not change the tunnel in which an inbound packet reaches its host.
-/

import IgwP4.Proof.Dataplane.CarriedPackets
import IgwP4.Proof.Dataplane.RoundTrips

namespace IgwP4.Dataplane
open Packet Setup

/-! The flow of a packet -/

/-- The ports that the second internal parser reads, which are zero without a transport header -/
def Transport.ports : Transport → BitVec 16 × BitVec 16
  | .unread => (0, 0)
  | .tcp h => (h.srcPort, h.dstPort)
  | .udp h => (h.srcPort, h.dstPort)

namespace Parcel

def protocol : Parcel → BitVec 8
  | .v4 ip _ => ip.protocol
  | .v6 ip _ => ip.nextHdr

/-- The flow of a packet with this tail -/
def flowWith (tail : Tail) (parcel : Parcel) : FlowKey where
  lkpSip := parcel.lkpSip
  lkpL4Sport := tail.transport.ports.1
  lkpDip := parcel.lkpDip
  lkpL4Dport := tail.transport.ports.2
  lkpIpProto := parcel.protocol

theorem flow_tunnelState (containers : Headers) (bgMd : BridgeMetadata) (t : TunnelPacket) (tail : Tail) :
    t.parcel.flow (P13IngressParser.tunnelState containers bgMd t tail).metadata.l3 = t.parcel.flowWith tail := by
  obtain ⟨ip, udp, vxlan, ethernet, parcel⟩ := t
  obtain ⟨words, transport, rest⟩ := tail
  cases parcel <;> cases transport <;> rfl

@[simp] theorem flowWith_uncheck (contents : Ipv4) (tail : Tail) (parcel : Parcel) :
    (parcel.uncheck contents).flowWith tail = parcel.flowWith tail := by
  cases parcel <;> rfl

/-- The bits of a packet decide its tail, as far as its flow depends on it. -/
theorem flowWith_unique {parcel : Parcel} {tail tail' : Tail} (ends : parcel.Ends tail) (ends' : parcel.Ends tail') :
    parcel.flowWith tail = parcel.flowWith tail' := by
  let t : TunnelPacket := wrap default parcel.etherType parcel
  have accepted {tail : Tail} (ends : parcel.Ends tail) :
      P13IngressParser.parse default (BridgeMetadata.codec.encode inboundBridge ++ t.bits) =
        some (P13IngressParser.tunnelState default inboundBridge t tail) :=
    (P13IngressParser.parse_tunnel default ⟨rfl, rfl, rfl⟩ (wrap_tunnels default parcel) _).mpr
      ⟨tail, (uncheck_ends _ parcel _).mpr ends, rfl⟩
  have same := Option.some.inj ((accepted ends).symm.trans (accepted ends'))
  have flows := congrArg (fun s : ParserState => t.parcel.flow s.metadata.l3) same
  rw [flow_tunnelState, flow_tunnelState] at flows
  exact (flowWith_uncheck _ _ _).symm.trans (flows.trans (flowWith_uncheck _ _ _))

@[simp] theorem inboundEntry_uncheck (tables : Tables) (contents : Ipv4) (parcel : Parcel) :
    (parcel.uncheck contents).inboundEntry tables = parcel.inboundEntry tables := by
  cases parcel <;> rfl

end Parcel

/-! The tunnel to the host -/

/-- What a delivered frame shows of its tunnel -/
structure Envelope where
  source : BitVec 32
  destination : BitVec 32
  srcPort : BitVec 16
  dstPort : BitVec 16
  checksum : BitVec 16
  flags : BitVec 8
  version : BitVec 4
  vni : BitVec 24
  tof : BitVec 4
  innerSource : BitVec 48
  innerDestination : BitVec 48
deriving DecidableEq

def envelopeOf (packet : Bits) : Option Envelope := do
  let (_, rest) ← Ethernet.codec.extract packet
  let (ip, rest) ← Ipv4.codec.extract rest
  let (udp, rest) ← Udp.codec.extract rest
  let (vxlan, rest) ← Vxlan.codec.extract rest
  let (ethernet, _) ← Ethernet.codec.extract rest
  some ⟨ip.srcAddr, ip.dstAddr, udp.srcPort, udp.dstPort, udp.checksum, vxlan.flags, vxlan.version, vxlan.vni,
    vxlan.tof, ethernet.srcAddr, ethernet.dstAddr⟩

theorem envelopeOf_tunnel (ethernet : Ethernet) (t : TunnelPacket) :
    envelopeOf (Ethernet.codec.encode ethernet ++ t.bits) = some ⟨t.ip.srcAddr, t.ip.dstAddr, t.udp.srcPort,
      t.udp.dstPort, t.udp.checksum, t.vxlan.flags, t.vxlan.version, t.vxlan.vni, t.vxlan.tof, t.ethernet.srcAddr,
      t.ethernet.dstAddr⟩ := by
  rw [envelopeOf, TunnelPacket.bits]
  simp only [Option.bind_eq_bind, Codec.extract_encode, Option.bind_some]

namespace Tables

variable (tables : Tables)

/-- The source port of the tunnel comes from the flow, or from the source behind a balancer. -/
def entropy (nlb : BitVec 1) (flow : FlowKey) : BitVec 16 :=
  if nlb = 1 then flow.lkpSip.setWidth 16 else tables.ipHash flow

/-- The next hop that a location leads to -/
def nexthopBehind (nlb : BitVec 1) (flow : FlowKey) (location : BitVec 16) : BitVec 16 :=
  let balanced :=
    if nlb = 1 then (tables.azEcmp location (tables.entropy nlb flow)).getD location else location
  (tables.routeEcmp balanced flow).getD balanced

/-- The tunnel to the host of a packet, when the tables locate the host and know its next hop -/
def envelope (nlb : BitVec 1) (flow : FlowKey) (parcel : Parcel) : Option Envelope := do
  let location ← (parcel.dnat tables).location tables
  let nexthop ← tables.routeNexthop (tables.nexthopBehind nlb flow location)
  let source ← tables.tunnelSrcRewrite nexthop.srcid
  let destination ← tables.tunnelDstRewrite nexthop.dstid
  let macs ← tables.tunnelInnerRewrite nexthop.innerMacId
  some ⟨source, destination, tables.entropy nlb flow, udpPortVxlan, 0, 0x08, 0, nexthop.vni, 0, macs.smac, macs.dmac⟩

@[simp] theorem envelope_uncheck (nlb : BitVec 1) (flow : FlowKey) (contents : Ipv4) (parcel : Parcel) :
    tables.envelope nlb flow (parcel.uncheck contents) = tables.envelope nlb flow parcel := by
  have place : ((parcel.uncheck contents).dnat tables).location tables = (parcel.dnat tables).location tables := by
    cases parcel <;> rfl
  rw [envelope, envelope, place]

end Tables

/-- The bridge header of a located packet leads to its tunnel. -/
theorem BridgeMetadata.locate_envelope {tables : Tables} {parcel : Parcel} {flow : FlowKey} {bgMd : BridgeMetadata}
    {envelope : Envelope} (found : tables.envelope bgMd.nlbEip flow parcel = some envelope) (t : TunnelPacket)
    (checked : Bool) (ethernet : Ethernet) :
    envelopeOf (Ethernet.codec.encode ethernet ++
      ((t.deliver tables (bgMd.locate tables parcel flow)).stamp checked).bits) = some envelope := by
  obtain ⟨location, located, found⟩ := Option.bind_eq_some_iff.mp found
  obtain ⟨nexthop, reached, found⟩ := Option.bind_eq_some_iff.mp found
  obtain ⟨source, from', found⟩ := Option.bind_eq_some_iff.mp found
  obtain ⟨destination, to', found⟩ := Option.bind_eq_some_iff.mp found
  obtain ⟨macs, inner, found⟩ := Option.bind_eq_some_iff.mp found
  obtain ⟨h, hashed, nlb, idx⟩ : ∃ h, (bgMd.colour tables parcel).hash tables flow = h ∧ h.nlbEip = bgMd.nlbEip ∧
      h.l3EcmpEntryIdx = tables.entropy bgMd.nlbEip flow := by
    have coloured : (bgMd.colour tables parcel).nlbEip = bgMd.nlbEip := by
      unfold BridgeMetadata.colour
      split <;> rfl
    exact ⟨_, rfl, coloured, by rw [Tables.entropy, ← coloured]; rfl⟩
  have routed : ((h.place (some location)).balance tables).route tables flow =
      { h with tunnelNexthop := tables.nexthopBehind bgMd.nlbEip flow location } := by
    rw [Tables.nexthopBehind, ← idx, ← nlb]
    unfold BridgeMetadata.balance BridgeMetadata.route BridgeMetadata.place
    dsimp only
    split <;> rfl
  have resolved : bgMd.locate tables parcel flow = { h with
      tunnelNexthop := tables.nexthopBehind bgMd.nlbEip flow location
      lkpVni := nexthop.vni
      tunnelSrcId := nexthop.srcid
      tunnelDstId := nexthop.dstid
      innerMacId := nexthop.innerMacId } := by
    rw [BridgeMetadata.locate, hashed, located, routed, BridgeMetadata.resolve, reached]
  rw [envelopeOf_tunnel, resolved, ← found]
  simp only [TunnelPacket.stamp, TunnelPacket.deliver, from', to', inner, idx, Option.getD_some, Ethernet.readdress,
    Ipv4.update]

namespace BridgeMetadata

/-- The bridge header of an inbound packet that stays at the gateway, behind its meter -/
def stay (tables : Tables) (parcel : Parcel) (bgMd : BridgeMetadata) : BridgeMetadata :=
  { bgMd.enter (parcel.inboundEntry tables) with
    meterPacketColor :=
      (tables.eipInMeter (limits (parcel.inboundEntry tables)).bandwidthId).getD bgMd.meterPacketColor }

theorem police_of_stay {tables : Tables} {t : TunnelPacket} {bgMd : BridgeMetadata}
    (kept : t.redirectIn tables bgMd = none) : bgMd.police tables t = bgMd.stay tables t.parcel := by
  rw [police, kept]
  rfl

@[simp] theorem stay_uncheck (tables : Tables) (contents : Ipv4) (parcel : Parcel) (bgMd : BridgeMetadata) :
    bgMd.stay tables (parcel.uncheck contents) = bgMd.stay tables parcel := by
  cases parcel <;> rfl

@[simp] theorem locate_uncheck (tables : Tables) (contents : Ipv4) (parcel : Parcel) (flow : FlowKey)
    (bgMd : BridgeMetadata) : bgMd.locate tables (parcel.uncheck contents) flow = bgMd.locate tables parcel flow := by
  cases parcel <;> rfl

end BridgeMetadata

/-- The last pipe sends an inbound packet with this bridge header to its next hop. -/
structure Finishes (tables : Tables) (around : VisitSurroundings) (port : BitVec 9) (bridge : BridgeMetadata)
    (t : TunnelPacket) (delivery : Delivery) : Prop where
  bridges : bridge.Bridges etherTypeIpv4
  matched : bridge.tunnelDirectSend = matchPacket
  inbound : bridge.igrTunnelType = typeIngressInternetIn
  tunnels : t.Tunnels
  sent : (P02Egress.pass tables around.p02Egress port (BridgeMetadata.codec.encode bridge ++ t.bits)).value =
    some delivery

/-- A packet for its next hop reaches the last pipe with its location and its translation. -/
theorem onward_located {tables : Tables} {around : VisitSurroundings} {internalPort port : BitVec 9}
    {bgMd : BridgeMetadata} {t : TunnelPacket} (inbound : bgMd.Inbound port) (tunnels : t.Tunnels)
    (matched : bgMd.tunnelDirectSend = matchPacket) {delivery : Delivery}
    (sent : onward tables around internalPort bgMd t = some delivery) :
    ∃ tail, t.parcel.Ends tail ∧ Finishes tables around port
      (bgMd.locate tables t.parcel (t.parcel.flowWith tail)) { t with parcel := t.parcel.dnat tables } delivery := by
  obtain ⟨⟨egressPort, located⟩, back, sent⟩ := (Traced.bind_value_eq_some_iff _ _ _).mp sent
  cases accepted : P13IngressParser.parse around.p13Ingress.containers
      (BridgeMetadata.codec.encode bgMd ++ t.bits) with
  | none =>
      rw [P13Ingress.pass, ingressPass, accepted] at back
      contradiction
  | some parsed =>
      obtain ⟨tail, ends, rfl⟩ := (P13IngressParser.parse_tunnel _ inbound.bridges tunnels parsed).mp accepted
      obtain ⟨events, _, passed⟩ := @P13Ingress.pass_located tables _ internalPort _ _ accepted _ _
        (P13IngressParser.tunnelState_carries _ inbound.bridges tunnels ends) matched
      have keeps := (BridgeMetadata.locate_keeps tables t.parcel (t.parcel.flowWith tail) bgMd).1
      rw [passed, Parcel.flow_tunnelState, inbound.igrPort] at back
      refine ⟨tail, ends, ?_⟩
      generalize bgMd.locate tables t.parcel _ = bridge at back keeps
      dsimp only at back
      split at back
      · contradiction
      · obtain ⟨rfl, rfl⟩ := Prod.mk.inj (Option.some.inj back)
        dsimp only [outward] at sent
        split at sent
        · contradiction
        · constructor
          · exact ⟨keeps.proto.trans inbound.bridges.proto,
              keeps.outerEthernetType.trans inbound.bridges.outerEthernetType,
              keeps.outerEthernetInvalid.trans inbound.bridges.outerEthernetInvalid⟩
          · exact keeps.tunnelDirectSend.trans matched
          · exact keeps.igrTunnelType.trans inbound.igrTunnelType
          · exact ⟨tunnels.selects, tunnels.port, tunnels.type.trans (Parcel.dnat_etherType _ _).symm⟩
          · exact sent

namespace Passage

variable {a : Passage} {found : Form}

/-- An inbound packet that stays at the gateway reaches the last pipe as its tables decide. -/
theorem stays (known : a.form = some found) (inward : found.inbound = true) {parcel : Parcel}
    (arrived : a.parcel found = some parcel) {delivery : Delivery} (sent : a.visit.value = some delivery)
    (matched : delivery.directSend = matchPacket) :
    ∃ (own : BridgeMetadata) (t : TunnelPacket) (tail : Tail), parcel.Ends tail ∧ Finishes a.tables a.around a.port
      ((own.stay a.tables parcel).locate a.tables parcel (parcel.flowWith tail)) t delivery := by
  obtain ⟨t, entering⟩ := exists_entering known inward
  have presented : a.presented found = some t := by
    rw [Passage.presented, if_pos inward]
    exact entering
  obtain ⟨parcel', contents, arrived', same, _⟩ := presented_parcel known presented
  obtain rfl := Option.some.inj (arrived.symm.trans arrived')
  rw [if_pos inward] at same
  rcases first_inbound known inward with lost | ⟨internalPort, bgMd, inside, enters, first⟩
  · rw [visit, Dataplane.visit, Traced.bind, lost] at sent
    contradiction
  · obtain ⟨own, inbound, direct, tunnels, second⟩ := second_inbound known inward entering enters internalPort
    rw [visit, visit_looped inside first second] at sent
    change onward a.tables a.around internalPort (own.police a.tables t) ((t.redirectIn a.tables own).getD t) =
      some delivery at sent
    obtain ⟨_, _, kept⟩ := t.redirectIn_kept a.tables own
    have onwards := inbound.police a.tables t
    cases redirection : t.redirectIn a.tables own with
    | some t' =>
        have treatment : (own.police a.tables t).tunnelDirectSend = dlPacket := by
          rw [BridgeMetadata.police, redirection]
          rfl
        rw [redirection] at kept sent
        obtain ⟨_, _, last⟩ := (onward_redirected onwards (kept tunnels) treatment delivery).mp sent
        exact absurd (matched.symm.trans (P02Egress.pass_redirected onwards.bridges (kept tunnels) treatment last).1)
          (by decide)
    | none =>
        rw [redirection, BridgeMetadata.police_of_stay redirection] at sent
        rw [BridgeMetadata.police_of_stay redirection] at onwards
        have treatment : (own.stay a.tables t.parcel).tunnelDirectSend = matchPacket := by
          rw [BridgeMetadata.stay]
          cases t.parcel.inboundEntry a.tables <;> exact direct
        obtain ⟨tail, ends, finishes⟩ := onward_located onwards tunnels treatment sent
        have bridge : (own.stay a.tables t.parcel).locate a.tables t.parcel (t.parcel.flowWith tail) =
            (own.stay a.tables parcel).locate a.tables parcel (parcel.flowWith tail) := by
          rw [same, BridgeMetadata.stay_uncheck, BridgeMetadata.locate_uncheck, Parcel.flowWith_uncheck]
        rw [same] at ends
        rw [bridge] at finishes
        exact ⟨own, _, tail, (Parcel.uncheck_ends _ _ _).mp ends, finishes⟩

/-- A gateway that keeps an inbound packet sends it in the tunnel that its tables and the packet decide. -/
theorem enveloped (known : a.form = some found) (inward : found.inbound = true) {parcel : Parcel}
    (arrived : a.parcel found = some parcel) {data : EipInBwId} (entry : parcel.inboundEntry a.tables = some data)
    {delivery : Delivery} (sent : a.visit.value = some delivery) (matched : delivery.directSend = matchPacket) :
    ∃ tail, parcel.Ends tail ∧ ∀ envelope,
      a.tables.envelope data.nlbEip (parcel.flowWith tail) parcel = some envelope →
        envelopeOf delivery.packet = some envelope := by
  obtain ⟨own, t, tail, ends, finishes⟩ := stays known inward arrived sent matched
  have balanced : (own.stay a.tables parcel).nlbEip = data.nlbEip := by
    rw [BridgeMetadata.stay, entry]
    rfl
  refine ⟨tail, ends, fun envelope led => ?_⟩
  obtain ⟨_, ethernet, packet⟩ :=
    P02Egress.pass_delivered finishes.bridges finishes.tunnels finishes.matched finishes.inbound finishes.sent
  rw [packet]
  exact BridgeMetadata.locate_envelope (balanced ▸ led) _ _ ethernet

end Passage

/-- The last gateway of an inbound chain finds the packet of the first one. -/
theorem chain_arrives {first : Passage} {rest : List Passage} {found : Form} (known : first.form = some found)
    (inward : found.inbound = true) (redirects : ∀ a ∈ first :: rest, Redirects a.gateway.cfg a.gateway.tables)
    (leads : List.IsChain Passage.Leads (first :: rest)) {parcel : Parcel} (arrived : first.parcel found = some parcel) :
    ∃ (last : Form) (contents : Ipv4), last.inbound = true ∧
      ((first :: rest).getLast (List.cons_ne_nil _ _)).form = some last ∧
      ((first :: rest).getLast (List.cons_ne_nil _ _)).parcel last = some (parcel.uncheck contents) := by
  induction rest generalizing first found parcel with
  | nil =>
      obtain ⟨contents, same⟩ := parcel.exists_uncheck
      exact ⟨found, contents, inward, known, same ▸ arrived⟩
  | cons second rest ih =>
      obtain ⟨link, leads⟩ := List.isChain_cons_cons.mp leads
      obtain ⟨known', _, _⟩ := link.step (redirects first List.mem_cons_self) known
      obtain ⟨parcel', contents, arrived', next, _⟩ := link.parcel (redirects first List.mem_cons_self) known
      obtain rfl := Option.some.inj (arrived.symm.trans arrived')
      rw [if_pos inward] at next
      obtain ⟨last, contents', inside, form, same⟩ := ih known' ((Form.redirected_inbound _).trans inward)
        (List.forall_mem_of_forall_mem_cons redirects) leads next
      rw [List.getLast_cons (List.cons_ne_nil _ _)]
      refine ⟨last, contents', inside, form, same.trans (congrArg some ?_)⟩
      cases parcel <;> rfl

/-- The two gateways locate their hosts by the same entries. -/
structure Tables.LocatesAs (tables other : Tables) : Prop where
  fipDnat : tables.fipDnat = other.fipDnat
  vmLocMapping : tables.vmLocMapping = other.vmLocMapping
  ipv6VmLocMapping : tables.ipv6VmLocMapping = other.ipv6VmLocMapping
  ipHash : tables.ipHash = other.ipHash
  azEcmp : tables.azEcmp = other.azEcmp
  routeEcmp : tables.routeEcmp = other.routeEcmp
  routeNexthop : tables.routeNexthop = other.routeNexthop
  tunnelSrcRewrite : tables.tunnelSrcRewrite = other.tunnelSrcRewrite
  tunnelDstRewrite : tables.tunnelDstRewrite = other.tunnelDstRewrite
  tunnelInnerRewrite : tables.tunnelInnerRewrite = other.tunnelInnerRewrite

namespace Tables.LocatesAs

variable {tables other : Tables} (alike : tables.LocatesAs other)

include alike

theorem dnat (parcel : Parcel) : parcel.dnat tables = parcel.dnat other := by
  cases parcel with
  | v4 ip payload => rw [Parcel.dnat, Parcel.dnat, alike.fipDnat]
  | v6 ip payload => rfl

theorem envelope (nlb : BitVec 1) (flow : FlowKey) (parcel : Parcel) :
    tables.envelope nlb flow parcel = other.envelope nlb flow parcel := by
  have place (parcel : Parcel) : parcel.location tables = parcel.location other := by
    cases parcel with
    | v4 ip payload => rw [Parcel.location, Parcel.location, alike.vmLocMapping]
    | v6 ip payload => rw [Parcel.location, Parcel.location, alike.ipv6VmLocMapping]
  have entropy : tables.entropy nlb flow = other.entropy nlb flow := by
    rw [Tables.entropy, Tables.entropy, alike.ipHash]
  have nexthop (location : BitVec 16) :
      tables.nexthopBehind nlb flow location = other.nexthopBehind nlb flow location := by
    rw [nexthopBehind, nexthopBehind, entropy, alike.azEcmp, alike.routeEcmp]
  simp only [Tables.envelope, alike.dnat, place, nexthop, entropy, alike.routeNexthop, alike.tunnelSrcRewrite,
    alike.tunnelDstRewrite, alike.tunnelInnerRewrite]

end Tables.LocatesAs

/-- Two gateways that locate the host of an inbound packet alike send it in the same tunnel, behind a course or not. -/
theorem Course.same_envelope {c : Course} (inbound : c.form.inbound = true) {b : Passage} {form : Form}
    (known : b.form = some form) (inward : form.inbound = true) {parcel : Parcel}
    (arrived : c.first.parcel c.form = some parcel) (same : b.parcel form = some parcel)
    (alike : b.tables.LocatesAs c.last.tables) {entry ownEntry : EipInBwId}
    (entered : parcel.inboundEntry c.last.tables = some entry)
    (ownEntered : parcel.inboundEntry b.tables = some ownEntry) (balanced : ownEntry.nlbEip = entry.nlbEip)
    (led : ∀ tail, parcel.Ends tail →
      (c.last.tables.envelope entry.nlbEip (parcel.flowWith tail) parcel).isSome = true)
    {delivery own : Delivery} (sent : c.last.visit.value = some delivery) (matched : delivery.directSend = matchPacket)
    (ownSent : b.visit.value = some own) (ownMatched : own.directSend = matchPacket) :
    ∃ envelope, envelopeOf delivery.packet = some envelope ∧ envelopeOf own.packet = some envelope := by
  obtain ⟨last, contents, inside, formed, arrived'⟩ := chain_arrives c.known inbound c.redirects c.leads arrived
  have entered' : (parcel.uncheck contents).inboundEntry c.last.tables = some entry := by
    rw [Parcel.inboundEntry_uncheck]
    exact entered
  obtain ⟨tail, ends, shown⟩ := Passage.enveloped formed inside arrived' entered' sent matched
  obtain ⟨tail', ends', ownShown⟩ := Passage.enveloped known inward same ownEntered ownSent ownMatched
  rw [Parcel.uncheck_ends] at ends
  obtain ⟨envelope, found⟩ := Option.isSome_iff_exists.mp (led tail ends)
  refine ⟨envelope, shown envelope ?_, ownShown envelope ?_⟩
  · rw [Parcel.flowWith_uncheck, Tables.envelope_uncheck]
    exact found
  · rw [alike.envelope, balanced, Parcel.flowWith_unique ends' ends]
    exact found

/-- A gateway that keeps the packet of an inbound course and locates its host as the last gateway of the course -/
structure Counterpart (c : Course) where
  inbound : c.form.inbound = true
  passage : Passage
  form : Form
  known : passage.form = some form
  inward : form.inbound = true
  parcel : Parcel
  arrived : c.first.parcel c.form = some parcel
  same : passage.parcel form = some parcel
  alike : passage.tables.LocatesAs c.last.tables
  entry : EipInBwId
  entered : parcel.inboundEntry c.last.tables = some entry
  ownEntry : EipInBwId
  ownEntered : parcel.inboundEntry passage.tables = some ownEntry
  balanced : ownEntry.nlbEip = entry.nlbEip
  led : ∀ tail, parcel.Ends tail →
    (c.last.tables.envelope entry.nlbEip (parcel.flowWith tail) parcel).isSome = true

/--
Behind any chain of redirections an inbound packet reaches its host in the same tunnel and with the same contents
as through a gateway that keeps it.
-/
theorem Counterpart.transparent {c : Course} (b : Counterpart c) {delivery own : Delivery}
    (sent : c.last.visit.value = some delivery) (matched : delivery.directSend = matchPacket)
    (ownSent : b.passage.visit.value = some own) (ownMatched : own.directSend = matchPacket) :
    (∃ envelope, envelopeOf delivery.packet = some envelope ∧ envelopeOf own.packet = some envelope) ∧
      ∃ parcel, innerParcel delivery.packet = some parcel ∧ innerParcel own.packet = some parcel := by
  constructor
  · exact Course.same_envelope b.inbound b.known b.inward b.arrived b.same b.alike b.entered b.ownEntered b.balanced b.led
      sent matched ownSent ownMatched
  · obtain ⟨parcel, started, carried⟩ := chain_carries c.known c.redirects c.leads sent matched
    obtain rfl := Option.some.inj (b.arrived.symm.trans started)
    obtain ⟨parcel, ownStarted, ownCarried⟩ := Passage.delivers b.known ownSent ownMatched
    obtain rfl := Option.some.inj (b.same.symm.trans ownStarted)
    rw [deliveredParcel, if_pos b.inbound, if_pos b.inbound] at carried
    rw [deliveredParcel, if_pos b.inward, if_pos b.inward, b.alike.dnat] at ownCarried
    exact ⟨_, carried, ownCarried⟩

/-! A packet that reaches its host through a second gateway -/

/-- Every packet has one host, which the gateway reaches from its own address. -/
def hostTables (entry : EipInBwId) : Tables :=
  { locatedTables with
    eipInRedirect := fun _ => some entry
    selectRedirectIpIn := fun _ _ => some 0x0a000205
    tunnelSrcRewrite := fun _ => some 0x0a000002
    tunnelInnerRewrite := fun _ => some ⟨5, 6⟩ }

/-- The entry of the first gateway names another gateway of the cluster. -/
def sentPassage : Passage :=
  smallPassage (hostTables ⟨7, 0, 1, 0, 0⟩) (fun _ => rfl) (directFrame plainHeader) plainHeader_fits
    (directFrame_etherType _)

/-- The first gateway with the entry of the second one -/
def keptPassage : Passage :=
  smallPassage (hostTables ⟨7, 0, 0, 0, 0⟩) (fun _ => rfl) (directFrame plainHeader) plainHeader_fits
    (directFrame_etherType _)

def hostIp : Ipv4 :=
  ({ (wrap default etherTypeIpv4 (.v4 plainHeader [])).ip with
    srcAddr := smallConfig.vip, dstAddr := 0x0a000205 } : Ipv4).update

def hostVxlan : Vxlan := ⟨0x0c, 1, 0, 125, tofEipIn, 0⟩

/-- The redirected frame behind one more router -/
def hostFrame : Frame :=
  .ipv4 ⟨3, 4, etherTypeIpv4⟩ { hostIp with ttl := 63, hdrChecksum := hostIp.hdrChecksum + 256 } (.overlay
    ⟨⟨250, udpPortVxlan, 50, 0⟩, hostVxlan, ⟨0, 0, etherTypeIpv4⟩,
      .v4 { plainHeader with hdrChecksum := 0 } ⟨[], .unread, []⟩⟩)

theorem hostFrame_fits : hostFrame.Fits := by
  have reads : p02IngressDialect.readsTransport = true := rfl
  refine ⟨rfl, ⟨rfl, rfl, rfl⟩, rfl, rfl, rfl, ?_⟩
  rw [if_pos reads, Tail.FitsV4, if_neg (by decide)]
  exact ⟨rfl, fun read => absurd read.1 (by decide)⟩

def hostPassage : Passage where
  gateway := hopGateway { smallConfig with dlIp := 0x0a000200 } (hostTables ⟨7, 0, 0, 0, 0⟩)
  around := default
  port := 5
  frame := hostFrame
  fits := hostFrame_fits
  etherType := .inl rfl
  unpunted punted := punted rfl

def hostPayload : Bits :=
  Udp.codec.encode ⟨250, udpPortVxlan, 50, 0⟩ ++ (Vxlan.codec.encode hostVxlan ++
    (Ethernet.codec.encode ⟨0, 0, etherTypeIpv4⟩ ++ Ipv4.codec.encode { plainHeader with hdrChecksum := 0 }))

theorem sentPassage_leads : sentPassage.Leads hostPassage := by
  have run : (sentPassage.visit.value.map fun delivery => (delivery.directSend, delivery.packet)) =
      some (dlPacket, Ethernet.codec.encode ⟨0, 0, etherTypeIpv4⟩ ++ (Ipv4.codec.encode hostIp ++ hostPayload)) := by
    decide +kernel
  obtain ⟨delivery, sent, shape⟩ := Option.map_eq_some_iff.mp run
  obtain ⟨redirected, packet⟩ := Prod.mk.inj shape
  refine ⟨⟨delivery, sent, redirected, ⟨0, 0, etherTypeIpv4⟩, ⟨3, 4, etherTypeIpv4⟩, hostIp, 63,
    hostIp.hdrChecksum + 256, hostPayload, rfl, packet, ?_⟩, tofEipIn, 0x0a000205, ?_, .inl (by decide)⟩
  · decide +kernel
  · decide +kernel

def hostCourse : Course where
  first := sentPassage
  rest := [hostPassage]
  form := .direct
  known := by decide +kernel
  direct := rfl
  redirects := by
    rintro a (_ | ⟨_, _ | ⟨_, none⟩⟩)
    · exact ⟨rfl, rfl⟩
    · exact ⟨rfl, rfl⟩
    · contradiction
  leads := .cons_cons sentPassage_leads (.singleton _)

def hostCounterpart : Counterpart hostCourse where
  inbound := rfl
  passage := keptPassage
  form := .direct
  known := by decide +kernel
  inward := rfl
  parcel := .v4 plainHeader []
  arrived := rfl
  same := rfl
  alike := ⟨rfl, rfl, rfl, rfl, rfl, rfl, rfl, rfl, rfl, rfl⟩
  entry := ⟨7, 0, 0, 0, 0⟩
  entered := rfl
  ownEntry := ⟨7, 0, 0, 0, 0⟩
  ownEntered := rfl
  balanced := rfl
  led _ _ := rfl

/-- Both ways end in the same tunnel. -/
theorem hostCounterpart_transparent : ∃ delivery own, hostCourse.last.visit.value = some delivery ∧
    keptPassage.visit.value = some own ∧ envelopeOf delivery.packet = envelopeOf own.packet ∧
    innerParcel delivery.packet = innerParcel own.packet := by
  have run : hostCourse.last.visit.value.map Delivery.directSend = some matchPacket := by decide +kernel
  have ownRun : keptPassage.visit.value.map Delivery.directSend = some matchPacket := by decide +kernel
  obtain ⟨delivery, sent, matched⟩ := Option.map_eq_some_iff.mp run
  obtain ⟨own, ownSent, ownMatched⟩ := Option.map_eq_some_iff.mp ownRun
  obtain ⟨⟨envelope, first, second⟩, parcel, third, fourth⟩ :=
    hostCounterpart.transparent sent matched ownSent ownMatched
  exact ⟨delivery, own, sent, ownSent, first.trans second.symm, third.trans fourth.symm⟩

end IgwP4.Dataplane
