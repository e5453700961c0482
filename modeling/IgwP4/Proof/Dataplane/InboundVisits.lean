/-
This file shows that the gateway delivers no inbound packet without the rewrite of its destination.
-/

import IgwP4.Proof.Dataplane.CpuFrames
import IgwP4.Proof.Dataplane.InboundDeliveries

namespace IgwP4.Dataplane
open Packet Setup

namespace P13Ingress

/-- The state behind the first control and the choice of the egress port -/
def entering (s : IngressState) : IngressState :=
  { decapMetaData13 s with ucastEgressPort := (decapMetaData13 s).hdr.bgMd.fields.igrPort }

/-- A located packet without a mark has hit, and names a destination. -/
theorem located_hits {tables : Tables} (controlled : tables.Controlled) (around : Surroundings)
    (port : BitVec 9) {parsed : ParserState} {bgMd : BridgeMetadata} {t : TunnelPacket}
    (carries : parsed.Carries bgMd t) :
    let located := bgMd.locate tables t.parcel (t.parcel.flow parsed.metadata.l3)
    located.needDrop = 1 ∨
      Hits tables (entering (ingressStart around port parsed)) ∧ located.tunnelDstId ≠ 0 := by
  let s : IngressState := { ingressStart around port parsed with
    metadata.l3 := { parsed.metadata.l3 with lkpSip := t.parcel.lkpSip, lkpDip := t.parcel.lkpDip }
    ucastEgressPort := parsed.hdr.bgMd.fields.igrPort }
  have entered : entering (ingressStart around port parsed) = s := by
    rw [entering, decapMetaData13_eq (ingressStart around port parsed) carries.bears.parcel]
    rfl
  have inner : Inner s := carries.bears.inner.imp And.left And.right
  obtain ⟨hdr, tunnel, events, located, _, bridge, _⟩ := locate_eq tables s carries.bears
  have fields : (locate tables s).hdr.bgMd.fields =
      bgMd.locate tables t.parcel (t.parcel.flow parsed.metadata.l3) := by
    rw [located]
    refine (congrArg Header.fields bridge).trans ?_
    exact congrArg (BridgeMetadata.locate tables t.parcel _) (congrArg Header.fields carries.bgMd)
  have hits := locate_hits controlled inner
  rw [Marked, fields] at hits
  rw [entered]
  exact hits

end P13Ingress

namespace P02Egress

/-- `tunnel_dst_rewrite.apply().hit` -/
def destinationHit (tables : Tables) (s : EgressState) : Bool :=
  (tables.tunnelDstRewrite s.hdr.bgMd.fields.tunnelDstId).isSome

/-- A redirected packet leaves as a redirected packet. -/
theorem directSend_of_redirected {tables : Tables} {around : Surroundings} {port : BitVec 9}
    {bgMd : BridgeMetadata} {t : TunnelPacket} (bridges : bgMd.Bridges etherTypeIpv4) (tunnels : t.Tunnels)
    (redirected : bgMd.tunnelDirectSend = dlPacket) {delivery : Delivery}
    (sent : (pass tables around port (BridgeMetadata.codec.encode bgMd ++ t.bits)).value = some delivery) :
    delivery.directSend = dlPacket := by
  obtain ⟨parsed, accepted, carries⟩ := parse_tunnel around.containers bridges tunnels
  have original : parsed.metadata.mirror.flag = 0 := by
    rw [carries.mirror]
  have stands := reached_redirected tables around.fresh around port carries bridges.outerEthernetInvalid
    redirected
  rw [pass_value accepted original rfl] at sent
  split at sent
  · contradiction
  · rw [← Option.some.inj sent, stands.emission tables (.inr redirected)]
    exact redirected

end P02Egress

/-- The packet has hit the three lookups on its way through the pipes. -/
def Rewritten (tables : Tables) (around : VisitSurroundings) (port : BitVec 9) (frame : Bits) : Prop :=
  ∃ internalPort sent looped back egressPort located last,
    (P02Ingress.pass tables around.p02Ingress port frame).value = some (internalPort, sent) ∧
    internal internalPort = true ∧
    (P13Egress.pass tables around.p13Egress internalPort sent).value = some looped ∧
    P13IngressParser.parse around.p13Ingress.containers looped.packet = some back ∧
    P13Ingress.Hits tables (P13Ingress.entering (ingressStart around.p13Ingress internalPort back)) ∧
    (P13Ingress.pass tables around.p13Ingress internalPort looped.packet).value = some (egressPort, located) ∧
    P02EgressParser.parse around.p02Egress.containers located = some last ∧
    P02Egress.destinationHit tables
      (P02Egress.restore around.p02Egress.fresh (egressStart around.p02Egress egressPort last)) = true

/-- An inbound frame with an IP EtherType that the controller has a path for -/
structure InboundArrival where
  tables : Tables
  around : VisitSurroundings
  port : BitVec 9
  bits : Bits
  parsed : ParserState
  treatment : Treatment
  accepted : P02IngressParser.parse around.p02Ingress.containers bits = some parsed
  treated : P02Ingress.Treated tables around.p02Ingress.fresh (ingressStart around.p02Ingress port parsed)
    treatment
  inbound : treatment.igrTunnelType = typeIngressInternetIn
  etherType : parsed.hdr.ethernet.fields.etherType = etherTypeIpv4 ∨
    parsed.hdr.ethernet.fields.etherType = etherTypeIpv6
  controlled : tables.Controlled
  acl : tables.egressSystemAcl = egressAclAction egressAclInit

namespace InboundArrival

variable (a : InboundArrival)

/-- The member of the group of internal ports that the packet goes to, when there is one -/
def member : Option (BitVec 9) :=
  let s := P02Ingress.direct a.tables (P02Ingress.classify a.tables a.around.p02Ingress.fresh
    (ingressStart a.around.p02Ingress a.port a.parsed))
  a.tables.ecmpGroup02 s.metadata.l3.egrPipeline s.metadata.ratelimit.haveSharedBd s.flowKey

/-- The packet comes from outside, goes to an internal pipe, and is a tunnel packet when it is marked so. -/
structure Regular : Prop where
  outside : a.port ≠ cpuPort
  sent : ∃ port, a.member = some port ∧ internal port = true
  tunnel : a.treatment.dlPkt = 1 → a.parsed.hdr.ethernet.fields.etherType = etherTypeIpv4 ∧
    a.parsed.hdr.vxlan.valid = true ∧
    (a.parsed.hdr.innerIpv4.valid = true ∨ a.parsed.hdr.innerIpv6.valid = true)

/-- The packet is dropped, redirected, or delivered with all three rewrites. -/
def Safe : Prop :=
  (visit a.tables a.around a.port a.bits).value = none ∨
    ∃ delivery, (visit a.tables a.around a.port a.bits).value = some delivery ∧
      (delivery.directSend = dlPacket ∨
        delivery.directSend = matchPacket ∧ Rewritten a.tables a.around a.port a.bits)

/-- The bridge header that the first pipe sends -/
def bridge : BridgeMetadata :=
  P02Ingress.bridged a.port a.parsed.hdr.ethernet.fields.etherType (P02Ingress.classifiedBridge
    a.around.p02Ingress.fresh (ingressStart a.around.p02Ingress a.port a.parsed) a.treatment)

/-- The first pipe sends the packet to the member of the group. -/
theorem port_of_member {port : BitVec 9} (chosen : a.member = some port) :
    (P02Ingress.apply a.tables a.around.p02Ingress.fresh
      (ingressStart a.around.p02Ingress a.port a.parsed)).ucastEgressPort = port := by
  obtain ⟨assigned, metadata, dropCtl, mirrorType, events, haveSharedBd, flow, applied, _⟩ :=
    a.treated.apply_inbound a.inbound
  have treatment := congrArg (fun s : IngressState => s.hdr.bgMd.fields.tunnelDirectSend) applied
  rw [P02Ingress.apply] at treatment ⊢
  rw [member] at chosen
  generalize P02Ingress.direct a.tables (P02Ingress.classify a.tables a.around.p02Ingress.fresh
    (ingressStart a.around.p02Ingress a.port a.parsed)) = s at treatment chosen ⊢
  have encapped (r : IngressState) : (P02Ingress.encapMetaData02 r).ucastEgressPort = r.ucastEgressPort ∧
      (P02Ingress.encapMetaData02 r).hdr.bgMd.fields.tunnelDirectSend =
        r.hdr.bgMd.fields.tunnelDirectSend := by
    unfold P02Ingress.encapMetaData02
    dsimp only
    split <;> exact ⟨rfl, rfl⟩
  have grouped : (P02Ingress.ecmpGroup02 a.tables s).hdr = s.hdr := by
    unfold P02Ingress.ecmpGroup02
    dsimp only
    split
    · split <;> rfl
    · rfl
  have matched : s.hdr.bgMd.fields.tunnelDirectSend = matchPacket := by
    have kept := (encapped (P02Ingress.ecmpGroup02 a.tables s)).2
    rw [grouped] at kept
    exact kept.symm.trans (treatment.trans assigned.tunnelDirectSend)
  rw [(encapped _).1, P02Ingress.ecmpGroup02_eq a.tables s (.inl matched), chosen]
  rfl

/-- The packet is dropped in the first pipe, or goes to an internal pipe with its own bits. -/
theorem first_pass (regular : a.Regular) {frame : Frame} (fits : frame.Fits)
    (parsed : a.parsed = frame.state a.around.p02Ingress.containers) :
    (P02Ingress.pass a.tables a.around.p02Ingress a.port a.bits).value = none ∨
      ∃ port, internal port = true ∧
        (P02Ingress.pass a.tables a.around.p02Ingress a.port a.bits).value =
          some (port, BridgeMetadata.codec.encode a.bridge ++ frame.body) := by
  obtain ⟨port, chosen, inside⟩ := regular.sent
  have egress := a.port_of_member chosen
  obtain ⟨_, metadata, dropCtl, mirrorType, events, haveSharedBd, flow, applied, _⟩ :=
    a.treated.apply_inbound a.inbound
  have left : P02Ingress.deparse (P02Ingress.apply a.tables a.around.p02Ingress.fresh
      (ingressStart a.around.p02Ingress a.port a.parsed)) ++ a.parsed.pkt =
        BridgeMetadata.codec.encode a.bridge ++ frame.body := by
    rw [applied, ← frame.emit_bridged fits a.around.p02Ingress.containers]
    change ({ a.parsed.hdr with
      bgMd := ⟨true, a.bridge⟩, ethernet := a.parsed.hdr.ethernet.setInvalid } : Headers).emit ++ a.parsed.pkt = _
    rw [parsed]
  rw [P02Ingress.pass_of_parsed a.accepted]
  dsimp only
  rw [egress, left]
  split
  · exact .inl rfl
  · exact .inr ⟨port, inside, rfl⟩

/-- The bridge header leads the packet through the internal pipes. -/
theorem bridge_fields : a.bridge.tunnelDirectSend = matchPacket ∧ a.bridge.igrPort = a.port ∧
    a.bridge.igrTunnelType = typeIngressInternetIn ∧ a.bridge.dlPkt = a.treatment.dlPkt ∧
    a.bridge.Bridges a.parsed.hdr.ethernet.fields.etherType :=
  ⟨(a.treated.apply_inbound a.inbound).1.tunnelDirectSend, rfl, a.inbound, rfl,
    P02Ingress.bridged_bridges _ _ _⟩

/-- The first internal pipe sends every such packet on. -/
theorem second_pass (regular : a.Regular) {frame : Frame} (fits : frame.Fits)
    (parsed : a.parsed = frame.state a.around.p02Ingress.containers) (internalPort : BitVec 9) :
    ∃ parcel bgMd t, P13Egress.Sends a.tables a.around.p13Egress internalPort
      (BridgeMetadata.codec.encode a.bridge ++ frame.body) a.port parcel bgMd t := by
  obtain ⟨matched, igrPort, inbound, dl, bridges⟩ := a.bridge_fields
  have ethernet : a.parsed.hdr.ethernet.fields = frame.ethernet := by
    rw [parsed, frame.state_ethernet]
  have etherType := a.etherType
  rw [ethernet] at etherType bridges
  by_cases redirected : a.treatment.dlPkt = 1
  · obtain ⟨ipv4, vxlan, inner⟩ := regular.tunnel redirected
    rw [ethernet] at ipv4
    rw [ipv4] at bridges
    rw [parsed] at vxlan inner
    obtain ⟨t, tail, _, tunnels, _, body, _⟩ := frame.bears_tunnel fits _ ipv4 vxlan inner
    rw [body, ← igrPort]
    by_cases reads : p13EgressDialect.Reads t
    · exact ⟨_, P13Egress.sends_carried a.tables a.around.p13Egress internalPort bridges
        (dl.trans redirected) matched inbound tunnels reads⟩
    · exact ⟨_, P13Egress.sends_unread a.tables a.around.p13Egress internalPort bridges
        (dl.trans redirected) matched inbound tunnels reads⟩
  · have direct : a.treatment.dlPkt = 0 := by
      have bit : ∀ value : BitVec 1, value ≠ 1 → value = 0 := by decide
      exact bit _ redirected
    obtain ⟨parcel, carried, family⟩ := Frame.exists_parcel fits etherType
    rw [← family] at bridges
    rw [Frame.body_of_parcel carried, ← igrPort]
    exact ⟨_, P13Egress.sends_direct a.tables a.around.p13Egress internalPort fits carried bridges
      (dl.trans direct) matched inbound⟩

/-- Behind the first internal pipe the packet is lost, redirected or delivered with all its rewrites. -/
theorem last_passes (regular : a.Regular) {internalPort : BitVec 9} (inside : internal internalPort = true)
    {sent : Bits}
    (first : (P02Ingress.pass a.tables a.around.p02Ingress a.port a.bits).value = some (internalPort, sent))
    {parcel : Parcel} {bgMd : BridgeMetadata} {t : TunnelPacket}
    (sends : P13Egress.Sends a.tables a.around.p13Egress internalPort sent a.port parcel bgMd t)
    {delivery : Delivery} (delivered : (visit a.tables a.around a.port a.bits).value = some delivery) :
    delivery.directSend = dlPacket ∨
      delivery.directSend = matchPacket ∧ Rewritten a.tables a.around a.port a.bits := by
  have inbound := sends.inbound
  obtain ⟨_, found, delivered⟩ := (Traced.bind_value_eq_some_iff _ _ _).mp delivered
  obtain rfl := Option.some.inj (first.symm.trans found)
  dsimp only at delivered
  rw [if_pos inside] at delivered
  obtain ⟨⟨egressPort, located⟩, looped, delivered⟩ := (Traced.bind_value_eq_some_iff _ _ _).mp delivered
  obtain ⟨_, again, back⟩ := (Traced.bind_value_eq_some_iff _ _ _).mp looped
  obtain rfl := Option.some.inj (sends.value.symm.trans again)
  dsimp only at back delivered
  cases accepted : P13IngressParser.parse a.around.p13Ingress.containers
      (BridgeMetadata.codec.encode bgMd ++ t.bits) with
  | none =>
      rw [P13Ingress.pass, ingressPass, accepted] at back
      contradiction
  | some parsed =>
      obtain ⟨tail, ends, state⟩ :=
        (P13IngressParser.parse_tunnel _ inbound.bridges sends.tunnels parsed).mp accepted
      have carries : parsed.Carries bgMd t := by
        rw [state]
        exact P13IngressParser.tunnelState_carries _ inbound.bridges sends.tunnels ends
      rcases inbound.treatment with matched | redirected
      · obtain ⟨events, _, passed⟩ := @P13Ingress.pass_located a.tables _ internalPort _ _ accepted _ _
          carries matched
        have hits := P13Ingress.located_hits a.controlled a.around.p13Ingress internalPort carries
        have kept := (BridgeMetadata.locate_keeps a.tables t.parcel (t.parcel.flow parsed.metadata.l3) bgMd).1
        have came := back
        rw [passed] at back
        generalize bgMd.locate a.tables t.parcel (t.parcel.flow parsed.metadata.l3) = bridge at back hits kept
        have bridges : bridge.Bridges etherTypeIpv4 :=
          ⟨kept.proto.trans inbound.bridges.proto,
            kept.outerEthernetType.trans inbound.bridges.outerEthernetType,
            kept.outerEthernetInvalid.trans inbound.bridges.outerEthernetInvalid⟩
        have tunnels : ({ t with parcel := t.parcel.dnat a.tables } : TunnelPacket).Tunnels :=
          ⟨sends.tunnels.selects, sends.tunnels.port, sends.tunnels.type.trans (Parcel.dnat_etherType _ _).symm⟩
        dsimp only at back
        split at back
        · contradiction
        · obtain ⟨rfl, rfl⟩ := Prod.mk.inj (Option.some.inj back)
          rw [inbound.igrPort] at delivered came
          obtain ⟨last, read, holds⟩ := P02Egress.parse_tunnel a.around.p02Egress.containers bridges tunnels
          have stands := P02Egress.restore_stands a.around.p02Egress.fresh a.around.p02Egress a.port holds
            bridges.outerEthernetInvalid
          split at delivered
          · contradiction
          · rw [P02Egress.pass_inbound a.acl a.around.p02Egress a.port bridges tunnels
              (kept.tunnelDirectSend.trans matched) (kept.igrTunnelType.trans inbound.igrTunnelType)] at delivered
            split at delivered
            · contradiction
            · rename_i passes
              have unmarked : (bridge.settle a.tables).needDrop ≠ 1 :=
                fun marked => passes ⟨regular.outside, .inr marked⟩
              have reaches : ¬ bridge.undelivered a.tables := by
                intro misses
                rw [BridgeMetadata.settle, if_pos misses] at unmarked
                exact unmarked rfl
              rw [BridgeMetadata.settle_of_delivered reaches] at unmarked
              obtain ⟨lookups, destination⟩ := hits.resolve_left unmarked
              have named : (a.tables.tunnelDstRewrite bridge.tunnelDstId).isSome = true := by
                rw [Option.isSome_iff_ne_none]
                exact fun missed => reaches ⟨missed, destination⟩
              refine .inr ⟨?_, internalPort, sent, _, parsed, a.port, _, last, first, inside, sends.value,
                accepted, lookups, came, read, ?_⟩
              · rw [← Option.some.inj delivered]
              · rw [P02Egress.destinationHit, stands.bgMd]
                exact named
      · rw [P13Ingress.pass_redirected a.tables accepted carries redirected] at back
        obtain ⟨rfl, rfl⟩ := Prod.mk.inj (Option.some.inj back)
        split at delivered
        · contradiction
        · exact .inl (P02Egress.directSend_of_redirected inbound.bridges sends.tunnels redirected delivered)

/--
No inbound packet from outside is delivered without its rewrites: when the group sends it to an internal pipe,
it is dropped, redirected, or delivered with a hit in each of the three lookups.
-/
theorem safe_of_regular (regular : a.Regular) : a.Safe := by
  obtain ⟨frame, fits, _, parsed⟩ := (P02IngressParser.parse_eq_some_iff _ _ _).mp a.accepted
  rcases a.first_pass regular fits parsed with lost | ⟨internalPort, inside, first⟩
  · refine .inl ?_
    rw [visit, Traced.bind, lost]
  · obtain ⟨parcel, bgMd, t, sends⟩ := a.second_pass regular fits parsed internalPort
    cases delivered : (visit a.tables a.around a.port a.bits).value with
    | none => exact .inl delivered
    | some delivery => exact .inr ⟨delivery, delivered, a.last_passes regular inside first sends delivered⟩

end InboundArrival

/-! Frames that no lookup has to hit -/

/-- An IPv4 header without a transport header behind it -/
def plainHeader : Ipv4 where
  version := 4
  ihl := 5
  dscp := 0
  ecn := 0
  totalLen := 20
  identification := 0
  flags := 0
  fragOffset := 0
  ttl := 64
  protocol := 89
  hdrChecksum := 0
  srcAddr := 0x0a000001
  dstAddr := 0x0a000002

def plainFrame : Bits := Ethernet.codec.encode ⟨1, 2, etherTypeIpv4⟩ ++ Ipv4.codec.encode plainHeader

theorem plainFrame_accepted : (P02IngressParser.parse default plainFrame).isSome = true := by decide +kernel

/-- What the first parser reads of the plain frame -/
def plainState : ParserState := (P02IngressParser.parse default plainFrame).get plainFrame_accepted

theorem plainState_accepted :
    P02IngressParser.parse (default : VisitSurroundings).p02Ingress.containers plainFrame = some plainState :=
  (Option.some_get plainFrame_accepted).symm

theorem plainState_etherType : plainState.hdr.ethernet.fields.etherType = etherTypeIpv4 := by decide +kernel

/-- The tables mark every frame as inbound and choose one member of the group, and have the ACL of the setup. -/
def inboundTables (dlPkt : BitVec 1) (member : Option (BitVec 9)) : Tables :=
  { Tables.empty with
    igwIpType := fun _ =>
      some (if dlPkt = 0 then .ipFromInternetInHit 1 else .ipFromInternetInDlHit 1)
    ecmpGroup02 := fun _ _ _ => member
    egressSystemAcl := egressAclAction egressAclInit }

theorem inboundTables_marks (dlPkt : BitVec 1) (member : Option (BitVec 9)) (key : IgwIpTypeKey) :
    ((inboundTables dlPkt member).igwIpType key).bind P02Ingress.marks =
      some (typeIngressInternetIn, dlPkt, 1) := by
  change (some (if dlPkt = 0 then IgwIpTypeAction.ipFromInternetInHit 1 else .ipFromInternetInDlHit 1)).bind
    P02Ingress.marks = _
  revert dlPkt
  decide

/-- The three lookups hit for every packet. -/
def locatedTables : Tables :=
  { inboundTables 0 (some 128) with
    vmLocMapping := fun _ => some (1, 7)
    routeNexthop := fun _ => some ⟨1, 1, 7, 1⟩
    tunnelDstRewrite := fun _ => some 0x0a000003 }

theorem locatedTables_unpunted (key : ProcessProtocolKey) : locatedTables.processProtocolPacket key = none := rfl

/-- Tables without a punt that mark every key in one way treat every frame so. -/
theorem treated_of_marks {tables : Tables} {around : Surroundings} {port : BitVec 9} {bits : Bits}
    {parsed : ParserState} {m : Treatment} (accepted : P02IngressParser.parse around.containers bits = some parsed)
    (unpunted : ∀ key, tables.processProtocolPacket key = none)
    (hits : ∀ key, (tables.igwIpType key).bind P02Ingress.marks = some (m.igrTunnelType, m.dlPkt, m.egrPipeline)) :
    P02Ingress.Treated tables around.fresh (ingressStart around port parsed) m where
  shape := P02IngressParser.parse_wellShaped accepted
  unbridged := (P02IngressParser.parse_initial accepted).1
  unpunted := fun punted => punted (unpunted _)
  hits := hits _

/-- The plain frame arrives at a gateway whose tables mark every frame as inbound. -/
def plainArrival (tables : Tables) (dlPkt : BitVec 1) (port : BitVec 9)
    (unpunted : ∀ key, tables.processProtocolPacket key = none)
    (hits : ∀ key, (tables.igwIpType key).bind P02Ingress.marks = some (typeIngressInternetIn, dlPkt, 1))
    (controlled : tables.Controlled) (acl : tables.egressSystemAcl = egressAclAction egressAclInit) :
    InboundArrival where
  tables := tables
  around := default
  port := port
  bits := plainFrame
  parsed := plainState
  treatment := ⟨typeIngressInternetIn, dlPkt, 1⟩
  accepted := plainState_accepted
  treated := treated_of_marks plainState_accepted unpunted hits
  inbound := rfl
  etherType := .inl plainState_etherType
  controlled := controlled
  acl := acl

/-- A plain frame at a gateway without any location -/
def strayArrival (dlPkt : BitVec 1) (member : Option (BitVec 9)) (port : BitVec 9) : InboundArrival :=
  plainArrival (inboundTables dlPkt member) dlPkt port (fun _ => rfl)
    (inboundTables_marks dlPkt member)
    { vmLocMapping := fun _ _ _ found => nomatch found
      ipv6VmLocMapping := fun _ _ found => nomatch found
      azEcmp := fun _ _ _ found => nomatch found
      routeEcmp := fun _ _ _ found => nomatch found
      routeNexthop := fun _ _ found => nomatch found } rfl

/-- A plain frame at a gateway that locates every packet -/
def locatedArrival : InboundArrival :=
  plainArrival locatedTables 0 5 locatedTables_unpunted (fun _ => rfl)
    { vmLocMapping := fun _ _ _ found => by
        obtain ⟨rfl, _⟩ := Prod.mk.inj (Option.some.inj found)
        decide
      ipv6VmLocMapping := fun _ _ found => nomatch found
      azEcmp := fun _ _ _ found => nomatch found
      routeEcmp := fun _ _ _ found => nomatch found
      routeNexthop := fun _ _ found => by
        obtain rfl := Option.some.inj found
        decide } rfl

/-- The located frame is delivered. -/
theorem safe_of_regular_located : locatedArrival.Safe ∧
    ((visit locatedTables default 5 plainFrame).value.map Delivery.directSend) = some matchPacket :=
  ⟨locatedArrival.safe_of_regular {
      outside := by decide
      sent := ⟨128, rfl, rfl⟩
      tunnel := fun redirected => absurd redirected (by decide) },
    by decide +kernel⟩

/-- What a gateway without any location delivers has missed. -/
theorem strayArrival_not_safe {dlPkt : BitVec 1} {member : Option (BitVec 9)} {port : BitVec 9}
    (sent : (visit (inboundTables dlPkt member) default port plainFrame).value.map Delivery.directSend =
      some matchPacket) : ¬ (strayArrival dlPkt member port).Safe := by
  obtain ⟨delivery, delivered, matched⟩ := Option.map_eq_some_iff.mp sent
  rintro (lost | ⟨_, _, redirected | ⟨_, rewritten⟩⟩)
  · exact absurd (lost.symm.trans delivered) (by simp)
  · rename_i other again
    obtain rfl := Option.some.inj (delivered.symm.trans again)
    rw [matched] at redirected
    exact absurd redirected (by decide)
  · obtain ⟨_, _, _, _, _, _, _, _, _, _, _, _, _, _, hit⟩ := rewritten
    exact absurd hit Bool.false_ne_true

/--
A frame is delivered without its rewrites when the group has no member for it, when it comes from the CPU port,
and when it is marked for redirection but has no tunnel header.
-/
theorem not_safe_stray : ¬ (strayArrival 0 none 5).Safe ∧ ¬ (strayArrival 0 (some 128) cpuPort).Safe ∧
    ¬ (strayArrival 1 (some 128) 5).Safe :=
  ⟨strayArrival_not_safe (by decide +kernel), strayArrival_not_safe (by decide +kernel),
    strayArrival_not_safe (by decide +kernel)⟩

end IgwP4.Dataplane
