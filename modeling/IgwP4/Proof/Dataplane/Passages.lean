/-
This file follows the frames that no entry punts through a gateway whose selector can serve every group.
-/

import IgwP4.Proof.Dataplane.InboundVisits
import IgwP4.Proof.Dataplane.PipeAffinity

namespace IgwP4.Dataplane
open Packet Setup

/-- A packet arrives in one of four forms. -/
inductive Form where
  | direct
  | redirectedIn
  | firstHop
  | redirectedOut
deriving DecidableEq

namespace Form

def igrTunnelType : Form → BitVec 3
  | .direct | .redirectedIn => typeIngressInternetIn
  | .firstHop | .redirectedOut => typeIngressInternetOut

def dlPkt : Form → BitVec 1
  | .direct | .firstHop => 0
  | .redirectedIn | .redirectedOut => 1

def inbound : Form → Bool
  | .direct | .redirectedIn => true
  | .firstHop | .redirectedOut => false

end Form

/-- The classifier names the form, unless it drops the packet. -/
def form : IgwIpTypeAction → Option Form
  | .ipFromInternetInHit _ => some .direct
  | .ipFromInternetInDlHit _ => some .redirectedIn
  | .ipFromInternetOutHit _ => some .firstHop
  | .ipFromInternetOutDlHit _ => some .redirectedOut
  | .needDrop => none

theorem marks_of_form {action : IgwIpTypeAction} {found : Form} (known : form action = some found) :
    ∃ egrPipeline, P02Ingress.marks action = some (found.igrTunnelType, found.dlPkt, egrPipeline) := by
  cases action with
  | needDrop => contradiction
  | _ egrPipeline =>
      obtain rfl := Option.some.inj known
      exact ⟨egrPipeline, rfl⟩

/-- The four forms are those of the two directions. -/
theorem flow_of_form {cfg : SwitchConfig} (tables : Tables) {hdr : Headers} {found : Form}
    (outer : hdr.ipv4.valid = true ∨ hdr.ipv6.valid = true)
    (known : form (classification cfg hdr) = some found) :
    (found.inbound = true ∧ ∃ eip, flow cfg tables hdr = some (.inbound eip)) ∨
      (found.inbound = false ∧ ∃ source, flow cfg tables hdr = some (.outbound source)) := by
  rw [flow, if_pos outer]
  generalize classification cfg hdr = action at known
  cases action with
  | needDrop => contradiction
  | ipFromInternetInHit egrPipeline =>
      obtain rfl := Option.some.inj known
      exact .inl ⟨rfl, _, rfl⟩
  | ipFromInternetInDlHit egrPipeline =>
      obtain rfl := Option.some.inj known
      exact .inl ⟨rfl, _, rfl⟩
  | ipFromInternetOutHit egrPipeline =>
      obtain rfl := Option.some.inj known
      exact .inr ⟨rfl, _, rfl⟩
  | ipFromInternetOutDlHit egrPipeline =>
      obtain rfl := Option.some.inj known
      exact .inr ⟨rfl, _, rfl⟩

namespace Arrival

/-- An inbound packet leaves the first pass for an internal pipe. -/
theorem internal_of_inbound (a : Arrival) {eip : Eip} (inbound : a.flow = some (.inbound eip)) :
    internal a.egressPort = true := by
  obtain ⟨dlPkt, marked, _⟩ := marks_of_inbound (P02IngressParser.parse_wellShaped a.accepted) inbound
  obtain ⟨s, bgMd, reached, hdr, direct, type, _, pipeline, _⟩ :=
    a.classified (outer_of_flow inbound) marked
  obtain ⟨haveSharedBd, flagged⟩ := P02Ingress.haveSharedBindWith_flag a.gateway.tables s
  have entered : P02Ingress.direct a.gateway.tables s =
      { s with metadata.ratelimit.haveSharedBd := haveSharedBd } := by
    have matched : s.hdr.bgMd.fields.tunnelDirectSend = matchPacket := by
      rw [hdr]
      exact direct
    have inward : ¬ s.hdr.bgMd.fields.igrTunnelType = typeIngressInternetOut := by
      rw [hdr, type]
      decide
    rw [P02Ingress.direct, if_pos matched, if_neg inward]
    exact flagged
  have group := ecmpGroup02Init4p_inbound eip.lowestBit haveSharedBd
  rw [internal, a.pipe_of_group ((congrArg _ reached).trans entered) (by rw [hdr]; exact .inl direct)
    (by dsimp only; rw [pipeline]; exact group)]
  split <;> cases eip.lowestBit <;> rfl

/-- An outbound packet leaves the first pass for a pipe with ports of the front. -/
theorem external_of_outbound (a : Arrival) {source : Eip} (outbound : a.flow = some (.outbound source)) :
    internal a.egressPort = false := by
  rw [internal, a.pipe_of_outbound outbound, outboundPipe]
  split
  · rfl
  · split <;> rfl

end Arrival

/-- An IP frame that no entry punts, on one visit to a gateway -/
structure Passage where
  gateway : Gateway
  around : VisitSurroundings
  port : BitVec 9
  frame : Frame
  fits : frame.Fits
  etherType : frame.ethernet.etherType = etherTypeIpv4 ∨ frame.ethernet.etherType = etherTypeIpv6
  unpunted : ¬ P02Ingress.Punted gateway.tables around.p02Ingress.fresh
    (ingressStart around.p02Ingress port (frame.state around.p02Ingress.containers))

namespace Passage

variable (a : Passage)

abbrev tables : Tables := a.gateway.tables

/-- The headers that the first parser reads -/
def hdr : Headers := (a.frame.state a.around.p02Ingress.containers).hdr

def form : Option Form := Dataplane.form (classification a.gateway.cfg a.hdr)

def visit : Traced Delivery := Dataplane.visit a.tables a.around a.port a.frame.bits

theorem accepted : P02IngressParser.parse a.around.p02Ingress.containers a.frame.bits =
    some (a.frame.state a.around.p02Ingress.containers) :=
  (P02IngressParser.parse_eq_some_iff _ _ _).mpr ⟨a.frame, a.fits, rfl, rfl⟩

def arrival : Arrival where
  gateway := a.gateway
  around := a.around.p02Ingress
  port := a.port
  bits := a.frame.bits
  parsed := a.frame.state a.around.p02Ingress.containers
  accepted := a.accepted
  unpunted := a.unpunted

theorem outer : a.hdr.ipv4.valid = true ∨ a.hdr.ipv6.valid = true := by
  rw [hdr]
  rcases Frame.ip_cases a.fits a.etherType with ⟨ethernet, ip, outer, shape⟩ | ⟨ethernet, ip, transport, rest, shape⟩
  · rw [shape]
    exact .inl (congrArg Header.valid (outer.place_keeps p02IngressDialect _).ipv4)
  · rw [shape]
    refine .inr ?_
    cases transport <;> rfl

variable {a}

/-- The first pipe treats the packet by its form. -/
theorem treated {found : Form} (known : a.form = some found) : ∃ egrPipeline,
    P02Ingress.Treated a.tables a.around.p02Ingress.fresh (ingressStart a.around.p02Ingress a.port
      (a.frame.state a.around.p02Ingress.containers)) ⟨found.igrTunnelType, found.dlPkt, egrPipeline⟩ := by
  obtain ⟨egrPipeline, marked⟩ := marks_of_form known
  have shape := P02IngressParser.parse_wellShaped a.accepted
  refine ⟨egrPipeline, shape, (P02IngressParser.parse_initial a.accepted).1, a.unpunted, ?_⟩
  have hits := (igwIpTypeTable_decides a.gateway.cfg (ingressStart a.around.p02Ingress a.port
    (a.frame.state a.around.p02Ingress.containers)) shape a.outer).lookup
  rw [← a.gateway.classifies.igwIpType] at hits
  rw [tables, hits]
  exact marked

theorem marks_of_unformed {action : IgwIpTypeAction} (unknown : Dataplane.form action = none) :
    P02Ingress.marks action = none := by
  cases action with
  | needDrop => rfl
  | _ => contradiction

/-- A packet of none of the forms is dropped. -/
theorem visit_of_unformed (unknown : a.form = none) : a.visit.value = none := by
  have shape := P02IngressParser.parse_wellShaped a.accepted
  let s := ingressStart a.around.p02Ingress a.port (a.frame.state a.around.p02Ingress.containers)
  have hits := (igwIpTypeTable_decides a.gateway.cfg s shape a.outer).lookup
  rw [← a.gateway.classifies.igwIpType] at hits
  have drops := P02Ingress.classify_of_unmarked a.tables a.around.p02Ingress.fresh s shape
    (P02IngressParser.parse_initial a.accepted).1 a.unpunted
    ((congrArg (·.bind P02Ingress.marks) hits).trans (marks_of_unformed unknown))
  have lost : (P02Ingress.pass a.tables a.around.p02Ingress a.port a.frame.bits).value = none := by
    rw [P02Ingress.pass_of_parsed a.accepted]
    dsimp only
    rw [if_pos]
    change dropped (P02Ingress.apply a.tables a.around.p02Ingress.fresh s).dropCtl = true
    rw [P02Ingress.apply, P02Ingress.dropCtl_kept, drops]
    rfl
  rw [visit, Dataplane.visit, Traced.bind, lost]

theorem exists_form {delivery : Delivery} (sent : a.visit.value = some delivery) :
    ∃ found, a.form = some found := by
  cases known : a.form with
  | some found => exact ⟨found, rfl⟩
  | none => exact absurd ((visit_of_unformed known).symm.trans sent) (by simp)

/-- An inbound packet goes to the internal pipes, an outbound packet does not. -/
theorem internal_egressPort {found : Form} (known : a.form = some found) :
    internal a.arrival.egressPort = found.inbound := by
  rcases flow_of_form a.tables a.outer known with ⟨inward, eip, flows⟩ | ⟨outward, source, flows⟩
  · rw [inward]
    exact a.arrival.internal_of_inbound flows
  · rw [outward]
    exact a.arrival.external_of_outbound flows

end Passage

/-! The passes behind the first one -/

/-- The last part of a visit, behind the internal pipes -/
def outward (tables : Tables) (around : VisitSurroundings) (port : BitVec 9) (packet : Bits) : Traced Delivery :=
  if internal port then .lost else P02Egress.pass tables around.p02Egress port packet

/-- What the first internal pipe sends on comes back through the second one. -/
theorem visit_looped {tables : Tables} {around : VisitSurroundings} {port : BitVec 9} {bits : Bits}
    {internalPort : BitVec 9} (inside : internal internalPort = true) {sent : Bits}
    (first : (P02Ingress.pass tables around.p02Ingress port bits).value = some (internalPort, sent))
    {looped : Delivery} (second : (P13Egress.pass tables around.p13Egress internalPort sent).value = some looped) :
    (visit tables around port bits).value =
      ((P13Ingress.pass tables around.p13Ingress internalPort looped.packet).bind fun (port, packet) =>
        outward tables around port packet).value := by
  have joined : (loopback tables around internalPort sent).value =
      (P13Ingress.pass tables around.p13Ingress internalPort looped.packet).value := by
    rw [loopback, Traced.bind, second]
  rw [visit, Traced.bind, first]
  dsimp only
  rw [if_pos inside, Traced.bind, Traced.bind, joined]
  cases (P13Ingress.pass tables around.p13Ingress internalPort looped.packet).value <;> rfl

theorem visit_outward {tables : Tables} {around : VisitSurroundings} {port : BitVec 9} {bits : Bits}
    {externalPort : BitVec 9} (outside : internal externalPort = false) {sent : Bits}
    (first : (P02Ingress.pass tables around.p02Ingress port bits).value = some (externalPort, sent)) :
    (visit tables around port bits).value = (P02Egress.pass tables around.p02Egress externalPort sent).value := by
  rw [visit, Traced.bind, first]
  dsimp only
  rw [if_neg (by rw [outside]; decide)]

/-- A delivery is a frame around a tunnel packet. -/
def Delivery.Bears (delivery : Delivery) (t : TunnelPacket) : Prop :=
  ∃ ethernet, delivery.packet = Ethernet.codec.encode ethernet ++ t.bits

namespace P02Egress

/-- A redirected packet leaves as it is, unless the ACL drops it. -/
theorem pass_redirected {tables : Tables} {around : Surroundings} {port : BitVec 9} {bgMd : BridgeMetadata}
    {t : TunnelPacket} (bridges : bgMd.Bridges etherTypeIpv4) (tunnels : t.Tunnels)
    (redirected : bgMd.tunnelDirectSend = dlPacket) {delivery : Delivery}
    (sent : (pass tables around port (BridgeMetadata.codec.encode bgMd ++ t.bits)).value = some delivery) :
    delivery.directSend = dlPacket ∧ delivery.Bears (t.stamp false) := by
  obtain ⟨parsed, accepted, carries⟩ := parse_tunnel around.containers bridges tunnels
  have original : parsed.metadata.mirror.flag = 0 := by
    rw [carries.mirror]
  have stands := reached_redirected tables around.fresh around port carries bridges.outerEthernetInvalid
    redirected
  rw [pass_value accepted original rfl] at sent
  split at sent
  · contradiction
  · rw [← Option.some.inj sent, stands.emission tables (.inr redirected)]
    exact ⟨redirected, _, rfl⟩

/-- The ACL of the setup drops a redirected packet for the marks of its bridge header only. -/
theorem sends_redirected {tables : Tables} (acl : tables.egressSystemAcl = egressAclAction egressAclInit)
    (around : Surroundings) (port : BitVec 9) {bgMd : BridgeMetadata} {t : TunnelPacket}
    (bridges : bgMd.Bridges etherTypeIpv4) (tunnels : t.Tunnels) (redirected : bgMd.tunnelDirectSend = dlPacket) :
    (pass tables around port (BridgeMetadata.codec.encode bgMd ++ t.bits)).value.isSome = true ↔
      ¬ (port ≠ cpuPort ∧ (bgMd.meterPacketColor = colorRed ∨ bgMd.needDrop = 1)) := by
  obtain ⟨parsed, accepted, carries⟩ := parse_tunnel around.containers bridges tunnels
  have original : parsed.metadata.mirror.flag = 0 := by
    rw [carries.mirror]
  have stands := reached_redirected tables around.fresh around port carries bridges.outerEthernetInvalid
    redirected
  rw [pass_value accepted original rfl]
  generalize reached tables around.fresh (egressStart around port parsed) = s at stands
  obtain ⟨ipv4, marked, red⟩ := stands.key
  have drops : (tables.egressSystemAcl (egressAclKey s)).drops = true ↔
      bgMd.meterPacketColor = colorRed ∨ bgMd.needDrop = 1 := by
    rw [acl, Setup.egressAclInit_drops, EgressAclKey.Red, EgressAclKey.Marked, ipv4, marked, red]
    simp
  rw [← drops]
  split
  · rename_i lost
    exact iff_of_false Bool.false_ne_true fun kept => kept lost
  · rename_i kept
    exact iff_of_true rfl kept

/-- An inbound packet for its next hop leaves with its new addresses, unless the ACL drops it. -/
theorem pass_delivered {tables : Tables} {around : Surroundings} {port : BitVec 9} {bgMd : BridgeMetadata}
    {t : TunnelPacket} (bridges : bgMd.Bridges etherTypeIpv4) (tunnels : t.Tunnels)
    (matched : bgMd.tunnelDirectSend = matchPacket) (inbound : bgMd.igrTunnelType = typeIngressInternetIn)
    {delivery : Delivery}
    (sent : (pass tables around port (BridgeMetadata.codec.encode bgMd ++ t.bits)).value = some delivery) :
    delivery.directSend = matchPacket ∧
      delivery.Bears ((t.deliver tables bgMd).stamp t.parcel.isV4) := by
  obtain ⟨parsed, accepted, carries⟩ := parse_tunnel around.containers bridges tunnels
  have original : parsed.metadata.mirror.flag = 0 := by
    rw [carries.mirror]
  have stands := reached_inbound tables around.fresh around port carries bridges.outerEthernetInvalid matched
    inbound
  have direct : (bgMd.settle tables).tunnelDirectSend = matchPacket := matched
  rw [pass_value accepted original rfl] at sent
  split at sent
  · contradiction
  · rw [← Option.some.inj sent, stands.emission tables (.inl direct)]
    exact ⟨direct, _, rfl⟩

end P02Egress

/-- The second internal pipe and the last pipe on what the first internal pipe has sent -/
def onward (tables : Tables) (around : VisitSurroundings) (internalPort : BitVec 9) (bgMd : BridgeMetadata)
    (t : TunnelPacket) : Option Delivery :=
  ((P13Ingress.pass tables around.p13Ingress internalPort (BridgeMetadata.codec.encode bgMd ++ t.bits)).bind
    fun (port, packet) => outward tables around port packet).value

section Onward

variable {tables : Tables} {around : VisitSurroundings} {internalPort port : BitVec 9} {bgMd : BridgeMetadata}
  {t : TunnelPacket}

/-- A redirected packet comes back to the port of its arrival when its inner packet can be read. -/
theorem onward_redirected (inbound : bgMd.Inbound port) (tunnels : t.Tunnels)
    (redirected : bgMd.tunnelDirectSend = dlPacket) (delivery : Delivery) :
    onward tables around internalPort bgMd t = some delivery ↔
      t.parcel.Whole ∧ internal port = false ∧
        (P02Egress.pass tables around.p02Egress port (BridgeMetadata.codec.encode bgMd ++ t.bits)).value =
          some delivery := by
  have parses := P13IngressParser.parse_tunnel around.p13Ingress.containers inbound.bridges tunnels
  have returns {tail : Tail} (ends : t.parcel.Ends tail) : P13Ingress.pass tables around.p13Ingress internalPort
      (BridgeMetadata.codec.encode bgMd ++ t.bits) =
        ⟨[], some (port, BridgeMetadata.codec.encode bgMd ++ t.bits)⟩ := by
    rw [← inbound.igrPort]
    exact P13Ingress.pass_redirected tables ((parses _).mpr ⟨tail, ends, rfl⟩)
      (P13IngressParser.tunnelState_carries _ inbound.bridges tunnels ends) redirected
  rw [onward]
  by_cases whole : t.parcel.Whole
  · obtain ⟨tail, ends⟩ := whole
    have reads : t.parcel.Whole := ⟨tail, ends⟩
    rw [returns ends]
    change (outward tables around port _).value = _ ↔ _
    unfold outward
    split
    · rename_i inside
      exact iff_of_false (Option.some_ne_none delivery).symm fun kept =>
        Bool.false_ne_true (kept.2.1.symm.trans inside)
    · rename_i outside
      exact ⟨fun sent => ⟨reads, Bool.eq_false_iff.mpr outside, sent⟩, fun kept => kept.2.2⟩
  · have rejected : P13IngressParser.parse around.p13Ingress.containers
        (BridgeMetadata.codec.encode bgMd ++ t.bits) = none := by
      rw [Option.eq_none_iff_forall_ne_some]
      intro parsed accepted
      obtain ⟨tail, ends, _⟩ := (parses parsed).mp accepted
      exact whole ⟨tail, ends⟩
    rw [P13Ingress.pass, ingressPass, rejected]
    exact iff_of_false (Option.some_ne_none delivery).symm fun kept => whole kept.1

/-- A packet for its next hop leaves with its translated destination and its new addresses. -/
theorem onward_delivered (inbound : bgMd.Inbound port) (tunnels : t.Tunnels)
    (matched : bgMd.tunnelDirectSend = matchPacket) {delivery : Delivery}
    (sent : onward tables around internalPort bgMd t = some delivery) :
    delivery.directSend = matchPacket ∧ ∃ bridge : BridgeMetadata, delivery.Bears
      ((({ t with parcel := t.parcel.dnat tables } : TunnelPacket).deliver tables bridge).stamp
        t.parcel.isV4) := by
  obtain ⟨⟨egressPort, located⟩, back, sent⟩ := (Traced.bind_value_eq_some_iff _ _ _).mp sent
  cases accepted : P13IngressParser.parse around.p13Ingress.containers
      (BridgeMetadata.codec.encode bgMd ++ t.bits) with
  | none =>
      rw [P13Ingress.pass, ingressPass, accepted] at back
      contradiction
  | some parsed =>
      obtain ⟨tail, ends, rfl⟩ := (P13IngressParser.parse_tunnel _ inbound.bridges tunnels parsed).mp accepted
      obtain ⟨events, _, passed⟩ := @P13Ingress.pass_located tables _ internalPort _ _ accepted _ _
        (P13IngressParser.tunnelState_carries _ inbound.bridges tunnels ends) matched
      have keeps := (BridgeMetadata.locate_keeps tables t.parcel (t.parcel.flow
        (P13IngressParser.tunnelState around.p13Ingress.containers bgMd t tail).metadata.l3) bgMd).1
      rw [passed] at back
      generalize bgMd.locate tables t.parcel _ = bridge at back keeps
      dsimp only at back
      split at back
      · contradiction
      · obtain ⟨rfl, rfl⟩ := Prod.mk.inj (Option.some.inj back)
        dsimp only [outward] at sent
        split at sent
        · contradiction
        · have bridges : bridge.Bridges etherTypeIpv4 :=
            ⟨keeps.proto.trans inbound.bridges.proto,
              keeps.outerEthernetType.trans inbound.bridges.outerEthernetType,
              keeps.outerEthernetInvalid.trans inbound.bridges.outerEthernetInvalid⟩
          have translated : ({ t with parcel := t.parcel.dnat tables } : TunnelPacket).Tunnels :=
            ⟨tunnels.selects, tunnels.port, tunnels.type.trans (Parcel.dnat_etherType _ _).symm⟩
          obtain ⟨direct, bears⟩ := P02Egress.pass_delivered bridges translated
            (keeps.tunnelDirectSend.trans matched) (keeps.igrTunnelType.trans inbound.igrTunnelType) sent
          have same : (t.parcel.dnat tables).isV4 = t.parcel.isV4 := by
            cases t.parcel <;> rfl
          exact ⟨direct, bridge, same ▸ bears⟩

end Onward

/-! A gateway with the tables of the setup and entries of the controller -/

def smallGateway (tables : Tables) : Gateway where
  cfg := smallConfig
  tables := { tables with
    igwIpType := (igwIpTypeTable smallConfig).lookup
    pipelineFix := pipelineFixTable.lookup
    modifyJdVxlanIn := (eipInJdVxlanTable smallConfig).lookup
    modifyJdVxlanOut := (eipOutJdVxlanTable smallConfig).lookup
    ecmpGroup02 := (Selector.constant 0).ecmpGroup02
    egressSystemAcl := egressAclAction egressAclInit }
  selector := .constant 0
  classifies := ⟨rfl, rfl⟩
  ecmpGroup02 := rfl
  active := Selector.constant_zero_active

theorem smallGateway_redirects (tables : Tables) : Redirects smallConfig (smallGateway tables).tables :=
  ⟨rfl, rfl⟩

theorem smallGateway_acl (tables : Tables) :
    (smallGateway tables).tables.egressSystemAcl = egressAclAction egressAclInit := rfl

/-- A visit to the small gateway, in which no container holds anything -/
def smallPassage (tables : Tables) (unpunted : ∀ key, tables.processProtocolPacket key = none) (frame : Frame)
    (fits : frame.Fits)
    (etherType : frame.ethernet.etherType = etherTypeIpv4 ∨ frame.ethernet.etherType = etherTypeIpv6) :
    Passage where
  gateway := smallGateway tables
  around := default
  port := 5
  frame := frame
  fits := fits
  etherType := etherType
  unpunted punted := punted (unpunted _)

/-- A direct packet without a transport header that the parsers read -/
def directFrame (ip : Ipv4) : Frame := .ipv4 ⟨1, 2, etherTypeIpv4⟩ ip (.unread [])

theorem directFrame_etherType (ip : Ipv4) : (directFrame ip).ethernet.etherType = etherTypeIpv4 ∨
    (directFrame ip).ethernet.etherType = etherTypeIpv6 :=
  .inl rfl

theorem plainHeader_fits : (directFrame plainHeader).Fits :=
  ⟨rfl, fun read => absurd read.2.1 (by decide), fun read => absurd read.1 (by decide),
    fun read => absurd read.1 (by decide)⟩

end IgwP4.Dataplane
