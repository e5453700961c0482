/-
This file follows a packet out of a gateway whose selector and MAC addresses come from its control plane.
-/

import IgwP4.Proof.Dataplane.Envelopes
import IgwP4.Proof.Netlink.LinkFailover
import IgwP4.Proof.Setup.MacRewrite

namespace IgwP4.Dataplane
open Packet Setup
open Netlink (Kernel ControlTables ControlState ControlEvent controlStep Starts governing learned external Mac)
open Structures (Reaches)

/-! The last pass of a packet -/

namespace P02Egress

/-- What leaves the last pipe starts with the Ethernet header of its port. -/
theorem emission_framed (tables : Tables) {s : EgressState} {ethernet : Ethernet}
    (framed : s.hdr.ethernet = ⟨true, ethernet⟩) (treated : s.hdr.bgMd.fields.matchOrDl)
    (fabric : s.hdr.fabric.valid = false) (cpu : s.hdr.cpu.valid = false) (pkt : Bits) :
    ∃ rest, (emission tables s pkt).packet =
      Ethernet.codec.encode (ethernet.readdress (tables.tunnelMacRewrite s.egressPort)) ++ rest := by
  obtain ⟨events, left⟩ := leave_eq tables s
  have kept : (checksums (leave tables s)).bgMd = s.hdr.bgMd.setInvalid ∧
      (checksums (leave tables s)).ethernet = ⟨true, ethernet.readdress (tables.tunnelMacRewrite s.egressPort)⟩ ∧
      (checksums (leave tables s)).fabric = s.hdr.fabric ∧ (checksums (leave tables s)).cpu = s.hdr.cpu := by
    have addressed : (outgoing tables s.egressPort s.hdr).ethernet =
        ⟨true, ethernet.readdress (tables.tunnelMacRewrite s.egressPort)⟩ := by
      dsimp only [outgoing]
      rw [if_pos treated, framed]
    rw [left, ← addressed]
    unfold checksums
    dsimp only
    split <;> split <;> exact ⟨rfl, rfl, rfl, rfl⟩
  obtain ⟨bridge, addressed, noFabric, noCpu⟩ := kept
  rw [emission, deparse, Headers.emit_uncpu (by rw [noFabric, fabric]) (by rw [noCpu, cpu]), bridge, addressed,
    Header.emit_of_invalid _ _ rfl, Header.emit_valid, List.nil_append]
  exact ⟨_, rfl⟩

/-- A tunnel packet leaves by its port, behind the addresses of the port. -/
theorem pass_framed {tables : Tables} {around : Surroundings} {port : BitVec 9} {bgMd : BridgeMetadata}
    {t : TunnelPacket} (bridges : bgMd.Bridges etherTypeIpv4) (tunnels : t.Tunnels)
    (treated : bgMd.matchOrDl) {delivery : Delivery}
    (sent : (pass tables around port (BridgeMetadata.codec.encode bgMd ++ t.bits)).value = some delivery) :
    delivery.port = port ∧ ∃ (ethernet : Ethernet) (rest : Bits), delivery.packet =
      Ethernet.codec.encode (ethernet.readdress (tables.tunnelMacRewrite port)) ++ rest := by
  obtain ⟨parsed, accepted, carries⟩ := parse_tunnel around.containers bridges tunnels
  have original : parsed.metadata.mirror.flag = 0 := by
    rw [carries.mirror]
  have framed : ∃ ethernet, let s := reached tables around.fresh (egressStart around port parsed)
      s.egressPort = port ∧ s.hdr.ethernet = ⟨true, ethernet⟩ ∧ s.hdr.bgMd.fields.matchOrDl ∧
        s.hdr.fabric.valid = false ∧ s.hdr.cpu.valid = false := by
    have opened := bridges.outerEthernetInvalid
    rcases treated with matched | redirected
    · by_cases inbound : bgMd.igrTunnelType = typeIngressInternetIn
      · have stands := reached_inbound tables around.fresh around port carries opened matched inbound
        refine ⟨_, stands.egressPort, stands.ethernet, .inl ?_, stands.fabric, stands.cpu⟩
        rw [stands.bgMd]
        exact matched
      · obtain ⟨color, _, _, ethernet, stripped, _⟩ :=
          reached_outbound tables around.fresh around port carries bridges matched inbound
        refine ⟨_, stripped.egressPort, stripped.ethernet, .inl ?_, stripped.fabric, stripped.cpu⟩
        rw [stripped.bgMd]
        exact matched
    · have stands := reached_redirected tables around.fresh around port carries opened redirected
      refine ⟨_, stands.egressPort, stands.ethernet, .inr ?_, stands.fabric, stands.cpu⟩
      rw [stands.bgMd]
      exact redirected
  rw [pass_value accepted original rfl] at sent
  generalize reached tables around.fresh (egressStart around port parsed) = s at framed sent
  obtain ⟨ethernet, egressPort, framed, treated, fabric, cpu⟩ := framed
  split at sent
  · contradiction
  · obtain ⟨rest, packet⟩ := emission_framed tables framed treated fabric cpu parsed.pkt
    rw [← Option.some.inj sent]
    rw [egressPort] at packet
    exact ⟨egressPort, ethernet, rest, packet⟩

end P02Egress

section Onward

variable {tables : Tables} {around : VisitSurroundings} {internalPort port : BitVec 9} {bgMd : BridgeMetadata}
  {t : TunnelPacket}

/-- Behind the internal pipes an inbound packet passes through the last pipe towards the port of its arrival. -/
theorem onward_last (inbound : bgMd.Inbound port) (tunnels : t.Tunnels) {delivery : Delivery}
    (sent : onward tables around internalPort bgMd t = some delivery) :
    ∃ (bridge : BridgeMetadata) (t' : TunnelPacket), bridge.Bridges etherTypeIpv4 ∧ t'.Tunnels ∧ bridge.matchOrDl ∧
      (P02Egress.pass tables around.p02Egress port (BridgeMetadata.codec.encode bridge ++ t'.bits)).value =
        some delivery := by
  rcases inbound.treatment with matched | redirected
  · obtain ⟨_, _, finishes⟩ := onward_located inbound tunnels matched sent
    exact ⟨_, _, finishes.bridges, finishes.tunnels, .inl finishes.matched, finishes.sent⟩
  · obtain ⟨_, _, last⟩ := (onward_redirected inbound tunnels redirected delivery).mp sent
    exact ⟨bgMd, t, inbound.bridges, tunnels, .inr redirected, last⟩

end Onward

namespace Passage

variable {a : Passage} {found : Form}

/-- The port by which a packet leaves the gateway -/
def leavingPort (a : Passage) (found : Form) : BitVec 9 := if found.inbound then a.port else a.arrival.egressPort

/-- Every packet that leaves has passed through the last pipe towards this port. -/
theorem last_pass (known : a.form = some found) {delivery : Delivery} (sent : a.visit.value = some delivery) :
    ∃ (bridge : BridgeMetadata) (t : TunnelPacket), bridge.Bridges etherTypeIpv4 ∧ t.Tunnels ∧ bridge.matchOrDl ∧
      (P02Egress.pass a.tables a.around.p02Egress (a.leavingPort found)
        (BridgeMetadata.codec.encode bridge ++ t.bits)).value = some delivery := by
  cases direction : found.inbound with
  | true =>
      obtain ⟨t, entering⟩ := exists_entering known direction
      rcases first_inbound known direction with lost | ⟨internalPort, bgMd, inside, enters, first⟩
      · rw [visit, Dataplane.visit, Traced.bind, lost] at sent
        contradiction
      · obtain ⟨own, inbound, matched, tunnels, second⟩ :=
          second_inbound known direction entering enters internalPort
        obtain ⟨_, _, kept⟩ := t.redirectIn_kept a.tables own
        rw [visit, visit_looped inside first second] at sent
        rw [leavingPort, if_pos direction]
        exact onward_last (inbound.police a.tables t) (kept tunnels) sent
  | false =>
      obtain ⟨t, carried, _⟩ := exists_tunnel known (by rintro rfl; contradiction)
      obtain ⟨_, _, tunnels, _⟩ := a.frame.tunnel_bears a.fits default carried
      rcases first_outbound known direction carried with
        lost | ⟨externalPort, before, bgMd, outside, bridges, _, treatment, first⟩
      · rw [visit, Dataplane.visit, Traced.bind, lost] at sent
        contradiction
      · have port : externalPort = a.arrival.egressPort := by
          rw [P02Ingress.pass_of_parsed a.accepted] at first
          dsimp only at first
          split at first
          · contradiction
          · exact (Prod.mk.inj (Option.some.inj first)).1.symm
        rw [visit, visit_outward outside first] at sent
        rw [leavingPort, direction, if_neg Bool.false_ne_true, ← port]
        refine ⟨bgMd, _, bridges, ?_, ?_, sent⟩
        · rcases (t.snat a.tables).redirectOut_cases a.tables before with missed | ⟨index, action, hit⟩
          · rw [missed]
            exact tunnels.snat a.tables
          · rw [hit]
            exact (tunnels.snat a.tables).rewrite (.outbound a.tables) index action
        · split at treatment
          · exact .inr treatment
          · exact .inl treatment

end Passage

/-! The member that the selector picks -/

namespace Arrival

/-- A group that the initialisation names gives the port of one of its active members. -/
theorem member_of_group (a : Arrival) {s : IngressState} {group : SelectorGroup}
    (applied : P02Ingress.direct a.gateway.tables (P02Ingress.classify a.gateway.tables
      a.around.fresh (ingressStart a.around a.port a.parsed)) = s)
    (treated : s.hdr.bgMd.fields.matchOrDl)
    (found : ecmpGroup02Init4p.lookup
      ⟨s.metadata.l3.egrPipeline, s.metadata.ratelimit.haveSharedBd⟩ = some group) :
    ∃ index, a.gateway.selector.status group index = true ∧ a.egressPort = group.port index := by
  obtain ⟨index, picked⟩ := Option.isSome_iff_exists.mp
    (a.gateway.selector.pick_total group s.flowKey (a.gateway.active group))
  have selected : a.gateway.tables.ecmpGroup02 s.metadata.l3.egrPipeline s.metadata.ratelimit.haveSharedBd
      s.flowKey = some (group.port index) := by
    rw [a.gateway.ecmpGroup02, Selector.ecmpGroup02, found]
    simp only [picked, Option.map_some]
  refine ⟨index, a.gateway.selector.pick_active group _ index picked, ?_⟩
  rw [egressPort, P02Ingress.apply, applied]
  exact P02Ingress.egressPort_of_found treated selected

/-- An outbound packet leaves by an active member of the group of its source. -/
theorem member_of_outbound (a : Arrival) {source : Eip} (outbound : a.flow = some (.outbound source)) :
    ∃ group index, external group ∧ group.pipe = outboundPipe (eipOutData a.gateway.tables source) source ∧
      a.gateway.selector.status group index = true ∧ a.egressPort = group.port index := by
  obtain ⟨dlPkt, marked, rfl, inner⟩ := marks_of_outbound
    (P02IngressParser.parse_wellShaped a.accepted) outbound
  obtain ⟨s, bgMd, reached, hdr, direct, type, dl, pipeline, clear⟩ :=
    a.classified (outer_of_flow outbound) marked
  have entered : P02Ingress.direct a.gateway.tables s = P02Ingress.eipOutRedirect a.gateway.tables
      (P02Ingress.pipeLineFix a.gateway.tables (P02Ingress.fipInnerIpSnat a.gateway.tables s)) := by
    rw [P02Ingress.direct, hdr, if_pos direct, if_pos type]
  obtain ⟨chosen, shared, treated⟩ := P02Ingress.outbound_eq a.gateway.classifies s clear
    (by rw [hdr]; exact direct) (by rw [hdr]; exact pipeline) (by rw [hdr]; exact inner)
  have source : translatedSrc a.gateway.tables s.hdr = translatedSrc a.gateway.tables a.parsed.hdr := by
    rw [hdr]
    rfl
  rw [source] at chosen shared
  obtain ⟨index, active, port⟩ := a.member_of_group ((congrArg _ reached).trans entered) treated
    (by rw [chosen, shared]; exact ecmpGroup02Init4p_outbound _ _)
  refine ⟨_, index, ?_, ?_, active, port⟩
  · split
    · trivial
    · split <;> trivial
  · rw [← SelectorGroup.pipeOf_port _ index, ← port, a.pipe_of_outbound outbound]

end Arrival

/-! The gateway and its control plane -/

/-- The addresses of an interface and of its gateway as the driver gets them -/
def macPair (macs : Mac × Mac) : MacPair :=
  ⟨BitVec.ofNat 48 (macValue macs.1), BitVec.ofNat 48 (macValue macs.2)⟩

/-- A packet at a gateway whose members and MAC addresses are those of a control plane -/
structure Operation where
  kernel : Kernel
  hostifs : List SwitchHostif
  controlTables : ControlTables
  fuel : Nat
  start : ControlState
  past : List ControlEvent
  state : ControlState
  starts : Starts kernel hostifs controlTables start
  reached : Reaches (controlStep kernel controlTables fuel) start past state
  passage : Passage
  members : passage.gateway.selector.status = state.routes.hardware
  macs : ∀ port, passage.tables.tunnelMacRewrite port = (state.neigh.hardware port).map macPair

namespace Operation

variable (op : Operation)

/-- The gateway of the interface governs the group. -/
def Governs (group : SelectorGroup) (hostif : SwitchHostif) : Prop :=
  hostif.gwIp ∈ governing op.kernel op.hostifs op.fuel group op.past

theorem agrees : Netlink.Follows op.kernel op.hostifs op.fuel op.past op.state :=
  op.reached.invariant op.starts.built.2.2 fun _ _ _ _ follows stepped => op.starts.step follows stepped

variable {op}

/-- An outbound packet leaves for a gateway of the last route that reached its group. -/
theorem outbound_port {found : Form} (known : op.passage.form = some found) (outward : found.inbound = false) :
    ∃ group, external group ∧ (∃ source, op.passage.arrival.flow = some (.outbound source) ∧
        group.pipe = outboundPipe (eipOutData op.passage.tables source) source) ∧
      ∃ hostif ∈ op.hostifs, op.Governs group hostif ∧ op.passage.arrival.egressPort = hostif.devPort := by
  rcases flow_of_form op.passage.tables op.passage.outer known with ⟨inward, _⟩ | ⟨_, source, flows⟩
  · exact absurd (outward.symm.trans inward) (by decide)
  · obtain ⟨group, index, inside, pipe, active, port⟩ := op.passage.arrival.member_of_outbound flows
    change op.passage.gateway.selector.status group index = true at active
    rw [op.members] at active
    obtain ⟨gwIp, governs, _, served, rfl, devPort⟩ := (op.agrees.routes.groups group inside index).mp active
    obtain ⟨hostif, member, rfl⟩ := List.mem_map.mp served
    exact ⟨group, inside, ⟨source, flows, pipe⟩, hostif, member, governs, port.trans devPort.symm⟩

end Operation

/-! A packet behind a route over two interfaces and the address of one gateway -/

/-- A selector that picks the first active member -/
def firstMember (status : SelectorGroup → Fin 16 → Bool) : Selector where
  status := status
  pick group _ := (List.finRange 16).find? (status group)
  pick_active _ _ _ found := List.find?_some found
  pick_total _ _ active := by
    obtain ⟨index, on⟩ := active
    exact List.find?_isSome.mpr ⟨index, List.mem_finRange index, on⟩

def pairLearned : List ControlEvent :=
  [.message (Netlink.pairDatagram Netlink.sampleNeigh.memory), .message Netlink.pairMessage]

theorem pairLearned_ends : ((Netlink.startControl Netlink.pairKernel Netlink.pairHostifs).bind fun begun =>
    (pairLearned.foldr (fun event before => before.bind (controlStep Netlink.pairKernel begun.1 3 · event))
      (some begun.2)).map fun state => (begun, state)).isSome := by
  decide +kernel

/-- The tables, the start and the end of the run -/
def pairRun : (ControlTables × ControlState) × ControlState := Option.get _ pairLearned_ends

theorem pairRun_eq : Netlink.startControl Netlink.pairKernel Netlink.pairHostifs = some pairRun.1 ∧
    pairLearned.foldr (fun event before => before.bind (controlStep Netlink.pairKernel pairRun.1.1 3 · event))
      (some pairRun.1.2) = some pairRun.2 := by
  obtain ⟨begun, started, ended⟩ := Option.bind_eq_some_iff.mp (Option.some_get pairLearned_ends).symm
  obtain ⟨state, computed, same⟩ := Option.map_eq_some_iff.mp ended
  have run : (begun, state) = pairRun := same
  rw [← run]
  exact ⟨started, computed⟩

def pairGateway : Gateway where
  cfg := smallConfig
  tables := { (smallGateway Tables.empty).tables with
    ecmpGroup02 := (firstMember pairRun.2.routes.hardware).ecmpGroup02
    tunnelMacRewrite := fun port => (pairRun.2.neigh.hardware port).map macPair }
  selector := firstMember pairRun.2.routes.hardware
  classifies := ⟨rfl, rfl⟩
  ecmpGroup02 := rfl
  active group := by
    cases group <;> exact ⟨0, by decide +kernel⟩

def pairOperation : Operation where
  kernel := Netlink.pairKernel
  hostifs := Netlink.pairHostifs
  controlTables := pairRun.1.1
  fuel := 3
  start := pairRun.1.2
  past := pairLearned
  state := pairRun.2
  starts := Netlink.pair_starts pairRun_eq.1
  reached := Reaches.iff_foldr.mpr pairRun_eq.2
  passage := {
    gateway := pairGateway
    around := default
    port := 5
    frame := outboundFrame
    fits := outboundFrame_fits
    etherType := outboundFrame_etherType
    unpunted := fun punted => punted rfl }
  members := rfl
  macs _ := rfl

end IgwP4.Dataplane
