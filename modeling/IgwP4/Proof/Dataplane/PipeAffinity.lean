/-
This file shows that all packets of one address meet in one pipe.
-/

import IgwP4.Proof.Dataplane.Flows
import IgwP4.Proof.Setup.EcmpGroup

namespace IgwP4.Dataplane
open Packet Setup

namespace P02Ingress

/-! The parts of the state that the selection of the group reads -/

theorem fipInnerIpSnat_eq (tables : Tables) (s : IngressState) (on : s.hdr.innerIpv4.valid = true) :
    fipInnerIpSnat tables s = { s with
      hdr.innerIpv4.fields.srcAddr :=
        snatSource tables s.hdr.vxlan.fields.vni s.hdr.innerIpv4.fields.srcAddr } := by
  rw [fipInnerIpSnat, if_pos on, snatSource]
  split
  · rename_i fip found
    rw [found, Option.getD_some]
  · rename_i missed
    rw [missed, Option.getD_none]

theorem fipInnerIpSnat_off (tables : Tables) (s : IngressState)
    (off : s.hdr.innerIpv4.valid = false) : fipInnerIpSnat tables s = s := by
  rw [fipInnerIpSnat, if_neg (by rw [off]; decide)]

theorem pipeLineFix_eq {cfg : SwitchConfig} {tables : Tables} (installed : Classifies cfg tables)
    (s : IngressState) (on : s.hdr.innerIpv4.valid = true) :
    pipeLineFix tables s = { s with
      metadata.l3.egrPipeline := outboundPipeline s.hdr.innerIpv4.fields.srcAddr } := by
  have found : tables.pipelineFix (pipelineFixKey s) =
      some (outboundPipeline s.hdr.innerIpv4.fields.srcAddr) := by
    rw [installed.pipelineFix, pipelineFixKey, on]
    exact pipelineFixTable_lookup _
  rw [pipeLineFix, found]

theorem pipeLineFix_off {cfg : SwitchConfig} {tables : Tables} (installed : Classifies cfg tables)
    (s : IngressState) (off : s.hdr.innerIpv4.valid = false) : pipeLineFix tables s = s := by
  have missed : tables.pipelineFix (pipelineFixKey s) = none := by
    rw [installed.pipelineFix, pipelineFixKey, off]
    exact pipelineFixTable_lookup_off _
  rw [pipeLineFix, missed]

/-- The override reads the source behind the translation. -/
theorem pipeLineFix_fipInnerIpSnat {cfg : SwitchConfig} {tables : Tables}
    (installed : Classifies cfg tables) (s : IngressState) (on : s.hdr.innerIpv4.valid = true) :
    pipeLineFix tables (fipInnerIpSnat tables s) =
      let src := snatSource tables s.hdr.vxlan.fields.vni s.hdr.innerIpv4.fields.srcAddr
      { s with
        hdr.innerIpv4.fields.srcAddr := src
        metadata.l3.egrPipeline := outboundPipeline src } := by
  rw [fipInnerIpSnat_eq tables s on]
  exact pipeLineFix_eq installed _ on

/-- The redirection keeps the metadata and the treatment in the selection. -/
theorem modifyJdVxlanOut_kept (tables : Tables) (s : IngressState)
    (treated : s.hdr.bgMd.fields.matchOrDl) :
    (modifyJdVxlanOut tables s).metadata = s.metadata ∧
      (modifyJdVxlanOut tables s).hdr.bgMd.fields.matchOrDl := by
  unfold modifyJdVxlanOut
  split
  · unfold selectRedirectIpOut
    split
    · exact ⟨rfl, .inr rfl⟩
    · exact ⟨rfl, .inr rfl⟩
  · exact ⟨rfl, .inr rfl⟩
  · exact ⟨rfl, treated⟩

/-- The redirection entry decides whether a shared bandwidth overrides the pipe. -/
theorem eipOutEntry_kept (entry : Option EipOutBwId) (s : IngressState) :
    (eipOutEntry entry s).metadata.l3 = s.metadata.l3 ∧
      (eipOutEntry entry s).metadata.ratelimit.haveSharedBd =
        (entry.map EipOutBwId.haveSharedBd).getD s.metadata.ratelimit.haveSharedBd ∧
      (eipOutEntry entry s).hdr.bgMd.fields.tunnelDirectSend =
        s.hdr.bgMd.fields.tunnelDirectSend := by
  cases entry with
  | none => exact ⟨rfl, rfl, rfl⟩
  | some data => exact ⟨rfl, rfl, rfl⟩

/-- The selector entry of the group gives the egress port. -/
theorem egressPort_of_found {tables : Tables} {s : IngressState} {port : BitVec 9}
    (treated : s.hdr.bgMd.fields.matchOrDl)
    (found : tables.ecmpGroup02 s.metadata.l3.egrPipeline s.metadata.ratelimit.haveSharedBd
      s.flowKey = some port) :
    (encapMetaData02 (ecmpGroup02 tables s)).ucastEgressPort = port := by
  have selected : (ecmpGroup02 tables s).ucastEgressPort = port := by
    rw [ecmpGroup02, if_pos treated]
    dsimp only [IngressState.flowKey] at found ⊢
    rw [found]
  rw [encapMetaData02]
  split <;> exact selected

/-- Only the flag for the shared bandwidth depends on the listed addresses. -/
theorem setHaveFlag_eq (hit : Bool) (s : IngressState) (clear : s.metadata.ratelimit.haveSharedBd = 0) :
    (setHaveFlag hit s).metadata.l3 = s.metadata.l3 ∧
      (setHaveFlag hit s).metadata.ratelimit.haveSharedBd = (if hit then 1 else 0) ∧
      (setHaveFlag hit s).hdr = s.hdr := by
  cases hit
  · exact ⟨rfl, clear, rfl⟩
  · exact ⟨rfl, rfl, rfl⟩

/-- The lists are asked for the address of the packet, wherever it stands. -/
theorem haveSharedBindWith_eq (tables : Tables) (same : tables.innerHaveSharedBd = tables.haveSharedBd)
    (s : IngressState) (clear : s.metadata.ratelimit.haveSharedBd = 0) {eip : Eip}
    (address : (s.hdr.bgMd.fields.dlPkt = 0 ∧ eip = s.hdr.outerDst) ∨
      (s.hdr.bgMd.fields.dlPkt = 1 ∧ eip = s.hdr.innerDst)) :
    (haveSharedBindWith tables s).metadata.l3 = s.metadata.l3 ∧
      (haveSharedBindWith tables s).metadata.ratelimit.haveSharedBd =
        (if sharesBandwidth tables eip then 1 else 0) ∧
      (haveSharedBindWith tables s).hdr = s.hdr := by
  rw [haveSharedBindWith]
  rcases address with ⟨dl, rfl⟩ | ⟨dl, rfl⟩
  · cases v4 : s.hdr.ipv4.valid with
    | true =>
        rw [if_pos ⟨dl, rfl⟩, Headers.outerDst, v4]
        exact setHaveFlag_eq _ s clear
    | false =>
        rw [if_neg (by simp), if_neg (by rw [dl]; simp), Headers.outerDst, v4]
        exact ⟨rfl, clear, rfl⟩
  · rw [if_neg (by rw [dl]; simp), same]
    cases v4 : s.hdr.innerIpv4.valid with
    | true =>
        rw [if_pos ⟨dl, rfl⟩, Headers.innerDst, v4]
        exact setHaveFlag_eq _ s clear
    | false =>
        rw [if_neg (by simp), Headers.innerDst, v4]
        exact ⟨rfl, clear, rfl⟩

/-- The translation, the override and the redirection leave the source, its pipeline and its flag. -/
theorem outbound_eq {cfg : SwitchConfig} {tables : Tables} (installed : Classifies cfg tables)
    (s : IngressState) (clear : s.metadata.ratelimit.haveSharedBd = 0)
    (treated : s.hdr.bgMd.fields.tunnelDirectSend = matchPacket)
    (pipeline : s.metadata.l3.egrPipeline = innerOutbound s.hdr)
    (inner : s.hdr.innerIpv4.valid = true ∨ s.hdr.innerIpv6.valid = true) :
    let r := eipOutRedirect tables (pipeLineFix tables (fipInnerIpSnat tables s))
    let source := translatedSrc tables s.hdr
    r.metadata.l3.egrPipeline = (if source.lowestBit then egrPipeline0 else egrPipeline2) ∧
      r.metadata.ratelimit.haveSharedBd =
        ((eipOutData tables source).map EipOutBwId.haveSharedBd).getD 0 ∧
      r.hdr.bgMd.fields.matchOrDl := by
  dsimp only
  rw [translatedSrc, eipOutRedirect]
  cases v4 : s.hdr.innerIpv4.valid with
  | true =>
      rw [pipeLineFix_fipInnerIpSnat installed s v4]
      dsimp only
      rw [eipOutLookup, if_pos v4]
      generalize snatSource tables s.hdr.vxlan.fields.vni s.hdr.innerIpv4.fields.srcAddr = src
      have entered := eipOutEntry_kept (tables.eipOutRedirect src) { s with
        hdr.innerIpv4.fields.srcAddr := src, metadata.l3.egrPipeline := outboundPipeline src }
      obtain ⟨l3, shared, direct⟩ := entered
      obtain ⟨kept, redirected⟩ := modifyJdVxlanOut_kept tables _ (.inl (direct.trans treated))
      refine ⟨?_, ?_, redirected⟩
      · rw [kept, l3]
        rfl
      · rw [kept, shared]
        exact congrArg _ clear
  | false =>
      have v6 : s.hdr.innerIpv6.valid = true := inner.resolve_left (by rw [v4]; decide)
      rw [fipInnerIpSnat_off tables s v4, pipeLineFix_off installed _ v4, eipOutLookup,
        if_neg (by rw [v4]; decide), if_pos v6]
      obtain ⟨l3, shared, direct⟩ :=
        eipOutEntry_kept (tables.eip6OutRedirect s.hdr.innerIpv6.fields.srcAddr) s
      obtain ⟨kept, redirected⟩ := modifyJdVxlanOut_kept tables _ (.inl (direct.trans treated))
      refine ⟨?_, ?_, redirected⟩
      · rw [kept, l3, pipeline, innerOutbound, v4]
        rfl
      · rw [kept, shared]
        exact congrArg _ clear

end P02Ingress

/-- An accepted frame that no entry punts, at a gateway -/
structure Arrival where
  gateway : Gateway
  around : Surroundings
  port : BitVec 9
  bits : Bits
  parsed : ParserState
  accepted : P02IngressParser.parse around.containers bits = some parsed
  unpunted : ¬ P02Ingress.Punted gateway.tables around.fresh (ingressStart around port parsed)

namespace Arrival

def flow (a : Arrival) : Option Flow := Dataplane.flow a.gateway.cfg a.gateway.tables a.parsed.hdr

/-- The port that the first pass leaves for the traffic manager -/
def egressPort (a : Arrival) : BitVec 9 :=
  (P02Ingress.apply a.gateway.tables a.around.fresh
    (ingressStart a.around a.port a.parsed)).ucastEgressPort

/-- The state behind the classifier, as far as the selection of the group depends on it -/
theorem classified (a : Arrival) {igrTunnelType : BitVec 3} {dlPkt : BitVec 1}
    {egrPipeline : BitVec 3} (outer : a.parsed.hdr.ipv4.valid = true ∨ a.parsed.hdr.ipv6.valid = true)
    (hit : P02Ingress.marks (classification a.gateway.cfg a.parsed.hdr) =
      some (igrTunnelType, dlPkt, egrPipeline)) :
    ∃ (s : IngressState) (bgMd : BridgeMetadata),
      P02Ingress.classify a.gateway.tables a.around.fresh (ingressStart a.around a.port a.parsed) = s ∧
      s.hdr = { a.parsed.hdr with bgMd := ⟨true, bgMd⟩ } ∧ bgMd.tunnelDirectSend = matchPacket ∧
      bgMd.igrTunnelType = igrTunnelType ∧ bgMd.dlPkt = dlPkt ∧
      s.metadata.l3.egrPipeline = egrPipeline ∧ s.metadata.ratelimit.haveSharedBd = 0 := by
  have shape := P02IngressParser.parse_wellShaped a.accepted
  obtain ⟨unbridged, clear⟩ := P02IngressParser.parse_initial a.accepted
  have found := (igwIpTypeTable_decides a.gateway.cfg (ingressStart a.around a.port a.parsed)
    shape outer).lookup
  rw [← a.gateway.classifies.igwIpType] at found
  obtain ⟨reached, assigned⟩ := P02Ingress.classify_eq a.gateway.tables a.around.fresh
    (ingressStart a.around a.port a.parsed) shape unbridged a.unpunted found hit
  obtain ⟨dropCtl, mirrorType, sessionId, mirror, events, checked, _⟩ :=
    P02Ingress.ingressSystemAcl_effect a.gateway.tables (P02Ingress.marked a.around.fresh igrTunnelType
      dlPkt egrPipeline (ingressStart a.around a.port a.parsed))
  refine ⟨_, _, reached.trans checked, rfl, assigned.tunnelDirectSend, rfl, rfl, rfl, ?_⟩
  exact congrArg RatelimitMetadata.haveSharedBd clear

/-- A group that the initialisation names gives the egress port. -/
theorem pipe_of_group (a : Arrival) {s : IngressState} {group : SelectorGroup}
    (applied : P02Ingress.direct a.gateway.tables (P02Ingress.classify a.gateway.tables
      a.around.fresh (ingressStart a.around a.port a.parsed)) = s)
    (treated : s.hdr.bgMd.fields.matchOrDl)
    (found : ecmpGroup02Init4p.lookup
      ⟨s.metadata.l3.egrPipeline, s.metadata.ratelimit.haveSharedBd⟩ = some group) :
    pipeOf a.egressPort = group.pipe := by
  obtain ⟨port, selected, inside⟩ :=
    a.gateway.selector.ecmpGroup02_pipe _ _ s.flowKey (a.gateway.active group) found
  rw [← a.gateway.ecmpGroup02] at selected
  have chosen := P02Ingress.egressPort_of_found treated selected
  rw [egressPort, P02Ingress.apply, applied, chosen, inside]

/-- An inbound packet leaves for the pipe of its address. -/
theorem pipe_of_inbound (a : Arrival) {eip : Eip} (inbound : a.flow = some (.inbound eip))
    (same : a.gateway.tables.innerHaveSharedBd = a.gateway.tables.haveSharedBd) :
    pipeOf a.egressPort = inboundPipe a.gateway.tables eip := by
  obtain ⟨dlPkt, marked, address⟩ := marks_of_inbound (P02IngressParser.parse_wellShaped a.accepted) inbound
  obtain ⟨s, bgMd, reached, hdr, direct, type, dl, pipeline, clear⟩ :=
    a.classified (outer_of_flow inbound) marked
  have entered : P02Ingress.direct a.gateway.tables s =
      P02Ingress.haveSharedBindWith a.gateway.tables s := by
    rw [P02Ingress.direct, hdr, if_pos direct, if_neg (by rw [type]; decide)]
  have stands : (s.hdr.bgMd.fields.dlPkt = 0 ∧ eip = s.hdr.outerDst) ∨
      (s.hdr.bgMd.fields.dlPkt = 1 ∧ eip = s.hdr.innerDst) := by
    rw [hdr]
    subst dl
    exact address
  obtain ⟨l3, shared, headers⟩ :=
    P02Ingress.haveSharedBindWith_eq a.gateway.tables same s clear stands
  have group := ecmpGroup02Init4p_inbound eip.lowestBit
    (if sharesBandwidth a.gateway.tables eip then 1 else 0)
  rw [a.pipe_of_group ((congrArg _ reached).trans entered) (by rw [headers, hdr]; exact .inl direct)
    (by rw [l3, shared, pipeline]; exact group), inboundPipe]
  cases sharesBandwidth a.gateway.tables eip <;> cases eip.lowestBit <;> rfl

/-- An outbound packet leaves for the pipe of its source. -/
theorem pipe_of_outbound (a : Arrival) {source : Eip} (outbound : a.flow = some (.outbound source)) :
    pipeOf a.egressPort = outboundPipe (eipOutData a.gateway.tables source) source := by
  obtain ⟨dlPkt, marked, rfl, inner⟩ := marks_of_outbound
    (P02IngressParser.parse_wellShaped a.accepted) outbound
  obtain ⟨s, bgMd, reached, hdr, direct, type, dl, pipeline, clear⟩ :=
    a.classified (outer_of_flow outbound) marked
  have entered : P02Ingress.direct a.gateway.tables s = P02Ingress.eipOutRedirect a.gateway.tables
      (P02Ingress.pipeLineFix a.gateway.tables (P02Ingress.fipInnerIpSnat a.gateway.tables s)) := by
    rw [P02Ingress.direct, hdr, if_pos direct, if_pos type]
  obtain ⟨chosen, shared, treated⟩ := P02Ingress.outbound_eq a.gateway.classifies s clear
    (by rw [hdr]; exact direct) (by rw [hdr]; exact pipeline) (by rw [hdr]; exact inner)
  have source : translatedSrc a.gateway.tables s.hdr = translatedSrc a.gateway.tables a.parsed.hdr := by
    rw [hdr]
    rfl
  rw [source] at chosen shared
  generalize translatedSrc a.gateway.tables a.parsed.hdr = src at chosen shared ⊢
  have group := ecmpGroup02Init4p_outbound src.lowestBit
    (((eipOutData a.gateway.tables src).map EipOutBwId.haveSharedBd).getD 0)
  rw [a.pipe_of_group ((congrArg _ reached).trans entered) treated (by rw [chosen, shared]; exact group), outboundPipe]
  generalize ((eipOutData a.gateway.tables src).map EipOutBwId.haveSharedBd).getD 0 = flag
  split <;> cases src.lowestBit <;> rfl

end Arrival

/--
Two inbound packets of one address, and two outbound packets of one translated source with the same
redirection entry, leave the first pass through the same pipe, which the address alone decides.
-/
theorem pipe_affinity (first second : Arrival)
    (firstLists : first.gateway.tables.innerHaveSharedBd = first.gateway.tables.haveSharedBd)
    (secondLists : second.gateway.tables.innerHaveSharedBd = second.gateway.tables.haveSharedBd) :
    (∀ eip, first.flow = some (.inbound eip) → second.flow = some (.inbound eip) →
      first.gateway.tables.haveSharedBd = second.gateway.tables.haveSharedBd →
      pipeOf first.egressPort = pipeOf second.egressPort ∧
        pipeOf first.egressPort = inboundPipe first.gateway.tables eip) ∧
    (∀ source, first.flow = some (.outbound source) → second.flow = some (.outbound source) →
      eipOutData first.gateway.tables source = eipOutData second.gateway.tables source →
      pipeOf first.egressPort = pipeOf second.egressPort ∧
        pipeOf first.egressPort =
          outboundPipe (eipOutData first.gateway.tables source) source) := by
  constructor
  · intro eip left right lists
    have alike : inboundPipe first.gateway.tables eip = inboundPipe second.gateway.tables eip := by
      cases eip with
      | v4 address => rw [inboundPipe, inboundPipe, sharesBandwidth, sharesBandwidth, lists]
      | v6 address => rfl
    rw [first.pipe_of_inbound left firstLists, second.pipe_of_inbound right secondLists]
    exact ⟨alike, rfl⟩
  · intro source left right entries
    rw [first.pipe_of_outbound left, second.pipe_of_outbound right, entries]
    exact ⟨rfl, rfl⟩

/-- A frame that the first parser accepts arrives at a gateway without punt entries. -/
def Arrival.ofFrame (cfg : SwitchConfig) (selector : Selector)
    (active : ∀ group, ∃ index, selector.status group index = true) (frame : Frame)
    (fits : frame.Fits) : Arrival where
  gateway := .bare cfg selector active
  around := default
  port := 0
  bits := frame.bits
  parsed := frame.state default
  accepted := (P02IngressParser.parse_eq_some_iff _ _ _).mpr ⟨frame, fits, rfl, rfl⟩
  unpunted := fun punted => punted rfl

theorem Arrival.ofFrame_flow (cfg : SwitchConfig) (selector : Selector)
    (active : ∀ group, ∃ index, selector.status group index = true) (frame : Frame)
    (fits : frame.Fits) :
    (Arrival.ofFrame cfg selector active frame fits).flow =
      Dataplane.flow cfg (Gateway.bare cfg selector active).tables (frame.state default).hdr := rfl

/-- A direct packet and a redirected packet of one address meet in the same pipe. -/
theorem pipe_affinity_redirected :
    let cfg : SwitchConfig := ⟨0x0a000001, 0x0a000002, 0, 0x0a000003, 0x0a000100, 24⟩
    let direct : Frame := .ipv4 ⟨0, 0, etherTypeIpv4⟩ { (default : Ipv4) with dstAddr := 0xcb007105 }
      (.unread [])
    let redirected : Frame := .ipv4 ⟨0, 0, etherTypeIpv4⟩
      { (default : Ipv4) with ihl := 5, protocol := ipProtocolsUdp, dstAddr := 0x0a000002 }
      (.overlay ⟨⟨50, udpPortVxlan, 0, 0⟩, ⟨0x0c, 1, 0, 99, tofAzIn, 0⟩, ⟨0, 0, etherTypeIpv4⟩,
        .v4 { (default : Ipv4) with dstAddr := 0xcb007105 } ⟨[], .unread, []⟩⟩)
    ∃ (left : direct.Fits) (right : redirected.Fits),
      pipeOf (Arrival.ofFrame cfg (.constant 0) (fun _ => ⟨0, rfl⟩) direct left).egressPort =
        pipeOf (Arrival.ofFrame cfg (.constant 7) (fun _ => ⟨7, rfl⟩) redirected right).egressPort := by
  intro cfg direct redirected
  have left : direct.Fits := ⟨rfl, fun h => absurd h.2.2.1 (by decide), fun h => absurd h.2.1 (by decide),
    fun h => absurd h.2.1 (by decide)⟩
  have right : redirected.Fits := ⟨rfl, ⟨rfl, rfl, rfl⟩, rfl, rfl, rfl, rfl, rfl⟩
  refine ⟨left, right, ?_⟩
  exact ((pipe_affinity (.ofFrame cfg (.constant 0) (fun _ => ⟨0, rfl⟩) direct left)
    (.ofFrame cfg (.constant 7) (fun _ => ⟨7, rfl⟩) redirected right) rfl rfl).1
    (.v4 0xcb007105) ((Arrival.ofFrame_flow _ _ _ _ _).trans (by decide))
    ((Arrival.ofFrame_flow _ _ _ _ _).trans (by decide)) rfl).1

end IgwP4.Dataplane
