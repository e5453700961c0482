/-
This file gives the packets that a gateway sends for the packets of each form.
-/

import IgwP4.Proof.Dataplane.Passages
import IgwP4.Proof.Setup.RedirectTables

namespace IgwP4.Dataplane
open Packet Setup

/-! The choice of the redirection tables that the setup fills -/

namespace TunnelPacket

/-- An inbound packet is redirected when its address has an entry and the type and the entry ask for it. -/
def choiceIn (cfg : SwitchConfig) (tables : Tables) (t : TunnelPacket) :
    Option (BitVec 32 × ModifyJdVxlanAction) := do
  let data ← t.parcel.inboundEntry tables
  let action ← jdVxlanAction cfg tofAzIn t.vxlan.tof data.betweenCluster data.withinCluster
  some (hashIndex data.bandwidthId data.sharedBandwidthId, action)

/-- An outbound packet is redirected in the same way, by the entry of its source. -/
def choiceOut (cfg : SwitchConfig) (tables : Tables) (t : TunnelPacket) :
    Option (BitVec 32 × ModifyJdVxlanAction) := do
  let data ← P02Ingress.outboundEntry tables t.parcel
  let action ← jdVxlanAction cfg tofAzOut t.vxlan.tof data.betweenCluster data.withinCluster
  some (hashIndex data.bandwidthId data.sharedBandwidthId, action)

theorem redirectIn_eq {cfg : SwitchConfig} {tables : Tables} (redirects : Redirects cfg tables)
    (bgMd : BridgeMetadata) (t : TunnelPacket) :
    t.redirectIn tables bgMd =
      (t.choiceIn cfg tables).map fun choice => t.rewrite (.inbound tables) choice.1 choice.2 := by
  have chosen (between within : BitVec 1) : (Redirection.inbound tables).action ⟨1, t.vxlan.tof, between, within⟩ =
      jdVxlanAction cfg tofAzIn t.vxlan.tof between within := by
    change tables.modifyJdVxlanIn _ = _
    rw [redirects.modifyJdVxlanIn, eipInJdVxlanTable_lookup]
  unfold redirectIn redirect choiceIn
  cases t.parcel.inboundEntry tables with
  | none =>
      change ((Redirection.inbound tables).action ⟨1, t.vxlan.tof, 0, 0⟩).map _ = none
      rw [chosen, jdVxlanAction_idle]
      rfl
  | some data =>
      change ((Redirection.inbound tables).action
        ⟨1, t.vxlan.tof, data.betweenCluster, data.withinCluster⟩).map _ =
          Option.map _ ((jdVxlanAction cfg tofAzIn t.vxlan.tof data.betweenCluster data.withinCluster).bind _)
      rw [chosen]
      cases jdVxlanAction cfg tofAzIn t.vxlan.tof data.betweenCluster data.withinCluster <;> rfl

theorem redirectOut_eq {cfg : SwitchConfig} {tables : Tables} (redirects : Redirects cfg tables)
    (bgMd : BridgeMetadata) (t : TunnelPacket) :
    t.redirectOut tables bgMd =
      (t.choiceOut cfg tables).map fun choice => t.rewrite (.outbound tables) choice.1 choice.2 := by
  have chosen (between within : BitVec 1) : (Redirection.outbound tables).action ⟨1, t.vxlan.tof, between, within⟩ =
      jdVxlanAction cfg tofAzOut t.vxlan.tof between within := by
    change tables.modifyJdVxlanOut _ = _
    rw [redirects.modifyJdVxlanOut, eipOutJdVxlanTable_lookup]
  unfold redirectOut redirect choiceOut
  cases P02Ingress.outboundEntry tables t.parcel with
  | none =>
      change ((Redirection.outbound tables).action ⟨1, t.vxlan.tof, 0, 0⟩).map _ = none
      rw [chosen, jdVxlanAction_idle]
      rfl
  | some data =>
      change ((Redirection.outbound tables).action
        ⟨1, t.vxlan.tof, data.betweenCluster, data.withinCluster⟩).map _ =
          Option.map _ ((jdVxlanAction cfg tofAzOut t.vxlan.tof data.betweenCluster data.withinCluster).bind _)
      rw [chosen]
      cases jdVxlanAction cfg tofAzOut t.vxlan.tof data.betweenCluster data.withinCluster <;> rfl

end TunnelPacket

/-- The bridge header that takes an inbound packet to the internal pipes -/
structure BridgeMetadata.Enters (bgMd : BridgeMetadata) (etherType : BitVec 16) (port : BitVec 9)
    (dlPkt : BitVec 1) : Prop where
  bridges : bgMd.Bridges etherType
  igrPort : bgMd.igrPort = port
  matched : bgMd.tunnelDirectSend = matchPacket
  inbound : bgMd.igrTunnelType = typeIngressInternetIn
  dlPkt : bgMd.dlPkt = dlPkt

namespace Passage

variable {a : Passage} {found : Form}

/-- Every form but the direct one is a tunnel packet, which the redirection flag marks as a JD packet. -/
theorem exists_tunnel (known : a.form = some found) (tunnelled : found ≠ .direct) :
    ∃ t, a.frame.tunnel = some t ∧ (found.dlPkt = 1 → jdFlag t.vxlan = true) := by
  have classified := classification_classified a.gateway.cfg (P02IngressParser.parse_wellShaped a.accepted) a.outer
  have shape : a.hdr.vxlan.valid = true ∧
      (a.hdr.innerIpv4.valid = true ∨ a.hdr.innerIpv6.valid = true) ∧
      (found.dlPkt = 1 → isJd a.hdr = true) := by
    change Classified a.gateway.cfg a.hdr (classification a.gateway.cfg a.hdr) at classified
    rw [form] at known
    generalize classification a.gateway.cfg a.hdr = action at classified known
    cases classified with
    | multicast ipv6 => contradiction
    | inbound => exact absurd (Option.some.inj known).symm tunnelled
    | redirectedIn vxlan inner wants => exact ⟨vxlan, inner, fun _ => wants.1⟩
    | outbound vxlan inner std wants =>
        obtain rfl := Option.some.inj known
        exact ⟨vxlan, inner, fun one => absurd one (by decide)⟩
    | redirectedOut vxlan inner jd wants => exact ⟨vxlan, inner, fun _ => jd⟩
  obtain ⟨vxlan, inner, jd⟩ := shape
  have fits := a.fits
  have etherType : a.frame.ethernet.etherType = etherTypeIpv4 := by
    rcases a.etherType with four | six
    · exact four
    · exfalso
      revert vxlan
      rw [hdr]
      rcases Frame.ip_cases fits a.etherType with ⟨ethernet, ip, outer, shape⟩ | ⟨ethernet, ip, transport, rest, shape⟩
      · rw [shape] at fits six
        exact absurd (six.symm.trans fits.1) (by decide)
      · rw [shape]
        cases transport <;> exact fun on => Bool.false_ne_true on
  obtain ⟨t, carried⟩ := a.frame.exists_tunnel fits a.around.p02Ingress.containers etherType vxlan inner
  refine ⟨t, carried, fun one => ?_⟩
  obtain ⟨_, bears, _⟩ := a.frame.tunnel_bears fits a.around.p02Ingress.containers carried
  have both := jd one
  rw [isJd, hdr, bears.vxlan] at both
  exact (Bool.and_eq_true_iff.mp both).1

/-- The frame of a tunnel packet is an IPv4 frame. -/
theorem etherType_of_tunnel {t : TunnelPacket} (carried : a.frame.tunnel = some t) :
    a.frame.ethernet.etherType = etherTypeIpv4 := by
  have fits := a.fits
  generalize a.frame = frame at fits carried
  cases frame with
  | ipv4 ethernet ip outer => exact fits.1
  | _ => contradiction

/-- The first pipe drops an inbound packet or sends it to the internal pipes with its own bits. -/
theorem first_inbound (known : a.form = some found) (inward : found.inbound = true) :
    (P02Ingress.pass a.tables a.around.p02Ingress a.port a.frame.bits).value = none ∨
      ∃ internalPort bgMd, internal internalPort = true ∧
        bgMd.Enters a.frame.ethernet.etherType a.port found.dlPkt ∧
        (P02Ingress.pass a.tables a.around.p02Ingress a.port a.frame.bits).value =
          some (internalPort, BridgeMetadata.codec.encode bgMd ++ a.frame.body) := by
  obtain ⟨egrPipeline, treated⟩ := treated known
  have inbound : found.igrTunnelType = typeIngressInternetIn := by
    cases found with
    | direct => rfl
    | redirectedIn => rfl
    | firstHop => contradiction
    | redirectedOut => contradiction
  obtain ⟨assigned, metadata, dropCtl, mirrorType, events, haveSharedBd, flow, applied, _⟩ :=
    treated.apply_inbound inbound
  have inside : internal a.arrival.egressPort = true := (internal_egressPort known).trans inward
  let parsed := a.frame.state a.around.p02Ingress.containers
  let bgMd := P02Ingress.bridged a.port parsed.hdr.ethernet.fields.etherType (P02Ingress.classifiedBridge
    a.around.p02Ingress.fresh (ingressStart a.around.p02Ingress a.port parsed)
    ⟨found.igrTunnelType, found.dlPkt, egrPipeline⟩)
  have left : P02Ingress.deparse (P02Ingress.apply a.tables a.around.p02Ingress.fresh
      (ingressStart a.around.p02Ingress a.port parsed)) ++ parsed.pkt =
        BridgeMetadata.codec.encode bgMd ++ a.frame.body := by
    rw [applied, ← a.frame.emit_bridged a.fits a.around.p02Ingress.containers]
    rfl
  have enters : bgMd.Enters a.frame.ethernet.etherType a.port found.dlPkt := by
    refine ⟨?_, rfl, assigned.tunnelDirectSend, inbound, rfl⟩
    have same : parsed.hdr.ethernet.fields = a.frame.ethernet :=
      congrArg Header.fields (a.frame.state_ethernet a.around.p02Ingress.containers)
    rw [← same]
    exact P02Ingress.bridged_bridges _ _ _
  rw [P02Ingress.pass_of_parsed a.accepted]
  dsimp only
  rw [left]
  split
  · exact .inl rfl
  · exact .inr ⟨a.arrival.egressPort, bgMd, inside, enters, rfl⟩

/-- The first pipe drops an outbound packet or sends it to the front with its translation and its redirection. -/
theorem first_outbound (known : a.form = some found) (outward : found.inbound = false) {t : TunnelPacket}
    (carried : a.frame.tunnel = some t) :
    (P02Ingress.pass a.tables a.around.p02Ingress a.port a.frame.bits).value = none ∨
      ∃ externalPort before bgMd, internal externalPort = false ∧ bgMd.Bridges etherTypeIpv4 ∧
        bgMd.igrTunnelType = typeIngressInternetOut ∧
        bgMd.tunnelDirectSend =
          (if ((t.snat a.tables).redirectOut a.tables before).isSome then dlPacket else matchPacket) ∧
        (P02Ingress.pass a.tables a.around.p02Ingress a.port a.frame.bits).value =
          some (externalPort, BridgeMetadata.codec.encode bgMd ++
            (((t.snat a.tables).redirectOut a.tables before).getD (t.snat a.tables)).bits) := by
  obtain ⟨egrPipeline, treated⟩ := treated known
  have outbound : found.igrTunnelType = typeIngressInternetOut := by
    cases found with
    | direct => contradiction
    | redirectedIn => contradiction
    | firstHop => rfl
    | redirectedOut => rfl
  obtain ⟨tail, bears, tunnels, _, _, fabric, cpu⟩ :=
    a.frame.tunnel_bears a.fits a.around.p02Ingress.containers carried
  have etherType := etherType_of_tunnel carried
  obtain ⟨assigned, hdr, metadata, dropCtl, mirrorType, events, port, applied, _, bears, bridge, ethernet,
    sameFabric, sameCpu⟩ := treated.apply_outbound outbound (P02IngressParser.parse_initial a.accepted).2 bears
  have outside : internal a.arrival.egressPort = false := (internal_egressPort known).trans outward
  let parsed := a.frame.state a.around.p02Ingress.containers
  let before := P02Ingress.classifiedBridge a.around.p02Ingress.fresh
    (ingressStart a.around.p02Ingress a.port parsed) ⟨found.igrTunnelType, found.dlPkt, egrPipeline⟩
  have ethernetFields : parsed.hdr.ethernet.fields.etherType = etherTypeIpv4 :=
    (congrArg (fun h : Header Ethernet => h.fields.etherType)
      (a.frame.state_ethernet a.around.p02Ingress.containers)).trans etherType
  let choice := (t.snat a.tables).redirectOut a.tables before
  let bgMd := P02Ingress.bridged a.port parsed.hdr.ethernet.fields.etherType
    (P02Ingress.released a.tables (t.snat a.tables) choice.isSome before)
  have left : P02Ingress.deparse (P02Ingress.apply a.tables a.around.p02Ingress.fresh
      (ingressStart a.around.p02Ingress a.port parsed)) ++ parsed.pkt =
        BridgeMetadata.codec.encode bgMd ++ (choice.getD (t.snat a.tables)).bits := by
    rw [applied]
    exact bears.emit_bridged bridge ethernet ((congrArg Header.valid sameFabric).trans fabric)
      ((congrArg Header.valid sameCpu).trans cpu)
  have bridges : bgMd.Bridges etherTypeIpv4 := by
    rw [← ethernetFields]
    exact P02Ingress.bridged_bridges _ _ _
  have type : bgMd.igrTunnelType = typeIngressInternetOut := by
    change (P02Ingress.release _ before).igrTunnelType = _
    cases P02Ingress.outboundEntry a.tables (t.snat a.tables).parcel <;> exact outbound
  have treatment : bgMd.tunnelDirectSend = if choice.isSome then dlPacket else matchPacket := by
    change (if choice.isSome then dlPacket else before.tunnelDirectSend) = _
    rw [show before.tunnelDirectSend = matchPacket from assigned.tunnelDirectSend]
  rw [P02Ingress.pass_of_parsed a.accepted]
  dsimp only
  rw [left]
  split
  · exact .inl rfl
  · exact .inr ⟨a.arrival.egressPort, before, bgMd, outside, bridges, type, treatment, rfl⟩

end Passage

namespace P02Egress

/-- The treatment that the bridge header names -/
def treatment (s : EgressState) : BitVec 3 := s.hdr.bgMd.fields.tunnelDirectSend

theorem internetInProcess_treatment (tables : Tables) (s : EgressState) :
    treatment (internetInProcess tables s) = treatment s := by
  have inner (s : EgressState) : treatment (tunnelInnerRewrite tables s) = treatment s := by
    unfold tunnelInnerRewrite
    split <;> rfl
  have dst (s : EgressState) : treatment (tunnelDstRewrite tables s) = treatment s := by
    unfold tunnelDstRewrite
    split
    · rfl
    · split <;> rfl
  have src (s : EgressState) : treatment (tunnelSrcRewrite tables s) = treatment s := by
    unfold tunnelSrcRewrite
    split <;> rfl
  have vxlan (s : EgressState) : treatment (rewriteVxlanProcess s) = treatment s := by
    unfold rewriteVxlanProcess
    split <;> rfl
  rw [internetInProcess, src, dst, inner]
  split
  · exact vxlan s
  · rfl

theorem internetOut_treatment (tables : Tables) (s : EgressState) :
    treatment (internetOutProcess (eipOutEgressPktStats (eipOutSharedMeter tables (eipOutMeter tables s)))) =
      treatment s := by
  have metered (s : EgressState) : treatment (eipOutMeter tables s) = treatment s := by
    unfold eipOutMeter
    split
    · dsimp only
      split <;> rfl
    · rfl
  have shared (s : EgressState) : treatment (eipOutSharedMeter tables s) = treatment s := by
    unfold eipOutSharedMeter
    split
    · unfold sharedBwRatelimit
      dsimp only
      split <;> rfl
    · rfl
  have counted (s : EgressState) : treatment (eipOutEgressPktStats s) = treatment s := by
    unfold eipOutEgressPktStats
    dsimp only
    split
    · split <;> rfl
    · split
      · split <;> rfl
      · rfl
  have decapped (s : EgressState) : treatment (internetOutProcess s) = treatment s := by
    unfold internetOutProcess
    split <;> rfl
  rw [decapped, counted, shared, metered]

/-- No control of the last pipe changes the treatment. -/
theorem reached_treatment (tables : Tables) (fresh : Headers) (s : EgressState) :
    treatment (reached tables fresh s) = treatment s := by
  have restored : treatment (restore fresh s) = treatment s := by
    have decapped (s : EgressState) : treatment (decapMetaDataI2E02 s) = treatment s := by
      unfold decapMetaDataI2E02
      split <;> rfl
    unfold restore
    split
    · rw [decapped]
      split <;> rfl
    · rfl
  rw [← restored, reached]
  split
  · unfold processGwEgress
    split
    · exact internetInProcess_treatment tables _
    · exact internetOut_treatment tables _
  · rfl

/-- A delivered tunnel packet has the treatment with which it came. -/
theorem directSend_of_bridge {tables : Tables} {around : Surroundings} {port : BitVec 9} {bgMd : BridgeMetadata}
    {t : TunnelPacket} (bridges : bgMd.Bridges etherTypeIpv4) (tunnels : t.Tunnels) {delivery : Delivery}
    (sent : (pass tables around port (BridgeMetadata.codec.encode bgMd ++ t.bits)).value = some delivery) :
    delivery.directSend = bgMd.tunnelDirectSend := by
  obtain ⟨parsed, accepted, carries⟩ := parse_tunnel around.containers bridges tunnels
  have original : parsed.metadata.mirror.flag = 0 := by
    rw [carries.mirror]
  have came : treatment (egressStart around port parsed) = bgMd.tunnelDirectSend :=
    congrArg (fun h : Header BridgeMetadata => h.fields.tunnelDirectSend) carries.bgMd
  rw [pass_value accepted original rfl] at sent
  split at sent
  · contradiction
  · rw [← Option.some.inj sent, ← came]
    exact reached_treatment tables around.fresh _

end P02Egress

namespace Passage

variable {a : Passage} {found : Form}

/-- The tunnel packet that meets the inbound redirection, freshly encapsulated or as it came -/
def entering (a : Passage) : Option TunnelPacket :=
  match a.form with
  | some .direct => a.frame.parcel.map fun parcel => wrap a.around.p13Egress.fresh parcel.etherType parcel
  | some .redirectedIn => a.frame.tunnel
  | _ => none

theorem entering_direct (known : a.form = some .direct) : ∃ parcel, a.frame.parcel = some parcel ∧
    parcel.etherType = a.frame.ethernet.etherType ∧
    a.entering = some (wrap a.around.p13Egress.fresh parcel.etherType parcel) := by
  obtain ⟨parcel, carried, family⟩ := Frame.exists_parcel a.fits a.etherType
  refine ⟨parcel, carried, family, ?_⟩
  rw [entering, known, carried]
  rfl

/-- The first internal pipe sends every inbound packet on, redirected or not. -/
theorem second_inbound (known : a.form = some found) (inward : found.inbound = true) {t : TunnelPacket}
    (entering : a.entering = some t) {bgMd : BridgeMetadata}
    (enters : bgMd.Enters a.frame.ethernet.etherType a.port found.dlPkt) (internalPort : BitVec 9) :
    ∃ own : BridgeMetadata, own.Inbound a.port ∧ own.tunnelDirectSend = matchPacket ∧ t.Tunnels ∧
      (P13Egress.pass a.tables a.around.p13Egress internalPort
        (BridgeMetadata.codec.encode bgMd ++ a.frame.body)).value =
          some ⟨internalPort, BridgeMetadata.codec.encode (own.police a.tables t) ++
            ((t.redirectIn a.tables own).getD t).bits, (own.police a.tables t).tunnelDirectSend⟩ := by
  obtain ⟨bridges, igrPort, matched, inbound, dlPkt⟩ := enters
  have kept (parcel : Parcel) : (bgMd.own parcel).tunnelDirectSend = matchPacket := by
    cases parcel <;> exact matched
  cases found with
  | firstHop => contradiction
  | redirectedOut => contradiction
  | direct =>
      obtain ⟨parcel, carried, family, same⟩ := entering_direct known
      obtain rfl := Option.some.inj (same.symm.trans entering)
      rw [← family] at bridges
      rw [Frame.body_of_parcel carried]
      exact ⟨P13Egress.enveloped bgMd parcel, igrPort ▸ P13Egress.enveloped_inbound bridges matched inbound,
        kept parcel, wrap_tunnels _ _,
        P13Egress.pass_direct a.tables a.around.p13Egress internalPort a.fits carried bridges dlPkt matched⟩
  | redirectedIn =>
      obtain ⟨t', carried, jd⟩ := exists_tunnel known (by decide)
      have same : a.entering = some t' := by
        rw [Passage.entering, known]
        exact carried
      obtain rfl := Option.some.inj (same.symm.trans entering)
      obtain ⟨_, _, tunnels, _, body, _⟩ := a.frame.tunnel_bears a.fits default carried
      rw [etherType_of_tunnel carried] at bridges
      rw [body]
      exact ⟨bgMd.own t'.parcel, igrPort ▸ P13Egress.own_inbound t'.parcel bridges matched inbound,
        kept t'.parcel, tunnels,
        P13Egress.pass_carried a.tables a.around.p13Egress internalPort bridges dlPkt matched tunnels
          (P13EgressParser.reads_of_jd (jd rfl))⟩

/-- An inbound packet leaves redirected as the tables choose, or with the addresses of its next hop. -/
theorem inbound_outcome (known : a.form = some found) (inward : found.inbound = true) {t : TunnelPacket}
    (entering : a.entering = some t) {delivery : Delivery} (sent : a.visit.value = some delivery) :
    ∃ own : BridgeMetadata,
      (∃ t', t.redirectIn a.tables own = some t' ∧ delivery.directSend = dlPacket ∧
        delivery.Bears (t'.stamp false)) ∨
      (t.redirectIn a.tables own = none ∧ delivery.directSend = matchPacket ∧ ∃ bridge : BridgeMetadata,
        delivery.Bears ((({ t with parcel := t.parcel.dnat a.tables } : TunnelPacket).deliver a.tables
          bridge).stamp t.parcel.isV4)) := by
  rcases first_inbound known inward with lost | ⟨internalPort, bgMd, inside, enters, first⟩
  · rw [visit, Dataplane.visit, Traced.bind, lost] at sent
    contradiction
  · obtain ⟨own, inbound, matched, tunnels, second⟩ := second_inbound known inward entering enters internalPort
    rw [visit, visit_looped inside first second] at sent
    obtain ⟨_, parcel, kept⟩ := t.redirectIn_kept a.tables own
    have onwards := inbound.police a.tables t
    have treatment : (own.police a.tables t).tunnelDirectSend =
        if (t.redirectIn a.tables own).isSome then dlPacket else matchPacket := by
      have entered (entry : Option EipInBwId) : (own.enter entry).tunnelDirectSend = own.tunnelDirectSend := by
        cases entry <;> rfl
      unfold BridgeMetadata.police
      dsimp only
      split
      · rfl
      · exact (entered _).trans matched
    refine ⟨own, ?_⟩
    generalize t.redirectIn a.tables own = found at sent treatment parcel kept ⊢
    cases found with
    | some t' =>
        obtain ⟨_, _, last⟩ := (onward_redirected onwards (kept tunnels) treatment delivery).mp sent
        obtain ⟨direct, bears⟩ := P02Egress.pass_redirected onwards.bridges (kept tunnels) treatment last
        exact .inl ⟨t', rfl, direct, bears⟩
    | none =>
        obtain ⟨direct, bears⟩ := onward_delivered onwards tunnels treatment sent
        exact .inr ⟨rfl, direct, bears⟩

/-- An outbound packet leaves redirected as the tables choose, or without its tunnel. -/
theorem outbound_outcome (known : a.form = some found) (outward : found.inbound = false) {t : TunnelPacket}
    (carried : a.frame.tunnel = some t) {delivery : Delivery} (sent : a.visit.value = some delivery) :
    ∃ before : BridgeMetadata,
      (∃ t', (t.snat a.tables).redirectOut a.tables before = some t' ∧ delivery.directSend = dlPacket ∧
        delivery.Bears (t'.stamp false)) ∨
      ((t.snat a.tables).redirectOut a.tables before = none ∧ delivery.directSend = matchPacket) := by
  obtain ⟨_, _, tunnels, _⟩ := a.frame.tunnel_bears a.fits default carried
  rcases first_outbound known outward carried with
    lost | ⟨externalPort, before, bgMd, outside, bridges, _, treatment, first⟩
  · rw [visit, Dataplane.visit, Traced.bind, lost] at sent
    contradiction
  · rw [visit, visit_outward outside first] at sent
    refine ⟨before, ?_⟩
    rcases (t.snat a.tables).redirectOut_cases a.tables before with missed | ⟨index, action, hit⟩
    · rw [missed] at sent treatment ⊢
      exact .inr ⟨rfl, (P02Egress.directSend_of_bridge bridges (tunnels.snat a.tables) sent).trans treatment⟩
    · rw [hit] at sent treatment ⊢
      obtain ⟨direct, bears⟩ := P02Egress.pass_redirected bridges
        ((tunnels.snat a.tables).rewrite (.outbound a.tables) index action) treatment sent
      exact .inl ⟨_, rfl, direct, bears⟩

end Passage

end IgwP4.Dataplane
