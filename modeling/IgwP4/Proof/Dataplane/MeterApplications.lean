/-
This file shows that a gateway meters the address of a packet once, unless it redirects the packet.
-/

import IgwP4.Proof.Dataplane.ByteAccounting
import IgwP4.Proof.Dataplane.Decapsulations

namespace IgwP4.Dataplane
open Packet Setup

/-- Each direction has one meter for the single addresses. -/
def Site.metersAddress : Site → Bool
  | .eipInMeter | .eipOutMeter => true
  | _ => false

/-- How often these events apply the meter of an address -/
def applications (events : List Event) : Nat := events.countP fun event => event.site.metersAddress

@[simp] theorem applications_nil : applications [] = 0 := rfl

@[simp] theorem applications_append (first second : List Event) :
    applications (first ++ second) = applications first + applications second :=
  List.countP_append

@[simp] theorem applications_cons (event : Event) (events : List Event) :
    applications (event :: events) = (if event.site.metersAddress then 1 else 0) + applications events := by
  rw [applications, List.countP_cons, Nat.add_comm]
  rfl

theorem applications_of_none {events : List Event} (none : ∀ event ∈ events, event.site.metersAddress = false) :
    applications events = 0 := by
  apply List.countP_eq_zero.mpr
  intro event member
  rw [none event member]
  exact Bool.false_ne_true

/-- Neither ingress has such a meter. -/
theorem applications_ingress {gress : Gress} (ingress : gress = .p02Ingress ∨ gress = .p13Ingress)
    {outbound : Bool} {events : List Event} (own : ∀ event ∈ events, event.Of gress outbound) :
    applications events = 0 := by
  apply applications_of_none
  intro event member
  have here := (own event member).gress
  generalize event.site = site at here
  rcases ingress with rfl | rfl <;> cases site <;> first | rfl | contradiction

/-- The last egress has only the meter of the outbound addresses. -/
theorem applications_unmetered {outbound : Bool} {events : List Event}
    (own : ∀ event ∈ events, event.Of .p02Egress outbound) (unmetered : P02Egress.Unmetered events) :
    applications events = 0 := by
  apply applications_of_none
  intro event member
  have here := (own event member).gress
  have other := unmetered event member
  generalize event.site = site at here other
  cases site <;> first | rfl | contradiction

theorem applications_inbound {events : List Event} (own : ∀ event ∈ events, event.Of .p02Egress false) :
    applications events = 0 := by
  apply applications_unmetered own
  intro event member meter
  exact absurd ((own event member).outbound (by rw [meter]; rfl)) Bool.false_ne_true

/-! The first internal pipe -/

theorem applications_meterings (tables : Tables) (bgMd : BridgeMetadata) (t : TunnelPacket) :
    applications (P13Egress.meterings tables bgMd t) = if (t.redirectIn tables bgMd).isSome then 0 else 1 := by
  rw [P13Egress.meterings]
  split <;> rfl

namespace Passage

variable {a : Passage} {found : Form}

/-- The first internal pipe meters every inbound packet that it does not redirect. -/
theorem second_applications (known : a.form = some found) (inward : found.inbound = true) {t : TunnelPacket}
    (entering : a.entering = some t) {bgMd : BridgeMetadata}
    (enters : bgMd.Enters a.frame.ethernet.etherType a.port found.dlPkt) (internalPort : BitVec 9) :
    ∃ own : BridgeMetadata, applications (P13Egress.pass a.tables a.around.p13Egress internalPort
      (BridgeMetadata.codec.encode bgMd ++ a.frame.body)).events =
        if (t.redirectIn a.tables own).isSome then 0 else 1 := by
  obtain ⟨bridges, _, matched, inbound, dlPkt⟩ := enters
  cases found with
  | firstHop => contradiction
  | redirectedOut => contradiction
  | direct =>
      obtain ⟨parcel, carried, family, same⟩ := entering_direct known
      obtain rfl := Option.some.inj (same.symm.trans entering)
      rw [← family] at bridges
      rw [Frame.body_of_parcel carried]
      obtain ⟨parsed, accepted, reads⟩ :=
        P13EgressParser.parse_parcel a.around.p13Egress.containers a.fits carried bridges dlPkt
      obtain ⟨_, _, events⟩ := P13Egress.apply_direct a.tables a.around.p13Egress.fresh a.around.p13Egress
        internalPort reads dlPkt matched
      refine ⟨P13Egress.enveloped bgMd parcel, ?_⟩
      rw [P13Egress.pass, egressPass, accepted, ← bridges.outerEthernetType]
      exact (congrArg applications events).trans (applications_meterings _ _ _)
  | redirectedIn =>
      obtain ⟨t', carried, jd⟩ := exists_tunnel known (by decide)
      have same : a.entering = some t' := by
        rw [Passage.entering, known]
        exact carried
      obtain rfl := Option.some.inj (same.symm.trans entering)
      obtain ⟨_, _, tunnels, _, body, _⟩ := a.frame.tunnel_bears a.fits default carried
      rw [etherType_of_tunnel carried] at bridges
      rw [body]
      obtain ⟨parsed, accepted, carries⟩ := P13EgressParser.parse_tunnel a.around.p13Egress.containers bridges dlPkt
        tunnels (P13EgressParser.reads_of_jd (jd rfl))
      obtain ⟨_, _, events⟩ := P13Egress.apply_carried a.tables a.around.p13Egress.fresh a.around.p13Egress
        internalPort carries matched
      refine ⟨bgMd.own t'.parcel, ?_⟩
      rw [P13Egress.pass, egressPass, accepted]
      exact (congrArg applications events).trans (applications_meterings _ _ _)

end Passage

/-! The last pipe -/

namespace P02Egress

/-- The controls behind the processing apply no meter. -/
theorem apply_appends (tables : Tables) (fresh : Headers) {s : EgressState}
    (original : s.metadata.mirror.flag = 0) :
    ∃ after, (apply tables fresh s).events = (reached tables fresh s).events ++ after ∧ Unmetered after := by
  rw [apply_eq tables fresh s original]
  generalize reached tables fresh s = r
  have closed (t : EgressState) : (unbridged t).events = t.events := by
    unfold unbridged
    split <;> rfl
  have opened (t : EgressState) : (addressed tables t).events = t.events := by
    unfold addressed rewriteOuterMac
    split
    · split <;> rfl
    · rfl
  have counted (t : EgressState) : ∃ after, (egressPortStats t).events = t.events ++ after ∧ Unmetered after := by
    unfold egressPortStats
    split
    · exact ⟨_, rfl, unmetered_one (by decide) _ _⟩
    · exact ⟨[], (List.append_nil _).symm, unmetered_nil⟩
  have listed : ∃ after, (egressSystemAcl tables r).events = r.events ++ after ∧ Unmetered after := by
    unfold egressSystemAcl
    split
    · dsimp only
      split <;> exact ⟨_, rfl, unmetered_one (by decide) _ _⟩
    · exact ⟨[], (List.append_nil _).symm, unmetered_nil⟩
  obtain ⟨first, acl, one⟩ := listed
  obtain ⟨second, port, two⟩ := counted (egressSystemAcl tables r)
  refine ⟨first ++ second, ?_, one.append two⟩
  rw [leave, closed, opened, port, acl, List.append_assoc]

/-- A redirected packet passes without a meter. -/
theorem redirected_applications (tables : Tables) (around : Surroundings) (port : BitVec 9) {bgMd : BridgeMetadata}
    {t : TunnelPacket} (bridges : bgMd.Bridges etherTypeIpv4) (tunnels : t.Tunnels)
    (redirected : bgMd.tunnelDirectSend = dlPacket) :
    applications (pass tables around port (BridgeMetadata.codec.encode bgMd ++ t.bits)).events = 0 := by
  have own := pass_events_bridged tables around port bridges tunnels
  obtain ⟨parsed, accepted, carries⟩ := parse_tunnel around.containers bridges tunnels
  have original : (egressStart around port parsed).metadata.mirror.flag = 0 :=
    congrArg MirrorMetadata.flag carries.mirror
  obtain ⟨l3, restores⟩ := restore_carried around.fresh (s := egressStart around port parsed) carries.bgMd
    carries.ethernet bridges.outerEthernetInvalid carries.bears.inner
  obtain ⟨after, events, unmetered⟩ := apply_appends tables around.fresh original
  have treated : (restore around.fresh (egressStart around port parsed)).hdr.bgMd.fields.tunnelDirectSend =
      dlPacket := by
    have stands := restore_stands around.fresh around port carries bridges.outerEthernetInvalid
    rw [stands.bgMd]
    exact redirected
  have quiet : (reached tables around.fresh (egressStart around port parsed)).events = [] := by
    rw [reached, if_neg (by rw [treated]; decide), restores]
    rfl
  apply applications_unmetered own
  rw [pass, egressPass, accepted]
  change Unmetered (apply tables around.fresh (egressStart around port parsed)).events
  rw [events, quiet]
  exact unmetered

/-- An outbound packet that stays at the gateway meets the meter of its address once. -/
theorem outbound_applications (tables : Tables) (around : Surroundings) (port : BitVec 9) {bgMd : BridgeMetadata}
    {t : TunnelPacket} (bridges : bgMd.Bridges etherTypeIpv4) (tunnels : t.Tunnels)
    (matched : bgMd.tunnelDirectSend = matchPacket) (outbound : bgMd.igrTunnelType ≠ typeIngressInternetIn) :
    applications (pass tables around port (BridgeMetadata.codec.encode bgMd ++ t.bits)).events = 1 := by
  have own := pass_events_bridged tables around port bridges tunnels
  obtain ⟨parsed, accepted, carries⟩ := parse_tunnel around.containers bridges tunnels
  have original : (egressStart around port parsed).metadata.mirror.flag = 0 :=
    congrArg MirrorMetadata.flag carries.mirror
  obtain ⟨_, key, first, _, _, _, metered, one⟩ :=
    reached_outbound tables around.fresh around port carries bridges matched outbound
  obtain ⟨second, events, two⟩ := apply_appends tables around.fresh original
  have sent : (pass tables around port (BridgeMetadata.codec.encode bgMd ++ t.bits)).events =
      ⟨.eipOutMeter, key, 0⟩ :: (first ++ second) := by
    rw [pass, egressPass, accepted]
    change (apply tables around.fresh (egressStart around port parsed)).events = _
    rw [events, metered]
    rfl
  rw [sent] at own ⊢
  rw [applications_cons, applications_unmetered (List.forall_mem_of_forall_mem_cons own) (one.append two)]
  rfl

end P02Egress

/-! A visit -/

namespace Passage

variable {a : Passage} {found : Form}

def applications (a : Passage) : Nat := Dataplane.applications a.visit.events

theorem applications_stages (a : Passage) :
    a.applications = (a.stages.map fun stage => Dataplane.applications stage.2).sum := by
  rw [applications, visit, ← stages_events, Passage.stages]
  generalize Dataplane.stages a.tables a.around a.port a.frame.bits = stages
  induction stages with
  | nil => rfl
  | cons stage rest ih => rw [List.flatMap_cons, applications_append, ih, List.map_cons, List.sum_cons]

/-- The redirection that the tables choose for the packet -/
def choice (a : Passage) (found : Form) : Option (BitVec 32 × ModifyJdVxlanAction) :=
  if found.inbound then a.entering.bind fun t => t.choiceIn a.gateway.cfg a.tables
  else a.frame.tunnel.bind fun t => (t.snat a.tables).choiceOut a.gateway.cfg a.tables

theorem exists_entering (known : a.form = some found) (inward : found.inbound = true) :
    ∃ t, a.entering = some t := by
  cases found with
  | firstHop => contradiction
  | redirectedOut => contradiction
  | direct =>
      obtain ⟨_, _, _, entering⟩ := entering_direct known
      exact ⟨_, entering⟩
  | redirectedIn =>
      obtain ⟨t, carried, _⟩ := exists_tunnel known (by decide)
      refine ⟨t, ?_⟩
      rw [entering, known]
      exact carried

theorem inbound_applications (redirects : Redirects a.gateway.cfg a.tables) (known : a.form = some found)
    (inward : found.inbound = true) : (a.visit.value = none ∧ a.applications = 0) ∨
      a.applications = if (a.choice found).isSome then 0 else 1 := by
  have opening := applications_ingress (.inl rfl)
    (P02Ingress.pass_events a.tables a.around.p02Ingress a.port a.frame.bits)
  obtain ⟨t, entering⟩ := exists_entering known inward
  rcases first_inbound known inward with lost | ⟨internalPort, bgMd, inside, enters, first⟩
  · refine .inl ⟨?_, ?_⟩
    · rw [visit, Dataplane.visit, Traced.bind, lost]
    · rw [applications, visit, Dataplane.visit, Traced.bind, lost]
      exact opening
  · refine .inr ?_
    obtain ⟨own, metered⟩ := second_applications known inward entering enters internalPort
    obtain ⟨own', inbound, _, tunnels, second⟩ := second_inbound known inward entering enters internalPort
    obtain ⟨_, _, kept⟩ := t.redirectIn_kept a.tables own'
    have chosen : (t.redirectIn a.tables own).isSome = (a.choice found).isSome := by
      rw [TunnelPacket.redirectIn_eq redirects, Option.isSome_map, choice, if_pos inward, entering]
      rfl
    rw [chosen] at metered
    rw [← metered, applications_stages, stages, Dataplane.stages]
    dsimp only
    rw [first]
    dsimp only
    rw [if_pos inside, second]
    dsimp only
    simp only [List.map_cons, List.sum_cons]
    rw [opening, applications_ingress (.inr rfl) (P13Ingress.pass_events _ _ _ _)]
    cases returned : (P13Ingress.pass a.tables a.around.p13Ingress internalPort (BridgeMetadata.codec.encode
        (own'.police a.tables t) ++ ((t.redirectIn a.tables own').getD t).bits)).value with
    | none => simp only [List.map_nil, List.sum_nil, Nat.zero_add, Nat.add_zero]
    | some back =>
        obtain ⟨bridge, t', shape, bridges, type, tunnels'⟩ :=
          P13Ingress.pass_inbound (inbound.police a.tables t) (kept tunnels) returned
        dsimp only
        split
        · simp only [List.map_nil, List.sum_nil, Nat.zero_add, Nat.add_zero]
        · have events := P02Egress.pass_events_bridged a.tables a.around.p02Egress back.1 bridges tunnels'
          rw [type] at events
          rw [shape, List.map_singleton, List.sum_singleton, applications_inbound events]
          simp only [Nat.zero_add, Nat.add_zero]

theorem outbound_applications (redirects : Redirects a.gateway.cfg a.tables) (known : a.form = some found)
    (outward : found.inbound = false) : (a.visit.value = none ∧ a.applications = 0) ∨
      a.applications = if (a.choice found).isSome then 0 else 1 := by
  have opening := applications_ingress (.inl rfl)
    (P02Ingress.pass_events a.tables a.around.p02Ingress a.port a.frame.bits)
  obtain ⟨t, carried, _⟩ := exists_tunnel known (by rintro rfl; contradiction)
  obtain ⟨_, _, tunnels, _⟩ := a.frame.tunnel_bears a.fits default carried
  rcases first_outbound known outward carried with
    lost | ⟨externalPort, before, bgMd, outside, bridges, type, treatment, first⟩
  · refine .inl ⟨?_, ?_⟩
    · rw [visit, Dataplane.visit, Traced.bind, lost]
    · rw [applications, visit, Dataplane.visit, Traced.bind, lost]
      exact opening
  · refine .inr ?_
    have chosen : ((t.snat a.tables).redirectOut a.tables before).isSome = (a.choice found).isSome := by
      rw [TunnelPacket.redirectOut_eq redirects, Option.isSome_map, choice, if_neg (by rw [outward]; decide), carried]
      rfl
    have inner : Dataplane.applications (P02Egress.pass a.tables a.around.p02Egress externalPort
        (BridgeMetadata.codec.encode bgMd ++
          (((t.snat a.tables).redirectOut a.tables before).getD (t.snat a.tables)).bits)).events =
        if ((t.snat a.tables).redirectOut a.tables before).isSome then 0 else 1 := by
      rcases (t.snat a.tables).redirectOut_cases a.tables before with missed | ⟨index, action, hit⟩
      · rw [missed] at treatment ⊢
        exact P02Egress.outbound_applications a.tables a.around.p02Egress externalPort bridges (tunnels.snat a.tables)
          treatment (by rw [type]; decide)
      · rw [hit] at treatment ⊢
        exact P02Egress.redirected_applications a.tables a.around.p02Egress externalPort bridges
          ((tunnels.snat a.tables).rewrite (.outbound a.tables) index action) treatment
    rw [← chosen, ← inner, applications_stages, stages, Dataplane.stages]
    dsimp only
    rw [first]
    dsimp only
    rw [if_neg (by rw [outside]; exact Bool.false_ne_true), List.map_cons, List.map_singleton, List.sum_cons,
      List.sum_singleton, opening, Nat.zero_add]

/-- A gateway meters the address once, unless it redirects the packet or drops it before. -/
theorem applications_eq (redirects : Redirects a.gateway.cfg a.tables) (known : a.form = some found) :
    (a.visit.value = none ∧ a.applications = 0) ∨
      a.applications = if (a.choice found).isSome then 0 else 1 := by
  cases direction : found.inbound with
  | true => exact inbound_applications redirects known direction
  | false => exact outbound_applications redirects known direction

/-- The tables of the redirection of the form -/
def redirection (a : Passage) (found : Form) : TunnelPacket.Redirection :=
  if found.inbound then .inbound a.tables else .outbound a.tables

/-- The tunnel packet that meets the redirection -/
def presented (a : Passage) (found : Form) : Option TunnelPacket :=
  if found.inbound then a.entering else a.frame.tunnel.map (TunnelPacket.snat a.tables)

/-- A packet leaves redirected as the tables choose, or stays at the gateway. -/
theorem outcome (redirects : Redirects a.gateway.cfg a.tables) (known : a.form = some found) {delivery : Delivery}
    (sent : a.visit.value = some delivery) :
    (∃ t index action, a.presented found = some t ∧ a.choice found = some (index, action) ∧
      delivery.directSend = dlPacket ∧ delivery.Bears ((t.rewrite (a.redirection found) index action).stamp false)) ∨
    (a.choice found = none ∧ delivery.directSend = matchPacket) := by
  cases direction : found.inbound with
  | true =>
      obtain ⟨t, entering⟩ := exists_entering known direction
      have chosen : a.choice found = t.choiceIn a.gateway.cfg a.tables := by
        rw [choice, if_pos direction, entering]
        rfl
      rw [presented, redirection, if_pos direction, if_pos direction, entering, chosen]
      obtain ⟨own, ⟨t', redirected, treated, bears⟩ | ⟨kept, treated, _⟩⟩ :=
        inbound_outcome known direction entering sent
      · rw [TunnelPacket.redirectIn_eq redirects] at redirected
        obtain ⟨⟨index, action⟩, choice, rfl⟩ := Option.map_eq_some_iff.mp redirected
        exact .inl ⟨t, index, action, rfl, choice, treated, bears⟩
      · rw [TunnelPacket.redirectIn_eq redirects] at kept
        exact .inr ⟨Option.map_eq_none_iff.mp kept, treated⟩
  | false =>
      obtain ⟨t, carried, _⟩ := exists_tunnel known (by rintro rfl; contradiction)
      have outward : ¬ found.inbound = true := by
        rw [direction]
        decide
      have chosen : a.choice found = (t.snat a.tables).choiceOut a.gateway.cfg a.tables := by
        rw [choice, if_neg outward, carried]
        rfl
      rw [presented, redirection, if_neg outward, if_neg outward, carried, chosen]
      obtain ⟨before, ⟨t', redirected, treated, bears⟩ | ⟨kept, treated⟩⟩ :=
        outbound_outcome known direction carried sent
      · rw [TunnelPacket.redirectOut_eq redirects] at redirected
        obtain ⟨⟨index, action⟩, choice, rfl⟩ := Option.map_eq_some_iff.mp redirected
        exact .inl ⟨_, index, action, rfl, choice, treated, bears⟩
      · rw [TunnelPacket.redirectOut_eq redirects] at kept
        exact .inr ⟨Option.map_eq_none_iff.mp kept, treated⟩

end Passage

end IgwP4.Dataplane
