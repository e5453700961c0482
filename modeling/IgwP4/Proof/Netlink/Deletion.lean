/-
This file shows when the deletion of a default route activates no member and leaves none behind.
-/

import IgwP4.Proof.Netlink.Convergence

namespace IgwP4.Netlink
open Setup

/-- Some gateway of the list belongs to the member. -/
def NamesMember (hostifs : List Hostif) (gwList : List (BitVec 32)) (group : SelectorGroup)
    (index : Fin 16) : Prop :=
  ∃ gwIp ∈ gwList, Serves hostifs group index gwIp

/-- A default route that remains installed names the member. -/
def StillNamed (hostifs : List Hostif) (others : List DefaultRoute) (group : SelectorGroup)
    (index : Fin 16) : Prop :=
  ∃ other ∈ others, NamesMember hostifs other.gateways group index

/--
A deletion is harmless when it activates no member and leaves no member of the deleted route active
that no other route names.
-/
structure Harmless (hostifs : List Hostif) (route : DefaultRoute) (others : List DefaultRoute)
    (s s' : RouteState) : Prop where
  activates_none : ∀ group, external group → ∀ index, s.hardware group index = false →
    s'.hardware group index = false
  leaves_none : ∀ group, external group → ∀ index, NamesMember hostifs route.gateways group index →
    s'.hardware group index = true → StillNamed hostifs others group index

/--
In a group that the message sets, each member that it names and that is up was active and is still
named. In any other group, each member that it names is inactive or still named.
-/
structure Removable (hostifs : List Hostif) (others : List DefaultRoute) (a : Announcement)
    (s : RouteState) : Prop where
  written : ∀ group, external group → a.answers.accepts group = true →
    ∀ index, NamesMember hostifs a.upGateways group index →
      s.hardware group index = true ∧ StillNamed hostifs others group index
  kept : ∀ group, external group →
    ¬ (a.answers.accepts group = true ∧ Names hostifs a.upGateways group) →
    ∀ index, NamesMember hostifs a.route.gateways group index → s.hardware group index = true →
      StillNamed hostifs others group index

theorem upGateways_subset (a : Announcement) : ∀ gwIp ∈ a.upGateways, gwIp ∈ a.route.gateways := by
  intro gwIp among
  unfold Announcement.upGateways DefaultRoute.upGateways upGatewaysOf at among
  unfold DefaultRoute.gateways
  cases via : a.route.via with
  | gateway only =>
      rw [via] at among
      exact among
  | multipath hops fits =>
      rw [via] at among
      obtain ⟨hop, member, found⟩ := List.mem_filterMap.mp among
      refine List.mem_filterMap.mpr ⟨hop, member, ?_⟩
      split at found
      · exact found
      · contradiction

/-- A handled message is a harmless deletion exactly when its route is removable. -/
theorem harmless_iff {hostifs : List Hostif} {a : Announcement} {s s' : RouteState}
    (sets : Sets hostifs a s s') (others : List DefaultRoute) :
    Harmless hostifs a.route others s s' ↔ Removable hostifs others a s := by
  constructor
  · intro harmless
    constructor
    · rintro group inside accepted index ⟨gwIp, among, serves⟩
      have after := (sets.written group inside accepted ⟨gwIp, among, index, serves⟩ index).mpr
        ⟨gwIp, among, serves⟩
      constructor
      · by_contra inactive
        rw [harmless.activates_none group inside index (Bool.eq_false_iff.mpr inactive)] at after
        contradiction
      · exact harmless.leaves_none group inside index
          ⟨gwIp, upGateways_subset a gwIp among, serves⟩ after
    · intro group inside untouched index named active
      rw [← sets.kept group inside untouched index] at active
      exact harmless.leaves_none group inside index named active
  · intro removable
    constructor
    · intro group inside index inactive
      by_cases touched : a.answers.accepts group = true ∧ Names hostifs a.upGateways group
      · by_contra after
        have named := (sets.written group inside touched.1 touched.2 index).mp (by simpa using after)
        rw [(removable.written group inside touched.1 index named).1] at inactive
        contradiction
      · rw [sets.kept group inside touched index]
        exact inactive
    · intro group inside index named after
      by_cases touched : a.answers.accepts group = true ∧ Names hostifs a.upGateways group
      · have up := (sets.written group inside touched.1 touched.2 index).mp after
        exact (removable.written group inside touched.1 index up).2
      · rw [sets.kept group inside touched index] at after
        exact removable.kept group inside touched index named after

/-- A message with the default routes that remain installed behind it -/
structure Notice where
  announcement : Announcement
  others : List DefaultRoute

/-- The handler ends on every message of the run, and every deletion in it is harmless. -/
def HarmlessRun (hostifs : List Hostif) (table : GatewayTable) (fuel : Nat) :
    List Notice → RouteState → Prop
  | [], _ => True
  | notice :: rest, s => ∃ s', notice.announcement.handle table fuel s = some s' ∧
      (notice.announcement.type = rtmDelRoute →
        Harmless hostifs notice.announcement.route notice.others s s') ∧
      HarmlessRun hostifs table fuel rest s'

/-- The route of every deletion in the run is removable in the state that the deletion finds. -/
def RemovableRun (hostifs : List Hostif) (table : GatewayTable) (fuel : Nat) :
    List Notice → RouteState → Prop
  | [], _ => True
  | notice :: rest, s =>
      (notice.announcement.type = rtmDelRoute →
        Removable hostifs notice.others notice.announcement s) ∧
      ∀ s', notice.announcement.handle table fuel s = some s' → RemovableRun hostifs table fuel rest s'

/--
From every state the deletions of a run are harmless exactly when their routes are removable, since
the handler treats a deletion as an addition.
-/
theorem harmlessRun_iff {hostifs : List Hostif} {table : GatewayTable}
    (built : hostifArrayToGateways hostifs = some table) (distinct : (hostifs.map Hostif.gwIp).Nodup)
    (fuel : Nat) (notices : List Notice) (contained : ∀ notice ∈ notices, notice.announcement.Contained)
    (enough : ∀ notice ∈ notices, notice.announcement.route.rounds ≤ fuel) (s : RouteState) :
    HarmlessRun hostifs table fuel notices s ↔ RemovableRun hostifs table fuel notices s := by
  induction notices generalizing s with
  | nil => exact Iff.rfl
  | cons notice rest ih =>
      obtain ⟨s', handled, sets⟩ := handle_sets built distinct notice.announcement
        (contained notice List.mem_cons_self) fuel (enough notice List.mem_cons_self) s
      have step := harmless_iff sets notice.others
      have behind := ih (fun other among => contained other (List.mem_cons_of_mem _ among))
        (fun other among => enough other (List.mem_cons_of_mem _ among)) s'
      constructor
      · rintro ⟨reached, handledTo, harmless, run⟩
        obtain rfl := Option.some.inj (handled.symm.trans handledTo)
        refine ⟨fun deletes => step.mp (harmless deletes), ?_⟩
        intro other handledOther
        obtain rfl := Option.some.inj (handled.symm.trans handledOther)
        exact behind.mp run
      · rintro ⟨removable, run⟩
        exact ⟨s', handled, fun deletes => step.mpr (removable deletes), behind.mpr (run s' handled)⟩

/-! Deletions of the route through the first interface -/

def delRouteBy (gwIp : BitVec 32) : Announcement :=
  .ofRoute willing rtmDelRoute (routeBy gwIp) (.inr rfl) (routeBy_fits gwIp)

/-- The deletion of a route by a gateway that another route still names is harmless. -/
theorem harmlessRun_still_named : HarmlessRun twoHostifs twoGateways 0
    [⟨newRouteBy 0x0a000001, []⟩, ⟨delRouteBy 0x0a000001, [routeBy 0x0a000001]⟩] .initial := by
  refine (harmlessRun_iff twoGateways_built (by decide) 0 _ ?_ ?_ .initial).mpr ?_
  · intro notice among
    rcases List.mem_pair.mp among with rfl | rfl <;> trivial
  · intro notice among
    rcases List.mem_pair.mp among with rfl | rfl <;> exact Nat.le_refl 0
  · refine ⟨fun deletes => absurd deletes (by decide), ?_⟩
    intro s handled
    refine ⟨fun _ => ?_, fun _ _ => trivial⟩
    obtain ⟨reached, handledTo, sets⟩ := handle_sets twoGateways_built (by decide)
      (newRouteBy 0x0a000001) trivial 0 (Nat.le_refl 0) .initial
    obtain rfl := Option.some.inj (handled.symm.trans handledTo)
    constructor
    · rintro group inside accepted index ⟨gwIp, among, serves⟩
      exact ⟨(sets.written group inside accepted ⟨gwIp, among, index, serves⟩ index).mpr
        ⟨gwIp, among, serves⟩, routeBy 0x0a000001, List.mem_cons_self, gwIp, among, serves⟩
    · rintro group inside untouched index ⟨gwIp, among, serves⟩ active
      exact ⟨routeBy 0x0a000001, List.mem_cons_self, gwIp, among, serves⟩

/-- The deletion of a route activates its member when the member is inactive. -/
theorem not_harmlessRun_inactive : ¬ ∃ fuel, HarmlessRun twoHostifs twoGateways fuel
    [⟨delRouteBy 0x0a000001, []⟩] .initial := by
  rintro ⟨fuel, s', handled, harmless, _⟩
  obtain ⟨reached, handledTo, sets⟩ := handle_sets twoGateways_built (by decide)
    (delRouteBy 0x0a000001) trivial fuel (Nat.zero_le _) .initial
  obtain rfl := Option.some.inj (handled.symm.trans handledTo)
  have removable := (harmless_iff sets []).mp (harmless rfl)
  have named : NamesMember twoHostifs (delRouteBy 0x0a000001).upGateways .pipe0 0 :=
    ⟨0x0a000001, List.mem_singleton.mpr rfl, _, List.mem_cons_self, rfl, rfl⟩
  exact absurd (removable.written .pipe0 trivial rfl 0 named).1 (by decide)

end IgwP4.Netlink
