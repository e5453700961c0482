/-
This file shows when the active members follow the announced default routes.
-/

import IgwP4.Proof.Netlink.RouteMessage

namespace IgwP4.Netlink
open Memory Setup Structures

/-- A message about a default route, as it lies in the receive buffer -/
structure Announcement where
  answers : Answers
  memory : Memory
  nlmsg : Nat
  type : BitVec 16
  route : DefaultRoute
  kind : type = rtmNewRoute ∨ type = rtmDelRoute
  stored : memory.Holds nlmsg (route.bytes type)
  fits : nlmsg + route.length ≤ bufSize

namespace Announcement

def handle (a : Announcement) (table : GatewayTable) (fuel : Nat) (s : RouteState) : Option RouteState :=
  processNetlinkMessage a.answers table fuel a.memory a.nlmsg s

/-- The gateways of the next hops that are up when the message is handled -/
def upGateways (a : Announcement) : List (BitVec 32) := a.route.upGateways a.answers

def Contained (a : Announcement) : Prop := a.route.Contained a.answers a.memory a.nlmsg

/-- The message of a route on its own in the buffer -/
def ofRoute (answers : Answers) (type : BitVec 16) (route : DefaultRoute)
    (kind : type = rtmNewRoute ∨ type = rtmDelRoute) (fits : route.length ≤ bufSize) : Announcement where
  answers := answers
  memory := ofList (route.bytes type)
  nlmsg := 0
  type := type
  route := route
  kind := kind
  stored := holds_ofList _
  fits := by omega

end Announcement

/-- Some gateway of the list belongs to a member of the group. -/
def Names (hostifs : List Hostif) (gwList : List (BitVec 32)) (group : SelectorGroup) : Prop :=
  ∃ gwIp ∈ gwList, ∃ index, Serves hostifs group index gwIp

/-- A group that the message names and the driver accepts is set, and any other group stays. -/
structure Sets (hostifs : List Hostif) (a : Announcement) (s s' : RouteState) : Prop where
  written : ∀ group, external group → a.answers.accepts group = true →
    Names hostifs a.upGateways group → ∀ index, s'.hardware group index = true ↔
      ∃ gwIp ∈ a.upGateways, Serves hostifs group index gwIp
  kept : ∀ group, external group →
    ¬ (a.answers.accepts group = true ∧ Names hostifs a.upGateways group) →
    ∀ index, s'.hardware group index = s.hardware group index

section
variable {hostifs : List Hostif} {table : GatewayTable}
variable (built : hostifArrayToGateways hostifs = some table)
variable (distinct : (hostifs.map Hostif.gwIp).Nodup)

include built distinct

/-- The handler ends on a contained message and sets the groups that it names. -/
theorem handle_sets (a : Announcement) (contained : a.Contained) (fuel : Nat)
    (enough : a.route.rounds ≤ fuel) (s : RouteState) :
    ∃ s', a.handle table fuel s = some s' ∧ Sets hostifs a s s' := by
  have fits := a.fits
  have sizes : bufSize = 8192 := rfl
  refine ⟨_, processNetlinkMessage_route table a.route fuel s a.kind a.stored (by omega) contained
    enough, ?_⟩
  have touches (group : SelectorGroup) (inside : external group) :
      Touches table a.upGateways group ↔ Names hostifs a.upGateways group := by
    simp only [Touches, Names, leads_iff built distinct group _ _ inside]
  change Sets hostifs a s (if a.upGateways = [] then s else changeNexthops a.answers table a.upGateways s)
  split
  · rename_i none
    constructor
    · rintro group _ _ ⟨gwIp, among, _⟩
      rw [none] at among
      exact absurd among (by simp)
    · intro group _ _ index
      rfl
  · constructor
    · intro group inside accepted names index
      have set := (changeNexthops_hardware a.answers table a.upGateways s group index).1
        ⟨accepted, (touches group inside).mpr names⟩
      simpa only [leads_iff built distinct group _ _ inside] using set
    · intro group inside unnamed index
      exact (changeNexthops_hardware a.answers table a.upGateways s group index).2
        fun touched => unnamed ⟨touched.1, (touches group inside).mp touched.2⟩

end

/-! The convergence of the active members -/

/-- The active members of the two groups are those of the gateways in the list. -/
def ActiveExactly (hostifs : List Hostif) (gwList : List (BitVec 32)) (s : RouteState) : Prop :=
  ∀ group, external group → ∀ index, s.hardware group index = true ↔
    ∃ gwIp ∈ gwList, Serves hostifs group index gwIp

/-- The handler ends on every message, and the active members are then those of its gateways. -/
def Converges (hostifs : List Hostif) (table : GatewayTable) (fuel : Nat) :
    List Announcement → RouteState → Prop
  | [], _ => True
  | a :: rest, s => ∃ s', a.handle table fuel s = some s' ∧ ActiveExactly hostifs a.upGateways s' ∧
      Converges hostifs table fuel rest s'

/-- Each message names an up gateway in every pipe in which the message before it named one. -/
def Steady (hostifs : List Hostif) : List (BitVec 32) → List Announcement → Prop
  | _, [] => True
  | previous, a :: rest =>
      (∀ group, external group → Names hostifs previous group → Names hostifs a.upGateways group) ∧
        Steady hostifs a.upGateways rest

theorem activeExactly_initial (hostifs : List Hostif) : ActiveExactly hostifs [] .initial := by
  intro group inside index
  cases group with
  | pipe0 => simp [RouteState.initial, initialStatus]
  | pipe2 => simp [RouteState.initial, initialStatus]
  | pipe1 => exact absurd inside id
  | pipe3 => exact absurd inside id

/-- One message keeps the active members exact when it names a gateway in each pipe with active ones. -/
theorem activeExactly_step {hostifs : List Hostif} {previous : List (BitVec 32)} {a : Announcement}
    {s s' : RouteState} (accepted : ∀ group, a.answers.accepts group = true)
    (exact : ActiveExactly hostifs previous s) (sets : Sets hostifs a s s') :
    ActiveExactly hostifs a.upGateways s' ↔ ∀ group, external group →
      Names hostifs previous group → Names hostifs a.upGateways group := by
  constructor
  · rintro after group inside ⟨gwIp, among, index, serves⟩
    by_contra unnamed
    have active := (exact group inside index).mpr ⟨gwIp, among, serves⟩
    rw [← sets.kept group inside (fun both => unnamed both.2) index] at active
    obtain ⟨named, amongUp, servesUp⟩ := (after group inside index).mp active
    exact unnamed ⟨named, amongUp, index, servesUp⟩
  · intro steady group inside index
    by_cases names : Names hostifs a.upGateways group
    · exact sets.written group inside (accepted group) names index
    · rw [sets.kept group inside (fun both => names both.2) index, exact group inside index]
      constructor
      · rintro ⟨gwIp, among, serves⟩
        exact absurd (steady group inside ⟨gwIp, among, index, serves⟩) names
      · rintro ⟨gwIp, among, serves⟩
        exact absurd ⟨gwIp, among, index, serves⟩ names

theorem converges_of_exact {hostifs : List Hostif} {table : GatewayTable}
    (built : hostifArrayToGateways hostifs = some table) (distinct : (hostifs.map Hostif.gwIp).Nodup)
    (fuel : Nat) (announcements : List Announcement)
    (contained : ∀ a ∈ announcements, a.Contained)
    (accepted : ∀ a ∈ announcements, ∀ group, a.answers.accepts group = true)
    (enough : ∀ a ∈ announcements, a.route.rounds ≤ fuel) (previous : List (BitVec 32)) (s : RouteState)
    (exact : ActiveExactly hostifs previous s) :
    Converges hostifs table fuel announcements s ↔ Steady hostifs previous announcements := by
  induction announcements generalizing previous s with
  | nil => exact Iff.rfl
  | cons a rest ih =>
      obtain ⟨s', handled, sets⟩ := handle_sets built distinct a (contained a List.mem_cons_self) fuel
        (enough a List.mem_cons_self) s
      have step := activeExactly_step (accepted a List.mem_cons_self) exact sets
      have behind (after : ActiveExactly hostifs a.upGateways s') := ih
        (fun other among => contained other (List.mem_cons_of_mem _ among))
        (fun other among => accepted other (List.mem_cons_of_mem _ among))
        (fun other among => enough other (List.mem_cons_of_mem _ among)) a.upGateways s' after
      constructor
      · rintro ⟨reached, handledTo, after, converges⟩
        obtain rfl := Option.some.inj (handled.symm.trans handledTo)
        exact ⟨step.mp after, (behind after).mp converges⟩
      · rintro ⟨names, steady⟩
        have after := step.mpr names
        exact ⟨s', handled, after, (behind after).mpr steady⟩

/--
From the initial groups the active members follow every new default route exactly when each message
names an up gateway in every pipe in which the message before it named one.
-/
theorem converges_iff_steady {hostifs : List Hostif} {table : GatewayTable}
    (built : hostifArrayToGateways hostifs = some table) (distinct : (hostifs.map Hostif.gwIp).Nodup)
    (fuel : Nat) (announcements : List Announcement)
    (contained : ∀ a ∈ announcements, a.Contained)
    (accepted : ∀ a ∈ announcements, ∀ group, a.answers.accepts group = true)
    (enough : ∀ a ∈ announcements, a.route.rounds ≤ fuel) :
    Converges hostifs table fuel announcements .initial ↔ Steady hostifs [] announcements :=
  converges_of_exact built distinct fuel announcements contained accepted enough [] .initial
    (activeExactly_initial hostifs)

/-! Two interfaces, one in each external pipe -/

def twoHostifs : List Hostif := [
  ⟨0, 0x0a000001, 0, false, 0, 0, 0, 0⟩,
  ⟨256, 0x0a000101, 0, false, 0, 0, 0, 0⟩]

/-- The default route by a single gateway -/
def routeBy (gwIp : BitVec 32) : DefaultRoute where
  sequence := List.replicate 10 0
  sequence_length := rfl
  fields := List.replicate 10 0
  fields_length := rfl
  before := []
  via := .gateway gwIp
  after := []
  before_inert := by simp
  after_inert := by simp

/-- The kernel reports all interfaces as up, and the driver accepts all writes. -/
def willing : Answers := ⟨fun _ => true, fun _ => true⟩

theorem routeBy_length (gwIp : BitVec 32) : (routeBy gwIp).length = 36 := rfl

theorem routeBy_fits (gwIp : BitVec 32) : (routeBy gwIp).length ≤ bufSize := by
  rw [routeBy_length]
  decide

def newRouteBy (gwIp : BitVec 32) : Announcement :=
  .ofRoute willing rtmNewRoute (routeBy gwIp) (.inl rfl) (routeBy_fits gwIp)

def twoGateways : GatewayTable :=
  BucketTable.ofList gatewayKey GatewayEntry.gwIp [⟨0x0a000001, 0, 0, 0⟩, ⟨0x0a000101, 256, 2, 0⟩]

theorem twoGateways_built : hostifArrayToGateways twoHostifs = some twoGateways := rfl

def hopBy (ifindex gwIp : BitVec 32) : Hop :=
  ⟨0, 0, ifindex, [(Via.gateway gwIp).attribute]⟩

/-- The default route over several next hops -/
def routeOver (hops : List Hop) (fits : 4 + (hopsBytes hops).length < 2 ^ 16) : DefaultRoute :=
  { routeBy 0 with via := .multipath hops fits }

def newRouteOver (hops : List Hop) (fits : 4 + (hopsBytes hops).length < 2 ^ 16)
    (short : (routeOver hops fits).length ≤ bufSize) : Announcement :=
  .ofRoute willing rtmNewRoute (routeOver hops fits) (.inl rfl) short

def bothHops : List Hop := [hopBy 7 0x0a000001, hopBy 8 0x0a000101]

/-- A route over one gateway, then over both, and over both again in the other order -/
def widening : List Announcement := [newRouteBy 0x0a000001, newRouteOver bothHops (by decide) (by decide),
  newRouteOver bothHops.reverse (by decide) (by decide)]

/-- The active members follow a route that grows. -/
theorem converges_widening : Converges twoHostifs twoGateways 3 widening .initial := by
  have first : ∀ hop ∈ bothHops, hop.GatewayFirst := by
    intro hop member
    rcases List.mem_pair.mp member with rfl | rfl <;> exact ⟨_, [], rfl, .inl ⟨rfl, by decide⟩⟩
  refine (converges_iff_steady twoGateways_built (by decide) 3 _ ?_ ?_ ?_).mpr ?_
  · intro a among
    simp only [widening, List.mem_cons, List.not_mem_nil, or_false] at among
    rcases among with rfl | rfl | rfl
    · trivial
    · exact ⟨first, by decide, by decide +kernel⟩
    · exact ⟨fun hop member => first hop (List.mem_reverse.mp member), by decide, by decide +kernel⟩
  · intro a among group
    simp only [widening, List.mem_cons, List.not_mem_nil, or_false] at among
    rcases among with rfl | rfl | rfl <;> rfl
  · intro a among
    simp only [widening, List.mem_cons, List.not_mem_nil, or_false] at among
    rcases among with rfl | rfl | rfl <;> decide
  · refine ⟨?_, ?_, ?_, trivial⟩
    · rintro group _ ⟨_, among, _⟩
      exact absurd among (by simp)
    · rintro group _ ⟨gwIp, among, index⟩
      obtain rfl : gwIp = 0x0a000001 := List.mem_singleton.mp among
      exact ⟨_, List.mem_cons_self, index⟩
    · rintro group _ ⟨gwIp, among, index⟩
      exact ⟨gwIp, List.mem_reverse.mpr among, index⟩

/-- A route through the other pipe leaves the member of the route before it active. -/
theorem not_converges_other_pipe : ¬ ∃ fuel,
    Converges twoHostifs twoGateways fuel [newRouteBy 0x0a000001, newRouteBy 0x0a000101] .initial := by
  rintro ⟨fuel, converges⟩
  rw [converges_of_exact twoGateways_built (by decide) fuel _ ?_ ?_ ?_ [] .initial
    (activeExactly_initial twoHostifs)] at converges
  · obtain ⟨_, steady, _⟩ := converges
    have named : Names twoHostifs (newRouteBy 0x0a000001).upGateways .pipe0 :=
      ⟨0x0a000001, List.mem_singleton.mpr rfl, 0, _, List.mem_cons_self, rfl, rfl⟩
    obtain ⟨gwIp, among, index, hostif, member, address, port⟩ := steady .pipe0 trivial named
    obtain rfl : gwIp = 0x0a000101 := List.mem_singleton.mp among
    rcases List.mem_pair.mp member with rfl | rfl
    · exact absurd address (by decide)
    · revert index
      decide
  · intro a among
    rcases List.mem_pair.mp among with rfl | rfl <;> trivial
  · intro a among group
    rcases List.mem_pair.mp among with rfl | rfl <;> rfl
  · intro a among
    rcases List.mem_pair.mp among with rfl | rfl <;> exact Nat.zero_le _

end IgwP4.Netlink
