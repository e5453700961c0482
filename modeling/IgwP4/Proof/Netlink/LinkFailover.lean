/-
This file shows that a default route over several next hops leaves the dead links out, and when it cannot.
-/

import IgwP4.Proof.Netlink.ControlPlane

namespace IgwP4.Netlink
open Setup Structures

/-- The message is about an IPv4 default route. -/
def Datagram.AboutDefault (m : Datagram) : Prop :=
  (nlmsgType m.memory m.nlmsg = rtmNewRoute ∨ nlmsgType m.memory m.nlmsg = rtmDelRoute) ∧
    m.memory (m.nlmsg + 16) = afInet ∧ m.memory (m.nlmsg + 17) = 0

def ControlEvent.AboutDefault : ControlEvent → Prop
  | .message m => m.AboutDefault
  | _ => False

/-- A message about a default route over these next hops, whose interfaces lead to their gateways -/
structure Balances (kernel : Kernel) (hostifs : List SwitchHostif) (fuel : Nat) (past : List ControlEvent)
    (m : Datagram) (route : DefaultRoute) (hops : List Hop) : Prop where
  kind : nlmsgType m.memory m.nlmsg = rtmNewRoute ∨ nlmsgType m.memory m.nlmsg = rtmDelRoute
  stored : m.memory.Holds m.nlmsg (route.bytes (nlmsgType m.memory m.nlmsg))
  fits : route.length < 2 ^ 31
  via : ∃ fits, route.via = .multipath hops fits
  contained : route.Contained ⟨getIntfUp kernel (linkUp kernel hostifs past), m.accepts⟩ m.memory m.nlmsg
  enough : route.rounds ≤ fuel
  first : m.i = 0
  through : ∀ hop ∈ hops, ∀ hostif ∈ hostifs, hop.gateway = some hostif.gwIp →
    kernel.ifIndextoname hop.ifindex = some hostif.intfName

/-- The interface leads to one of the next hops and was told to be up. -/
def Stands (kernel : Kernel) (hostifs : List SwitchHostif) (past : List ControlEvent) (hops : List Hop)
    (hostif : SwitchHostif) : Prop :=
  (∃ hop ∈ hops, hop.gateway = some hostif.gwIp) ∧ linkUp kernel hostifs past hostif.intfName = true

/-- The member of the group is that of an interface that stands. -/
def Standing (kernel : Kernel) (hostifs : List SwitchHostif) (past : List ControlEvent) (hops : List Hop)
    (group : SelectorGroup) (index : Fin 16) : Prop :=
  ∃ hostif ∈ hostifs, hostif.devPort = group.port index ∧ Stands kernel hostifs past hops hostif

section

variable {kernel : Kernel} {hostifs : List SwitchHostif} {fuel : Nat} {past : List ControlEvent} {m : Datagram}

theorem gwListOf_of_other {answers : Answers} {memory : Memory} {nlmsg : Nat}
    (other : ¬ (memory (nlmsg + 16) = afInet ∧ memory (nlmsg + 17) = 0)) : gwListOf answers fuel memory nlmsg = none := by
  rw [gwListOf, parseRouteMsg]
  by_cases family : memory (nlmsg + 16) = afInet
  · have prefixed : memory (nlmsg + 17) ≠ 0 := fun none => other ⟨family, none⟩
    rw [if_neg (not_not.mpr family)]
    cases walkAttrs answers memory fuel (nlmsgAttrlen memory nlmsg) (nlmsg + 28) (nlmsgAttrlen memory nlmsg) {} with
    | running => rfl
    | returned => rfl
    | ended found =>
        dsimp only
        rw [if_pos prefixed]
  · rw [if_pos family]

/-- The group is governed by the list from before the events that are not about a default route. -/
theorem governing_append (group : SelectorGroup) (later : List ControlEvent)
    (quiet : ∀ event ∈ later, ¬ event.AboutDefault) :
    governing kernel hostifs fuel group (later ++ past) = governing kernel hostifs fuel group past := by
  induction later with
  | nil => rfl
  | cons event later ih =>
      have rest := ih fun other member => quiet other (List.mem_cons_of_mem _ member)
      have silent := quiet event List.mem_cons_self
      rw [List.cons_append]
      cases event with
      | portChange devPort up done => exact rest
      | adminChange intfName up => exact rest
      | message m =>
          have nothing : announced kernel hostifs fuel (later ++ past) m = none := by
            rw [announced]
            split
            · rename_i kind
              rw [gwListOf_of_other fun both => silent ⟨kind, both⟩]
              rfl
            · rfl
          rw [governing, nothing]
          exact rest

/-- A stored route announces the gateways that are up, unless there are none. -/
theorem announced_route {route : DefaultRoute}
    (kind : nlmsgType m.memory m.nlmsg = rtmNewRoute ∨ nlmsgType m.memory m.nlmsg = rtmDelRoute)
    (stored : m.memory.Holds m.nlmsg (route.bytes (nlmsgType m.memory m.nlmsg))) (fits : route.length < 2 ^ 31)
    (contained : route.Contained ⟨getIntfUp kernel (linkUp kernel hostifs past), m.accepts⟩ m.memory m.nlmsg)
    (enough : route.rounds ≤ fuel) (first : m.i = 0) : announced kernel hostifs fuel past m =
      if route.upGateways ⟨getIntfUp kernel (linkUp kernel hostifs past), m.accepts⟩ = [] then none
      else some (route.upGateways ⟨getIntfUp kernel (linkUp kernel hostifs past), m.accepts⟩) := by
  rw [announced, if_pos kind, first]
  generalize (⟨getIntfUp kernel (linkUp kernel hostifs past), m.accepts⟩ : Answers) = answers at contained ⊢
  rw [gwListOf, parseRouteMsg_route route fuel stored fits contained enough]
  by_cases none : route.upGateways answers = []
  · rw [if_pos none, if_pos none]
    rfl
  · rw [if_neg none, if_neg none]
    rfl

theorem mem_upGatewaysOf (answers : Answers) (hops : List Hop) (gwIp : BitVec 32) :
    gwIp ∈ upGatewaysOf answers hops ↔ ∃ hop ∈ hops, answers.intfUp hop.ifindex = true ∧ hop.gateway = some gwIp := by
  simp only [upGatewaysOf, List.mem_filterMap, Option.ite_none_right_eq_some]

namespace Balances

variable {route : DefaultRoute} {hops : List Hop}

theorem upGateways (balances : Balances kernel hostifs fuel past m route hops) :
    route.upGateways ⟨getIntfUp kernel (linkUp kernel hostifs past), m.accepts⟩ =
      upGatewaysOf ⟨getIntfUp kernel (linkUp kernel hostifs past), m.accepts⟩ hops := by
  obtain ⟨fits, via⟩ := balances.via
  rw [DefaultRoute.upGateways, via]

/-- The members of the gateways that are up are those of the interfaces that stand. -/
theorem serves_iff (balances : Balances kernel hostifs fuel past m route hops) (group : SelectorGroup) (index : Fin 16) :
    (∃ gwIp ∈ route.upGateways ⟨getIntfUp kernel (linkUp kernel hostifs past), m.accepts⟩,
      Serves (hostifs.map SwitchHostif.toHostif) group index gwIp) ↔
    Standing kernel hostifs past hops group index := by
  simp only [balances.upGateways, mem_upGatewaysOf]
  constructor
  · rintro ⟨_, ⟨hop, among, up, gateway⟩, _, served, rfl, port⟩
    obtain ⟨hostif, member, rfl⟩ := List.mem_map.mp served
    have name := balances.through hop among hostif member gateway
    dsimp only [getIntfUp] at up
    rw [name] at up
    exact ⟨hostif, member, port, ⟨hop, among, gateway⟩, up⟩
  · rintro ⟨hostif, member, port, ⟨hop, among, gateway⟩, up⟩
    have name := balances.through hop among hostif member gateway
    refine ⟨hostif.gwIp, ⟨hop, among, ?_, gateway⟩, hostif.toHostif, List.mem_map_of_mem member, rfl, port⟩
    dsimp only [getIntfUp]
    rw [name]
    exact up

/-- The route governs a group when some member of the group stands, and else the list before it does. -/
theorem governing (balances : Balances kernel hostifs fuel past m route hops) {group : SelectorGroup}
    (accepted : m.accepts group = true) :
    ((∃ member, Standing kernel hostifs past hops group member) →
      Netlink.governing kernel hostifs fuel group (.message m :: past) =
        route.upGateways ⟨getIntfUp kernel (linkUp kernel hostifs past), m.accepts⟩) ∧
    ((∀ member, ¬ Standing kernel hostifs past hops group member) →
      Netlink.governing kernel hostifs fuel group (.message m :: past) =
        Netlink.governing kernel hostifs fuel group past) := by
  have list := announced_route balances.kind balances.stored balances.fits balances.contained balances.enough
    balances.first
  rw [Netlink.governing, list]
  constructor
  · rintro ⟨member, standing⟩
    obtain ⟨gwIp, among, serves⟩ := (balances.serves_iff group member).mpr standing
    rw [if_neg fun empty => List.not_mem_nil (empty ▸ among)]
    exact if_pos ⟨accepted, gwIp, among, member, serves⟩
  · intro fallen
    by_cases empty : route.upGateways ⟨getIntfUp kernel (linkUp kernel hostifs past), m.accepts⟩ = []
    · rw [if_pos empty]
    · rw [if_neg empty]
      refine if_neg ?_
      rintro ⟨_, gwIp, among, member, serves⟩
      exact fallen member ((balances.serves_iff group member).mp ⟨gwIp, among, serves⟩)

end Balances

end

variable {kernel : Kernel} {hostifs : List SwitchHostif} {fuel : Nat} {past later : List ControlEvent} {m : Datagram}
  {tables : ControlTables} {start s : ControlState} {route : DefaultRoute} {hops : List Hop}

/--
Behind a default route over several next hops a group has the interfaces that were up when it came. With none
of them up it keeps the members of the route before.
-/
theorem Starts.failsOver (starts : Starts kernel hostifs tables start)
    (reached : Reaches (controlStep kernel tables fuel) start (later ++ .message m :: past) s)
    (quiet : ∀ event ∈ later, ¬ event.AboutDefault) (balances : Balances kernel hostifs fuel past m route hops)
    {group : SelectorGroup} (inside : external group) (accepted : m.accepts group = true) :
    ((∃ member, Standing kernel hostifs past hops group member) → ∀ index,
      s.routes.hardware group index = true ↔ Standing kernel hostifs past hops group index) ∧
    ((∀ member, ¬ Standing kernel hostifs past hops group member) → ∀ index,
      s.routes.hardware group index = true ↔ ∃ gwIp ∈ governing kernel hostifs fuel group past,
        Serves (hostifs.map SwitchHostif.toHostif) group index gwIp) := by
  have follows : Follows kernel hostifs fuel (later ++ .message m :: past) s :=
    reached.invariant starts.built.2.2 fun _ _ _ _ follows stepped => starts.step follows stepped
  have groups := follows.routes.groups group inside
  rw [governing_append group later quiet] at groups
  constructor
  · intro standing index
    rw [groups, (balances.governing accepted).1 standing]
    exact balances.serves_iff group index
  · intro fallen index
    rw [groups, (balances.governing accepted).2 fallen]

/-! A route over both interfaces while the second is down -/

def pairHops : List Hop := [hopBy 7 0x0A000002, hopBy 8 0x0A000101]

def pairRoute : DefaultRoute := routeOver pairHops (by decide)

def pairMessage : Datagram := pairDatagram (.ofList (pairRoute.bytes rtmNewRoute))

def pairDown : List ControlEvent := [.portChange 256 false true]

theorem pair_balances : Balances pairKernel pairHostifs 3 pairDown pairMessage pairRoute pairHops where
  kind := .inl (by decide +kernel)
  stored := by
    have type : nlmsgType pairMessage.memory pairMessage.nlmsg = rtmNewRoute := by decide +kernel
    rw [type]
    exact Memory.holds_ofList _
  fits := by decide
  via := ⟨_, rfl⟩
  contained := by
    refine ⟨fun hop member => ?_, by decide +kernel, by decide +kernel⟩
    rcases List.mem_pair.mp member with rfl | rfl <;> exact ⟨_, [], rfl, .inl ⟨rfl, by decide⟩⟩
  enough := by decide
  first := rfl
  through := by decide +kernel

theorem failsOver_pair : ∃ tables start s, startControl pairKernel pairHostifs = some (tables, start) ∧
    Reaches (controlStep pairKernel tables 3) start
      ([.portChange 0 false true] ++ .message pairMessage :: pairDown) s ∧
    ∀ index, s.routes.hardware .pipe0 index = true ↔ Standing pairKernel pairHostifs pairDown pairHops .pipe0 index := by
  obtain ⟨tables, start, started⟩ : ∃ tables start, startControl pairKernel pairHostifs = some (tables, start) :=
    ⟨_, _, rfl⟩
  have ends : ((startControl pairKernel pairHostifs).bind fun begun =>
      (.portChange 0 false true :: .message pairMessage :: pairDown).foldr
        (fun event before => before.bind (controlStep pairKernel begun.1 3 · event)) (some begun.2)).isSome := by
    decide +kernel
  rw [started] at ends
  obtain ⟨s, computed⟩ := Option.isSome_iff_exists.mp ends
  have reached := Reaches.iff_foldr.mpr computed
  have quiet : ∀ event ∈ [ControlEvent.portChange 0 false true], ¬ event.AboutDefault := by
    intro event member
    rw [List.mem_singleton.mp member]
    exact id
  have standing : Standing pairKernel pairHostifs pairDown pairHops .pipe0 0 :=
    ⟨_, List.mem_cons_self, rfl, ⟨_, List.mem_cons_self, by decide⟩, by decide +kernel⟩
  have inside : external .pipe0 := trivial
  exact ⟨tables, start, s, started, reached,
    ((pair_starts started).failsOver reached quiet pair_balances inside rfl).1 ⟨0, standing⟩⟩

end IgwP4.Netlink
