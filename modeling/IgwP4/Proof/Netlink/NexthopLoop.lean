/-
This file shows which next hops of a default route the loop of `process_route_msg` considers.
-/

import IgwP4.Construction.Netlink.NexthopLoop
import IgwP4.Proof.Netlink.RouteMessage

namespace IgwP4.Netlink
open Setup Structures

/-! The length of the list -/

/-- The walk over the next hops stops at the limit. -/
theorem processEcmp_length {answers : Answers} {memory : Memory} {attrlen : Nat} (fuel rnh : Nat)
    (gwList result : List (BitVec 32)) (room : gwList.length < maxGateway)
    (ended : processEcmp answers memory attrlen fuel rnh gwList = some result) : result.length ≤ maxGateway := by
  induction fuel generalizing rnh gwList with
  | zero => contradiction
  | succ fuel ih =>
      rw [processEcmp_succ] at ended
      dsimp only at ended
      split at ended
      · split at ended
        · split at ended
          · obtain rfl := Option.some.inj ended
            rw [List.length_append, List.length_singleton]
            exact room
          · rename_i spare
            exact ih _ _ (by omega) ended
        · exact ih _ _ room ended
      · obtain rfl := Option.some.inj ended
        exact room.le

theorem walkAttrs_length {answers : Answers} {memory : Memory} {fuel : Nat} (rounds attr attrlen : Nat)
    (start found : RouteAttrs) (short : start.gwList.length ≤ maxGateway)
    (ended : walkAttrs answers memory fuel rounds attr attrlen start = .ended found) :
    found.gwList.length ≤ maxGateway := by
  induction rounds generalizing attr attrlen start with
  | zero =>
      obtain rfl := Walk.ended.inj ended
      exact short
  | succ rounds ih =>
      rw [walkAttrs] at ended
      dsimp only at ended
      split at ended
      · split at ended
        · split at ended
          · contradiction
          · exact ih _ _ start short ended
        · split at ended
          · refine ih _ _ _ ?_ ended
            exact short
          · split at ended
            · split at ended
              · contradiction
              · rename_i gwList walked
                exact ih _ _ _ (processEcmp_length fuel _ [] gwList (by decide) walked) ended
            · exact ih _ _ start short ended
      · obtain rfl := Walk.ended.inj ended
        exact short

theorem gwListOf_eq_some_iff {answers : Answers} {fuel : Nat} {memory : Memory} {nlmsg : Nat}
    {gwList : List (BitVec 32)} :
    gwListOf answers fuel memory nlmsg = some gwList ↔ parseRouteMsg answers fuel memory nlmsg = .nexthops gwList := by
  rw [gwListOf]
  cases parseRouteMsg answers fuel memory nlmsg <;> simp

/-- A message yields at most as many gateways as the list has places. -/
theorem gwListOf_length {answers : Answers} {fuel : Nat} {memory : Memory} {nlmsg : Nat}
    {gwList : List (BitVec 32)} (built : gwListOf answers fuel memory nlmsg = some gwList) :
    gwList.length ≤ maxGateway := by
  rw [gwListOf_eq_some_iff] at built
  unfold parseRouteMsg at built
  dsimp only at built
  split at built
  · contradiction
  · split at built
    · contradiction
    · contradiction
    · rename_i found walked
      split at built
      · contradiction
      · split at built
        · contradiction
        · obtain rfl := RouteParse.nexthops.inj built
          split
          · exact walkAttrs_length _ _ _ _ found (Nat.zero_le _) walked
          · exact (by decide : 1 ≤ maxGateway)

/-! The loop -/

/-- The loop marks the gateways from its start on and reads only inside the list. -/
theorem markGateways_spec (table : GatewayTable) {gwList : List (BitVec 32)} (short : gwList.length ≤ maxGateway)
    (rounds : Nat) (l : NexthopLoop) (enough : gwList.length - l.i.toNat ≤ rounds) :
    (markGateways table gwList rounds l).marked =
        (gwList.drop l.i.toNat).foldl (markGateway table) l.marked ∧
      ¬ (markGateways table gwList rounds l).i < BitVec.ofNat 32 gwList.length ∧
      ∀ i ∈ (markGateways table gwList rounds l).visited, i ∈ l.visited ∨ i.toNat < gwList.length := by
  have nums : (BitVec.ofNat 32 gwList.length).toNat = gwList.length := by
    rw [BitVec.toNat_ofNat]
    exact Nat.mod_eq_of_lt (by dsimp only [maxGateway] at short; omega)
  induction rounds generalizing l with
  | zero =>
      rw [markGateways, List.drop_eq_nil_of_le (by omega), BitVec.lt_def, nums]
      exact ⟨rfl, by omega, fun i member => Or.inl member⟩
  | succ rounds ih =>
      rw [markGateways]
      by_cases inside : l.i < BitVec.ofNat 32 gwList.length
      · rw [if_pos inside]
        rw [BitVec.lt_def, nums] at inside
        have next : (l.i + 1).toNat = l.i.toNat + 1 := by
          rw [BitVec.toNat_add]
          exact Nat.mod_eq_of_lt (by dsimp only [maxGateway] at short; simp; omega)
        obtain ⟨marked, ends, visited⟩ := ih {
          i := l.i + 1
          marked := markGateway table l.marked (gwList.getD l.i.toNat 0)
          visited := l.visited ++ [l.i] } (by dsimp only; omega)
        refine ⟨?_, ends, ?_⟩
        · rw [marked, next, List.drop_eq_getElem_cons inside, List.foldl_cons,
            List.getD_eq_getElem?_getD, List.getElem?_eq_getElem inside, Option.getD_some]
        · intro i member
          rcases visited i member with earlier | bound
          · rcases List.mem_append.mp earlier with before | here
            · exact Or.inl before
            · rw [List.mem_singleton.mp here]
              exact Or.inr inside
          · exact Or.inr bound
      · rw [if_neg inside]
        refine ⟨?_, inside, fun i member => Or.inl member⟩
        rw [BitVec.lt_def, nums] at inside
        rw [List.drop_eq_nil_of_le (by omega), List.foldl_nil]

/-- The loop changes the next hops to the gateways from its first index on. -/
theorem changeNexthopsFrom_state (answers : Answers) (table : GatewayTable) {gwList : List (BitVec 32)}
    (short : gwList.length ≤ maxGateway) (i : BitVec 32) (s : RouteState) :
    (changeNexthopsFrom answers table gwList i s).state = changeNexthops answers table (gwList.drop i.toNat) s := by
  have marked := (markGateways_spec table short gwList.length
    ⟨i, ⟨initMembersState s, false, false⟩, []⟩ (Nat.sub_le _ _)).1
  exact congrArg (writeMarked answers) marked

/-- With a zero in the loop variable the call is the one of the other modules. -/
theorem processRouteMsgFrom_zero (answers : Answers) (table : GatewayTable) (fuel : Nat) (memory : Memory)
    (nlmsg : Nat) (type : BitVec 16) (s : RouteState) :
    (processRouteMsgFrom answers table fuel memory nlmsg type 0 s).map RouteRun.state =
      processRouteMsg answers table fuel memory nlmsg type s := by
  rw [processRouteMsgFrom, processRouteMsg]
  cases parsed : parseRouteMsg answers fuel memory nlmsg with
  | running => rfl
  | returned => rfl
  | nexthops gwList =>
      have short := gwListOf_length (gwListOf_eq_some_iff.mpr parsed)
      exact congrArg some (changeNexthopsFrom_state answers table short 0 s)

/-! The gateways that the loop considers -/

/-- The message names this list, and the handler goes on to the loop with it. -/
theorem processRouteMsgFrom_eq {answers : Answers} {fuel : Nat} {memory : Memory} {nlmsg : Nat}
    {gwList : List (BitVec 32)} (built : gwListOf answers fuel memory nlmsg = some gwList) (table : GatewayTable)
    (type : BitVec 16) (i : BitVec 32) (s : RouteState) :
    processRouteMsgFrom answers table fuel memory nlmsg type i s =
      some (changeNexthopsFrom answers table gwList i s) := by
  rw [processRouteMsgFrom, gwListOf_eq_some_iff.mp built]

theorem writtenStatus_eq (m : Marked) (group : SelectorGroup) :
    writtenStatus m group = if m.changed group then some (m.status group) else none := by
  cases group <;> rfl

/--
Every gateway with an entry has its member set in the array that is written to the group of its
pipe, and the list is read at its own indices.
-/
structure RouteRun.Considers (run : RouteRun) (table : GatewayTable) (gwList : List (BitVec 32)) : Prop where
  members : ∀ gwIp ∈ gwList, ∀ group index, Leads table group index gwIp →
    ∃ status, run.written group = some status ∧ status index = true
  inside : ∀ i ∈ run.visited, 0 ≤ i.toInt ∧ i.toInt < gwList.length

/-- A later gateway leads to each member to which a gateway in front of the index leads. -/
def Repeated (table : GatewayTable) (gwList : List (BitVec 32)) (i : BitVec 32) : Prop :=
  ∀ gwIp ∈ gwList.take i.toNat, ∀ group index, Leads table group index gwIp →
    ∃ later ∈ gwList.drop i.toNat, Leads table group index later

/-- The written arrays hold the members of the gateways from the index on. -/
theorem changeNexthopsFrom_written (answers : Answers) (table : GatewayTable) {gwList : List (BitVec 32)}
    (short : gwList.length ≤ maxGateway) (i : BitVec 32) (s : RouteState) (group : SelectorGroup)
    (index : Fin 16) :
    (∃ status, (changeNexthopsFrom answers table gwList i s).written group = some status ∧
        status index = true) ↔ ∃ gwIp ∈ gwList.drop i.toNat, Leads table group index gwIp := by
  have marked := (markGateways_spec table short gwList.length
    ⟨i, ⟨initMembersState s, false, false⟩, []⟩ (Nat.sub_le _ _)).1
  obtain ⟨_, changed, status⟩ :=
    foldl_markGateway table (gwList.drop i.toNat) ⟨initMembersState s, false, false⟩ group
  have clear : (Marked.mk (initMembersState s) false false).status group index = false := by
    cases group <;> rfl
  change (∃ status, writtenStatus (markGateways table gwList gwList.length
    ⟨i, ⟨initMembersState s, false, false⟩, []⟩).marked group = some status ∧ _) ↔ _
  rw [marked, writtenStatus_eq]
  constructor
  · rintro ⟨array, written, active⟩
    split at written
    · obtain rfl := Option.some.inj written
      have active := (status index).mp active
      rw [clear] at active
      exact active.resolve_left Bool.false_ne_true
    · contradiction
  · rintro ⟨gwIp, late, leads⟩
    have touched := changed.mpr (Or.inr ⟨gwIp, late, index, leads⟩)
    exact ⟨_, if_pos touched, (status index).mpr (Or.inr ⟨gwIp, late, leads⟩)⟩

/-- The handler considers every next hop exactly when the loop passes over none that it does not meet again. -/
theorem considers_iff (answers : Answers) (table : GatewayTable) (fuel : Nat) (memory : Memory) (nlmsg : Nat)
    (type : BitVec 16) (i : BitVec 32) (s : RouteState) (gwList : List (BitVec 32))
    (built : gwListOf answers fuel memory nlmsg = some gwList) :
    ∃ run, processRouteMsgFrom answers table fuel memory nlmsg type i s = some run ∧
      (run.Considers table gwList ↔ Repeated table gwList i) := by
  have short := gwListOf_length built
  refine ⟨_, processRouteMsgFrom_eq built table type i s, ?_⟩
  have visited := (markGateways_spec table short gwList.length
    ⟨i, ⟨initMembersState s, false, false⟩, []⟩ (Nat.sub_le _ _)).2.2
  constructor
  · intro considers gwIp early group index leads
    rw [← changeNexthopsFrom_written answers table short i s]
    exact considers.members gwIp (List.mem_of_mem_take early) group index leads
  · intro repeated
    refine ⟨fun gwIp member group index leads => ?_, fun index member => ?_⟩
    · rw [changeNexthopsFrom_written answers table short]
      rw [← List.take_append_drop i.toNat gwList] at member
      rcases List.mem_append.mp member with early | late
      · exact repeated gwIp early group index leads
      · exact ⟨gwIp, late, leads⟩
    · have bound := (visited index member).resolve_left List.not_mem_nil
      rw [BitVec.toInt_eq_toNat_of_lt (by dsimp only [maxGateway] at short; omega)]
      omega

/-- A default route over the single gateway 10.0.0.2 -/
def sampleRouteMemory : Memory := Memory.ofList [
  36, 0, 0, 0, 24, 0, 0, 0, 0, 0, 0, 0, 0, 0, 0, 0,
  2, 0, 0, 0, 254, 4, 0, 1, 0, 0, 0, 0,
  8, 0, 5, 0, 10, 0, 0, 2]

/-- The gateway 10.0.0.2 behind the first member of the group of pipe 0 -/
def sampleGatewayTable : GatewayTable := BucketTable.ofList gatewayKey GatewayEntry.gwIp [⟨0x0A000002, 0, 0, 0⟩]

def allUp : Answers := ⟨fun _ => true, fun _ => true⟩

theorem gwListOf_sample : gwListOf allUp 0 sampleRouteMemory 0 = some [0x0A000002] := by
  decide +kernel

/-- A default route over 10.0.0.2, 10.0.1.1 and 10.0.0.2 again -/
def repeatedRouteMemory : Memory := Memory.ofList [
  80, 0, 0, 0, 24, 0, 0, 0, 0, 0, 0, 0, 0, 0, 0, 0,
  2, 0, 0, 0, 254, 4, 0, 1, 0, 0, 0, 0,
  52, 0, 9, 0,
  16, 0, 0, 0, 7, 0, 0, 0, 8, 0, 5, 0, 10, 0, 0, 2,
  16, 0, 0, 0, 8, 0, 0, 0, 8, 0, 5, 0, 10, 0, 1, 1,
  16, 0, 0, 0, 9, 0, 0, 0, 8, 0, 5, 0, 10, 0, 0, 2]

/-- The second gateway is behind the first member of the group of pipe 2. -/
def pairGatewayTable : GatewayTable :=
  BucketTable.ofList gatewayKey GatewayEntry.gwIp [⟨0x0A000002, 0, 0, 0⟩, ⟨0x0A000101, 256, 2, 0⟩]

theorem gwListOf_repeated : gwListOf allUp 4 repeatedRouteMemory 0 = some [0x0A000002, 0x0A000101, 0x0A000002] := by
  decide +kernel

/-- With a one in the loop variable the first gateway is passed over and met again. -/
theorem considers_iff_sample : ∃ run,
    processRouteMsgFrom allUp pairGatewayTable 4 repeatedRouteMemory 0 rtmNewRoute 1 .initial = some run ∧
      run.Considers pairGatewayTable [0x0A000002, 0x0A000101, 0x0A000002] := by
  obtain ⟨run, ended, considers⟩ := considers_iff allUp pairGatewayTable 4 repeatedRouteMemory 0 rtmNewRoute 1
    .initial _ gwListOf_repeated
  refine ⟨run, ended, considers.mpr ?_⟩
  intro gwIp early group index leads
  obtain rfl : gwIp = 0x0A000002 := List.mem_singleton.mp early
  exact ⟨_, List.mem_cons_of_mem _ List.mem_cons_self, leads⟩

/-- With a one in the loop variable the only gateway of the route is lost. -/
theorem not_considers_one : ∃ run,
    gwListOf allUp 0 sampleRouteMemory 0 = some [0x0A000002] ∧
      processRouteMsgFrom allUp sampleGatewayTable 0 sampleRouteMemory 0 rtmNewRoute 1 .initial = some run ∧
      ¬ run.Considers sampleGatewayTable [0x0A000002] := by
  refine ⟨_, gwListOf_sample, processRouteMsgFrom_eq gwListOf_sample _ _ _ _, fun considers => ?_⟩
  obtain ⟨status, written, _⟩ := considers.members 0x0A000002 List.mem_cons_self .pipe0 0
    ⟨⟨0x0A000002, 0, 0, 0⟩, by decide, rfl, rfl⟩
  contradiction

end IgwP4.Netlink
