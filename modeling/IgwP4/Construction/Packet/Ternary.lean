/-
This file gives ternary match tables whose smallest priority number wins.
-/

import Mathlib.Data.BitVec

namespace IgwP4.Packet

/-- A ternary field compares the bits under its mask. -/
structure Ternary (width : Nat) where
  value : BitVec width
  mask : BitVec width
deriving DecidableEq

namespace Ternary

variable {width : Nat}

/-- A zeroed key field compares nothing. -/
def any : Ternary width := ⟨0, 0⟩

/-- A full mask compares every bit. -/
def exactly (value : BitVec width) : Ternary width := ⟨value, BitVec.allOnes width⟩

def hits (field : Ternary width) (key : BitVec width) : Bool :=
  key &&& field.mask == field.value &&& field.mask

@[simp] theorem hits_any (key : BitVec width) : (any : Ternary width).hits key = true := by
  simp [hits, any]

@[simp] theorem hits_exactly (value key : BitVec width) :
    (exactly value).hits key = (key == value) := by
  simp [hits, exactly]

/-- A mask of one compares the lowest bit. -/
@[simp] theorem hits_one_one (key : BitVec width) (filled : 0 < width) :
    (mk (BitVec.ofNat width 1) (BitVec.ofNat width 1)).hits key = key.getLsbD 0 := by
  rw [hits, Bool.eq_iff_iff, beq_iff_eq, BitVec.and_self]
  constructor
  · intro same
    simpa [filled] using congrArg (BitVec.getLsbD · 0) same
  · intro set
    apply BitVec.eq_of_getLsbD_eq
    intro index inside
    by_cases lowest : index = 0
    · simp [lowest, set, filled]
    · simp [BitVec.getLsbD_one, lowest]

@[simp] theorem hits_zero_one (key : BitVec width) (filled : 0 < width) :
    (mk (BitVec.ofNat width 0) (BitVec.ofNat width 1)).hits key = !key.getLsbD 0 := by
  rw [hits, Bool.eq_iff_iff, beq_iff_eq, BitVec.zero_and]
  constructor
  · intro same
    simpa [filled] using congrArg (BitVec.getLsbD · 0) same
  · intro clear
    apply BitVec.eq_of_getLsbD_eq
    intro index inside
    by_cases lowest : index = 0
    · simpa [lowest, filled.ne'] using clear
    · simp [BitVec.getLsbD_one, lowest]

end Ternary

/-- An entry pairs a priority and a match with the action it selects. -/
structure TernaryEntry (Key Action : Type) where
  priority : Nat
  hits : Key → Bool
  action : Action

/-- The table is the list of its installed entries. -/
abbrev TernaryTable (Key Action : Type) := List (TernaryEntry Key Action)

namespace TernaryTable

variable {Key Action : Type}

/-- An entry wins when it matches and no matching entry has a smaller priority number. -/
def Wins (table : TernaryTable Key Action) (key : Key) (entry : TernaryEntry Key Action) : Prop :=
  entry ∈ table ∧ entry.hits key = true ∧
    ∀ other ∈ table, other.hits key = true → entry.priority ≤ other.priority

/-- The better of two candidates is the one with the smaller priority number. -/
def better (first : TernaryEntry Key Action) :
    Option (TernaryEntry Key Action) → TernaryEntry Key Action
  | none => first
  | some second => if first.priority ≤ second.priority then first else second

/-- The best matching entry, found from the end of the list. -/
def best (key : Key) : TernaryTable Key Action → Option (TernaryEntry Key Action)
  | [] => none
  | entry :: rest => if entry.hits key then some (better entry (best key rest)) else best key rest

def lookup (table : TernaryTable Key Action) (key : Key) : Option Action :=
  (best key table).map TernaryEntry.action

theorem best_eq_none_iff (table : TernaryTable Key Action) (key : Key) :
    best key table = none ↔ ∀ entry ∈ table, entry.hits key = false := by
  induction table with
  | nil => simp [best]
  | cons entry rest ih =>
      cases hit : entry.hits key
      · simp [best, hit, ih]
      · simp [best, hit]

/-- The best entry wins. -/
theorem wins_of_best {table : TernaryTable Key Action} {key : Key}
    {entry : TernaryEntry Key Action} (found : best key table = some entry) :
    Wins table key entry := by
  induction table generalizing entry with
  | nil => simp [best] at found
  | cons first rest ih =>
      cases hit : first.hits key
      · have inside : best key rest = some entry := by simpa [best, hit] using found
        obtain ⟨member, matched, least⟩ := ih inside
        refine ⟨List.mem_cons_of_mem _ member, matched, ?_⟩
        intro other among othersHit
        rcases List.mem_cons.mp among with rfl | among
        · rw [hit] at othersHit
          contradiction
        · exact least other among othersHit
      · have chosen : better first (best key rest) = entry := by simpa [best, hit] using found
        cases tail : best key rest with
        | none =>
            have empty := (best_eq_none_iff rest key).mp tail
            rw [tail] at chosen
            subst chosen
            refine ⟨List.mem_cons_self, hit, ?_⟩
            intro other among othersHit
            rcases List.mem_cons.mp among with rfl | among
            · exact Nat.le_refl _
            · rw [empty other among] at othersHit
              contradiction
        | some second =>
            obtain ⟨member, matched, least⟩ := ih tail
            rw [tail] at chosen
            by_cases order : first.priority ≤ second.priority
            · have same : first = entry := by simpa [better, order] using chosen
              subst same
              refine ⟨List.mem_cons_self, hit, ?_⟩
              intro other among othersHit
              rcases List.mem_cons.mp among with rfl | among
              · exact Nat.le_refl _
              · exact Nat.le_trans order (least other among othersHit)
            · have same : second = entry := by simpa [better, order] using chosen
              subst same
              refine ⟨List.mem_cons_of_mem _ member, matched, ?_⟩
              intro other among othersHit
              rcases List.mem_cons.mp among with rfl | among
              · omega
              · exact least other among othersHit

/-- A lookup hits exactly when some entry wins. -/
theorem lookup_eq_none_iff (table : TernaryTable Key Action) (key : Key) :
    table.lookup key = none ↔ ∀ entry ∈ table, entry.hits key = false := by
  rw [lookup, Option.map_eq_none_iff, best_eq_none_iff]

/-- Some entry of this priority and this action matches. -/
def Matches (table : TernaryTable Key Action) (key : Key) (priority : Nat) (action : Action) : Prop :=
  ∃ entry ∈ table, entry.hits key = true ∧ entry.priority = priority ∧ entry.action = action

@[simp] theorem matches_nil (key : Key) (priority : Nat) (action : Action) :
    ¬ Matches [] key priority action := by
  simp [Matches]

@[simp] theorem matches_append (first second : TernaryTable Key Action) (key : Key) (priority : Nat)
    (action : Action) :
    Matches (first ++ second) key priority action ↔
      Matches first key priority action ∨ Matches second key priority action := by
  simp [Matches, or_and_right, exists_or]

@[simp] theorem matches_cons (entry : TernaryEntry Key Action) (rest : TernaryTable Key Action) (key : Key)
    (priority : Nat) (action : Action) :
    Matches (entry :: rest) key priority action ↔
      (entry.hits key = true ∧ entry.priority = priority ∧ entry.action = action) ∨
        Matches rest key priority action := by
  simp [Matches]

/-- A key that no entry matches misses. -/
theorem lookup_of_no_match {table : TernaryTable Key Action} {key : Key}
    (unmatched : ∀ priority action, ¬ Matches table key priority action) : table.lookup key = none := by
  rw [lookup_eq_none_iff]
  intro entry member
  by_contra hit
  exact unmatched _ _ ⟨entry, member, by simpa using hit, rfl, rfl⟩

/-- An action wins when every match with another action has a larger priority number. -/
structure Decides (table : TernaryTable Key Action) (key : Key) (action : Action) : Prop where
  some_wins : ∃ entry, table.Wins key entry
  winners_agree : ∀ entry, table.Wins key entry → entry.action = action

theorem decides_of_matches {table : TernaryTable Key Action} {key : Key} {priority : Nat}
    {action : Action} (found : table.Matches key priority action)
    (dominates : ∀ other action', table.Matches key other action' →
      priority < other ∨ (priority = other ∧ action = action')) : table.Decides key action := by
  obtain ⟨entry, member, matched, rfl, rfl⟩ := found
  constructor
  · refine ⟨entry, member, matched, ?_⟩
    intro other among othersHit
    rcases dominates _ _ ⟨other, among, othersHit, rfl, rfl⟩ with less | ⟨same, _⟩
    · exact Nat.le_of_lt less
    · exact Nat.le_of_eq same
  · intro winner wins
    obtain ⟨among, winnersHit, least⟩ := wins
    rcases dominates _ _ ⟨winner, among, winnersHit, rfl, rfl⟩ with less | ⟨_, agrees⟩
    · exact absurd (least entry member matched) (Nat.not_le_of_lt less)
    · exact agrees.symm

/-- When the winners agree on the action, the lookup returns it whichever winner is taken. -/
theorem Decides.lookup {table : TernaryTable Key Action} {key : Key} {action : Action}
    (decided : table.Decides key action) : table.lookup key = some action := by
  obtain ⟨witness, member, matched, _⟩ := decided.some_wins
  cases found : best key table with
  | none =>
      have empty := (best_eq_none_iff table key).mp found
      rw [empty witness member] at matched
      contradiction
  | some entry =>
      rw [TernaryTable.lookup, found, Option.map_some,
        decided.winners_agree entry (wins_of_best found)]

/-- The winners depend only on which entries a table holds. -/
theorem wins_congr {first second : TernaryTable Key Action} (same : ∀ entry, entry ∈ first ↔ entry ∈ second)
    (key : Key) (entry : TernaryEntry Key Action) : first.Wins key entry ↔ second.Wins key entry := by
  simp only [Wins, same]

/-- Tables with the same entries answer alike when their winners agree. -/
theorem lookup_congr {first second : TernaryTable Key Action} (same : ∀ entry, entry ∈ first ↔ entry ∈ second)
    {key : Key} (agree : ∀ one two, second.Wins key one → second.Wins key two → one.action = two.action) :
    first.lookup key = second.lookup key := by
  cases found : best key first with
  | none =>
      have missed := (best_eq_none_iff first key).mp found
      have empty : second.lookup key = none :=
        (lookup_eq_none_iff second key).mpr fun entry member => missed entry ((same entry).mpr member)
      rw [lookup, found, empty, Option.map_none]
  | some one =>
      have wins := (wins_congr same key one).mp (wins_of_best found)
      cases other : best key second with
      | none =>
          have missed := (best_eq_none_iff second key).mp other one wins.1
          rw [wins.2.1] at missed
          contradiction
      | some two =>
          rw [lookup, lookup, found, other, Option.map_some, Option.map_some,
            agree one two wins (wins_of_best other)]

end TernaryTable

end IgwP4.Packet
