/-
This file gives match tables of a limited size that hold each key once.
-/

import Mathlib.Data.Finset.Dedup
import Mathlib.Data.Finset.Card

namespace IgwP4.Packet

/-- A table holds each key once, and no more entries than its declared size. -/
structure KeyedTable (Key Data : Type) (size : Nat) where
  entries : List (Key × Data)
  distinct : (entries.map Prod.fst).Nodup
  fits : entries.length ≤ size

namespace KeyedTable

variable {Key Data : Type} {size : Nat}

def keys (table : KeyedTable Key Data size) : List Key := table.entries.map Prod.fst

def empty : KeyedTable Key Data size := ⟨[], List.nodup_nil, Nat.zero_le size⟩

/-- The entries with the data of one key replaced -/
def replaced [DecidableEq Key] (key : Key) (data : Data) (entry : Key × Data) : Key × Data :=
  if entry.1 = key then (key, data) else entry

@[simp] theorem fst_replaced [DecidableEq Key] (key : Key) (data : Data) (entry : Key × Data) :
    (replaced key data entry).1 = entry.1 := by
  unfold replaced
  split
  · rename_i same
    exact same.symm
  · rfl

theorem keys_replaced [DecidableEq Key] (key : Key) (data : Data) (entries : List (Key × Data)) :
    (entries.map (replaced key data)).map Prod.fst = entries.map Prod.fst := by
  rw [List.map_map]
  exact List.map_congr_left fun entry _ => fst_replaced key data entry

variable [DecidableEq Key]

/-- An add fails on a key that the table holds, and on a full table. -/
def add (table : KeyedTable Key Data size) (key : Key) (data : Data) :
    Option (KeyedTable Key Data size) :=
  if room : key ∉ table.keys ∧ table.entries.length < size then
    some {
      entries := table.entries ++ [(key, data)]
      distinct := by
        rw [List.map_append, List.map_singleton, List.nodup_append_comm]
        exact List.nodup_cons.mpr ⟨room.1, table.distinct⟩
      fits := by
        rw [List.length_append, List.length_singleton]
        exact room.2 }
  else none

/-- A modification fails on a key that the table does not hold. -/
def modify (table : KeyedTable Key Data size) (key : Key) (data : Data) :
    Option (KeyedTable Key Data size) :=
  if key ∈ table.keys then
    some {
      entries := table.entries.map (replaced key data)
      distinct := by
        rw [keys_replaced]
        exact table.distinct
      fits := by
        rw [List.length_map]
        exact table.fits }
  else none

/-- A write that looks for the key first modifies the entry that it finds. -/
def addOrModify (table : KeyedTable Key Data size) (key : Key) (data : Data) :
    Option (KeyedTable Key Data size) :=
  if key ∈ table.keys then table.modify key data else table.add key data

/-- One add after the other, up to the first that fails -/
def addAll : List (Key × Data) → KeyedTable Key Data size → Option (KeyedTable Key Data size)
  | [], table => some table
  | (key, data) :: rest, table => (table.add key data).bind (addAll rest)

/-- One write after the other, up to the first that fails -/
def addOrModifyAll : List (Key × Data) → KeyedTable Key Data size →
    Option (KeyedTable Key Data size)
  | [], table => some table
  | (key, data) :: rest, table => (table.addOrModify key data).bind (addOrModifyAll rest)

/-! What one write does -/

theorem add_cases {table result : KeyedTable Key Data size} {key : Key} {data : Data}
    (added : table.add key data = some result) :
    key ∉ table.keys ∧ table.entries.length < size ∧ result.entries = table.entries ++ [(key, data)] := by
  unfold add at added
  split at added
  · rename_i room
    rw [← Option.some.inj added]
    exact ⟨room.1, room.2, rfl⟩
  · contradiction

theorem add_eq_none_iff {table : KeyedTable Key Data size} {key : Key} {data : Data} :
    table.add key data = none ↔ key ∈ table.keys ∨ size ≤ table.entries.length := by
  unfold add
  split
  · rename_i room
    simp only [reduceCtorEq, false_iff, not_or, Nat.not_le]
    exact room
  · rename_i full
    simp only [true_iff]
    by_contra neither
    exact full ⟨fun member => neither (.inl member), by
      by_contra above
      exact neither (.inr (Nat.le_of_not_lt above))⟩

/-- The write of a key that the table holds keeps the keys. -/
theorem addOrModify_of_mem {table : KeyedTable Key Data size} {key : Key} (data : Data)
    (member : key ∈ table.keys) : ∃ result : KeyedTable Key Data size,
      table.addOrModify key data = some result ∧ result.entries = table.entries.map (replaced key data) := by
  unfold addOrModify modify
  rw [if_pos member, if_pos member]
  exact ⟨_, rfl, rfl⟩

theorem addOrModify_of_not_mem {table : KeyedTable Key Data size} {key : Key} (data : Data)
    (absent : key ∉ table.keys) : table.addOrModify key data = table.add key data := if_neg absent

/-! What all writes do -/

/-- The adds succeed when they bring no key twice and the table has room for all. -/
theorem addAll_isSome_iff (writes : List (Key × Data)) (table : KeyedTable Key Data size) :
    (addAll writes table).isSome ↔
      (table.keys ++ writes.map Prod.fst).Nodup ∧ table.entries.length + writes.length ≤ size := by
  induction writes generalizing table with
  | nil =>
      simp only [addAll, Option.isSome_some, List.map_nil, List.append_nil, List.length_nil, Nat.add_zero,
        true_iff]
      exact ⟨table.distinct, table.fits⟩
  | cons write rest ih =>
      obtain ⟨key, data⟩ := write
      rw [addAll]
      cases added : table.add key data with
      | none =>
          simp only [Option.bind_none, Option.isSome_none, Bool.false_eq_true, false_iff, not_and]
          rintro distinct room
          rcases add_eq_none_iff.mp added with member | full
          · exact (List.nodup_append.mp distinct).2.2 key member key (by simp) rfl
          · rw [List.length_cons] at room
            omega
      | some result =>
          obtain ⟨absent, room, entries⟩ := add_cases added
          have keys : result.keys = table.keys ++ [key] := by
            rw [KeyedTable.keys, entries, List.map_append]
            rfl
          have length : result.entries.length = table.entries.length + 1 := by
            rw [entries, List.length_append, List.length_singleton]
          rw [Option.bind_some, ih, keys, length, List.append_assoc, List.length_cons, Nat.add_assoc,
            Nat.add_comm 1]
          rfl

/-- The writes succeed when the table has room for all different keys. -/
theorem addOrModifyAll_isSome_iff (writes : List (Key × Data)) (table : KeyedTable Key Data size) :
    (addOrModifyAll writes table).isSome ↔ (table.keys ++ writes.map Prod.fst).toFinset.card ≤ size := by
  have held (table : KeyedTable Key Data size) : table.keys.toFinset.card = table.entries.length := by
    rw [keys, List.toFinset_card_of_nodup table.distinct, List.length_map]
  induction writes generalizing table with
  | nil =>
      simp only [addOrModifyAll, Option.isSome_some, List.map_nil, List.append_nil, true_iff, held]
      exact table.fits
  | cons write rest ih =>
      obtain ⟨key, data⟩ := write
      rw [addOrModifyAll]
      by_cases member : key ∈ table.keys
      · obtain ⟨result, written, entries⟩ := addOrModify_of_mem data member
        have keys : result.keys = table.keys := by
          rw [KeyedTable.keys, entries, keys_replaced]
          rfl
        rw [written, Option.bind_some]
        refine (ih result).trans ?_
        rw [keys]
        have same : (table.keys ++ rest.map Prod.fst).toFinset =
            (table.keys ++ ((key, data) :: rest).map Prod.fst).toFinset := by
          ext other
          simp only [List.map_cons, List.mem_toFinset, List.mem_append, List.mem_cons]
          constructor
          · tauto
          · rintro (old | rfl | new)
            · exact .inl old
            · exact .inl member
            · exact .inr new
        rw [same]
      · rw [addOrModify_of_not_mem data member]
        cases added : table.add key data with
        | none =>
            have full := (add_eq_none_iff.mp added).resolve_left member
            have more : insert key table.keys.toFinset ⊆
                (table.keys ++ ((key, data) :: rest).map Prod.fst).toFinset := by
              intro other
              simp only [List.map_cons, Finset.mem_insert, List.mem_toFinset, List.mem_append, List.mem_cons]
              tauto
            have count := Finset.card_le_card more
            rw [Finset.card_insert_of_notMem (by simpa using member), held] at count
            simp only [Option.bind_none, Option.isSome_none, Bool.false_eq_true, false_iff, Nat.not_le]
            omega
        | some result =>
            have keys : result.keys = table.keys ++ [key] := by
              rw [KeyedTable.keys, (add_cases added).2.2, List.map_append]
              rfl
            rw [Option.bind_some]
            refine (ih result).trans ?_
            rw [keys, List.append_assoc]
            rfl

/-- Two writes of one key bring the same data. -/
def Consistent (writes : List (Key × Data)) : Prop :=
  ∀ first ∈ writes, ∀ second ∈ writes, first.1 = second.1 → first.2 = second.2

/-- Consistent writes leave exactly the written entries, whatever their order. -/
theorem mem_addOrModifyAll {writes : List (Key × Data)} {table result : KeyedTable Key Data size}
    (consistent : Consistent (table.entries ++ writes)) (written : addOrModifyAll writes table = some result)
    (entry : Key × Data) : entry ∈ result.entries ↔ entry ∈ table.entries ∨ entry ∈ writes := by
  induction writes generalizing table with
  | nil =>
      rw [← Option.some.inj written]
      simp
  | cons write rest ih =>
      obtain ⟨key, data⟩ := write
      obtain ⟨next, first, later⟩ := Option.bind_eq_some_iff.mp written
      have members (other : Key × Data) :
          other ∈ next.entries ↔ other ∈ table.entries ∨ other = (key, data) := by
        by_cases member : key ∈ table.keys
        · obtain ⟨held, found, entries⟩ := addOrModify_of_mem data member
          obtain rfl := Option.some.inj (first.symm.trans found)
          obtain ⟨own, among, rfl⟩ := List.mem_map.mp member
          have same : own = (own.1, data) :=
            Prod.ext rfl (consistent own (List.mem_append_left _ among) (own.1, data) (by simp) rfl)
          have kept : table.entries.map (replaced own.1 data) = table.entries := by
            refine (List.map_congr_left ?_).trans (List.map_id _)
            intro old inside
            unfold replaced
            split
            · rename_i equal
              exact Prod.ext equal.symm
                (consistent (own.1, data) (by simp) old (List.mem_append_left _ inside) equal.symm)
            · rfl
          rw [entries, kept]
          constructor
          · exact .inl
          · rintro (old | rfl)
            · exact old
            · rwa [← same]
        · rw [addOrModify_of_not_mem data member] at first
          rw [(add_cases first).2.2, List.mem_append, List.mem_singleton]
      have still : Consistent (next.entries ++ rest) := by
        have inside (other : Key × Data) (among : other ∈ next.entries ++ rest) :
            other ∈ table.entries ++ (key, data) :: rest := by
          simp only [List.mem_append, members, List.mem_cons] at among ⊢
          tauto
        exact fun one first two second => consistent one (inside one first) two (inside two second)
      rw [ih still later, members, List.mem_cons]
      tauto

end KeyedTable

end IgwP4.Packet
