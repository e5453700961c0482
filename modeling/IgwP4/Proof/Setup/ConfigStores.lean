/-
This file shows what a series of stores leaves in the memory of the configuration.
-/

import IgwP4.Construction.Setup.ConfigFile

namespace IgwP4.Setup
open Netlink

/-- A store to come: its field and its bytes -/
abbrev Store := Field × List Byte

/-- The field of a store, and how many bytes it writes there -/
abbrev Shape := Field × Nat

def Store.shape (store : Store) : Shape := (store.1, store.2.length)

/-- A store of this shape leaves a field alone. -/
def Field.Clear (field : Field) (shape : Shape) : Prop :=
  shape.1.offset + shape.2 ≤ field.offset ∨ field.offset + field.size ≤ shape.1.offset

instance (field : Field) (shape : Shape) : Decidable (field.Clear shape) :=
  inferInstanceAs (Decidable (_ ∨ _))

def Field.Apart (field : Field) (store : Store) : Prop := field.Clear (Store.shape store)

/-- Every store leaves the fields of the stores before it alone. -/
abbrev Ordered (list : List Store) : Prop := list.Pairwise fun earlier later => earlier.1.Apart later

/-- Whether stores are ordered shows in their shapes. -/
theorem ordered_of_shapes {list : List Store} {shapes : List Shape} (shaped : list.map Store.shape = shapes)
    (ordered : shapes.Pairwise fun earlier later => earlier.1.Clear later) : Ordered list := by
  rw [← shaped, List.pairwise_map] at ordered
  exact ordered

/-- A location is passed by when all shapes pass by it. -/
theorem outside_of_shapes {list : List Store} {shapes : List Shape} (shaped : list.map Store.shape = shapes)
    {location : Nat}
    (outside : ∀ shape ∈ shapes, location < shape.1.offset ∨ shape.1.offset + shape.2 ≤ location) :
    ∀ store ∈ list, location < store.1.offset ∨ store.1.offset + store.2.length ≤ location := by
  intro store member
  exact outside (Store.shape store) (shaped ▸ List.mem_map_of_mem member)

namespace ConfigState

/-- The bytes of a field -/
def read (s : ConfigState) (field : Field) : List Byte := s.memory.read field.offset field.size

/-- The stores, one behind the other -/
def stores (s : ConfigState) (list : List Store) : ConfigState :=
  list.foldl (fun s store => s.store store.1 store.2) s

@[simp] theorem stores_nil (s : ConfigState) : s.stores [] = s := rfl

@[simp] theorem stores_cons (s : ConfigState) (first : Store) (rest : List Store) :
    s.stores (first :: rest) = (s.store first.1 first.2).stores rest := rfl

theorem stores_append (s : ConfigState) (first second : List Store) :
    s.stores (first ++ second) = (s.stores first).stores second := by
  simp [stores]

/-- Stores that leave a field alone keep its bytes. -/
theorem read_stores_apart (s : ConfigState) {field : Field} {list : List Store}
    (apart : ∀ store ∈ list, field.Apart store) : (s.stores list).read field = s.read field := by
  induction list generalizing s with
  | nil => rfl
  | cons first rest ih =>
      rw [stores_cons, ih _ fun store member => apart store (List.mem_cons_of_mem _ member)]
      exact Memory.read_write_apart s.memory (apart first List.mem_cons_self)

/-- Stores that pass by a location keep its byte. -/
theorem memory_stores_outside (s : ConfigState) {location : Nat} {list : List Store}
    (outside : ∀ store ∈ list, location < store.1.offset ∨ store.1.offset + store.2.length ≤ location) :
    (s.stores list).memory location = s.memory location := by
  induction list generalizing s with
  | nil => rfl
  | cons first rest ih =>
      rw [stores_cons, ih _ fun store member => outside store (List.mem_cons_of_mem _ member)]
      exact Memory.write_outside s.memory (outside first List.mem_cons_self)

/-- A location stays zero when every store passes by it or writes a zero there. -/
theorem memory_stores_zero {s : ConfigState} {location : Nat} (zero : s.memory location = 0) {list : List Store}
    (writes : ∀ store ∈ list, (location < store.1.offset ∨ store.1.offset + store.2.length ≤ location) ∨
      store.2.getD (location - store.1.offset) 0 = 0) : (s.stores list).memory location = 0 := by
  induction list generalizing s with
  | nil => exact zero
  | cons first rest ih =>
      rw [stores_cons]
      refine ih ?_ fun store member => writes store (List.mem_cons_of_mem _ member)
      rcases writes first List.mem_cons_self with outside | written
      · exact (Memory.write_outside s.memory outside).trans zero
      · change Memory.write s.memory first.1.offset first.2 location = 0
        unfold Memory.write
        split
        · exact written
        · exact zero

/-- A store that fills its field, and maybe more, leaves its first bytes there. -/
theorem read_store_full (s : ConfigState) (field : Field) {bytes : List Byte}
    (full : field.size ≤ bytes.length) : (s.store field bytes).read field = bytes.take field.size := by
  have split : bytes.length = field.size + (bytes.length - field.size) := by omega
  have whole := Memory.read_write s.memory field.offset bytes
  rw [split, Memory.read_add] at whole
  have front := congrArg (List.take field.size) whole
  rw [List.take_append_of_le_length (by simp), List.take_of_length_le (by simp)] at front
  exact front

/-- A text in front of a zero byte reads as itself and the zero. -/
theorem read_store_text (s : ConfigState) (field : Field) (bytes : List Byte)
    (size : field.size = bytes.length + 1) (closed : s.memory (field.offset + bytes.length) = 0) :
    (s.store field bytes).read field = bytes ++ [0] := by
  change (s.memory.write field.offset bytes).read field.offset field.size = _
  rw [size, Memory.read_add, Memory.read_write]
  have kept : (s.memory.write field.offset bytes).read (field.offset + bytes.length) 1 =
      s.memory.read (field.offset + bytes.length) 1 := Memory.read_write_apart s.memory (.inl (Nat.le_refl _))
  rw [kept]
  simp [Memory.read, closed]

/-- After ordered stores every field holds the bytes of its store. -/
theorem read_of_mem (s : ConfigState) {list : List Store} (among : Ordered list) {field : Field}
    {bytes : List Byte} (member : (field, bytes) ∈ list) (full : field.size ≤ bytes.length) :
    (s.stores list).read field = bytes.take field.size := by
  induction list generalizing s with
  | nil => exact absurd member (by simp)
  | cons first rest ih =>
      obtain ⟨apart, others⟩ := List.pairwise_cons.mp among
      rw [stores_cons]
      rcases List.mem_cons.mp member with rfl | later
      · rw [read_stores_apart _ apart, read_store_full s field full]
      · exact ih _ others later

/-- After ordered stores every text stands in front of the zero that no store has touched. -/
theorem read_text_of_mem (s : ConfigState) {list : List Store} (among : Ordered list) {field : Field}
    {bytes : List Byte} (member : (field, bytes) ∈ list) (size : field.size = bytes.length + 1)
    (closed : s.memory (field.offset + bytes.length) = 0)
    (outside : ∀ store ∈ list, field.offset + bytes.length < store.1.offset ∨
      store.1.offset + store.2.length ≤ field.offset + bytes.length) :
    (s.stores list).read field = bytes ++ [0] := by
  induction list generalizing s with
  | nil => exact absurd member (by simp)
  | cons first rest ih =>
      obtain ⟨apart, others⟩ := List.pairwise_cons.mp among
      rw [stores_cons]
      rcases List.mem_cons.mp member with rfl | later
      · rw [read_stores_apart _ apart, read_store_text s field _ size closed]
      · refine ih _ others later ?_ fun store inside => outside store (List.mem_cons_of_mem _ inside)
        exact (Memory.write_outside s.memory (outside first List.mem_cons_self)).trans closed

/-- No later store has changed what a field held behind its own store. -/
def Kept (s : ConfigState) : Prop := ∀ entry ∈ s.stored, s.read entry.1 = entry.2

theorem kept_initial : Kept .initial := fun _ member => absurd member List.not_mem_nil

/-- A series of stores keeps all fields when every store leaves the fields before it alone. -/
theorem kept_stores {s : ConfigState} (kept : s.Kept) {list : List Store}
    (before : ∀ field ∈ s.stored.map Prod.fst, ∀ store ∈ list, field.Apart store)
    (among : Ordered list) : (s.stores list).Kept := by
  induction list generalizing s with
  | nil => exact kept
  | cons first rest ih =>
      rw [stores_cons]
      obtain ⟨apart, others⟩ := List.pairwise_cons.mp among
      refine ih ?_ ?_ others
      · intro entry member
        rcases List.mem_cons.mp member with rfl | older
        · rfl
        · have untouched := before _ (List.mem_map_of_mem older) first List.mem_cons_self
          exact (Memory.read_write_apart s.memory untouched).trans (kept entry older)
      · intro field member store later
        rcases List.mem_cons.mp member with rfl | older
        · exact apart store later
        · exact before field older store (List.mem_cons_of_mem _ later)

end ConfigState

end IgwP4.Setup
