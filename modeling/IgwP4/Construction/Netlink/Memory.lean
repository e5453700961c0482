/-
This file gives the byte memory that the netlink code walks with pointers.
-/

import Mathlib.Data.BitVec

namespace IgwP4.Netlink

abbrev Byte := BitVec 8

/-- Numerals name the octets of an Ethernet address. -/
instance octet : NeZero 6 := ⟨by decide⟩

/-- A pointer is an offset into the receive buffer, and every offset can be read. -/
abbrev Memory := Nat → Byte

/-- The host stores the lowest byte of a word first. -/
def Memory.load16 (memory : Memory) (offset : Nat) : BitVec 16 :=
  memory (offset + 1) ++ memory offset

def Memory.load32 (memory : Memory) (offset : Nat) : BitVec 32 :=
  memory (offset + 3) ++ memory (offset + 2) ++ memory (offset + 1) ++ memory offset

/-- `ntohl` and `htonl` reverse the four bytes. -/
def ntohl (word : BitVec 32) : BitVec 32 :=
  word.extractLsb' 0 8 ++ word.extractLsb' 8 8 ++ word.extractLsb' 16 8 ++ word.extractLsb' 24 8

@[simp] theorem ntohl_ntohl (word : BitVec 32) : ntohl (ntohl word) = word := by
  rw [ntohl]
  unfold ntohl
  simp (disch := omega) only [BitVec.extractLsb'_append_eq_of_le, BitVec.extractLsb'_append_eq_of_add_le,
    Nat.sub_self, Nat.reduceSub, BitVec.extractLsb'_eq_self]
  rw [BitVec.extractLsb'_append_extractLsb'_eq_extractLsb' (show 24 = 16 + 8 from rfl),
    BitVec.extractLsb'_append_extractLsb'_eq_extractLsb' (show 16 = 8 + 8 from rfl)]
  exact (BitVec.extractLsb'_append_extractLsb'_eq_extractLsb' rfl).trans BitVec.extractLsb'_eq_self

theorem ntohl_and (first second : BitVec 32) : ntohl (first &&& second) = ntohl first &&& ntohl second := by
  simp only [ntohl, BitVec.extractLsb'_and]
  rw [← BitVec.and_append, ← BitVec.and_append, ← BitVec.and_append]

theorem ntohl_or (first second : BitVec 32) : ntohl (first ||| second) = ntohl first ||| ntohl second := by
  simp only [ntohl, BitVec.extractLsb'_or]
  rw [← BitVec.or_append, ← BitVec.or_append, ← BitVec.or_append]

theorem ntohl_not (word : BitVec 32) : ntohl (~~~ word) = ~~~ ntohl word := by
  have byte (start : Nat) (inside : start + 8 ≤ 32) :
      (~~~ word).extractLsb' start 8 = ~~~ word.extractLsb' start 8 := by
    ext index bound
    simp only [BitVec.getElem_extractLsb', BitVec.getLsbD_not, BitVec.getElem_not]
    have below : start + index < 32 := by omega
    simp [below]
  simp only [ntohl, byte 0 (by decide), byte 8 (by decide), byte 16 (by decide), byte 24 (by decide)]
  rw [← BitVec.not_append, ← BitVec.not_append, ← BitVec.not_append]

/-- `NLMSG_ALIGN`, `NLA_ALIGN` and `RTNH_ALIGN` on a length that does not wrap around -/
def align4 (length : Nat) : Nat := (length + 3) / 4 * 4

/-- The bytes stand in the memory from this offset on. -/
def Memory.Holds (memory : Memory) (offset : Nat) (bytes : List Byte) : Prop :=
  ∀ index (inside : index < bytes.length), memory (offset + index) = bytes[index]

/-- This memory holds the bytes at its start and zeros behind them. -/
def Memory.ofList (bytes : List Byte) : Memory := fun offset => bytes.getD offset 0

/-- The bytes take the place of those from this offset on. -/
def Memory.write (memory : Memory) (offset : Nat) (bytes : List Byte) : Memory := fun location =>
  if offset ≤ location ∧ location < offset + bytes.length then bytes.getD (location - offset) 0
  else memory location

/-- The bytes of an object -/
def Memory.read (memory : Memory) (offset size : Nat) : List Byte :=
  (List.range size).map fun index => memory (offset + index)

/-- A string in an array ends before the first zero byte. -/
def Memory.string (memory : Memory) (offset size : Nat) : List Byte :=
  (memory.read offset size).takeWhile (· != 0)

/-- The four bytes of an `int`, the lowest byte first -/
def littleEndian (word : BitVec 32) : List Byte :=
  [word.extractLsb' 0 8, word.extractLsb' 8 8, word.extractLsb' 16 8, word.extractLsb' 24 8]

namespace Memory

variable {memory : Memory} {offset : Nat}

theorem holds_ofList (bytes : List Byte) : (ofList bytes).Holds 0 bytes := by
  intro index inside
  simp [ofList, inside]

theorem holds_nil : memory.Holds offset [] := by
  intro index inside
  exact absurd inside (by simp)

theorem holds_cons (byte : Byte) (rest : List Byte) :
    memory.Holds offset (byte :: rest) ↔ memory offset = byte ∧ memory.Holds (offset + 1) rest := by
  constructor
  · intro stored
    refine ⟨stored 0 (by simp), ?_⟩
    intro index inside
    have found := stored (index + 1) (by simpa using inside)
    rw [show offset + 1 + index = offset + (index + 1) by omega, found]
    rfl
  · rintro ⟨first, stored⟩ index inside
    cases index with
    | zero => exact first
    | succ index =>
        have found := stored index (by simpa using inside)
        rw [show offset + (index + 1) = offset + 1 + index by omega, found]
        rfl

/-- A string stands in the memory when its parts stand one behind the other. -/
theorem holds_append (first second : List Byte) :
    memory.Holds offset (first ++ second) ↔
      memory.Holds offset first ∧ memory.Holds (offset + first.length) second := by
  induction first generalizing offset with
  | nil => simp [holds_nil]
  | cons byte rest ih =>
      rw [List.cons_append, holds_cons, holds_cons, ih, and_assoc, List.length_cons,
        show offset + 1 + rest.length = offset + (rest.length + 1) by omega]

/-! Writing and reading back -/

theorem write_inside (memory : Memory) (offset : Nat) (bytes : List Byte) (index : Nat)
    (inside : index < bytes.length) : memory.write offset bytes (offset + index) = bytes[index] := by
  rw [write, if_pos ⟨Nat.le_add_right _ _, by omega⟩, Nat.add_sub_cancel_left]
  simp [inside]

theorem write_outside (memory : Memory) {offset : Nat} {bytes : List Byte} {location : Nat}
    (outside : location < offset ∨ offset + bytes.length ≤ location) :
    memory.write offset bytes location = memory location := by
  rw [write, if_neg (by omega)]

@[simp] theorem read_length (memory : Memory) (offset size : Nat) : (memory.read offset size).length = size := by
  simp [read]

/-- Two memories with the same bytes of an object read the same. -/
theorem read_congr {first second : Memory} {offset size : Nat}
    (same : ∀ index, index < size → first (offset + index) = second (offset + index)) :
    first.read offset size = second.read offset size := by
  simp only [read, List.map_inj_left]
  intro index inside
  exact same index (List.mem_range.mp inside)

theorem read_zero {memory : Memory} {offset size : Nat}
    (zero : ∀ index, index < size → memory (offset + index) = 0) :
    memory.read offset size = List.replicate size 0 := by
  rw [List.eq_replicate_iff]
  refine ⟨read_length _ _ _, fun byte member => ?_⟩
  obtain ⟨index, inside, rfl⟩ := List.mem_map.mp member
  exact zero index (List.mem_range.mp inside)

/-- A write leaves every object that it does not touch. -/
theorem read_write_apart (memory : Memory) {offset : Nat} {bytes : List Byte} {location size : Nat}
    (apart : offset + bytes.length ≤ location ∨ location + size ≤ offset) :
    (memory.write offset bytes).read location size = memory.read location size := by
  apply read_congr
  intro index inside
  exact write_outside memory (by omega)

/-- An object reads as its first bytes and the bytes behind them. -/
theorem read_add (memory : Memory) (offset first second : Nat) :
    memory.read offset (first + second) = memory.read offset first ++ memory.read (offset + first) second := by
  simp [read, List.range_add, Function.comp_def, Nat.add_assoc]

/-- What was written is read back. -/
theorem read_write (memory : Memory) (offset : Nat) (bytes : List Byte) :
    (memory.write offset bytes).read offset bytes.length = bytes := by
  apply List.ext_getElem (read_length _ _ _)
  intro index inside written
  simp only [read, List.getElem_map, List.getElem_range]
  exact write_inside memory offset bytes index written

end Memory

end IgwP4.Netlink
