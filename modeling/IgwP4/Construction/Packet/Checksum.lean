/-
This file gives the ones' complement sum of sixteen-bit words.
-/

import Mathlib.Data.BitVec
import Mathlib.Algebra.BigOperators.Group.List.Basic

namespace IgwP4.Packet.Checksum

abbrev Word := BitVec 16

/-- A carry out of the top bit comes back at the bottom. -/
def onesAdd (left right : Word) : Word :=
  if left.toNat + right.toNat < 65536 then left + right else left + right + 1

def onesSum (words : List Word) : Word := words.foldr onesAdd 0

/-- The checksum of a header is the complement of the sum of its words. -/
def checksum (words : List Word) : Word := ~~~ onesSum words

/-- The words carry a correct checksum when they add up to all ones. -/
def verifies (words : List Word) : Prop := onesSum words = BitVec.allOnes 16

instance (words : List Word) : Decidable (verifies words) :=
  inferInstanceAs (Decidable (_ = _))

/-- The residue of a positive number lies between one and 65535. -/
def residue (n : Nat) : Nat := if n = 0 then 0 else (n - 1) % 65535 + 1

theorem residue_residue_add (m n : Nat) : residue (m + residue n) = residue (m + n) := by
  by_cases empty : n = 0
  · simp [empty, residue]
  · simp only [residue, empty, if_false, Nat.add_eq_zero_iff, and_false, Nat.succ_ne_zero]
    omega

theorem toNat_onesAdd (left right : Word) :
    (onesAdd left right).toNat = residue (left.toNat + right.toNat) := by
  have := left.isLt
  have := right.isLt
  unfold onesAdd residue
  split
  · rw [BitVec.toNat_add]
    split <;> omega
  · rw [BitVec.toNat_add, BitVec.toNat_add, if_neg (by omega)]
    change ((left.toNat + right.toNat) % 65536 + 1) % 65536 = _
    omega

/-- The sum depends only on the total of the words. -/
theorem toNat_onesSum (words : List Word) :
    (onesSum words).toNat = residue (words.map BitVec.toNat).sum := by
  induction words with
  | nil => rfl
  | cons word rest ih =>
      change (onesAdd word (onesSum rest)).toNat = _
      rw [toNat_onesAdd, ih, residue_residue_add, List.map_cons, List.sum_cons]

/-- The words verify exactly when their total is a positive multiple of 65535. -/
theorem verifies_iff (words : List Word) :
    verifies words ↔ 0 < (words.map BitVec.toNat).sum ∧ (words.map BitVec.toNat).sum % 65535 = 0 := by
  rw [verifies, ← BitVec.toNat_inj, toNat_onesSum, BitVec.toNat_allOnes]
  unfold residue
  split <;> omega

end IgwP4.Packet.Checksum
