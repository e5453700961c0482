/-
This file shows that the mask of a prefix length keeps exactly the leading bits.
-/

import IgwP4.Construction.Setup.Config

namespace IgwP4.Setup
open Packet

/-- The mask after the first rounds of the loop -/
def maskAfter (rounds : Nat) : BitVec 32 :=
  (List.range rounds).foldl (fun mask round => mask ||| maskBit (round + 1)) 0

theorem maskAfter_succ (rounds : Nat) :
    maskAfter (rounds + 1) = maskAfter rounds ||| maskBit (rounds + 1) := by
  rw [maskAfter, List.range_succ, List.foldl_append]
  rfl

theorem getLsbD_maskBit (index bit : Nat) (inside : bit < 32) :
    (maskBit index).getLsbD bit = decide (bit = ((32 - (index : Int)) % 32).toNat) := by
  rw [maskBit, BitVec.getLsbD_shiftLeft]
  generalize ((32 - (index : Int)) % 32).toNat = shift
  by_cases below : bit < shift
  · simp [below, Nat.ne_of_lt below]
  · have same : bit - shift = 0 ↔ bit = shift := by omega
    simp [inside, below, same]

/-- Each round sets the next bit from the top, and the rounds past the word set nothing new. -/
theorem getLsbD_maskAfter (rounds bit : Nat) (inside : bit < 32) :
    (maskAfter rounds).getLsbD bit = decide (31 - bit < rounds) := by
  induction rounds with
  | zero => simp [maskAfter]
  | succ rounds ih =>
      rw [maskAfter_succ, BitVec.getLsbD_or, ih, getLsbD_maskBit _ _ inside]
      rw [← Bool.decide_or]
      apply decide_eq_decide.mpr
      omega

/-- A destination matches the masked entry when its leading bits are those of the prefix. -/
theorem hits_prefix_iff (address : BitVec 32) (prefixLen : Int) (dst : BitVec 32) :
    (Ternary.mk address (getMaskByPrefixLen prefixLen)).hits dst = true ↔
      ∀ index < prefixLen.toNat, dst.getMsbD index = address.getMsbD index := by
  have mask : getMaskByPrefixLen prefixLen = maskAfter prefixLen.toNat := rfl
  rw [Ternary.hits, beq_iff_eq, mask]
  constructor
  · intro same index inside
    by_cases within : index < 32
    · have bits := congrArg (BitVec.getLsbD · (31 - index)) same
      simp only [BitVec.getLsbD_and, getLsbD_maskAfter _ _ (show 31 - index < 32 by omega)] at bits
      have set : decide (31 - (31 - index) < prefixLen.toNat) = true := decide_eq_true (by omega)
      rw [set, Bool.and_true, Bool.and_true] at bits
      simpa [BitVec.getMsbD, within] using bits
    · simp [BitVec.getMsbD, within]
  · intro agree
    apply BitVec.eq_of_getLsbD_eq
    intro bit inside
    rw [BitVec.getLsbD_and, BitVec.getLsbD_and, getLsbD_maskAfter _ _ inside]
    by_cases covered : 31 - bit < prefixLen.toNat
    · have bits := agree (31 - bit) covered
      simp only [BitVec.getMsbD, show 31 - bit < 32 by omega, decide_true, Bool.true_and,
        show 32 - 1 - (31 - bit) = bit by omega] at bits
      rw [bits]
    · simp [covered]

end IgwP4.Setup
