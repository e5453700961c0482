/-
This file gives fixed-width codecs between header values and bit strings.
-/

import Mathlib.Data.BitVec
import Mathlib.Logic.Equiv.Basic

namespace IgwP4.Packet

/-- A packet is the string of its bits in wire order. -/
abbrev Bits := List Bool

/-- A codec writes each value in a fixed number of bits and reads it back. -/
structure Codec (A : Type) where
  width : Nat
  encode : A → Bits
  decode : Bits → A
  encode_length : ∀ value, (encode value).length = width
  decode_encode : ∀ value, decode (encode value) = value
  encode_decode : ∀ bits, bits.length = width → encode (decode bits) = bits

namespace Codec

/-- The most significant bit of a word goes first on the wire. -/
def word (width : Nat) : Codec (BitVec width) where
  width := width
  encode value := List.ofFn fun index : Fin width => value.getMsbD index
  decode bits := (BitVec.ofBoolListBE bits).setWidth width
  encode_length value := List.length_ofFn
  decode_encode value := by
    apply BitVec.eq_of_getLsbD_eq
    intro index inside
    simp [inside, BitVec.getMsbD, show width - 1 - (width - 1 - index) = index by omega]
  encode_decode bits length := by
    apply List.ext_getElem
    · simp [length]
    · intro index left right
      have position : bits.length - 1 - (bits.length - 1 - index) = index := by omega
      subst length
      simp [BitVec.getMsbD, right, show bits.length - 1 - index < bits.length by omega, position]

/-- Two codecs in sequence give a codec of pairs. -/
def pair {A B : Type} (first : Codec A) (second : Codec B) : Codec (A × B) where
  width := first.width + second.width
  encode value := first.encode value.1 ++ second.encode value.2
  decode bits := (first.decode (bits.take first.width), second.decode (bits.drop first.width))
  encode_length value := by
    rw [List.length_append, first.encode_length, second.encode_length]
  decode_encode value := by
    have length := first.encode_length value.1
    rw [List.take_left' length, List.drop_left' length, first.decode_encode, second.decode_encode]
  encode_decode bits length := by
    rw [first.encode_decode _ (by rw [List.length_take]; omega),
      second.encode_decode _ (by rw [List.length_drop]; omega), List.take_append_drop]

/-- A codec moves along a bijection, so a record is coded as the tuple of its fields. -/
def transport {A B : Type} (codec : Codec A) (fields : B ≃ A) : Codec B where
  width := codec.width
  encode value := codec.encode (fields value)
  decode bits := fields.symm (codec.decode bits)
  encode_length value := codec.encode_length _
  decode_encode value := by rw [codec.decode_encode, Equiv.symm_apply_apply]
  encode_decode bits length := by rw [Equiv.apply_symm_apply, codec.encode_decode bits length]

variable {A : Type} (codec : Codec A)

/-- Two codings that agree with their remainders agree in the value and the remainder. -/
theorem encode_append_inj {first second : A} {left right : Bits} :
    codec.encode first ++ left = codec.encode second ++ right ↔ first = second ∧ left = right := by
  constructor
  · intro same
    have lengths : (codec.encode first).length = (codec.encode second).length := by
      rw [codec.encode_length, codec.encode_length]
    obtain ⟨heads, tails⟩ := List.append_inj same lengths
    have values := congrArg codec.decode heads
    rw [codec.decode_encode, codec.decode_encode] at values
    exact ⟨values, tails⟩
  · rintro ⟨rfl, rfl⟩
    rfl

/-- Extraction reads one header from the front, or fails on a packet that is too short. -/
def extract (bits : Bits) : Option (A × Bits) :=
  if bits.length < codec.width then none
  else some (codec.decode (bits.take codec.width), bits.drop codec.width)

/-- Extraction succeeds on exactly the packets that start with a coded header. -/
theorem extract_eq_some_iff {bits rest : Bits} {value : A} :
    codec.extract bits = some (value, rest) ↔ bits = codec.encode value ++ rest := by
  unfold extract
  split
  · rename_i short
    constructor
    · intro impossible
      contradiction
    · intro shape
      rw [shape, List.length_append, codec.encode_length] at short
      omega
  · rename_i long
    have front : (bits.take codec.width).length = codec.width := by
      rw [List.length_take]
      omega
    have whole : bits = codec.encode (codec.decode (bits.take codec.width)) ++ bits.drop codec.width := by
      rw [codec.encode_decode _ front, List.take_append_drop]
    rw [Option.some.injEq, Prod.mk.injEq]
    constructor
    · rintro ⟨rfl, rfl⟩
      exact whole
    · intro shape
      rw [whole] at shape
      exact codec.encode_append_inj.mp shape

/-- Extraction inverts emission and leaves the rest of the packet. -/
@[simp] theorem extract_encode (value : A) (rest : Bits) :
    codec.extract (codec.encode value ++ rest) = some (value, rest) :=
  codec.extract_eq_some_iff.mpr rfl

end Codec

end IgwP4.Packet
