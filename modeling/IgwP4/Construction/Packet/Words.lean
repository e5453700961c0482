/-
This file reads a packet as sixteen-bit words.
-/

import IgwP4.Construction.Packet.Checksum
import IgwP4.Construction.Packet.Codec

namespace IgwP4.Packet

namespace Codec

/-- The halves of a word go on the wire one after the other. -/
theorem word_append {high low : Nat} (left : BitVec high) (right : BitVec low) :
    (word (high + low)).encode (left ++ right) = (word high).encode left ++ (word low).encode right := by
  apply List.ext_getElem
  · simp [word]
  · intro index inside _
    simp only [word, List.getElem_ofFn, List.getElem_append, List.length_ofFn, BitVec.getMsbD_append]
    by_cases front : index < high
    · simp [front, Nat.not_le.mpr front]
    · simp [front, Nat.le_of_not_lt front]

/-- A word is coded as its upper and its lower part. -/
theorem word_parts (high low : Nat) (value : BitVec (high + low)) :
    (word (high + low)).encode value =
      (word high).encode (value.extractLsb' low high) ++ (word low).encode (value.extractLsb' 0 low) := by
  rw [← word_append]
  congr 1
  apply BitVec.eq_of_getLsbD_eq
  intro index inside
  simp only [BitVec.getLsbD_append, BitVec.getLsbD_extractLsb']
  by_cases lower : index < low
  · simp [lower]
  · simp [lower, show index - low < high by omega, show low + (index - low) = index by omega]

/-- A word of thirty-two bits is two words of sixteen. -/
theorem word_split (value : BitVec 32) :
    (word 32).encode value =
      (word 16).encode (value.extractLsb' 16 16) ++ (word 16).encode (value.extractLsb' 0 16) :=
  word_parts 16 16 value

end Codec

namespace Checksum

/-- The words go on the wire one after the other. -/
def emitWords (words : List Word) : Bits := words.flatMap (Codec.word 16).encode

/-- The next words of a packet, when it is long enough -/
def readWords : Nat → Bits → Option (List Word)
  | 0, _ => some []
  | count + 1, bits => do
      let (word, rest) ← (Codec.word 16).extract bits
      let words ← readWords count rest
      some (word :: words)

theorem emitWords_cons (word : Word) (words : List Word) :
    emitWords (word :: words) = (Codec.word 16).encode word ++ emitWords words := rfl

/-- Words that stand in front are read first. -/
theorem readWords_append (words : List Word) (count : Nat) (rest : Bits) :
    readWords (words.length + count) (emitWords words ++ rest) =
      (readWords count rest).map (words ++ ·) := by
  induction words with
  | nil =>
      rw [List.length_nil, Nat.zero_add]
      exact (Option.map_id' (x := readWords count rest)).symm
  | cons word words ih =>
      rw [List.length_cons, Nat.succ_add, emitWords_cons, List.append_assoc, readWords,
        Codec.extract_encode]
      change (readWords (words.length + count) (emitWords words ++ rest)).bind _ = _
      rw [ih]
      cases readWords count rest <;> rfl

/-- A packet that starts with enough words yields the first of them. -/
theorem readWords_take (words : List Word) (count : Nat) (inside : count ≤ words.length) (rest : Bits) :
    readWords count (emitWords words ++ rest) = some (words.take count) := by
  have split := readWords_append (words.take count) 0 (emitWords (words.drop count) ++ rest)
  rw [List.length_take, Nat.min_eq_left inside, Nat.add_zero, ← List.append_assoc, emitWords, emitWords,
    ← List.flatMap_append, List.take_append_drop] at split
  exact split.trans (congrArg some (List.append_nil _))

/-- The first bytes of a packet as words, with a zero byte behind the last odd one -/
def coveredWords : Nat → Bits → Option (List Word)
  | 0, _ => some []
  | 1, bits => do
      let (byte, _) ← (Codec.word 8).extract bits
      some [byte ++ (0 : BitVec 8)]
  | count + 2, bits => do
      let (word, rest) ← (Codec.word 16).extract bits
      let words ← coveredWords count rest
      some (word :: words)

/-- The first bytes of words, cut off in the same way -/
def cutWords : Nat → List Word → List Word
  | 0, _ => []
  | _ + 1, [] => []
  | 1, word :: _ => [word.extractLsb' 8 8 ++ (0 : BitVec 8)]
  | count + 2, word :: words => word :: cutWords count words

@[simp] theorem cutWords_nil (count : Nat) : cutWords count [] = [] := by
  cases count <;> rfl

theorem cutWords_append (front back : List Word) (count : Nat) :
    cutWords count (front ++ back) = cutWords count front ++ cutWords (count - 2 * front.length) back := by
  induction front generalizing count with
  | nil => rw [cutWords_nil]; rfl
  | cons word front ih =>
      match count with
      | 0 =>
          rw [Nat.zero_sub]
          rfl
      | 1 =>
          have none : 1 - 2 * (word :: front).length = 0 := by
            rw [List.length_cons]
            omega
          rw [none]
          rfl
      | count + 2 =>
          have less : count + 2 - 2 * (word :: front).length = count - 2 * front.length := by
            rw [List.length_cons]
            omega
          rw [less]
          exact congrArg (word :: ·) (ih count)

theorem cutWords_of_le (words : List Word) (count : Nat) (inside : 2 * words.length ≤ count) :
    cutWords count words = words := by
  induction words generalizing count with
  | nil => exact cutWords_nil count
  | cons word words ih =>
      rw [List.length_cons] at inside
      obtain ⟨more, rfl⟩ : ∃ more, count = more + 2 := ⟨count - 2, by omega⟩
      exact congrArg (word :: ·) (ih more (by omega))

/-- Words that stand in front are covered first. -/
theorem coveredWords_append (words : List Word) (count : Nat) (rest : Bits) :
    coveredWords count (emitWords words ++ rest) =
      (coveredWords (count - 2 * words.length) rest).map (cutWords count words ++ ·) := by
  induction words generalizing count with
  | nil =>
      rw [cutWords_nil]
      exact (Option.map_id' (x := coveredWords count rest)).symm
  | cons word words ih =>
      rw [emitWords_cons, List.append_assoc]
      match count with
      | 0 =>
          rw [Nat.zero_sub]
          rfl
      | 1 =>
          have none : 1 - 2 * (word :: words).length = 0 := by
            rw [List.length_cons]
            omega
          have parts : (Codec.word 16).encode word = _ := Codec.word_parts 8 8 word
          rw [none, parts, List.append_assoc]
          simp only [coveredWords, Codec.extract_encode]
          rfl
      | count + 2 =>
          have less : count + 2 - 2 * (word :: words).length = count - 2 * words.length := by
            rw [List.length_cons]
            omega
          rw [less, coveredWords, Codec.extract_encode]
          change (coveredWords count (emitWords words ++ rest)).bind _ = _
          rw [ih]
          cases coveredWords (count - 2 * words.length) rest <;> rfl

/-- The sum of the words as natural numbers -/
def total (words : List Word) : Nat := (words.map BitVec.toNat).sum

@[simp] theorem total_nil : total [] = 0 := rfl

@[simp] theorem total_cons (word : Word) (words : List Word) :
    total (word :: words) = word.toNat + total words := List.sum_cons

@[simp] theorem total_append (front back : List Word) : total (front ++ back) = total front + total back := by
  rw [total, List.map_append, List.sum_append]
  rfl

/-- The words add up to zero in ones' complement. -/
def Clear (words : List Word) : Prop := (words.map BitVec.toNat).sum % 65535 = 0

instance (words : List Word) : Decidable (Clear words) := inferInstanceAs (Decidable (_ = _))

theorem clear_append {front : List Word} (clear : Clear front) (words : List Word) :
    Clear (front ++ words) ↔ Clear words := by
  unfold Clear at clear ⊢
  rw [List.map_append, List.sum_append]
  omega

/-- Two parts of words that clear together clear alike. -/
theorem clear_split {front back : List Word} (clear : Clear (front ++ back)) : Clear front ↔ Clear back := by
  unfold Clear at clear ⊢
  rw [List.map_append, List.sum_append] at clear
  omega

theorem clear_perm {first second : List Word} (same : first.Perm second) : Clear first ↔ Clear second := by
  unfold Clear
  rw [(same.map BitVec.toNat).sum_eq]

/-- The checksum clears the words it is computed over. -/
theorem clear_checksum (words : List Word) : Clear (checksum words :: words) := by
  have sum := toNat_onesSum words
  have complement : (checksum words).toNat = 65535 - (onesSum words).toNat := by
    rw [checksum, BitVec.toNat_not]
  unfold Clear
  rw [List.map_cons, List.sum_cons, complement, sum]
  unfold residue
  split <;> omega

/-- A word that is not zero makes the total positive. -/
theorem total_pos {word : Word} {words : List Word} (inside : word ∈ words) (filled : word ≠ 0) :
    0 < (words.map BitVec.toNat).sum := by
  have positive : 0 < word.toNat := by
    apply Nat.pos_of_ne_zero
    intro zero
    exact filled (BitVec.toNat_inj.mp zero)
  exact List.sum_pos_iff_exists_pos_nat.mpr ⟨_, List.mem_map_of_mem inside, positive⟩

/-- Words that are not all zero verify when they clear. -/
theorem verifies_iff_clear {word : Word} {words : List Word} (inside : word ∈ words) (filled : word ≠ 0) :
    verifies words ↔ Clear words := by
  rw [verifies_iff, Clear, and_iff_right (total_pos inside filled)]

end Checksum

end IgwP4.Packet
