/-
This file gives the substitution of matches in a text, from the left and without overlaps.
-/

import Mathlib.Data.List.Basic

namespace IgwP4.Text

variable {α : Type}

/-- A match at the front of a text: how many symbols it takes behind its first one, and what stands
in its place -/
abbrev Matcher (α : Type) := List α → Option (Nat × List α)

/-- The symbols that a match has taken are skipped. -/
def substituteFrom (matchAt : Matcher α) : Nat → List α → List α
  | _, [] => []
  | skip + 1, _ :: rest => substituteFrom matchAt skip rest
  | 0, symbol :: rest =>
      match matchAt (symbol :: rest) with
      | none => symbol :: substituteFrom matchAt 0 rest
      | some (more, replacement) => replacement ++ substituteFrom matchAt more rest

def substitute (matchAt : Matcher α) (text : List α) : List α := substituteFrom matchAt 0 text

/-- A fixed word -/
def literal [BEq α] (word replacement : List α) : Matcher α := fun text =>
  if word.isPrefixOf text then some (word.length - 1, replacement) else none

/-- One symbol of a class -/
def oneOf [BEq α] (symbols : List α) (replacement : α) : Matcher α
  | [] => none
  | symbol :: _ => if symbols.contains symbol then some (0, [replacement]) else none

/-- The first matcher that finds a match -/
def firstOf (matchers : List (Matcher α)) : Matcher α := fun text =>
  matchers.findSome? fun matchAt => matchAt text

/-- A word is removed from the front of a text. -/
def removePrefix [BEq α] (word text : List α) : List α :=
  if word.isPrefixOf text then text.drop word.length else text

section Rules
variable {matchAt : Matcher α}

theorem substituteFrom_eq (matchAt : Matcher α) (skip : Nat) (text : List α) :
    substituteFrom matchAt skip text = substitute matchAt (text.drop skip) := by
  induction skip generalizing text with
  | zero => rfl
  | succ skip ih =>
      cases text with
      | nil => rfl
      | cons symbol rest => exact ih rest

@[simp] theorem substitute_nil : substitute matchAt [] = [] := rfl

theorem substitute_miss {symbol : α} {rest : List α} (miss : matchAt (symbol :: rest) = none) :
    substitute matchAt (symbol :: rest) = symbol :: substitute matchAt rest := by
  rw [substitute, substituteFrom, miss]
  rfl

theorem substitute_match {symbol : α} {rest replacement : List α} {more : Nat}
    (found : matchAt (symbol :: rest) = some (more, replacement)) :
    substitute matchAt (symbol :: rest) = replacement ++ substitute matchAt (rest.drop more) := by
  rw [substitute, substituteFrom, found, ← substituteFrom_eq]

/-- Symbols at which no match begins are kept. -/
theorem substitute_front {front : List α} (plain : ∀ symbol ∈ front, ∀ rest, matchAt (symbol :: rest) = none)
    (rest : List α) : substitute matchAt (front ++ rest) = front ++ substitute matchAt rest := by
  induction front with
  | nil => rfl
  | cons symbol front ih =>
      rw [List.cons_append, substitute_miss (plain symbol List.mem_cons_self _),
        ih fun other member => plain other (List.mem_cons_of_mem _ member)]
      rfl

/-- A symbol that no replacement begins with comes from the text itself. -/
theorem symbol_of_substitute {first symbol : α} {text behind : List α}
    (begins : ∀ text more replacement, matchAt text = some (more, replacement) →
      replacement.head? = some first)
    (other : symbol ≠ first) (result : substitute matchAt text = symbol :: behind) :
    ∃ rest, text = symbol :: rest ∧ substitute matchAt rest = behind := by
  cases text with
  | nil => contradiction
  | cons head rest =>
      cases found : matchAt (head :: rest) with
      | none =>
          rw [substitute_miss found] at result
          obtain ⟨rfl, tail⟩ := List.cons.inj result
          exact ⟨rest, rfl, tail⟩
      | some taken =>
          obtain ⟨more, replacement⟩ := taken
          have start := begins _ _ _ found
          rw [substitute_match found] at result
          cases replacement with
          | nil => contradiction
          | cons letter replacement =>
              obtain rfl := Option.some.inj start
              exact absurd (List.cons.inj result).1.symm other

/-- A word without the first symbol of the replacements comes from the text itself. -/
theorem word_of_substitute {first : α} (word : List α) {text behind : List α}
    (begins : ∀ text more replacement, matchAt text = some (more, replacement) →
      replacement.head? = some first)
    (absent : first ∉ word) (result : substitute matchAt text = word ++ behind) :
    ∃ rest, text = word ++ rest ∧ substitute matchAt rest = behind := by
  induction word generalizing text with
  | nil => exact ⟨text, rfl, result⟩
  | cons symbol word ih =>
      obtain ⟨kept, others⟩ := List.ne_and_not_mem_of_not_mem_cons absent
      obtain ⟨rest, rfl, tail⟩ := symbol_of_substitute begins kept.symm result
      obtain ⟨more, rfl, final⟩ := ih others tail
      exact ⟨more, rfl, final⟩

theorem literal_begins [BEq α] {word replacement : List α} {first : α} (starts : replacement.head? = some first) (text : List α) (more : Nat)
    (result : List α) (found : literal word replacement text = some (more, result)) :
    result.head? = some first := by
  unfold literal at found
  split at found
  · rw [← (Prod.mk.inj (Option.some.inj found)).2, starts]
  · contradiction

end Rules

section Words
variable [BEq α] [LawfulBEq α] {word replacement : List α}

theorem literal_miss {text : List α} (miss : ¬ word <+: text) : literal word replacement text = none := by
  rw [literal, if_neg]
  rwa [ List.isPrefixOf_iff_prefix]

/-- A word at the front of the text is replaced. -/
theorem substitute_literal {symbol : α} (rest : List α) :
    substitute (literal (symbol :: word) replacement) (symbol :: word ++ rest) =
      replacement ++ substitute (literal (symbol :: word) replacement) rest := by
  have found : literal (symbol :: word) replacement (symbol :: (word ++ rest)) =
      some (word.length, replacement) := by
    rw [literal, if_pos]
    · rfl
    · rw [ List.isPrefixOf_iff_prefix]
      exact ⟨rest, rfl⟩
  rw [List.cons_append, substitute_match found, List.drop_left]

/-- The symbol of a replacement stands for itself or for the word. -/
theorem replacement_of_substitute {symbol first : α} {text behind : List α}
    (result : substitute (literal (symbol :: word) [first]) text = first :: behind) :
    ∃ rest, (text = first :: rest ∨ text = symbol :: word ++ rest) ∧
      substitute (literal (symbol :: word) [first]) rest = behind := by
  by_cases front : symbol :: word <+: text
  · obtain ⟨rest, rfl⟩ := front
    rw [substitute_literal] at result
    exact ⟨rest, .inr rfl, (List.cons.inj result).2⟩
  · cases text with
    | nil => contradiction
    | cons head rest =>
        rw [substitute_miss (literal_miss front)] at result
        obtain ⟨rfl, tail⟩ := List.cons.inj result
        exact ⟨rest, .inl rfl, tail⟩

/-- One of several words that is found stands at the front of the text. -/
theorem firstOf_literals_some {words : List (List α × α)} {text result : List α} {more : Nat}
    (found : firstOf (words.map fun word => literal word.1 [word.2]) text = some (more, result)) :
    ∃ word ∈ words, word.1 <+: text ∧ more = word.1.length - 1 ∧ result = [word.2] := by
  obtain ⟨matcher, listed, found⟩ := List.exists_of_findSome?_eq_some found
  obtain ⟨word, among, rfl⟩ := List.mem_map.mp listed
  by_cases front : word.1 <+: text
  · rw [literal, if_pos (List.isPrefixOf_iff_prefix.mpr front)] at found
    obtain ⟨taken, written⟩ := Prod.mk.inj (Option.some.inj found)
    exact ⟨word, among, front, taken.symm, written.symm⟩
  · rw [literal_miss front] at found
    contradiction

theorem firstOf_literals_none {words : List (List α × α)} {text : List α}
    (none : firstOf (words.map fun word => literal word.1 [word.2]) text = none) :
    ∀ word ∈ words, ¬ word.1 <+: text := by
  intro word among front
  have missed := List.findSome?_eq_none_iff.mp none _ (List.mem_map_of_mem among)
  rw [literal, if_pos (List.isPrefixOf_iff_prefix.mpr front)] at missed
  contradiction

theorem removePrefix_append (rest : List α) : removePrefix word (word ++ rest) = rest := by
  rw [removePrefix, if_pos, List.drop_left]
  rw [ List.isPrefixOf_iff_prefix]
  exact List.prefix_append word rest

theorem removePrefix_miss {text : List α} (miss : ¬ word <+: text) : removePrefix word text = text := by
  rw [removePrefix, if_neg]
  rwa [ List.isPrefixOf_iff_prefix]

end Words

end IgwP4.Text
