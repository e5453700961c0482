/-
This file shows which tables the API generator writes to the same files.
-/

import IgwP4.Construction.Apigen.Filters
import Mathlib.Data.List.Nodup
import Mathlib.Data.List.Pairwise
import Mathlib.Data.List.TakeWhile

namespace IgwP4.Apigen
open Text

/-! One reading in place of seven substitutions -/

/-- The letter of the egress stands for a word that may itself hold the letter of the ingress. -/
def switchInnerEgress : Name :=
  ['S', 'w'] ++ switchIngress ++ ['t', 'c', 'h', 'E', 'g', 'r', 'e', 's', 's']

/-- The letter of the parser stands for a word that may itself hold a word of the egress. -/
def parserOf (egress : Name) : Name := ['P', 'a', 'r', 's'] ++ egress ++ ['r']

/-- The words that are read as one letter -/
def abbreviations : List (Name × Char) := [
  (switchIngress, 'i'), (switchEgress, 'e'), (switchInnerEgress, 'e'), (parser, 'p'),
  (parserOf switchEgress, 'p'), (parserOf switchInnerEgress, 'p')]

/-- A name is read from the left: a dollar with its number, a separator, an abbreviated word, or a symbol
that stands for itself. -/
def readAt : Matcher Char :=
  firstOf (dollarNumber :: oneOf ['$', '.', '[', ']', ':'] '_' ::
    abbreviations.map fun word => literal word.1 [word.2])

/-- How a table name is read behind the prefix of its pipe -/
def reading (name : Name) : Name := substitute readAt (removePrefix pipePrefix name)

/-- The substitutions in front of the prefix -/
def dollars (name : Name) : Name := substitute (literal ['$'] ['_']) (substitute dollarNumber name)

/-- The three abbreviations -/
def abbreviate (name : Name) : Name :=
  substitute (literal parser ['p']) (substitute (literal switchEgress ['e'])
    (substitute (literal switchIngress ['i']) name))

def separators (name : Name) : Name := substitute (oneOf ['.', '[', ']', ':'] '_') name

theorem dollarNumber_begins (text : Name) (more : Nat) (replacement : Name)
    (found : dollarNumber text = some (more, replacement)) : replacement.head? = some '_' := by
  cases text with
  | nil => contradiction
  | cons symbol rest =>
      rw [dollarNumber] at found
      split at found
      · rw [← (Prod.mk.inj (Option.some.inj found)).2]
        rfl
      · contradiction

theorem dollarNumber_plain {symbol : Char} (plain : symbol ≠ '$') (rest : Name) :
    dollarNumber (symbol :: rest) = none := by
  rw [dollarNumber]
  exact if_neg fun both => plain both.1

theorem literal_plain {symbol first : Char} {word replacement : Name} (starts : word.head? = some first)
    (plain : symbol ≠ first) (rest : Name) : literal word replacement (symbol :: rest) = none := by
  cases word with
  | nil => contradiction
  | cons head tail =>
      obtain rfl := Option.some.inj starts
      exact literal_miss fun front => plain (List.cons_prefix_cons.mp front).1.symm

/-- A word without an underscore stands in the name itself. -/
theorem word_of_dollars (word : Name) {text behind : Name} (absent : '_' ∉ word)
    (result : dollars text = word ++ behind) : ∃ rest, text = word ++ rest ∧ dollars rest = behind := by
  obtain ⟨middle, first, rfl⟩ := word_of_substitute word (literal_begins rfl) absent result
  obtain ⟨rest, rfl, second⟩ := word_of_substitute word dollarNumber_begins absent first
  exact ⟨rest, rfl, congrArg _ second⟩

/-- Symbols other than the dollar are kept. -/
theorem dollars_front {front : Name} (plain : '$' ∉ front) (rest : Name) :
    dollars (front ++ rest) = front ++ dollars rest := by
  have other (symbol : Char) (member : symbol ∈ front) : symbol ≠ '$' := ne_of_mem_of_not_mem member plain
  rw [dollars, substitute_front fun symbol member => dollarNumber_plain (other symbol member),
    substitute_front fun symbol member => literal_plain rfl (other symbol member)]
  rfl

theorem dollars_number {digits rest : Name} (isNumber : (digits ++ rest).takeWhile Char.isDigit = digits)
    (filled : digits ≠ []) : dollars ('$' :: (digits ++ rest)) = '_' :: digits ++ '_' :: dollars rest := by
  have found : dollarNumber ('$' :: (digits ++ rest)) = some (digits.length, '_' :: digits ++ ['_']) := by
    rw [dollarNumber, isNumber]
    exact if_pos ⟨rfl, filled⟩
  have plain : ∀ symbol ∈ '_' :: digits ++ ['_'], symbol ≠ '$' := by
    have digit : ∀ symbol ∈ digits, symbol.isDigit := by
      rw [← isNumber]
      exact fun symbol member => List.mem_takeWhile_imp member
    intro symbol member
    rintro rfl
    simp only [List.cons_append, List.mem_cons, List.mem_append, List.not_mem_nil, or_false] at member
    rcases member with same | number | same
    · exact absurd same (by decide)
    · exact absurd (digit _ number) (by decide)
    · exact absurd same (by decide)
  rw [dollars, substitute_match found, List.drop_left,
    substitute_front fun symbol member => literal_plain rfl (plain symbol member), List.append_assoc]
  rfl

theorem dollars_dollar {rest : Name} (noNumber : rest.takeWhile Char.isDigit = []) :
    dollars ('$' :: rest) = '_' :: dollars rest := by
  have miss : dollarNumber ('$' :: rest) = none := by
    rw [dollarNumber, noNumber]
    exact if_neg fun both => both.2 rfl
  rw [dollars, substitute_miss miss]
  exact substitute_literal _

/-! The abbreviations one by one -/

theorem abbreviate_plain {symbol : Char} {rest : Name}
    (noIngress : ¬ switchIngress <+: symbol :: rest)
    (noEgress : ¬ switchEgress <+: symbol :: substitute (literal switchIngress ['i']) rest)
    (noParser : ¬ parser <+: symbol :: substitute (literal switchEgress ['e'])
      (substitute (literal switchIngress ['i']) rest)) :
    abbreviate (symbol :: rest) = symbol :: abbreviate rest := by
  rw [abbreviate, substitute_miss (literal_miss noIngress), substitute_miss (literal_miss noEgress),
    substitute_miss (literal_miss noParser)]
  rfl

/-- Symbols at which no abbreviation begins are kept. -/
theorem abbreviate_front {front : Name} (plain : ∀ symbol ∈ front, symbol ≠ 'S' ∧ symbol ≠ 'P') (rest : Name) :
    abbreviate (front ++ rest) = front ++ abbreviate rest := by
  rw [abbreviate, substitute_front fun symbol member => literal_plain rfl (plain symbol member).1,
    substitute_front fun symbol member => literal_plain rfl (plain symbol member).1,
    substitute_front fun symbol member => literal_plain rfl (plain symbol member).2]
  rfl

/-- A word is abbreviated to one letter, and what follows it is abbreviated by itself. -/
theorem abbreviate_word {word : Name × Char} (among : word ∈ abbreviations) (rest : Name) :
    abbreviate (word.1 ++ rest) = word.2 :: abbreviate rest := by
  simp only [abbreviations, List.mem_cons, List.not_mem_nil, or_false] at among
  rcases among with rfl | rfl | rfl | rfl | rfl | rfl
  all_goals rfl

/-! The words that are abbreviated -/

/-- The word of the egress comes from itself or from the word around the one of the ingress. -/
theorem egress_of_substitute {text behind : Name}
    (result : substitute (literal switchIngress ['i']) text = switchEgress ++ behind) :
    ∃ rest, (text = switchEgress ++ rest ∨ text = switchInnerEgress ++ rest) ∧
      substitute (literal switchIngress ['i']) rest = behind := by
  obtain ⟨middle, rfl, first⟩ := word_of_substitute ['S', 'w'] (literal_begins rfl) (by decide) result
  obtain ⟨tail, letter, second⟩ := replacement_of_substitute first
  obtain ⟨rest, rfl, third⟩ := word_of_substitute ['t', 'c', 'h', 'E', 'g', 'r', 'e', 's', 's']
    (literal_begins rfl) (by decide) second
  refine ⟨rest, ?_, third⟩
  rcases letter with rfl | rfl
  · exact .inl rfl
  · exact .inr rfl

/-- The word of the parser comes from itself or from a word around one of the egress. -/
theorem parser_of_substitute {text behind : Name}
    (result : substitute (literal switchEgress ['e']) (substitute (literal switchIngress ['i']) text) =
      parser ++ behind) :
    ∃ rest, text = parser ++ rest ∨ text = parserOf switchEgress ++ rest ∨
      text = parserOf switchInnerEgress ++ rest := by
  obtain ⟨middle, start, first⟩ := word_of_substitute ['P', 'a', 'r', 's'] (literal_begins rfl) (by decide) result
  obtain ⟨tail, letter, second⟩ := replacement_of_substitute first
  obtain ⟨last, rfl, -⟩ := word_of_substitute ['r'] (literal_begins rfl) (by decide) second
  rcases letter with rfl | rfl
  · obtain ⟨rest, rfl, -⟩ := word_of_substitute parser (literal_begins rfl) (by decide) start
    exact ⟨rest, .inl rfl⟩
  · obtain ⟨inner, rfl, third⟩ := word_of_substitute ['P', 'a', 'r', 's'] (literal_begins rfl) (by decide) start
    obtain ⟨closing, word, fourth⟩ := egress_of_substitute third
    obtain ⟨rest, rfl, -⟩ := word_of_substitute ['r'] (literal_begins rfl) (by decide) fourth
    rcases word with rfl | rfl
    · exact ⟨rest, .inr (.inl rfl)⟩
    · exact ⟨rest, .inr (.inr rfl)⟩

/-! The reading -/

theorem separators_front (front : Name) (plain : ∀ symbol ∈ front, symbol ∉ ['.', '[', ']', ':']) (rest : Name) :
    separators (front ++ rest) = front ++ separators rest := by
  refine substitute_front (fun symbol member rest => ?_) rest
  rw [oneOf, if_neg]
  rw [List.contains_iff_mem]
  exact plain symbol member

/-- The substitutions of a name behind its prefix -/
def rewritten (name : Name) : Name := separators (abbreviate (dollars name))

/-- Symbols outside all patterns are kept. -/
theorem rewritten_of_dollars (front : Name) {text rest : Name} (result : dollars text = front ++ dollars rest)
    (plain : ∀ symbol ∈ front, symbol ≠ 'S' ∧ symbol ≠ 'P' ∧ symbol ∉ ['.', '[', ']', ':']) :
    rewritten text = front ++ rewritten rest := by
  rw [rewritten, result, abbreviate_front fun symbol member =>
    ⟨(plain symbol member).1, (plain symbol member).2.1⟩,
    separators_front _ fun symbol member => (plain symbol member).2.2]
  rfl

theorem rewritten_separator {symbol : Char} (separator : symbol ∈ ['.', '[', ']', ':']) (rest : Name) :
    rewritten (symbol :: rest) = '_' :: rewritten rest := by
  have plain : ∀ other ∈ ['.', '[', ']', ':'], other ≠ '$' ∧ other ≠ 'S' ∧ other ≠ 'P' := by simp
  obtain ⟨dollar, ingress, parser⟩ := plain symbol separator
  have kept : dollars ([symbol] ++ rest) = [symbol] ++ dollars rest :=
    dollars_front (by simpa using dollar.symm) rest
  have same : abbreviate ([symbol] ++ dollars rest) = [symbol] ++ abbreviate (dollars rest) :=
    abbreviate_front (by simpa using ⟨ingress, parser⟩) _
  rw [List.singleton_append, List.singleton_append] at kept same
  have found : oneOf ['.', '[', ']', ':'] '_' (symbol :: abbreviate (dollars rest)) = some (0, ['_']) := by
    rw [oneOf, if_pos]
    rwa [List.contains_iff_mem]
  rw [rewritten, kept, same, separators, substitute_match found]
  rfl

theorem rewritten_word {word : Name × Char} (among : word ∈ abbreviations) (rest : Name) :
    rewritten (word.1 ++ rest) = word.2 :: rewritten rest := by
  have plain : ∀ word ∈ abbreviations, '$' ∉ word.1 ∧ word.2 ∉ ['.', '[', ']', ':'] := by decide
  rw [rewritten, dollars_front (plain word among).1, abbreviate_word among]
  exact separators_front [word.2] (by simpa using (plain word among).2) _

/-- A symbol at which nothing begins is kept. -/
theorem rewritten_plain {symbol : Char} {rest : Name} (dollar : symbol ≠ '$')
    (separator : symbol ∉ ['.', '[', ']', ':'])
    (noWord : ∀ word ∈ abbreviations, ¬ word.1 <+: symbol :: rest) :
    rewritten (symbol :: rest) = symbol :: rewritten rest := by
  have kept : dollars ([symbol] ++ rest) = [symbol] ++ dollars rest :=
    dollars_front (by simpa using dollar.symm) rest
  have absent (word : Name × Char) (among : word ∈ abbreviations) (behind : Name) :
      symbol :: dollars rest ≠ word.1 ++ behind := by
    intro same
    have plain : ∀ word ∈ abbreviations, '_' ∉ word.1 := by decide
    obtain ⟨more, text, -⟩ := word_of_dollars word.1 (plain word among) (kept.trans same)
    exact noWord word among ⟨more, text.symm⟩
  have noIngress : ¬ switchIngress <+: symbol :: dollars rest := by
    rintro ⟨behind, same⟩
    exact absent (switchIngress, 'i') (by decide) behind same.symm
  have first : substitute (literal switchIngress ['i']) (symbol :: dollars rest) =
      symbol :: substitute (literal switchIngress ['i']) (dollars rest) :=
    substitute_miss (literal_miss noIngress)
  have noEgress : ¬ switchEgress <+: symbol :: substitute (literal switchIngress ['i']) (dollars rest) := by
    rintro ⟨behind, same⟩
    obtain ⟨more, word, -⟩ := egress_of_substitute (first.trans same.symm)
    rcases word with text | text
    · exact absent (switchEgress, 'e') (by decide) more text
    · exact absent (switchInnerEgress, 'e') (by decide) more text
  have second : substitute (literal switchEgress ['e'])
      (substitute (literal switchIngress ['i']) (symbol :: dollars rest)) =
        symbol :: substitute (literal switchEgress ['e'])
          (substitute (literal switchIngress ['i']) (dollars rest)) := by
    rw [first]
    exact substitute_miss (literal_miss noEgress)
  have noParser : ¬ parser <+: symbol :: substitute (literal switchEgress ['e'])
      (substitute (literal switchIngress ['i']) (dollars rest)) := by
    rintro ⟨behind, same⟩
    obtain ⟨more, text | text | text⟩ := parser_of_substitute (second.trans same.symm)
    · exact absent (parser, 'p') (by decide) more text
    · exact absent (parserOf switchEgress, 'p') (by decide) more text
    · exact absent (parserOf switchInnerEgress, 'p') (by decide) more text
  rw [rewritten, show dollars (symbol :: rest) = symbol :: dollars rest from kept,
    abbreviate_plain noIngress noEgress noParser]
  exact separators_front [symbol] (by simpa using separator) _

theorem digit_plain {symbol : Char} (digit : symbol.isDigit) :
    symbol ≠ 'S' ∧ symbol ≠ 'P' ∧ symbol ∉ ['.', '[', ']', ':'] := by
  have others : ∀ other ∈ ['S', 'P', '.', '[', ']', ':'], other.isDigit = false := by simp
  have different (other : Char) (member : other ∈ ['S', 'P', '.', '[', ']', ':']) : symbol ≠ other := by
    rintro rfl
    rw [others _ member] at digit
    contradiction
  refine ⟨different 'S' (by decide), different 'P' (by decide), fun member => ?_⟩
  exact different symbol (List.mem_cons_of_mem _ (List.mem_cons_of_mem _ member)) rfl

/-- The number behind a dollar is kept between two underscores. -/
theorem rewritten_number {digits rest : Name} (isNumber : (digits ++ rest).takeWhile Char.isDigit = digits)
    (filled : digits ≠ []) : rewritten ('$' :: (digits ++ rest)) = '_' :: digits ++ ['_'] ++ rewritten rest := by
  have digit : ∀ symbol ∈ digits, symbol.isDigit := by
    rw [← isNumber]
    exact fun symbol member => List.mem_takeWhile_imp member
  have underscore : '_' ≠ 'S' ∧ '_' ≠ 'P' ∧ '_' ∉ ['.', '[', ']', ':'] := by decide
  refine rewritten_of_dollars ('_' :: digits ++ ['_']) ?_ fun symbol member => ?_
  · rw [dollars_number isNumber filled, List.append_assoc]
    rfl
  · rcases List.mem_append.mp member with front | last
    · rcases List.mem_cons.mp front with rfl | number
      · exact underscore
      · exact digit_plain (digit symbol number)
    · rw [List.mem_singleton.mp last]
      exact underscore

theorem readAt_number {digits rest : Name} (isNumber : (digits ++ rest).takeWhile Char.isDigit = digits)
    (filled : digits ≠ []) :
    readAt ('$' :: (digits ++ rest)) = some (digits.length, '_' :: digits ++ ['_']) := by
  have found : dollarNumber ('$' :: (digits ++ rest)) = some (digits.length, '_' :: digits ++ ['_']) := by
    rw [dollarNumber, isNumber]
    exact if_pos ⟨rfl, filled⟩
  rw [readAt, firstOf, List.findSome?_cons, found]

theorem readAt_dollar (rest : Name) (noNumber : rest.takeWhile Char.isDigit = []) :
    readAt ('$' :: rest) = some (0, ['_']) := by
  have miss : dollarNumber ('$' :: rest) = none := by
    rw [dollarNumber, noNumber]
    exact if_neg fun both => both.2 rfl
  rw [readAt, firstOf, List.findSome?_cons, miss]
  rfl

theorem readAt_separator {symbol : Char} (separator : symbol ∈ ['.', '[', ']', ':']) (rest : Name) :
    readAt (symbol :: rest) = some (0, ['_']) := by
  have dollar : symbol ≠ '$' := by
    rintro rfl
    exact absurd separator (by decide)
  have found : oneOf ['$', '.', '[', ']', ':'] '_' (symbol :: rest) = some (0, ['_']) := by
    rw [oneOf, if_pos]
    rw [List.contains_iff_mem]
    exact List.mem_cons_of_mem _ separator
  rw [readAt, firstOf, List.findSome?_cons, dollarNumber_plain dollar]
  dsimp only
  rw [List.findSome?_cons, found]

theorem readAt_other {symbol : Char} (dollar : symbol ≠ '$') (separator : symbol ∉ ['.', '[', ']', ':'])
    (rest : Name) : readAt (symbol :: rest) =
      firstOf (abbreviations.map fun word => literal word.1 [word.2]) (symbol :: rest) := by
  have miss : oneOf ['$', '.', '[', ']', ':'] '_' (symbol :: rest) = none := by
    rw [oneOf, if_neg]
    rw [List.contains_iff_mem, List.mem_cons]
    exact not_or.mpr ⟨dollar, separator⟩
  rw [readAt, firstOf, List.findSome?_cons, dollarNumber_plain dollar]
  dsimp only
  rw [List.findSome?_cons, miss]
  rfl

/-- The substitutions one after the other read the name as a whole. -/
theorem rewritten_eq (name : Name) : rewritten name = substitute readAt name := by
  induction length : name.length using Nat.strong_induction_on generalizing name with
  | _ count ih =>
      cases name with
      | nil => rfl
      | cons symbol rest =>
          rw [List.length_cons] at length
          by_cases dollar : symbol = '$'
          · subst dollar
            by_cases number : rest.takeWhile Char.isDigit = []
            · rw [substitute_match (readAt_dollar rest number),
                rewritten_of_dollars ['_'] (dollars_dollar number) (by simp)]
              exact congrArg _ (ih rest.length (by omega) rest rfl)
            · have whole := List.takeWhile_append_dropWhile (p := Char.isDigit) (l := rest)
              have shorter := (List.dropWhile_suffix (p := Char.isDigit) (l := rest)).length_le
              rw [← whole] at number ⊢
              have isNumber : (rest.takeWhile Char.isDigit ++ rest.dropWhile Char.isDigit).takeWhile Char.isDigit =
                  rest.takeWhile Char.isDigit := by rw [whole]
              rw [isNumber] at number
              rw [rewritten_number isNumber number, substitute_match (readAt_number isNumber number),
                List.drop_left]
              exact congrArg _ (ih _ (by omega) _ rfl)
          · by_cases separator : symbol ∈ ['.', '[', ']', ':']
            · rw [rewritten_separator separator, substitute_match (readAt_separator separator rest)]
              exact congrArg _ (ih rest.length (by omega) rest rfl)
            · cases found : readAt (symbol :: rest) with
              | none =>
                  rw [substitute_miss found]
                  rw [readAt_other dollar separator] at found
                  rw [rewritten_plain dollar separator (firstOf_literals_none found)]
                  exact congrArg _ (ih rest.length (by omega) rest rfl)
              | some taken =>
                  obtain ⟨more, replacement⟩ := taken
                  rw [substitute_match found]
                  rw [readAt_other dollar separator] at found
                  obtain ⟨word, among, front, rfl, rfl⟩ := firstOf_literals_some found
                  obtain ⟨behind, text⟩ := front
                  have filled : ∀ word ∈ abbreviations, 0 < word.1.length := by decide
                  have positive := filled word among
                  have tail : rest.drop (word.1.length - 1) = behind := by
                    have dropped := congrArg (List.drop word.1.length) text
                    rw [List.drop_left] at dropped
                    rw [dropped, ← Nat.succ_pred_eq_of_pos positive]
                    rfl
                  have size := congrArg List.length text
                  rw [List.length_append, List.length_cons] at size
                  rw [tail, ← text, rewritten_word among]
                  exact congrArg _ (ih behind.length (by omega) behind rfl)

/-- The name of a table is read once behind the prefix of its pipe. -/
theorem normalizeFieldName_eq (name : Name) : normalizeFieldName name = reading name := by
  change separators (abbreviate (removePrefix pipePrefix (dollars name))) = _
  rw [reading]
  by_cases front : pipePrefix <+: name
  · obtain ⟨rest, rfl⟩ := front
    rw [dollars_front (by decide), removePrefix_append, removePrefix_append]
    exact rewritten_eq rest
  · have kept : ¬ pipePrefix <+: dollars name := by
      rintro ⟨behind, same⟩
      obtain ⟨rest, text, -⟩ := word_of_dollars pipePrefix (by decide) same.symm
      exact front ⟨rest, text.symm⟩
    rw [removePrefix_miss kept, removePrefix_miss front]
    exact rewritten_eq name

/-! The files -/

variable {lower : Char → Char}

/-- Two names read alike when only the case tells their readings apart. -/
def ReadAlike (lower : Char → Char) (first second : Name) : Prop :=
  (reading first).map lower = (reading second).map lower

/-- The tables of snapshots are left out. -/
def Skipped (lower : Char → Char) (name : Name) : Prop :=
  snapshot <:+: apiPrefix ++ '_' :: (reading name).map lower

instance (lower : Char → Char) (first second : Name) : Decidable (ReadAlike lower first second) :=
  inferInstanceAs (Decidable (_ = _))

instance (lower : Char → Char) (name : Name) : Decidable (Skipped lower name) :=
  inferInstanceAs (Decidable (_ <:+: _))

theorem filename_eq (lower : Char → Char) (name : Name) :
    filename lower name = apiPrefix ++ '_' :: (reading name).map lower := by
  rw [filename, normalizeFieldName_eq]

theorem filename_inj {first second : Name} :
    filename lower first = filename lower second ↔ ReadAlike lower first second := by
  rw [filename_eq, filename_eq, List.append_cancel_left_eq, List.cons_inj_right]
  rfl

theorem sourcePath_inj {first second : Name} : sourcePath first = sourcePath second ↔ first = second :=
  List.append_left_inj _

theorem headerPath_inj {first second : Name} : headerPath first = headerPath second ↔ first = second := by
  rw [headerPath, headerPath, List.append_left_inj, List.append_right_inj]

theorem sourcePath_ne_headerPath (first second : Name) : sourcePath first ≠ headerPath second := by
  intro same
  have tails := List.append_inj_right' same rfl
  exact absurd tails (by decide)

theorem filename_ne_prefix (lower : Char → Char) (name : Name) : filename lower name ≠ apiPrefix := by
  intro same
  have length := congrArg List.length same
  rw [filename, List.length_append, List.length_cons] at length
  omega

theorem tableFiles_of_kept {name : Name} (kept : ¬ Skipped lower name) :
    tableFiles lower name = [sourcePath (filename lower name), headerPath (filename lower name)] := by
  rw [tableFiles, if_neg]
  rwa [filename_eq]

theorem tableFiles_of_skipped {name : Name} (skipped : Skipped lower name) : tableFiles lower name = [] := by
  rw [tableFiles, if_pos]
  rwa [filename_eq]

theorem tableFiles_nodup (lower : Char → Char) (name : Name) : (tableFiles lower name).Nodup := by
  by_cases skipped : Skipped lower name
  · rw [tableFiles_of_skipped skipped]
    exact .nil
  · rw [tableFiles_of_kept skipped]
    simpa using sourcePath_ne_headerPath _ _

/-- Two tables share no file unless both are written and read alike. -/
theorem disjoint_tableFiles_iff (first second : Name) :
    List.Disjoint (tableFiles lower first) (tableFiles lower second) ↔
      (¬ Skipped lower first → ¬ Skipped lower second → ¬ ReadAlike lower first second) := by
  by_cases skippedFirst : Skipped lower first
  · rw [tableFiles_of_skipped skippedFirst]
    exact iff_of_true (List.disjoint_nil_left _) fun kept => absurd skippedFirst kept
  by_cases skippedSecond : Skipped lower second
  · rw [tableFiles_of_skipped skippedSecond]
    exact iff_of_true (List.disjoint_nil_right _) fun _ kept => absurd skippedSecond kept
  rw [tableFiles_of_kept skippedFirst, tableFiles_of_kept skippedSecond, ← filename_inj]
  constructor
  · intro apart _ _ same
    refine apart List.mem_cons_self ?_
    rw [same]
    exact List.mem_cons_self
  · intro different path inFirst inSecond
    have apart := different skippedFirst skippedSecond
    simp only [List.mem_cons, List.not_mem_nil, or_false] at inFirst inSecond
    rcases inFirst with rfl | rfl
    · rcases inSecond with same | same
      · exact apart (sourcePath_inj.mp same)
      · exact sourcePath_ne_headerPath _ _ same
    · rcases inSecond with same | same
      · exact sourcePath_ne_headerPath _ _ same.symm
      · exact apart (headerPath_inj.mp same)

theorem header_not_mem (lower : Char → Char) (tables : List Name) :
    headerPath apiPrefix ∉ tables.flatMap (tableFiles lower) := by
  intro member
  obtain ⟨name, -, written⟩ := List.mem_flatMap.mp member
  by_cases skipped : Skipped lower name
  · rw [tableFiles_of_skipped skipped] at written
    exact absurd written List.not_mem_nil
  · rw [tableFiles_of_kept skipped] at written
    simp only [List.mem_cons, List.not_mem_nil, or_false] at written
    rcases written with same | same
    · exact sourcePath_ne_headerPath _ _ same.symm
    · exact filename_ne_prefix lower name (headerPath_inj.mp same).symm

/-- No file is written twice exactly when no two tables that are written read alike. -/
theorem run_nodup_iff (lower : Char → Char) (tables : List Name) (distinct : tables.Nodup) :
    (run lower tables).Nodup ↔ ∀ first ∈ tables, ∀ second ∈ tables,
      ¬ Skipped lower first → ¬ Skipped lower second → ReadAlike lower first second → first = second := by
  have apart : List.Pairwise (fun first second => List.Disjoint (tableFiles lower first) (tableFiles lower second))
      tables ↔ ∀ first ∈ tables, ∀ second ∈ tables, first ≠ second →
        List.Disjoint (tableFiles lower first) (tableFiles lower second) := by
    have symmetric : Std.Symm fun first second =>
        List.Disjoint (tableFiles lower first) (tableFiles lower second) :=
      ⟨fun _ _ disjoint _ inFirst inSecond => disjoint inSecond inFirst⟩
    exact ⟨fun pairwise first inFirst second inSecond different =>
      pairwise.forall inFirst inSecond different, fun all => distinct.pairwise_of_forall_ne all⟩
  have files : (run lower tables).Nodup ↔ List.Pairwise
      (fun first second => List.Disjoint (tableFiles lower first) (tableFiles lower second)) tables := by
    rw [run, List.nodup_append_comm, List.singleton_append, List.nodup_cons, List.nodup_flatMap]
    exact ⟨fun both => both.2.2,
      fun pairwise => ⟨header_not_mem lower tables, fun name _ => tableFiles_nodup lower name, pairwise⟩⟩
  rw [files, apart]
  constructor
  · intro all first inFirst second inSecond keptFirst keptSecond alike
    by_contra different
    exact (disjoint_tableFiles_iff first second).mp (all first inFirst second inSecond different)
      keptFirst keptSecond alike
  · intro all first inFirst second inSecond different
    rw [disjoint_tableFiles_iff]
    exact fun keptFirst keptSecond alike =>
      different (all first inFirst second inSecond keptFirst keptSecond alike)

theorem run_nodup_iff_two : (run Char.toLower [['a'], ['b']]).Nodup :=
  (run_nodup_iff Char.toLower [['a'], ['b']] (by decide)).mpr (by decide)

/-- A separator and an underscore name the same files. -/
theorem not_run_nodup_separator : ¬ ∀ tables : List Name, tables.Nodup → (∀ name ∈ tables, name ≠ []) →
    (run Char.toLower tables).Nodup := by
  intro all
  exact absurd (all [['a', '.', 'b'], ['a', '_', 'b']] (by decide) (by decide)) (by decide)

end IgwP4.Apigen
