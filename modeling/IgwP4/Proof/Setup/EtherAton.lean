/-
This file shows on which texts `ether_aton` accepts exactly six octets and else changes nothing.
-/

import IgwP4.Construction.Setup.ConfigFile
import IgwP4.Construction.Setup.EtherAton

namespace IgwP4.Setup
open Netlink

/-! The format -/

/-- One octet is a string of hexadecimal digits with a value of one byte. -/
def hexOctet (group : List Byte) : Option Byte :=
  let (digits, rest) := hexDigits group
  if digits ≠ [] ∧ rest = [] ∧ hexValue digits ≤ 255 then some (BitVec.ofNat 8 (hexValue digits)) else none

/-- Six octets with single colons between them -/
def macFormat (text : List Byte) : Option (List Byte) :=
  ((text.splitOn 0x3a).mapM hexOctet).filter fun octets => octets.length = 6

/-- A text in the format gives its octets, and any other text fails and leaves the array alone. -/
def formatResult (text macAddr : List Byte) : Bool × List Byte :=
  match macFormat text with
  | some octets => (true, octets)
  | none => (false, macAddr)

/-! What the loop reads -/

/-- A byte at which every part of a number ends -/
structure Stops (c : Byte) : Prop where
  space : isSpace c = false
  sign : c ≠ 0x2b ∧ c ≠ 0x2d
  digit : hexDigit c = none
  x : c ≠ 0x78 ∧ c ≠ 0x58

theorem stops_terminator : Stops 0 := ⟨by decide, by decide, by decide, by decide⟩

theorem stops_colon : Stops 0x3a := ⟨by decide, by decide, by decide, by decide⟩

variable {c : Byte}

theorem dropWhile_stops (stops : Stops c) (front behind : List Byte) :
    (front ++ c :: behind).dropWhile isSpace = front.dropWhile isSpace ++ c :: behind := by
  induction front with
  | nil => simp [stops.space]
  | cons first rest ih =>
      rw [List.cons_append, List.dropWhile_cons, List.dropWhile_cons]
      split
      · exact ih
      · rfl

theorem signOf_stops (stops : Stops c) (front behind : List Byte) :
    signOf (front ++ c :: behind) = ((signOf front).1, (signOf front).2 ++ c :: behind) := by
  cases front with
  | nil =>
      change signOf (c :: behind) = (false, c :: behind)
      rw [signOf, if_neg stops.sign.1, if_neg stops.sign.2]
  | cons first rest =>
      rw [List.cons_append, signOf, signOf]
      split
      · rfl
      · split <;> rfl

theorem hexDigits_stops (stops : Stops c) (front behind : List Byte) :
    hexDigits (front ++ c :: behind) = ((hexDigits front).1, (hexDigits front).2 ++ c :: behind) := by
  induction front with
  | nil => simp [hexDigits, stops.digit]
  | cons first rest ih =>
      rw [List.cons_append, hexDigits, hexDigits]
      cases hexDigit first with
      | none => rfl
      | some digit => simp only [ih]

theorem skipHexPrefix_stops (stops : Stops c) (front behind : List Byte) :
    skipHexPrefix (front ++ c :: behind) = skipHexPrefix front ++ c :: behind := by
  have zero : c ≠ 0x30 := by
    rintro rfl
    exact absurd stops.digit (by decide)
  match front with
  | [] =>
      cases behind with
      | nil => rfl
      | cons second rest =>
          rw [List.nil_append, skipHexPrefix, if_neg fun both => zero both.1]
          rfl
  | [first] =>
      rw [List.cons_append, List.nil_append, skipHexPrefix,
        if_neg fun all => all.2.1.elim stops.x.1 stops.x.2]
      rfl
  | first :: second :: rest =>
      rw [List.cons_append, List.cons_append, skipHexPrefix, skipHexPrefix, hexDigits_stops stops]
      split <;> rfl

/-- A number in front of such a byte is read as if the text ended there. -/
theorem strtoul16_stops (stops : Stops c) (front behind : List Byte) :
    strtoul16 (front ++ c :: behind) =
      (strtoul16 front).map fun found => (found.1, found.2 ++ c :: behind) := by
  rw [strtoul16, strtoul16, dropWhile_stops stops, signOf_stops stops]
  dsimp only
  rw [skipHexPrefix_stops stops, hexDigits_stops stops]
  dsimp only
  split <;> rfl

/-- `strtoul` reads the whole group as a number. -/
def wholeNumber (group : List Byte) : Option Nat :=
  match strtoul16 group with
  | some (value, []) => some value
  | _ => none

theorem signOf_suffix (text : List Byte) : (signOf text).2 <:+ text := by
  cases text with
  | nil => exact List.suffix_rfl
  | cons first rest =>
      rw [signOf]
      split
      · exact List.suffix_cons first rest
      · split
        · exact List.suffix_cons first rest
        · exact List.suffix_rfl

theorem skipHexPrefix_suffix (text : List Byte) : skipHexPrefix text <:+ text := by
  match text with
  | [] => exact List.suffix_rfl
  | [first] => exact List.suffix_rfl
  | first :: second :: rest =>
      rw [skipHexPrefix]
      split
      · exact ⟨[first, second], rfl⟩
      · exact List.suffix_rfl

theorem hexDigits_suffix (text : List Byte) : (hexDigits text).2 <:+ text := by
  induction text with
  | nil => exact List.suffix_rfl
  | cons first rest ih =>
      rw [hexDigits]
      cases hexDigit first with
      | none => exact List.suffix_rfl
      | some digit => exact ih.trans (List.suffix_cons first rest)

/-- What stands behind a number stands in the text. -/
theorem strtoul16_suffix {text : List Byte} {value : Nat} {rest : List Byte}
    (found : strtoul16 text = some (value, rest)) : rest <:+ text := by
  rw [strtoul16] at found
  dsimp only at found
  split at found
  · contradiction
  · have same := (Prod.mk.inj (Option.some.inj found)).2
    rw [← same]
    exact ((hexDigits_suffix _).trans (skipHexPrefix_suffix _)).trans
      ((signOf_suffix _).trans (List.dropWhile_suffix _))

/-- The loop reads the groups between the first colons. -/
theorem etherAtonGroups_eq (count : Nat) (text : List Byte) :
    etherAtonGroups count text = ((text.splitOn 0x3a).take count).mapM wholeNumber := by
  induction count generalizing text with
  | zero => rfl
  | succ count ih =>
      by_cases colon : 0x3a ∈ text
      · obtain ⟨front, behind, rfl, absent⟩ := List.eq_append_cons_of_mem colon
        rw [List.splitOn_append_cons_self_of_not_mem absent, List.take_succ_cons, List.mapM_cons,
          etherAtonGroups, strtoul16_stops stops_colon, wholeNumber, ← ih]
        cases found : strtoul16 front with
        | none => rfl
        | some read =>
            obtain ⟨value, rest⟩ := read
            cases rest with
            | nil =>
                simp only [Option.map_some, List.nil_append]
                rw [if_pos trivial]
                cases etherAtonGroups count behind <;> rfl
            | cons next rest =>
                have inside := (strtoul16_suffix found).mem List.mem_cons_self
                simp only [Option.map_some, List.cons_append]
                rw [if_neg (ne_of_mem_of_not_mem inside absent)]
                rfl
      · rw [List.splitOn_eq_singleton colon, List.take_succ_cons, List.take_nil, List.mapM_cons,
          etherAtonGroups, wholeNumber]
        cases found : strtoul16 text with
        | none => rfl
        | some read =>
            obtain ⟨value, rest⟩ := read
            cases rest with
            | nil => rfl
            | cons next rest =>
                have inside := (strtoul16_suffix found).mem List.mem_cons_self
                simp only
                rw [if_neg (ne_of_mem_of_not_mem inside colon)]
                rfl

/-! The bytes that are read -/

theorem readSpaces_stops (stops : Stops c) (front behind : List Byte) :
    readSpaces (front ++ c :: behind) = some (front.dropWhile isSpace ++ c :: behind) := by
  induction front with
  | nil => simp [readSpaces, stops.space]
  | cons first rest ih =>
      rw [List.cons_append, readSpaces, List.dropWhile_cons]
      split
      · exact ih
      · rfl

theorem readSign_append (front behind : List Byte) :
    readSign (front ++ c :: behind) = some (signOf (front ++ c :: behind)) := by
  cases front <;> rfl

theorem readHexDigits_stops (stops : Stops c) (front behind : List Byte) :
    readHexDigits (front ++ c :: behind) = some ((hexDigits front).1, (hexDigits front).2 ++ c :: behind) := by
  induction front with
  | nil => simp [readHexDigits, hexDigits, stops.digit]
  | cons first rest ih =>
      rw [List.cons_append, readHexDigits, hexDigits]
      cases hexDigit first with
      | none => rfl
      | some digit => simp only [ih, Option.map_some]

theorem readHexPrefix_stops (stops : Stops c) (front behind : List Byte) :
    readHexPrefix (front ++ c :: behind) = some (skipHexPrefix front ++ c :: behind) := by
  have zero : c ≠ 0x30 := by
    rintro rfl
    exact absurd stops.digit (by decide)
  match front with
  | [] =>
      rw [List.nil_append, readHexPrefix, if_neg zero]
      rfl
  | [first] =>
      rw [List.cons_append, List.nil_append, readHexPrefix]
      split
      · rw [readX, if_neg fun x => x.elim stops.x.1 stops.x.2]
        rfl
      · rfl
  | first :: second :: rest =>
      rw [List.cons_append, List.cons_append, readHexPrefix, readX, skipHexPrefix]
      by_cases leading : first = 0x30
      · rw [if_pos leading]
        by_cases x : second = 0x78 ∨ second = 0x58
        · rw [if_pos x, readHexDigits_stops stops, Option.map_some]
          by_cases digits : (hexDigits rest).1 = []
          · rw [if_neg (not_not_intro digits), if_neg fun all => all.2.2 digits]
            rfl
          · rw [if_pos digits, if_pos ⟨leading, x, digits⟩]
        · rw [if_neg x, if_neg fun all => x all.2.1]
          rfl
      · rw [if_neg leading, if_neg fun all => leading all.1]
        rfl

/-- In front of such a byte a number is read inside the object. -/
theorem readStrtoul16_stops (stops : Stops c) (front behind : List Byte) :
    readStrtoul16 (front ++ c :: behind) =
      some ((strtoul16 front).map fun found => (found.1, found.2 ++ c :: behind)) := by
  rw [← strtoul16_stops stops, readStrtoul16, strtoul16, readSpaces_stops stops, dropWhile_stops stops]
  change (readSign (_ ++ c :: behind)).bind _ = _
  rw [readSign_append, signOf_stops stops]
  change (readHexPrefix (_ ++ c :: behind)).bind _ = _
  rw [readHexPrefix_stops stops]
  change (readHexDigits (_ ++ c :: behind)).bind _ = _
  rw [readHexDigits_stops stops]
  dsimp only
  rw [skipHexPrefix_stops stops, hexDigits_stops stops]
  rfl

/-- The groups are read up to the terminator at most. -/
theorem readEtherAtonGroups_eq (count : Nat) (text behind : List Byte) (nonzero : 0 ∉ text) :
    readEtherAtonGroups count (text ++ 0 :: behind) = some (etherAtonGroups count text) := by
  induction count generalizing text with
  | zero => rfl
  | succ count ih =>
      rw [readEtherAtonGroups, etherAtonGroups, readStrtoul16_stops stops_terminator]
      cases found : strtoul16 text with
      | none => rfl
      | some read =>
          obtain ⟨value, rest⟩ := read
          cases rest with
          | nil => rfl
          | cons next rest =>
              have suffix := strtoul16_suffix found
              have other : next ≠ 0 := ne_of_mem_of_not_mem (suffix.mem List.mem_cons_self) nonzero
              have shorter : 0 ∉ rest := fun member => nonzero (suffix.mem (List.mem_cons_of_mem _ member))
              simp only [Option.map_some, List.cons_append]
              rw [if_neg other]
              split
              · rw [ih rest shorter, Option.map_some]
              · rfl

/-- No byte behind the terminator is read. -/
theorem readEtherAton_eq (text : Text) (behind macAddr : List Byte) :
    readEtherAton (text.bytes ++ 0 :: behind) macAddr = some (etherAton text.bytes macAddr) := by
  have found := readEtherAtonGroups_eq 6 text.bytes behind text.nonzero
  refine (congrArg (Option.map _) found).trans ?_
  unfold etherAton
  cases etherAtonGroups 6 text.bytes <;> rfl

/-! Octets as numbers -/

theorem hexDigit_visible : ∀ c : Byte, (hexDigit c).isSome →
    isSpace c = false ∧ c ≠ 0x2b ∧ c ≠ 0x2d ∧ c ≠ 0x78 ∧ c ≠ 0x58 := by
  decide

theorem hexDigits_of_whole {group : List Byte} (whole : (hexDigits group).2 = []) :
    ∀ c ∈ group, (hexDigit c).isSome := by
  induction group with
  | nil => exact fun _ member => absurd member List.not_mem_nil
  | cons first rest ih =>
      rw [hexDigits] at whole
      cases digit : hexDigit first with
      | none =>
          rw [digit] at whole
          contradiction
      | some value =>
          rw [digit] at whole
          intro c member
          rcases List.mem_cons.mp member with rfl | later
          · rw [digit]
            rfl
          · exact ih whole c later

/-- A string of digits is a number without spaces, sign or prefix. -/
theorem strtoul16_of_digits {group : List Byte} (some : group ≠ []) (whole : (hexDigits group).2 = []) :
    strtoul16 group = if (hexDigits group).1 = [] ∨ 2 ^ 64 ≤ hexValue (hexDigits group).1 then none
      else .some (hexValue (hexDigits group).1, []) := by
  have digits := hexDigits_of_whole whole
  obtain ⟨first, rest, rfl⟩ := List.exists_cons_of_ne_nil some
  obtain ⟨space, plus, minus, -, -⟩ := hexDigit_visible first (digits first List.mem_cons_self)
  have skipped : (first :: rest).dropWhile isSpace = first :: rest := by
    rw [List.dropWhile_cons, if_neg (by rw [space]; decide)]
  have unsigned : signOf (first :: rest) = (false, first :: rest) := by
    rw [signOf, if_neg plus, if_neg minus]
  have plain : skipHexPrefix (first :: rest) = first :: rest := by
    cases rest with
    | nil => rfl
    | cons second behind =>
        obtain ⟨-, -, -, small, large⟩ := hexDigit_visible second
          (digits second (List.mem_cons_of_mem _ List.mem_cons_self))
        rw [skipHexPrefix, if_neg fun all => all.2.1.elim small large]
  rw [strtoul16, skipped, unsigned]
  dsimp only
  rw [plain, whole]
  rfl

theorem wholeNumber_of_octet {group : List Byte} {octet : Byte} (found : hexOctet group = some octet) :
    ∃ value, wholeNumber group = some value ∧ value ≤ 255 ∧ BitVec.ofNat 8 value = octet := by
  rw [hexOctet] at found
  dsimp only at found
  split at found
  next format =>
      obtain ⟨digits, whole, small⟩ := format
      have filled : group ≠ [] := by
        rintro rfl
        exact digits rfl
      refine ⟨hexValue (hexDigits group).1, ?_, small, Option.some.inj found⟩
      rw [wholeNumber, strtoul16_of_digits filled whole, if_neg (not_or.mpr ⟨digits, by omega⟩)]
  next => contradiction

/-- Groups that are octets are small numbers. -/
theorem mapM_wholeNumber_of_octets {groups : List (List Byte)} {octets : List Byte}
    (found : groups.mapM hexOctet = some octets) : ∃ values, groups.mapM wholeNumber = some values ∧
      values.length = groups.length ∧ (∀ value ∈ values, value ≤ 255) ∧ values.map (BitVec.ofNat 8) = octets := by
  induction groups generalizing octets with
  | nil => exact ⟨[], rfl, rfl, by simp, Option.some.inj found⟩
  | cons group rest ih =>
      rw [List.mapM_cons] at found
      obtain ⟨octet, first, found⟩ := Option.bind_eq_some_iff.mp found
      obtain ⟨others, later, found⟩ := Option.bind_eq_some_iff.mp found
      obtain ⟨value, number, small, same⟩ := wholeNumber_of_octet first
      obtain ⟨values, numbers, length, smalls, sames⟩ := ih later
      refine ⟨value :: values, ?_, congrArg (· + 1) length, ?_, ?_⟩
      · rw [List.mapM_cons, number, numbers]
        rfl
      · exact List.forall_mem_cons.mpr ⟨small, smalls⟩
      · rw [List.map_cons, same, sames]
        exact Option.some.inj found

/-! The stores -/

/-- Six small groups are stored as octets. -/
theorem storeOctets_six {groups : List Nat} {macAddr : List Byte} (six : groups.length = 6)
    (room : macAddr.length = 6) (small : ∀ group ∈ groups, group ≤ 255) :
    storeOctets groups 6 macAddr = (true, groups.map (BitVec.ofNat 8)) := by
  match groups, six, macAddr, room with
  | [a, b, c, d, e, f], _, [u, v, w, x, y, z], _ =>
      simp only [List.forall_mem_cons] at small
      obtain ⟨fa, fb, fc, fd, fe, ff, _⟩ := small
      simp [storeOctets, Nat.not_lt.mpr fa, Nat.not_lt.mpr fb, Nat.not_lt.mpr fc, Nat.not_lt.mpr fd,
        Nat.not_lt.mpr fe, Nat.not_lt.mpr ff]

/-- The octets behind the groups that are still to be stored stay as they are. -/
theorem storeOctets_behind (groups : List Nat) (count : Nat) (macAddr : List Byte) {index : Nat}
    (behind : count ≤ index) : (storeOctets groups count macAddr).2[index]? = macAddr[index]? := by
  induction count generalizing macAddr with
  | zero => rfl
  | succ count ih =>
      rw [storeOctets]
      split
      · rfl
      · rw [ih _ (by omega), List.getElem?_set_ne (by omega)]

/-- A group is too large, and all octets behind the last such group are in the array already. -/
def StoredBehind (groups : List Nat) (count : Nat) (macAddr : List Byte) : Prop :=
  ∃ last < count, 255 < groups.getD last 0 ∧ ∀ index, last < index → index < count →
    groups.getD index 0 ≤ 255 ∧ macAddr[index]? = some (BitVec.ofNat 8 (groups.getD index 0))

/-- The stores fail without a change exactly when they store what is there. -/
theorem storeOctets_unchanged_iff (groups : List Nat) {count : Nat} {macAddr : List Byte}
    (room : count ≤ macAddr.length) :
    storeOctets groups count macAddr = (false, macAddr) ↔ StoredBehind groups count macAddr := by
  induction count with
  | zero => simp [storeOctets, StoredBehind]
  | succ count ih =>
      rw [storeOctets]
      by_cases large : 255 < groups.getD count 0
      · rw [if_pos large]
        exact iff_of_true rfl ⟨count, by omega, large, fun index above below => by omega⟩
      · rw [if_neg large]
        by_cases there : macAddr[count]? = some (BitVec.ofNat 8 (groups.getD count 0))
        · have same : macAddr.set count (BitVec.ofNat 8 (groups.getD count 0)) = macAddr := by
            obtain ⟨inside, value⟩ := List.getElem?_eq_some_iff.mp there
            rw [← value, List.set_getElem_self]
          rw [same, ih (by omega)]
          constructor
          · rintro ⟨last, before, beyond, others⟩
            refine ⟨last, by omega, beyond, fun index above below => ?_⟩
            rcases Nat.lt_succ_iff_lt_or_eq.mp below with earlier | rfl
            · exact others index above earlier
            · exact ⟨by omega, there⟩
          · rintro ⟨last, before, beyond, others⟩
            have earlier : last ≠ count := by
              rintro rfl
              exact large beyond
            exact ⟨last, by omega, beyond, fun index above below => others index above (by omega)⟩
        · constructor
          · intro unchanged
            have kept := storeOctets_behind groups count
              (macAddr.set count (BitVec.ofNat 8 (groups.getD count 0))) (Nat.le_refl count)
            rw [unchanged, List.getElem?_set_self (by omega)] at kept
            exact absurd kept there
          · rintro ⟨last, before, beyond, others⟩
            have earlier : last ≠ count := by
              rintro rfl
              exact large beyond
            exact absurd (others count (by omega) (by omega)).2 there

/-! The condition -/

/-- The numbers of the first six groups, when `strtoul` reads each of these groups to its end -/
def groupNumbers (text : List Byte) : Option (List Nat) := ((text.splitOn 0x3a).take 6).mapM wholeNumber

/--
One of the first six groups is no number, or the text is in the format, or it has six numbers of
which one is too large and the octets behind the last such number are in the array already.
-/
def AtonExact (text macAddr : List Byte) : Prop :=
  ∀ groups, groupNumbers text = some groups →
    (macFormat text).isSome ∨ groups.length = 6 ∧ StoredBehind groups 6 macAddr

theorem groups_of_format {text octets : List Byte} (format : macFormat text = some octets) :
    ∃ groups, groupNumbers text = some groups ∧ groups.length = 6 ∧ (∀ group ∈ groups, group ≤ 255) ∧
      groups.map (BitVec.ofNat 8) = octets := by
  obtain ⟨found, six⟩ := Option.filter_eq_some_iff.mp format
  obtain ⟨values, numbers, length, small, same⟩ := mapM_wholeNumber_of_octets found
  have count : values.length = 6 := by
    rw [← List.length_map (f := BitVec.ofNat 8), same]
    exact of_decide_eq_true six
  refine ⟨values, ?_, count, small, same⟩
  rw [groupNumbers, List.take_of_length_le (by omega)]
  exact numbers

/-- A text is parsed as the format says, without a read behind its terminator, exactly in these cases. -/
theorem etherAton_exact_iff (text : Text) (macAddr : List Byte) (room : macAddr.length = 6) :
    readEtherAton (text.bytes ++ [0]) macAddr = some (formatResult text.bytes macAddr) ↔
      AtonExact text.bytes macAddr := by
  rw [readEtherAton_eq, Option.some_inj, etherAton, etherAtonGroups_eq, ← groupNumbers, formatResult,
    AtonExact]
  cases format : macFormat text.bytes with
  | some octets =>
      obtain ⟨groups, numbers, six, small, same⟩ := groups_of_format format
      rw [numbers]
      simp [six, storeOctets_six six room small, same]
  | none =>
      cases numbers : groupNumbers text.bytes with
      | none => simp
      | some groups =>
          by_cases six : groups.length = 6
          · simp [six, storeOctets_unchanged_iff groups (Nat.le_of_eq room.symm)]
          · simp [six]

/-- The six octets `1:2:3:4:5:6` -/
def sixOctets : List Byte := [0x31, 0x3a, 0x32, 0x3a, 0x33, 0x3a, 0x34, 0x3a, 0x35, 0x3a, 0x36]

theorem etherAton_exact_iff_sixOctets : readEtherAton (sixOctets ++ [0]) (List.replicate 6 0) =
    some (formatResult sixOctets (List.replicate 6 0)) :=
  (etherAton_exact_iff ⟨sixOctets, by decide⟩ (List.replicate 6 0) rfl).mpr fun _ _ => .inl (by decide)

/-- A text with one group succeeds and stores nothing. -/
theorem not_etherAton_exact_one : ¬ ∀ (text : Text) (macAddr : List Byte), macAddr.length = 6 →
    readEtherAton (text.bytes ++ [0]) macAddr = some (formatResult text.bytes macAddr) := by
  intro all
  exact absurd (all ⟨[0x31], by decide⟩ (List.replicate 6 0) rfl) (by decide)

end IgwP4.Setup
