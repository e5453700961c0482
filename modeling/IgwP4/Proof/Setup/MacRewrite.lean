/-
This file shows when the two MAC addresses reach the driver as the numbers that they spell.
-/

import IgwP4.Construction.Setup.MacRewrite
import Mathlib.Algebra.BigOperators.Fin

namespace IgwP4.Setup
open Netlink (Byte Memory Mac HardwareAnswers MacRewriteTable)

/-! The value of a word -/

theorem append_toNat {first second : Nat} (high : BitVec first) (low : BitVec second) :
    (high ++ low).toNat = high.toNat * 2 ^ second + low.toNat := by
  rw [BitVec.toNat_append, ← Nat.shiftLeft_add_eq_or_of_lt low.isLt, Nat.shiftLeft_eq]

/-- The number that the first six bytes of a word spell -/
def sixBytes (memory : Memory) (offset : Nat) : Nat :=
  ∑ index : Fin 6, (memory (offset + index)).toNat * 256 ^ index.val

theorem load64_toNat (memory : Memory) (offset : Nat) :
    (load64 memory offset).toNat = sixBytes memory offset + 2 ^ 48 * (memory.load16 (offset + 6)).toNat := by
  rw [load64, Memory.load32, Memory.load32, Memory.load16, sixBytes, Fin.sum_univ_six]
  simp only [append_toNat]
  change _ = (memory (offset + 0)).toNat * 256 ^ 0 + (memory (offset + 1)).toNat * 256 ^ 1 +
    (memory (offset + 2)).toNat * 256 ^ 2 + (memory (offset + 3)).toNat * 256 ^ 3 +
    (memory (offset + 4)).toNat * 256 ^ 4 + (memory (offset + 5)).toNat * 256 ^ 5 + _
  simp only [Nat.add_assoc, Nat.reduceAdd, Nat.add_zero]
  omega

/-! The local object -/

/-- The address that belongs to a field -/
def MacField.mac (smac dmac : Mac) : MacField → Mac
  | .srcMac => smac
  | .dstMac => dmac

/-- The number that an address spells, where its first byte is the highest -/
def macValue (mac : Mac) : Nat := ∑ index : Fin 6, (mac index).toNat * 256 ^ (5 - index.val)

theorem macValue_lt (mac : Mac) : macValue mac < 2 ^ 48 := by
  have first := (mac 0).isLt
  have second := (mac 1).isLt
  have third := (mac 2).isLt
  have fourth := (mac 3).isLt
  have fifth := (mac 4).isLt
  have sixth := (mac 5).isLt
  rw [macValue, Fin.sum_univ_six]
  change _ * 256 ^ 5 + _ * 256 ^ 4 + _ * 256 ^ 3 + _ * 256 ^ 2 + _ * 256 ^ 1 + _ * 256 ^ 0 < _
  omega

/-- The bytes of an address in reverse order spell its number on this host. -/
theorem sixBytes_of_reverse {memory : Memory} {offset : Nat} {mac : Mac}
    (copied : ∀ index (inside : index < 6), memory (offset + index) = (reverseMac mac)[index]) :
    sixBytes memory offset = macValue mac := by
  rw [sixBytes, macValue, Fin.sum_univ_six, Fin.sum_univ_six]
  have first := copied 0 (by decide)
  have second := copied 1 (by decide)
  have third := copied 2 (by decide)
  have fourth := copied 3 (by decide)
  have fifth := copied 4 (by decide)
  have sixth := copied 5 (by decide)
  change (memory (offset + 0)).toNat * 256 ^ 0 + (memory (offset + 1)).toNat * 256 ^ 1 +
      (memory (offset + 2)).toNat * 256 ^ 2 + (memory (offset + 3)).toNat * 256 ^ 3 +
      (memory (offset + 4)).toNat * 256 ^ 4 + (memory (offset + 5)).toNat * 256 ^ 5 =
    (mac 0).toNat * 256 ^ 5 + (mac 1).toNat * 256 ^ 4 + (mac 2).toNat * 256 ^ 3 + (mac 3).toNat * 256 ^ 2 +
      (mac 4).toNat * 256 ^ 1 + (mac 5).toNat * 256 ^ 0
  rw [first, second, third, fourth, fifth, sixth]
  change (mac 5).toNat * 256 ^ 0 + (mac 4).toNat * 256 ^ 1 + (mac 3).toNat * 256 ^ 2 + (mac 2).toNat * 256 ^ 3 +
    (mac 1).toNat * 256 ^ 4 + (mac 0).toNat * 256 ^ 5 = _
  omega

/-- The copy of an address fills the first six bytes of its field. -/
theorem macRewriteData_inside (smac dmac : Mac) (data : Memory) (field : MacField) (index : Nat)
    (inside : index < 6) :
    macRewriteData smac dmac data (field.offset + index) = (reverseMac (field.mac smac dmac))[index] := by
  cases field with
  | srcMac =>
      rw [macRewriteData, Memory.write_outside _ (.inl (by change 0 + index < 8; omega)),
        Memory.write_inside _ _ _ _ inside]
      rfl
  | dstMac => exact Memory.write_inside _ _ _ _ inside

/-- The other two bytes of a field stay as they were. -/
theorem macRewriteData_outside (smac dmac : Mac) (data : Memory) (field : MacField) :
    (macRewriteData smac dmac data).load16 (field.offset + 6) = data.load16 (field.offset + 6) := by
  have stays (location : Nat) (high : location = field.offset + 6 ∨ location = field.offset + 7) :
      macRewriteData smac dmac data location = data location := by
    cases field with
    | srcMac =>
        change location = 6 ∨ location = 7 at high
        rw [macRewriteData, Memory.write_outside _ (.inl (by change location < 8; omega)),
          Memory.write_outside _ (.inr (by change 0 + 6 ≤ location; omega))]
    | dstMac =>
        change location = 14 ∨ location = 15 at high
        rw [macRewriteData, Memory.write_outside _ (.inr (by change 8 + 6 ≤ location; omega)),
          Memory.write_outside _ (.inr (by change 0 + 6 ≤ location; omega))]
  rw [Memory.load16, Memory.load16, stays _ (.inl rfl), stays _ (.inr rfl)]

/-- A field spells its address, and above it what its two highest bytes held before. -/
theorem load64_macRewriteData (smac dmac : Mac) (data : Memory) (field : MacField) :
    (load64 (macRewriteData smac dmac data) field.offset).toNat =
      macValue (field.mac smac dmac) + 2 ^ 48 * (data.load16 (field.offset + 6)).toNat := by
  rw [load64_toNat, macRewriteData_outside,
    sixBytes_of_reverse fun index inside => macRewriteData_inside smac dmac data field index inside]

/-! The calls -/

/-- Every value that the calls set is that of its field in the object. -/
def SetsFrom (data : Memory) (calls : List DriverCall) : Prop :=
  ∀ field value, .dataFieldSetValue field value ∈ calls → value = load64 data field.offset

theorem SetsFrom.append {data : Memory} {calls later : List DriverCall} (sets : SetsFrom data calls)
    (laterSets : SetsFrom data later) : SetsFrom data (calls ++ later) := by
  intro field value member
  rcases List.mem_append.mp member with before | behind
  · exact sets field value before
  · exact laterSets field value behind

/-- A step that does not set a value sets none wrong. -/
theorem SetsFrom.others {data : Memory} {calls : List DriverCall}
    (none : ∀ field value, .dataFieldSetValue field value ∉ calls) : SetsFrom data calls :=
  fun field value member => absurd member (none field value)

theorem SetsFrom.andThen {data : Memory} {driven : Driven} {next : List DriverCall → Driven}
    (sets : SetsFrom data driven.2) (nextSets : ∀ calls, SetsFrom data calls → SetsFrom data (next calls).2) :
    SetsFrom data (driven.andThen next).2 := by
  rw [Driven.andThen]
  split
  · exact nextSets _ sets
  · exact sets

theorem macRewriteEntryFind_sets (driver : Driver) (egressPort : BitVec 16) (data : Memory) :
    SetsFrom data (macRewriteEntryFind driver egressPort []).2 := by
  apply SetsFrom.andThen
  · exact .others (by simp [macRewriteKeySetup, Driver.call])
  · intro calls sets
    exact sets.append (.others (by simp))

theorem macRewriteDataSetup_sets (driver : Driver) (data : Memory) {calls : List DriverCall}
    (sets : SetsFrom data calls) : SetsFrom data (macRewriteDataSetup driver data calls).2 := by
  have single (field : MacField) : SetsFrom data [.dataFieldSetValue field (load64 data field.offset)] := by
    intro other value member
    cases List.mem_singleton.mp member
    rfl
  apply SetsFrom.andThen
  · exact sets.append (single .srcMac)
  · intro calls sets
    exact sets.append (single .dstMac)

theorem macRewriteEntryAdd_sets (driver : Driver) (egressPort : BitVec 16) (data : Memory) (add : Bool)
    {calls : List DriverCall} (sets : SetsFrom data calls) :
    SetsFrom data (macRewriteEntryAdd driver egressPort data add calls).2 := by
  apply SetsFrom.andThen
  · exact (sets.append (.others (by simp))).append (.others (by simp))
  · intro calls sets
    apply SetsFrom.andThen (macRewriteDataSetup_sets driver data sets)
    intro calls sets
    apply SetsFrom.andThen
    · exact sets.append (.others (by cases add <;> simp))
    · intro calls sets
      exact sets.append (.others (by simp))

/-- Every call succeeds. -/
def Driver.Accepts (driver : Driver) : Prop := ∀ calls call, driver calls call = true

theorem Driver.Accepts.andThen {driver : Driver} (accepts : driver.Accepts) (calls : List DriverCall)
    (call : DriverCall) (next : List DriverCall → Driven) :
    (driver.call calls call).andThen next = next (calls ++ [call]) := by
  rw [Driven.andThen, Driver.call, if_pos (accepts calls call)]

/-- A driver that accepts every call gets the values of both fields. -/
theorem macRewriteEntryAdd_accepts {driver : Driver} (accepts : driver.Accepts) (egressPort : BitVec 16)
    (data : Memory) (add : Bool) (calls : List DriverCall) (field : MacField) :
    .dataFieldSetValue field (load64 data field.offset) ∈
      (macRewriteEntryAdd driver egressPort data add calls).2 := by
  have success (calls : List DriverCall) : (macRewriteDataSetup driver data calls).1 = true := by
    rw [macRewriteDataSetup, accepts.andThen]
    exact accepts _ _
  rw [macRewriteEntryAdd, macRewriteKeySetup, accepts.andThen, Driven.andThen, if_pos (success _),
    accepts.andThen, macRewriteDataSetup, accepts.andThen]
  cases field <;> simp [Driver.call]

/-- A driver over a table, where the reads and the writes of the table may fail besides -/
def tableDriver (answers : HardwareAnswers) (held : Bool) : Driver := fun _ call =>
  match call with
  | .entryGet => answers.finds && held
  | .entryAdd => answers.accepts && !held
  | .entryMod => answers.accepts && held
  | _ => true

/-- Over a table the calls succeed exactly when the table takes the pair of addresses. -/
theorem macRewriteTableEntryAdd_isSome (answers : HardwareAnswers) (egressPort : BitVec 9) (smac dmac : Mac)
    (hardware : MacRewriteTable) (data : Memory) :
    (macRewriteTableEntryAdd (tableDriver answers (hardware egressPort).isSome) (egressPort.setWidth 16) (some smac)
      (some dmac) data).1 = (Netlink.macRewriteTableEntryAdd answers egressPort smac dmac hardware).isSome := by
  obtain ⟨finds, accepts⟩ := answers
  rw [Netlink.macRewriteTableEntryAdd]
  dsimp only
  generalize (hardware egressPort).isSome = held
  cases finds <;> cases accepts <;> cases held <;> rfl

/-! What reaches the driver -/

/-- Every value that the driver gets is the number of its address in the low 48 bits, and a driver that accepts every
call gets both. -/
def PassesMacs (driver : Driver) (egressPort : BitVec 16) (smac dmac : Mac) (data : Memory) : Prop :=
  let calls := (macRewriteTableEntryAdd driver egressPort (some smac) (some dmac) data).2
  (∀ field value, .dataFieldSetValue field value ∈ calls →
      value.toNat = macValue (field.mac smac dmac) ∧ value.extractLsb' 48 16 = 0) ∧
    (driver.Accepts → ∀ field, ∃ value, .dataFieldSetValue field value ∈ calls)

/-- When the addresses reach every driver as their numbers, nothing stood above them before. -/
theorem highest_zero_of_passes {smac dmac : Mac} {data : Memory}
    (passes : ∀ driver egressPort, PassesMacs driver egressPort smac dmac data) (field : MacField) :
    data.load16 (field.offset + 6) = 0 := by
  have accepts : Driver.Accepts fun _ _ => true := fun _ _ => rfl
  have member := macRewriteEntryAdd_accepts accepts 0 (macRewriteData smac dmac data)
    (!(macRewriteEntryFind (fun _ _ => true) 0 []).1) (macRewriteEntryFind (fun _ _ => true) 0 []).2 field
  obtain ⟨value, -⟩ := (passes _ 0).1 field _ member
  rw [load64_macRewriteData] at value
  exact BitVec.eq_of_toNat_eq (by change _ = 0; omega)

/-- The two addresses reach every driver as their numbers exactly when the two highest bytes of both fields of the
local object are zero before. -/
theorem passesMacs_iff (smac dmac : Mac) (data : Memory) :
    (∀ driver egressPort, PassesMacs driver egressPort smac dmac data) ↔
      ∀ field : MacField, data.load16 (field.offset + 6) = 0 := by
  constructor
  · exact highest_zero_of_passes
  · intro zero driver egressPort
    constructor
    · intro field value member
      have found := macRewriteEntryAdd_sets driver egressPort (macRewriteData smac dmac data) _
        (macRewriteEntryFind_sets driver egressPort _) field value member
      have number : value.toNat = macValue (field.mac smac dmac) := by
        rw [found, load64_macRewriteData, zero field, show (0 : BitVec 16).toNat = 0 from rfl, Nat.mul_zero,
          Nat.add_zero]
      refine ⟨number, BitVec.eq_of_toNat_eq ?_⟩
      rw [BitVec.extractLsb'_toNat, number, Nat.shiftRight_eq_div_pow, Nat.div_eq_of_lt (macValue_lt _)]
      rfl
    · intro accepts field
      exact ⟨_, macRewriteEntryAdd_accepts accepts egressPort _ _ _ field⟩

/-- An object of ones gives the driver an address with ones above it. -/
theorem not_passesMacs_ones :
    ¬ ∀ (driver : Driver) (egressPort : BitVec 16) (smac dmac : Mac) (data : Memory),
      PassesMacs driver egressPort smac dmac data := by
  intro all
  have zero := highest_zero_of_passes (fun driver egressPort => all driver egressPort (fun _ => 0) (fun _ => 0)
    fun _ => 0xFF) .srcMac
  exact absurd zero (by decide)

end IgwP4.Setup
