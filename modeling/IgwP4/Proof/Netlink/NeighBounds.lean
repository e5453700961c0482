/-
This file shows for which neighbour messages the handler stays inside the message and inside `v4addr`.
-/

import IgwP4.Proof.Netlink.MessageLoop
import IgwP4.Proof.Netlink.NeighCache

namespace IgwP4.Netlink

/-! The row of attributes -/

/-- The attributes that stand one behind the other, and the number of bytes behind them -/
def attributeRow (memory : Memory) : Nat → Nat → Int → List Nat × Int
  | 0, _, len => ([], len)
  | rounds + 1, rta, len =>
      if rtaOk memory rta len then
        let rest := attributeRow memory rounds (rta + align4 (rtaLen memory rta)) (len - align4 (rtaLen memory rta))
        (rta :: rest.1, rest.2)
      else ([], len)

/-- The first attribute of a type -/
def firstOf (memory : Memory) (row : List Nat) (type : Nat) : Option Nat :=
  row.find? fun rta => rtaType memory rta == type

theorem firstOf_cons (memory : Memory) (rta : Nat) (row : List Nat) (type : Nat) :
    firstOf memory (rta :: row) type = if rtaType memory rta = type then some rta else firstOf memory row type := by
  rw [firstOf, List.find?_cons]
  by_cases own : rtaType memory rta = type
  · simp [own]
  · have other : (rtaType memory rta == type) = false := by simp [own]
    rw [other, if_neg own]
    rfl

theorem le_align4 (length : Nat) : length ≤ align4 length := by
  rw [align4]
  omega

/-- The walk ends behind the row, holds its first attributes, and reads only in front of the end. -/
structure WalkSpec (memory : Memory) (max : Nat) (start walked : RtattrTable) (row : List Nat × Int) : Prop where
  tb : ∀ type ≤ max, walked.tb type = (start.tb type).or (firstOf memory row.1 type)
  len : walked.len = row.2
  stops : ¬ rtaOk memory walked.rta walked.len
  behind : (walked.rta : Int) + walked.len = start.rta + start.len
  onward : start.rta ≤ walked.rta
  reads : ∃ more, walked.reads = start.reads ++ more ∧
    ∀ range ∈ more, start.rta ≤ range.1 ∧ ((range.1 + range.2 : Nat) : Int) ≤ start.rta + start.len

theorem walkRtattrs_spec (memory : Memory) (max rounds : Nat) (t : RtattrTable) (enough : t.len.toNat ≤ rounds) :
    WalkSpec memory max t (walkRtattrs memory max rounds t) (attributeRow memory rounds t.rta t.len) := by
  induction rounds generalizing t with
  | zero =>
      have stops : ¬ rtaOk memory t.rta t.len := fun ok => by
        have least := ok.1
        omega
      exact ⟨fun type _ => by simp [walkRtattrs, attributeRow, firstOf], rfl, stops, rfl, Nat.le_refl _, [],
        by simp [walkRtattrs]⟩
  | succ rounds ih =>
      rw [walkRtattrs, attributeRow]
      split
      · rename_i ok
        obtain ⟨least, header, most⟩ := ok
        have aligned := le_align4 (rtaLen memory t.rta)
        have padded : align4 (rtaLen memory t.rta) < rtaLen memory t.rta + 4 := by
          rw [align4]
          omega
        have next := ih {
          tb := if rtaType memory t.rta ≤ max ∧ t.tb (rtaType memory t.rta) = none then
            Function.update t.tb (rtaType memory t.rta) (some t.rta) else t.tb
          rta := t.rta + align4 (rtaLen memory t.rta)
          len := t.len - align4 (rtaLen memory t.rta)
          reads := t.reads ++ [(t.rta, 4)] } (by dsimp only; omega)
        obtain ⟨tb, len, stops, behind, onward, more, reads, inside⟩ := next
        refine ⟨?_, len, stops, ?_, Nat.le_trans (Nat.le_add_right _ _) onward, (t.rta, 4) :: more, ?_, ?_⟩
        · intro type small
          dsimp only
          rw [tb type small, firstOf_cons]
          dsimp only
          by_cases own : rtaType memory t.rta = type
          · subst own
            cases held : t.tb (rtaType memory t.rta) with
            | none => simp [small]
            | some first => simp [held]
          · rw [if_neg own]
            congr 1
            split
            · exact Function.update_of_ne (Ne.symm own) _ _
            · rfl
        · rw [behind]
          push_cast
          omega
        · rw [reads, List.append_assoc, List.singleton_append]
        · intro range member
          rcases List.mem_cons.mp member with rfl | later
          · dsimp only
            push_cast
            omega
          · have range := inside range later
            dsimp only at range
            omega
      · rename_i stops
        refine ⟨fun type _ => by simp [firstOf], rfl, stops, rfl, Nat.le_refl _, _, rfl, ?_⟩
        intro range member
        split at member
        · rw [List.mem_singleton.mp member]
          dsimp only
          push_cast
          omega
        · exact absurd member List.not_mem_nil

/-! The bounds -/

namespace NeighDatagram

/-- The bytes of the message, which has at least its header -/
def size (m : NeighDatagram) : Nat := max nlmsghdrSize (nlmsgLen m.memory m.nlmsg).toNat

/-- What an event must keep to -/
def Bounds (m : NeighDatagram) : NeighEvent → Prop
  | .read offset size => m.nlmsg ≤ offset ∧ offset + size ≤ m.nlmsg + m.size
  | .copyDst size => size ≤ 4
  | .compareDst copied => 4 ≤ copied
  | .copyLladdr rta => 6 ≤ rtaLen m.memory rta - 4
  | .write .. => True

/-- The walk over the attributes ends, and every event keeps to its bound. -/
structure Bounded (m : NeighDatagram) (answers : HardwareAnswers) (s : NeighState) : Prop where
  ends : ¬ rtaOk m.memory (parseRtattrFlags m.memory ndaMax (m.nlmsg + 28) m.len).rta
    (parseRtattrFlags m.memory ndaMax (m.nlmsg + 28) m.len).len
  events : ∀ event ∈ (m.run answers s).events, m.Bounds event

/-- The attributes of the message, and the number of bytes behind them -/
def row (m : NeighDatagram) : List Nat × Int := attributeRow m.memory m.len.toNat (m.nlmsg + 28) m.len

/-- The handler looks at the attributes for this entry. -/
structure Reaches (m : NeighDatagram) (s : NeighState) (entry : MacRewriteEntry) : Prop where
  len : 0 ≤ m.len
  family : m.family = afInet
  found : macEntryGet s.table m.ifindex = some entry

/--
No byte or at least two bytes stand behind the attributes, the first destination has four bytes, and
the first MAC address has at least six unless the destination belongs to another gateway.
-/
structure Fits (m : NeighDatagram) (entry : MacRewriteEntry) : Prop where
  rest : m.row.2 = 0 ∨ 2 ≤ m.row.2
  dst : ∀ rta, firstOf m.memory m.row.1 ndaDst = some rta → rtaLen m.memory rta = 8
  lladdr : ∀ rta, firstOf m.memory m.row.1 ndaLladdr = some rta →
    (∀ dst, firstOf m.memory m.row.1 ndaDst = some dst → ntohl (m.memory.load32 (dst + 4)) = entry.gwIp) →
    10 ≤ rtaLen m.memory rta

end NeighDatagram

theorem len_of_fits {m : NeighDatagram} (fits : (nlmsgLen m.memory m.nlmsg).toNat ≤ bufSize) :
    m.len = (nlmsgLen m.memory m.nlmsg).toNat - 28 := by
  rw [NeighDatagram.len, neighAttrlen, BitVec.toInt_eq_toNat_cond, BitVec.toNat_sub]
  have headers : (28 : BitVec 32).toNat = 28 := rfl
  rw [headers]
  dsimp only [bufSize] at fits
  split <;> omega

/-- The table of the message holds the first attribute of each type. -/
theorem parse_spec (m : NeighDatagram) (type : Nat) (small : type ≤ ndaMax) :
    (parseRtattrFlags m.memory ndaMax (m.nlmsg + 28) m.len).tb type = firstOf m.memory m.row.1 type := by
  have walk := walkRtattrs_spec m.memory ndaMax m.len.toNat ⟨fun _ => none, m.nlmsg + 28, m.len, []⟩ (Nat.le_refl _)
  have held := walk.tb type small
  rw [Option.none_or] at held
  unfold parseRtattrFlags
  dsimp only
  split
  · exact held
  · exact held

/-- The walk ends at no attribute. -/
theorem parse_ends (m : NeighDatagram) : ¬ rtaOk m.memory (parseRtattrFlags m.memory ndaMax (m.nlmsg + 28) m.len).rta
    (parseRtattrFlags m.memory ndaMax (m.nlmsg + 28) m.len).len := by
  have walk := walkRtattrs_spec m.memory ndaMax m.len.toNat ⟨fun _ => none, m.nlmsg + 28, m.len, []⟩ (Nat.le_refl _)
  unfold parseRtattrFlags
  dsimp only
  split
  · exact walk.stops
  · exact walk.stops

theorem size_of_long {m : NeighDatagram} (fits : (nlmsgLen m.memory m.nlmsg).toNat ≤ bufSize) (long : 0 ≤ m.len) :
    (m.size : Int) = 28 + m.len := by
  have total := len_of_fits fits
  rw [NeighDatagram.size, Nat.max_eq_right (by dsimp only [nlmsghdrSize]; omega)]
  omega

/-- The walk reads outside the message only when it reports a deficit with less than two bytes. -/
theorem parse_reads {m : NeighDatagram} (fits : (nlmsgLen m.memory m.nlmsg).toNat ≤ bufSize) (long : 0 ≤ m.len) :
    (∀ range ∈ (parseRtattrFlags m.memory ndaMax (m.nlmsg + 28) m.len).reads, m.Bounds (.read range.1 range.2)) ↔
      m.row.2 = 0 ∨ 2 ≤ m.row.2 := by
  have walk := walkRtattrs_spec m.memory ndaMax m.len.toNat ⟨fun _ => none, m.nlmsg + 28, m.len, []⟩ (Nat.le_refl _)
  obtain ⟨_, len, stops, behind, onward, more, reads, inside⟩ := walk
  have size := size_of_long fits long
  have early : ∀ range ∈ more, m.Bounds (.read range.1 range.2) := by
    intro range member
    have range := inside range member
    dsimp only at range
    rw [NeighDatagram.Bounds]
    omega
  rw [List.nil_append] at reads
  change _ = m.row.2 at len
  dsimp only at behind onward
  unfold parseRtattrFlags
  dsimp only
  split
  · rename_i deficit
    dsimp only
    rw [reads, List.forall_mem_append, List.forall_mem_singleton, NeighDatagram.Bounds]
    constructor
    · rintro ⟨_, report⟩
      omega
    · intro rest
      refine ⟨early, ?_⟩
      omega
  · rename_i whole
    rw [reads]
    exact iff_of_true early (Or.inl (len.symm.trans (not_not.mp whole)))

/-! What the handler does with the attributes -/

theorem writeNeigh_bounds (m : NeighDatagram) (answers : HardwareAnswers) (entry : MacRewriteEntry) (dmac : Mac)
    (s : NeighState) : ∀ event ∈ (writeNeigh answers entry dmac s).events, m.Bounds event := by
  unfold writeNeigh
  split
  · simp
  · split
    · simp [NeighDatagram.Bounds]
    · simp [NeighDatagram.Bounds]

theorem after_bounds (m : NeighDatagram) (before : List NeighEvent) (run : NeighRun) :
    (∀ event ∈ (run.after before).events, m.Bounds event) ↔
      (∀ event ∈ before, m.Bounds event) ∧ ∀ event ∈ run.events, m.Bounds event :=
  List.forall_mem_append

/-- The six bytes of a MAC address lie in the payload, and nothing behind them leaves its bounds. -/
theorem copyLladdr_bounds (m : NeighDatagram) (answers : HardwareAnswers) (entry : MacRewriteEntry) (rta : Nat)
    (returns : Prop) [Decidable returns] (s : NeighState) :
    (∀ event ∈ (NeighRun.after [.copyLladdr rta] (if returns then ⟨[], s⟩ else
        writeNeigh answers entry (macAt m.memory (rta + 4)) s)).events, m.Bounds event) ↔
      10 ≤ rtaLen m.memory rta := by
  have rest : ∀ event ∈ (if returns then ⟨[], s⟩ else
      writeNeigh answers entry (macAt m.memory (rta + 4)) s : NeighRun).events, m.Bounds event := by
    split
    · simp
    · exact writeNeigh_bounds m answers entry _ s
  rw [after_bounds, List.forall_mem_singleton, NeighDatagram.Bounds]
  constructor
  · intro inside
    omega
  · intro long
    exact ⟨by omega, rest⟩

/-- The copy fills `v4addr` exactly when the destination has four bytes. -/
theorem copyDst_bounds (m : NeighDatagram) (rta : Nat) :
    (∀ event ∈ [NeighEvent.copyDst (rtaLen m.memory rta - 4), .compareDst (rtaLen m.memory rta - 4)],
      m.Bounds event) ↔ rtaLen m.memory rta = 8 := by
  rw [List.forall_mem_cons, List.forall_mem_singleton, NeighDatagram.Bounds, NeighDatagram.Bounds]
  omega

theorem attrs_bounds (m : NeighDatagram) (answers : HardwareAnswers) (tb : Nat → Option Nat)
    (entry : MacRewriteEntry) (s : NeighState) :
    (∀ event ∈ (processNeighAttrs answers m.memory m.v4addr tb entry s).events, m.Bounds event) ↔
      (∀ rta, tb ndaDst = some rta → rtaLen m.memory rta = 8) ∧
        ∀ rta, tb ndaLladdr = some rta →
          (∀ dst, tb ndaDst = some dst → ntohl (m.memory.load32 (dst + 4)) = entry.gwIp) →
            10 ≤ rtaLen m.memory rta := by
  unfold processNeighAttrs
  dsimp only
  cases dst : tb ndaDst with
  | none =>
      cases lladdr : tb ndaLladdr with
      | none => simp
      | some rta =>
          dsimp only
          rw [copyLladdr_bounds]
          simp
  | some rta =>
      dsimp only
      rw [after_bounds, copyDst_bounds]
      simp only [Option.some.injEq, forall_eq']
      refine and_congr_right fun size => ?_
      rw [copiedDst_eq _ _ size]
      split
      · rename_i other
        exact iff_of_true (by simp) fun _ _ own => absurd own.symm other
      · rename_i own
        have own := (not_not.mp own).symm
        cases lladdr : tb ndaLladdr with
        | none => simp
        | some rta' =>
            dsimp only
            rw [copyLladdr_bounds]
            simp [own]

/-! The messages of a neighbour -/

/-- A message keeps to its bounds exactly when every entry that it reaches finds attributes that fit. -/
theorem bounded_iff (m : NeighDatagram) (answers : HardwareAnswers) (s : NeighState) (type : m.type = rtmNewNeigh)
    (fits : (nlmsgLen m.memory m.nlmsg).toNat ≤ bufSize) :
    m.Bounded answers s ↔ ∀ entry, m.Reaches s entry → m.Fits entry := by
  have only : m.Bounded answers s ↔ ∀ event ∈ (m.run answers s).events, m.Bounds event :=
    ⟨NeighDatagram.Bounded.events, fun events => ⟨parse_ends m, events⟩⟩
  have header : ∀ event ∈ [NeighEvent.read m.nlmsg 4], m.Bounds event := by
    rw [List.forall_mem_singleton, NeighDatagram.Bounds, NeighDatagram.size]
    dsimp only [nlmsghdrSize]
    omega
  rw [only]
  unfold NeighDatagram.run processNeighMsg
  rw [if_neg (not_not.mpr type)]
  have length : neighAttrlen m.memory m.nlmsg = m.len := rfl
  dsimp only
  rw [length, after_bounds, and_iff_right header]
  split
  · rename_i short
    exact iff_of_true (by simp) fun entry reaches => absurd reaches.len (by omega)
  · rename_i long
    have size := size_of_long fits (not_lt.mp long)
    have inside (offset count : Nat) (near : offset + count ≤ 28) :
        ∀ event ∈ [NeighEvent.read (m.nlmsg + offset) count], m.Bounds event := by
      rw [List.forall_mem_singleton, NeighDatagram.Bounds]
      omega
    rw [after_bounds, and_iff_right (inside 16 1 (by omega))]
    change (∀ event ∈ (if m.family ≠ afInet then _ else _ : NeighRun).events, _) ↔ _
    split
    · rename_i other
      exact iff_of_true (by simp) fun entry reaches => absurd reaches.family other
    · rename_i family
      have family := not_not.mp family
      rw [after_bounds, and_iff_right (inside 20 4 (by omega))]
      have index : m.memory.load32 (m.nlmsg + 20) = m.ifindex := rfl
      cases found : macEntryGet s.table m.ifindex with
      | none =>
          simp only [index, found]
          refine iff_of_true (by simp) fun entry reaches => ?_
          have held := reaches.found
          rw [found] at held
          contradiction
      | some entry =>
          simp only [index, found]
          have reached (other : MacRewriteEntry) : m.Reaches s other ↔ entry = other :=
            ⟨fun reaches => Option.some.inj (found.symm.trans reaches.found),
              fun same => ⟨not_lt.mp long, family, same ▸ found⟩⟩
          simp only [reached, forall_eq']
          rw [after_bounds, attrs_bounds, List.forall_mem_map]
          rw [parse_reads fits (not_lt.mp long), parse_spec m ndaDst (by decide), parse_spec m ndaLladdr (by decide)]
          exact ⟨fun inside => ⟨inside.1, inside.2.1, inside.2.2⟩, fun fits => ⟨fits.rest, fits.dst, fits.lladdr⟩⟩

theorem sampleNeigh_fits (entry : MacRewriteEntry) : sampleNeigh.Fits entry := by
  have dst : firstOf sampleNeigh.memory sampleNeigh.row.1 ndaDst = some 28 := by decide +kernel
  have lladdr : firstOf sampleNeigh.memory sampleNeigh.row.1 ndaLladdr = some 36 := by decide +kernel
  refine ⟨by decide +kernel, fun rta named => ?_, fun rta named _ => ?_⟩
  · rw [dst] at named
    rw [← Option.some.inj named]
    decide +kernel
  · rw [lladdr] at named
    rw [← Option.some.inj named]
    decide +kernel

theorem bounded_iff_sample : sampleNeigh.Bounded ⟨true, true⟩
    ⟨[⟨7, fun _ => 4, fun _ => 0, 0x0A000002, 256, false⟩], fun _ => none⟩ :=
  (bounded_iff sampleNeigh ⟨true, true⟩ _ rfl (by decide +kernel)).mpr fun entry _ => sampleNeigh_fits entry

/-- A message of the IPv4 family with a destination of 16 bytes -/
def longNeigh : NeighDatagram where
  memory := Memory.ofList [
    48, 0, 0, 0, 28, 0, 0, 0, 0, 0, 0, 0, 0, 0, 0, 0,
    2, 0, 0, 0, 7, 0, 0, 0, 2, 0, 0, 1,
    20, 0, 1, 0, 10, 0, 0, 2, 0, 0, 0, 0, 0, 0, 0, 0, 0, 0, 0, 1]
  v4addr _ := 0
  nlmsg := 0
  type := rtmNewNeigh

def NeighEvent.overflows : NeighEvent → Bool
  | .copyDst size => 4 < size
  | _ => false

/-- The handler copies all 16 bytes into the four bytes of `v4addr`. -/
theorem not_bounded_long : longNeigh.type = rtmNewNeigh ∧ (nlmsgLen longNeigh.memory longNeigh.nlmsg).toNat ≤ bufSize ∧
    ¬ longNeigh.Bounded ⟨true, true⟩
      ⟨[⟨7, fun _ => 4, fun _ => 0, 0x0A000002, 256, false⟩], fun _ => none⟩ := by
  refine ⟨rfl, by decide +kernel, fun bounded => ?_⟩
  have copies : (longNeigh.run ⟨true, true⟩
      ⟨[⟨7, fun _ => 4, fun _ => 0, 0x0A000002, 256, false⟩], fun _ => none⟩).events.any NeighEvent.overflows = true := by
    decide +kernel
  obtain ⟨event, member, overflows⟩ := List.any_eq_true.mp copies
  have bounds := bounded.events event member
  cases event with
  | copyDst size =>
      rw [NeighDatagram.Bounds] at bounds
      rw [NeighEvent.overflows, decide_eq_true_iff] at overflows
      omega
  | _ => contradiction

end IgwP4.Netlink
