/-
This file shows on which datagrams the message loop ends and stays inside the received bytes.
-/

import IgwP4.Construction.Netlink.MessageLoop

namespace IgwP4.Netlink
open Memory

/-- A header that stands with its message inside so many received bytes -/
structure Inside (memory : Memory) (count hdr : Nat) : Prop where
  header : hdr + nlmsghdrSize ≤ count
  least : nlmsghdrSize ≤ (nlmsgLen memory hdr).toNat
  most : hdr + (nlmsgLen memory hdr).toNat ≤ count

/-- The loop ends and passes only headers inside the received bytes. -/
def LoopSound (memory : Memory) (count : Nat) : Prop :=
  ∃ fuel hdrs, processNetlinkLoop memory fuel (received count) = some hdrs ∧
    ∀ hdr ∈ hdrs, Inside memory count hdr

/-- The length field of a message that is given as a string of bytes -/
def lengthField (bytes : List Byte) : Nat := (nlmsgLen (ofList bytes) 0).toNat

/--
A datagram is well formed when it is a row of messages, each at least as long as a header and
padded to a multiple of four bytes, and less than a header behind them.
-/
inductive WellFormed : List Byte → Prop where
  | tail (bytes : List Byte) (short : bytes.length < nlmsghdrSize) : WellFormed bytes
  | message (bytes rest : List Byte) (least : nlmsghdrSize ≤ lengthField bytes)
      (whole : bytes.length = align4 (lengthField bytes)) (more : WellFormed rest) :
      WellFormed (bytes ++ rest)

theorem toNat_clearLowest (word : BitVec 32) : (word &&& ~~~3#32).toNat = word.toNat / 4 * 4 := by
  have shifted : word &&& ~~~3#32 = (word >>> 2) <<< 2 := by
    apply BitVec.eq_of_getLsbD_eq
    intro index inside
    have mask : (~~~3#32).getLsbD index = decide (2 ≤ index) := by
      revert index
      decide
    rw [BitVec.getLsbD_and, BitVec.getLsbD_shiftLeft, BitVec.getLsbD_ushiftRight, mask]
    by_cases low : 2 ≤ index
    · simp [inside, low, show ¬ index < 2 by omega, show 2 + (index - 2) = index by omega]
    · simp [low, show index < 2 by omega]
  rw [shifted, BitVec.toNat_shiftLeft, BitVec.toNat_ushiftRight, Nat.shiftRight_eq_div_pow,
    Nat.shiftLeft_eq]
  have bound := word.isLt
  omega

theorem sizes : nlmsghdrSize = 16 ∧ bufSize = 8192 := ⟨rfl, rfl⟩

/-- The alignment does not wrap around on a length that fits the buffer. -/
theorem toNat_nlmsgAlign (len : BitVec 32) (fits : len.toNat ≤ bufSize) :
    (nlmsgAlign len).toNat = align4 len.toNat := by
  have sizes := sizes
  have sum : (len + 3).toNat = len.toNat + 3 := by
    rw [BitVec.toNat_add]
    change (len.toNat + 3) % 2 ^ 32 = _
    omega
  rw [nlmsgAlign, toNat_clearLowest, sum, align4]

/-- The length field depends on the first four bytes only. -/
theorem nlmsgLen_of_holds {memory : Memory} {hdr : Nat} {bytes : List Byte}
    (stored : memory.Holds hdr bytes) (header : 4 ≤ bytes.length) :
    (nlmsgLen memory hdr).toNat = lengthField bytes := by
  have same (index : Nat) (inside : index < 4) : memory (hdr + index) = ofList bytes (0 + index) := by
    rw [stored index (by omega), holds_ofList bytes index (by omega)]
  have first := same 0 (by omega)
  rw [Nat.add_zero, Nat.add_zero] at first
  rw [lengthField, nlmsgLen, nlmsgLen, load32, load32, first, same 1 (by omega), same 2 (by omega),
    same 3 (by omega)]

theorem more_iff {hdr remaining : Nat} (fits : remaining ≤ bufSize) :
    (LoopState.mk hdr (BitVec.ofNat 64 remaining)).more ↔ nlmsghdrSize ≤ remaining := by
  have sizes := sizes
  rw [LoopState.more, BitVec.toNat_ofNat, Nat.mod_eq_of_lt (by omega)]

/-- A step over a message inside the buffer advances the pointer and lowers the count alike. -/
theorem next_inside {memory : Memory} {hdr remaining : Nat} (fits : remaining ≤ bufSize)
    (inside : align4 (nlmsgLen memory hdr).toNat ≤ remaining) :
    (LoopState.mk hdr (BitVec.ofNat 64 remaining)).next memory =
      ⟨hdr + align4 (nlmsgLen memory hdr).toNat,
        BitVec.ofNat 64 (remaining - align4 (nlmsgLen memory hdr).toNat)⟩ := by
  have sizes := sizes
  have aligned := toNat_nlmsgAlign (nlmsgLen memory hdr) (by unfold align4 at inside; omega)
  rw [LoopState.next]
  simp only [aligned, LoopState.mk.injEq, true_and]
  apply BitVec.eq_of_toNat_eq
  rw [BitVec.toNat_sub, BitVec.toNat_setWidth, aligned, BitVec.toNat_ofNat, BitVec.toNat_ofNat]
  omega

/-- A step over a message whose padding leaves the buffer makes the count negative. -/
theorem next_outside {memory : Memory} {hdr remaining : Nat} (fits : remaining ≤ bufSize)
    (within : (nlmsgLen memory hdr).toNat ≤ remaining)
    (outside : remaining < align4 (nlmsgLen memory hdr).toNat) :
    ((LoopState.mk hdr (BitVec.ofNat 64 remaining)).next memory).more ∧
      hdr + remaining < ((LoopState.mk hdr (BitVec.ofNat 64 remaining)).next memory).hdr := by
  have sizes := sizes
  have aligned := toNat_nlmsgAlign (nlmsgLen memory hdr) (by omega)
  constructor
  · rw [LoopState.more, LoopState.next]
    simp only [BitVec.toNat_sub, BitVec.toNat_setWidth, aligned, BitVec.toNat_ofNat]
    unfold align4 at outside ⊢
    omega
  · rw [LoopState.next]
    simp only [aligned]
    omega

/-- The loop ends inside a well-formed datagram, wherever the datagram stands. -/
theorem loop_of_wellFormed {memory : Memory} {bytes : List Byte} (formed : WellFormed bytes) (hdr : Nat)
    (stored : memory.Holds hdr bytes) (fits : bytes.length ≤ bufSize) :
    ∃ fuel hdrs, processNetlinkLoop memory fuel ⟨hdr, BitVec.ofNat 64 bytes.length⟩ = some hdrs ∧
      ∀ passed ∈ hdrs, Inside memory (hdr + bytes.length) passed := by
  have sizes := sizes
  induction formed generalizing hdr with
  | tail bytes short =>
      refine ⟨1, [], ?_, by simp⟩
      rw [processNetlinkLoop, if_neg (by rw [more_iff fits]; omega)]
  | message bytes rest least whole formed ih =>
      obtain ⟨first, behind⟩ := (holds_append bytes rest).mp stored
      rw [List.length_append] at fits ⊢
      have padded : lengthField bytes ≤ align4 (lengthField bytes) := by
        unfold align4
        omega
      have length := nlmsgLen_of_holds first (by omega)
      obtain ⟨fuel, hdrs, ended, inside⟩ := ih (hdr + bytes.length) behind (by omega)
      refine ⟨fuel + 1, hdr :: hdrs, ?_, ?_⟩
      · rw [processNetlinkLoop, if_pos (by rw [more_iff fits]; omega),
          next_inside fits (by rw [length]; omega), length, ← whole,
          show bytes.length + rest.length - bytes.length = rest.length by omega, ended]
        rfl
      · intro passed among
        rcases List.mem_cons.mp among with rfl | among
        · exact ⟨by omega, by rw [length]; exact least, by rw [length]; omega⟩
        · rw [← Nat.add_assoc]
          exact inside passed among

/-- A loop that ends inside the received bytes has read a well-formed datagram. -/
theorem wellFormed_of_loop {memory : Memory} (fuel : Nat) {bytes : List Byte} (hdr : Nat)
    (stored : memory.Holds hdr bytes) (fits : bytes.length ≤ bufSize) {hdrs : List Nat}
    (ended : processNetlinkLoop memory fuel ⟨hdr, BitVec.ofNat 64 bytes.length⟩ = some hdrs)
    (inside : ∀ passed ∈ hdrs, Inside memory (hdr + bytes.length) passed) : WellFormed bytes := by
  have sizes := sizes
  induction fuel generalizing hdr bytes hdrs with
  | zero => contradiction
  | succ fuel ih =>
      rw [processNetlinkLoop] at ended
      split at ended
      · rename_i more
        obtain ⟨behind, continued, rfl⟩ := Option.map_eq_some_iff.mp ended
        have enough := (more_iff fits).mp more
        obtain ⟨_, least, most⟩ := inside hdr List.mem_cons_self
        have within : (nlmsgLen memory hdr).toNat ≤ bytes.length := by omega
        by_cases covered : align4 (nlmsgLen memory hdr).toNat ≤ bytes.length
        · rw [next_inside fits covered] at continued
          have length := nlmsgLen_of_holds stored (by omega)
          rw [length] at continued covered least
          have padded : lengthField bytes ≤ align4 (lengthField bytes) := by
            unfold align4
            omega
          have taken : (bytes.take (align4 (lengthField bytes))).length =
              align4 (lengthField bytes) := by
            rw [List.length_take]
            omega
          have split := List.take_append_drop (align4 (lengthField bytes)) bytes
          have stored' := stored
          rw [← split, holds_append, taken] at stored'
          obtain ⟨first, rest⟩ := stored'
          have same : lengthField (bytes.take (align4 (lengthField bytes))) = lengthField bytes := by
            rw [← nlmsgLen_of_holds first (by omega), length]
          rw [← split]
          apply WellFormed.message
          · rw [same]
            exact least
          · rw [taken, same]
          · refine ih _ rest ?_ (by rw [List.length_drop]; exact continued) ?_
            · rw [List.length_drop]
              omega
            · intro passed among
              have contained := inside passed (List.mem_cons_of_mem _ among)
              rw [List.length_drop, show hdr + align4 (lengthField bytes) +
                (bytes.length - align4 (lengthField bytes)) = hdr + bytes.length by omega]
              exact contained
        · obtain ⟨again, beyond⟩ := next_outside fits within (by omega)
          cases fuel with
          | zero => contradiction
          | succ fuel =>
              rw [processNetlinkLoop, if_pos again] at continued
              obtain ⟨_, _, rfl⟩ := Option.map_eq_some_iff.mp continued
              have header := (inside _ (List.mem_cons_of_mem _ List.mem_cons_self)).header
              omega
      · rename_i less
        exact .tail bytes (by rw [more_iff fits] at less; omega)

/-- A message of length zero keeps the loop at its header for ever. -/
theorem loop_of_zero {memory : Memory} {s : LoopState} (more : s.more) (zero : nlmsgLen memory s.hdr = 0)
    (fuel : Nat) : processNetlinkLoop memory fuel s = none := by
  have stays : s.next memory = s := by
    rw [LoopState.next, zero]
    cases s with
    | mk hdr status =>
        simp only [LoopState.mk.injEq]
        exact ⟨rfl, BitVec.sub_zero status⟩
  induction fuel with
  | zero => rfl
  | succ fuel ih => rw [processNetlinkLoop, if_pos more, stays, ih, Option.map_none]

/-- The loop is sound on exactly the well-formed datagrams, whatever stands behind them. -/
theorem loopSound_iff (memory : Memory) (datagram : List Byte) (stored : memory.Holds 0 datagram)
    (fits : datagram.length ≤ bufSize) : LoopSound memory datagram.length ↔ WellFormed datagram := by
  constructor
  · rintro ⟨fuel, hdrs, ended, inside⟩
    exact wellFormed_of_loop fuel 0 stored fits ended (by rw [Nat.zero_add]; exact inside)
  · intro formed
    obtain ⟨fuel, hdrs, ended, inside⟩ := loop_of_wellFormed formed 0 stored fits
    rw [Nat.zero_add] at inside
    exact ⟨fuel, hdrs, ended, inside⟩

/-- A message with two bytes behind its header and two of padding, one without a payload, and five bytes more -/
theorem loopSound_headers :
    let padded : List Byte := [18, 0, 0, 0, 28, 0, 0, 0, 0, 0, 0, 0, 0, 0, 0, 0, 2, 0, 0, 0]
    let header : List Byte := [16, 0, 0, 0, 3, 0, 0, 0, 0, 0, 0, 0, 0, 0, 0, 0]
    let behind : List Byte := [255, 0, 0, 0, 1]
    LoopSound (ofList (padded ++ (header ++ behind))) 41 := by
  intro padded header behind
  exact (loopSound_iff (ofList (padded ++ (header ++ behind))) _ (holds_ofList _) (by decide)).mpr
    (.message padded _ (by decide) (by decide)
      (.message header behind (by decide) (by decide) (.tail behind (by decide))))

/-- Sixteen zero bytes hold the loop for ever. -/
theorem not_loopSound_zeros : ¬ LoopSound (ofList (List.replicate 16 0)) 16 := by
  rintro ⟨fuel, hdrs, ended, _⟩
  rw [loop_of_zero (by decide) (by decide) fuel] at ended
  contradiction

end IgwP4.Netlink
