/-
This file shows which addresses the members of the redirection have.
-/

import IgwP4.Construction.Setup.Initialisation
import IgwP4.Proof.Setup.Prefix

namespace IgwP4.Setup
open Packet Netlink

/-! The loop over the addresses -/

/-- The rounds of the loop, whose comparison never fails for the greatest address -/
def dlRounds (lastIp : BitVec 32) (room : Nat) (dlIp : BitVec 32) : Nat :=
  if lastIp = BitVec.allOnes 32 then room else min room (lastIp.toNat + 1 - dlIp.toNat)

theorem dlRounds_zero (lastIp dlIp : BitVec 32) : dlRounds lastIp 0 dlIp = 0 := by
  unfold dlRounds
  split <;> simp

theorem dlRounds_succ {lastIp dlIp : BitVec 32} (room : Nat) (inside : dlIp ≤ lastIp) :
    dlRounds lastIp (room + 1) dlIp = dlRounds lastIp room (dlIp + 1) + 1 := by
  unfold dlRounds
  split
  · rfl
  · rename_i low
    have below : lastIp.toNat < 2 ^ 32 - 1 := by
      have bound := lastIp.isLt
      by_contra above
      exact low (BitVec.eq_of_toNat_eq (by rw [BitVec.toNat_allOnes]; omega))
    have order : dlIp.toNat ≤ lastIp.toNat := inside
    have next : (dlIp + 1).toNat = dlIp.toNat + 1 := by
      rw [BitVec.toNat_add]
      exact Nat.mod_eq_of_lt (by
        change dlIp.toNat + 1 < 2 ^ 32
        omega)
    rw [next]
    omega

theorem dlRounds_outside {lastIp dlIp : BitVec 32} (room : Nat) (outside : ¬ dlIp ≤ lastIp) :
    dlRounds lastIp room dlIp = 0 := by
  have above : lastIp.toNat < dlIp.toNat := Nat.lt_of_not_le outside
  have bound := dlIp.isLt
  unfold dlRounds
  split
  · rename_i top
    rw [top, BitVec.toNat_allOnes] at above
    omega
  · omega

/-- Each round adds the next address as the next member. -/
theorem addDlIps_entries (lastIp : BitVec 32) (room index : Nat) (dlIp : BitVec 32)
    (table : KeyedTable Nat (BitVec 32) 120) (length : table.entries.length = index)
    (below : ∀ member ∈ table.keys, member ≤ index) (fits : index + room ≤ 120) :
    ∃ result, addDlIps lastIp room index dlIp table = some result ∧ result.entries = table.entries ++
      (List.range (dlRounds lastIp room dlIp)).map fun step => (index + 1 + step, dlIp + BitVec.ofNat 32 step) := by
  induction room generalizing index dlIp table with
  | zero => exact ⟨table, rfl, by simp [dlRounds_zero]⟩
  | succ room ih =>
      rw [addDlIps]
      by_cases inside : dlIp ≤ lastIp
      · rw [if_pos inside]
        cases added : table.add (index + 1) dlIp with
        | none =>
            exfalso
            rcases KeyedTable.add_eq_none_iff.mp added with member | full
            · exact absurd (below _ member) (by omega)
            · omega
        | some next =>
            obtain ⟨_, _, entries⟩ := KeyedTable.add_cases added
            have longer : next.entries.length = index + 1 := by
              rw [entries, List.length_append, List.length_singleton, length]
            have within : ∀ member ∈ next.keys, member ≤ index + 1 := by
              intro member among
              rw [KeyedTable.keys, entries, List.map_append, List.mem_append] at among
              rcases among with old | new
              · exact Nat.le_succ_of_le (below member old)
              · rw [List.mem_singleton.mp new]
            obtain ⟨result, ended, all⟩ := ih (index + 1) (dlIp + 1) next longer within (by omega)
            refine ⟨result, ended, ?_⟩
            rw [all, entries, dlRounds_succ room inside, List.range_succ_eq_map, List.map_cons, List.map_map,
              List.append_assoc, List.singleton_append]
            congr 2
            · simp
            · apply List.map_congr_left
              intro step _
              refine Prod.ext (by simp; omega) ?_
              change dlIp + 1 + BitVec.ofNat 32 step = dlIp + BitVec.ofNat 32 (step + 1)
              rw [BitVec.ofNat_add, BitVec.add_assoc, BitVec.add_comm (1 : BitVec 32)]
              rfl
      · rw [if_neg inside, dlRounds_outside _ inside]
        exact ⟨table, rfl, by simp⟩

/-! The members -/

/-- The addresses of the members, in the order of their numbers -/
def EipDlTables.members (tables : EipDlTables) : List (BitVec 32) := tables.actionProfile.entries.map Prod.snd

/-- Both functions end, with as many addresses as the loop makes rounds. -/
theorem ecmpDlTableInit_members (cfg : SwitchConfig) : (ecmpDlTableInit cfg).map EipDlTables.members =
    some ((List.range (dlRounds (lastDlIp cfg) maxDlIpNum (firstDlIp cfg))).map fun step =>
      firstDlIp cfg + BitVec.ofNat 32 step) := by
  obtain ⟨table, built, entries⟩ := addDlIps_entries (lastDlIp cfg) maxDlIpNum 0 (firstDlIp cfg) .empty rfl
    (fun member among => absurd among List.not_mem_nil) (Nat.le_refl _)
  have addresses : table.entries.map Prod.snd =
      (List.range (dlRounds (lastDlIp cfg) maxDlIpNum (firstDlIp cfg))).map fun step =>
        firstDlIp cfg + BitVec.ofNat 32 step := by
    rw [entries, List.map_append, List.map_map]
    rfl
  rw [← addresses]
  unfold ecmpDlTableInit
  rw [built]
  rfl

theorem ecmpDlTableInit_isSome (cfg : SwitchConfig) : (ecmpDlTableInit cfg).isSome := by
  have members := ecmpDlTableInit_members cfg
  cases built : ecmpDlTableInit cfg with
  | none =>
      rw [built] at members
      exact absurd members.symm (Option.some_ne_none _)
  | some tables => rfl

/-! The addresses of the prefix -/

/-- The host bits of an address -/
def SwitchConfig.hostBits (cfg : SwitchConfig) : Nat := 32 - cfg.dlIpPrefixLen.toNat

/-- The address of the prefix without its host bits -/
def SwitchConfig.dlBase (cfg : SwitchConfig) : BitVec 32 :=
  (cfg.dlIp >>> cfg.hostBits) <<< cfg.hostBits

/-- The first addresses of the prefix, and at most 120 of them -/
def SwitchConfig.firstAddresses (cfg : SwitchConfig) : List (BitVec 32) :=
  (List.range (min 120 (2 ^ cfg.hostBits))).map fun step => cfg.dlBase + BitVec.ofNat 32 step

/-- Both directions have exactly these members, and each member matches the entries for the prefix. -/
structure Enumerates (cfg : SwitchConfig) : Prop where
  inbound : (eipInEcmpDlTableInit cfg).map EipDlTables.members = some cfg.firstAddresses
  outbound : (eipOutEcmpDlTableInit cfg).map EipDlTables.members = some cfg.firstAddresses
  once : cfg.firstAddresses.Nodup
  inside : ∀ address ∈ cfg.firstAddresses,
    (Ternary.mk cfg.dlIp (getMaskByPrefixLen cfg.dlIpPrefixLen)).hits address = true

/-- The nine lengths that the configuration accepts -/
def SwitchConfig.ShortPrefix (cfg : SwitchConfig) : Prop := 24 ≤ cfg.dlIpPrefixLen ∧ cfg.dlIpPrefixLen ≤ 32

/-- The mask of a length clears the host bits. -/
theorem mask_eq_shift {cfg : SwitchConfig} (short : cfg.ShortPrefix) :
    getMaskByPrefixLen cfg.dlIpPrefixLen = BitVec.allOnes 32 <<< cfg.hostBits := by
  obtain ⟨low, high⟩ := short
  unfold SwitchConfig.hostBits
  obtain ⟨length, same⟩ := Int.eq_ofNat_of_zero_le (Int.le_trans (by decide) low)
  rw [same]
  have cases : ∀ length < 33,
      getMaskByPrefixLen (length : Nat) = BitVec.allOnes 32 <<< (32 - ((length : Nat) : Int).toNat) := by
    decide
  exact cases length (by omega)

/-- A mask without the host bits clears them. -/
theorem and_mask (word : BitVec 32) (bits : Nat) :
    word &&& BitVec.allOnes 32 <<< bits = (word >>> bits) <<< bits := by
  apply BitVec.eq_of_getLsbD_eq
  intro index inside
  rw [BitVec.getLsbD_and, BitVec.getLsbD_shiftLeft, BitVec.getLsbD_shiftLeft, BitVec.getLsbD_allOnes,
    BitVec.getLsbD_ushiftRight]
  by_cases host : index < bits
  · simp [host]
  · have same : bits + (index - bits) = index := by omega
    have below : index - bits < 32 := by omega
    simp [host, inside, same, below]

theorem firstDlIp_eq {cfg : SwitchConfig} (short : cfg.ShortPrefix) : firstDlIp cfg = cfg.dlBase := by
  rw [firstDlIp, ntohl_and, ntohl_ntohl, ntohl_ntohl, mask_eq_shift short, and_mask, SwitchConfig.dlBase]

theorem dlBase_toNat (cfg : SwitchConfig) :
    cfg.dlBase.toNat = cfg.dlIp.toNat / 2 ^ cfg.hostBits * 2 ^ cfg.hostBits := by
  have bound := cfg.dlIp.isLt
  have cleared := Nat.div_mul_le_self cfg.dlIp.toNat (2 ^ cfg.hostBits)
  rw [SwitchConfig.dlBase, BitVec.toNat_shiftLeft, BitVec.toNat_ushiftRight, Nat.shiftRight_eq_div_pow,
    Nat.shiftLeft_eq]
  exact Nat.mod_eq_of_lt (by omega)

theorem SwitchConfig.ShortPrefix.hostBits_le {cfg : SwitchConfig} (short : cfg.ShortPrefix) : cfg.hostBits ≤ 8 := by
  obtain ⟨low, high⟩ := short
  unfold SwitchConfig.hostBits
  omega

/-- The last address has every host bit set. -/
theorem lastDlIp_toNat {cfg : SwitchConfig} (short : cfg.ShortPrefix) :
    (lastDlIp cfg).toNat = cfg.dlBase.toNat + (2 ^ cfg.hostBits - 1) := by
  have host : ∀ bits < 9, (~~~ (BitVec.allOnes 32 <<< bits)).toNat = 2 ^ bits - 1 := by
    decide
  have split : lastDlIp cfg =
      cfg.dlIp &&& BitVec.allOnes 32 <<< cfg.hostBits ||| ~~~ (BitVec.allOnes 32 <<< cfg.hostBits) := by
    rw [lastDlIp, ntohl_or, ntohl_not, ntohl_ntohl, ntohl_ntohl, mask_eq_shift short]
    apply BitVec.eq_of_getLsbD_eq
    intro index inside
    simp only [BitVec.getLsbD_or, BitVec.getLsbD_and, BitVec.getLsbD_not, inside, decide_true, Bool.true_and]
    cases (BitVec.allOnes 32 <<< cfg.hostBits).getLsbD index <;> simp
  have apart : cfg.dlIp &&& BitVec.allOnes 32 <<< cfg.hostBits &&& ~~~ (BitVec.allOnes 32 <<< cfg.hostBits) = 0#32 := by
    rw [BitVec.and_assoc, BitVec.and_not_self]
    exact BitVec.and_zero
  have sum := BitVec.toNat_add_of_and_eq_zero apart
  rw [split, ← BitVec.add_eq_or_of_and_eq_zero _ _ apart, sum, and_mask,
    host cfg.hostBits (Nat.lt_succ_of_le short.hostBits_le)]
  rfl

/-- Every address of the prefix matches the entries for it. -/
theorem hits_dlIp {cfg : SwitchConfig} (short : cfg.ShortPrefix) {step : Nat} (inside : step < 2 ^ cfg.hostBits) :
    (Ternary.mk cfg.dlIp (getMaskByPrefixLen cfg.dlIpPrefixLen)).hits (cfg.dlBase + BitVec.ofNat 32 step) = true := by
  rw [Ternary.hits, beq_iff_eq, mask_eq_shift short, and_mask, and_mask]
  congr 1
  apply BitVec.eq_of_toNat_eq
  have last := lastDlIp_toNat short
  have bound := (lastDlIp cfg).isLt
  have below : cfg.dlBase.toNat + step < 2 ^ 32 := by omega
  rw [BitVec.toNat_ushiftRight, BitVec.toNat_ushiftRight, Nat.shiftRight_eq_div_pow, Nat.shiftRight_eq_div_pow,
    BitVec.toNat_add, BitVec.toNat_ofNat, Nat.mod_eq_of_lt (show step < 2 ^ 32 by omega), Nat.mod_eq_of_lt below,
    dlBase_toNat, Nat.mul_comm, Nat.mul_add_div (Nat.two_pow_pos _), Nat.div_eq_of_lt inside, Nat.add_zero]

/-- The first addresses differ from one another. -/
theorem firstAddresses_nodup {cfg : SwitchConfig} (short : cfg.ShortPrefix) : cfg.firstAddresses.Nodup := by
  refine List.Nodup.map_on ?_ List.nodup_range
  intro first low second high same
  rw [List.mem_range] at low high
  have last := lastDlIp_toNat short
  have bound := (lastDlIp cfg).isLt
  have steps := congrArg BitVec.toNat same
  rw [BitVec.toNat_add, BitVec.toNat_add, BitVec.toNat_ofNat, BitVec.toNat_ofNat,
    Nat.mod_eq_of_lt (show first < 2 ^ 32 by omega), Nat.mod_eq_of_lt (show second < 2 ^ 32 by omega),
    Nat.mod_eq_of_lt (by omega), Nat.mod_eq_of_lt (by omega)] at steps
  omega

/-- The loop stops at the end of the prefix unless the prefix ends with the greatest address. -/
theorem dlRounds_eq {cfg : SwitchConfig} (short : cfg.ShortPrefix) :
    dlRounds (lastDlIp cfg) maxDlIpNum cfg.dlBase =
      if cfg.dlIp.toNat < 2 ^ 32 - 2 ^ cfg.hostBits then min 120 (2 ^ cfg.hostBits) else 120 := by
  have last := lastDlIp_toNat short
  have positive := Nat.two_pow_pos cfg.hostBits
  have base := dlBase_toNat cfg
  have bound := cfg.dlIp.isLt
  have whole : 2 ^ 32 = 2 ^ (32 - cfg.hostBits) * 2 ^ cfg.hostBits := by
    rw [← Nat.pow_add, Nat.sub_add_cancel (Nat.le_trans short.hostBits_le (by decide))]
  have top : lastDlIp cfg = BitVec.allOnes 32 ↔ ¬ cfg.dlIp.toNat < 2 ^ 32 - 2 ^ cfg.hostBits := by
    rw [← BitVec.toNat_inj, BitVec.toNat_allOnes, last, base]
    have parts := Nat.div_add_mod cfg.dlIp.toNat (2 ^ cfg.hostBits)
    have rest := Nat.mod_lt cfg.dlIp.toNat positive
    rw [Nat.mul_comm] at parts
    constructor
    · intro full
      omega
    · intro above
      have greatest : 2 ^ (32 - cfg.hostBits) ≤ cfg.dlIp.toNat / 2 ^ cfg.hostBits + 1 := by
        by_contra less
        have gap := Nat.mul_le_mul_right (2 ^ cfg.hostBits)
          (show cfg.dlIp.toNat / 2 ^ cfg.hostBits + 2 ≤ 2 ^ (32 - cfg.hostBits) by omega)
        rw [Nat.add_mul, ← whole] at gap
        omega
      have full := Nat.mul_le_mul_right (2 ^ cfg.hostBits) greatest
      rw [Nat.add_mul, ← whole] at full
      omega
  unfold dlRounds
  by_cases below : cfg.dlIp.toNat < 2 ^ 32 - 2 ^ cfg.hostBits
  · rw [if_neg (by rw [top]; exact not_not.mpr below), if_pos below, last]
    dsimp only [maxDlIpNum]
    omega
  · rw [if_pos (top.mpr below), if_neg below]

theorem members_eq {cfg : SwitchConfig} (short : cfg.ShortPrefix) :
    (ecmpDlTableInit cfg).map EipDlTables.members =
      some ((List.range (if cfg.dlIp.toNat < 2 ^ 32 - 2 ^ cfg.hostBits then min 120 (2 ^ cfg.hostBits) else 120)).map
        fun step => cfg.dlBase + BitVec.ofNat 32 step) := by
  rw [ecmpDlTableInit_members, firstDlIp_eq short, dlRounds_eq short]

/-- The loop gives the addresses of the prefix unless the prefix is short and ends with the greatest address. -/
theorem enumerates_iff (cfg : SwitchConfig) (low : 24 ≤ cfg.dlIpPrefixLen) (high : cfg.dlIpPrefixLen ≤ 32) :
    Enumerates cfg ↔ cfg.dlIpPrefixLen ≤ 25 ∨ cfg.dlIp.toNat < 2 ^ 32 - 2 ^ cfg.hostBits := by
  have short : cfg.ShortPrefix := ⟨low, high⟩
  have members := members_eq short
  have long : cfg.dlIpPrefixLen ≤ 25 ↔ 120 ≤ 2 ^ cfg.hostBits := by
    have bits : cfg.dlIpPrefixLen ≤ 25 ↔ 7 ≤ cfg.hostBits := by
      unfold SwitchConfig.hostBits
      omega
    have powers : ∀ bits < 9, 7 ≤ bits ↔ 120 ≤ 2 ^ bits := by
      decide
    rw [bits]
    exact powers cfg.hostBits (Nat.lt_succ_of_le short.hostBits_le)
  rw [long]
  constructor
  · intro enumerated
    have same := members.symm.trans enumerated.inbound
    have lengths := congrArg List.length (Option.some.inj same)
    simp only [SwitchConfig.firstAddresses, List.length_map, List.length_range] at lengths
    by_contra neither
    obtain ⟨small, top⟩ := not_or.mp neither
    rw [if_neg top] at lengths
    omega
  · intro fits
    have rounds : (if cfg.dlIp.toNat < 2 ^ 32 - 2 ^ cfg.hostBits then min 120 (2 ^ cfg.hostBits) else 120) =
        min 120 (2 ^ cfg.hostBits) := by
      split
      · rfl
      · omega
    rw [rounds] at members
    exact {
      inbound := members
      outbound := members
      once := firstAddresses_nodup short
      inside := by
        intro address member
        obtain ⟨step, within, rfl⟩ := List.mem_map.mp member
        exact hits_dlIp short (by rw [List.mem_range] at within; omega) }

/-- The redirection prefix 10.226.190.128/26 of the sample file -/
def samplePrefix : SwitchConfig := ⟨0, 1, 0, 1, 0x0AE2BE80, 26⟩

theorem enumerates_iff_sample : Enumerates samplePrefix :=
  (enumerates_iff samplePrefix (by decide) (by decide)).mpr (.inr (by decide))

/-- The prefix 255.255.255.192/26 -/
def topPrefix : SwitchConfig := ⟨0, 1, 0, 1, 0xFFFFFFC0, 26⟩

/-- The loop goes on behind the greatest address, where it adds 56 addresses outside the prefix. -/
theorem not_enumerates_top : ¬ Enumerates topPrefix ∧ (eipInEcmpDlTableInit topPrefix).map (fun tables =>
    (tables.members.length, tables.members[64]?)) = some (120, some 0#32) := by
  have members := members_eq (show topPrefix.ShortPrefix from ⟨by decide, by decide⟩)
  rw [if_neg (by decide)] at members
  constructor
  · intro enumerated
    have lengths := congrArg List.length (Option.some.inj (members.symm.trans enumerated.inbound))
    exact absurd lengths (by decide)
  · obtain ⟨tables, built, addresses⟩ := Option.map_eq_some_iff.mp members
    change (ecmpDlTableInit topPrefix).map _ = _
    rw [built, Option.map_some, addresses]
    decide +kernel

end IgwP4.Setup
