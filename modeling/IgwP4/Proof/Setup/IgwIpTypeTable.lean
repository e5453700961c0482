/-
This file shows what the entries of `igw_ip_type` decide for each kind of key.
-/

import IgwP4.Construction.Setup.IgwIpTypeTable
import IgwP4.Proof.Setup.Prefix

namespace IgwP4.Setup
open Packet Dataplane TernaryTable

/-- A zero backup address names no address. -/
def ownsVip (cfg : SwitchConfig) (dst : BitVec 32) : Prop :=
  dst = cfg.vip ∨ (cfg.backupVip ≠ 0 ∧ dst = cfg.backupVip)

/-- The destination shares the leading bits of the redirection address. -/
def inDl (cfg : SwitchConfig) (dst : BitVec 32) : Prop :=
  ∀ index < cfg.dlIpPrefixLen.toNat, dst.getMsbD index = cfg.dlIp.getMsbD index

instance (cfg : SwitchConfig) (dst : BitVec 32) : Decidable (ownsVip cfg dst) :=
  inferInstanceAs (Decidable (_ ∨ _))

instance (cfg : SwitchConfig) (dst : BitVec 32) : Decidable (inDl cfg dst) :=
  inferInstanceAs (Decidable (∀ index < cfg.dlIpPrefixLen.toNat, _))

/-- The lowest bit of an address chooses between the two internal pipes. -/
def inboundPipeline {width : Nat} (address : BitVec width) : BitVec 3 :=
  if address.getLsbD 0 then egrPipeline1 else egrPipeline3

/-- The lowest bit of an address chooses between the two external pipes. -/
def outboundPipeline {width : Nat} (address : BitVec width) : BitVec 3 :=
  if address.getLsbD 0 then egrPipeline0 else egrPipeline2

theorem hits_withDst (m : IgwIpTypeMatch) (field : Ternary 32) (key : IgwIpTypeKey) :
    ({ m with ipv4DstAddr := field } : IgwIpTypeMatch).hits key =
      (field.hits key.ipv4DstAddr && ({ m with ipv4DstAddr := .any } : IgwIpTypeMatch).hits key) := by
  simp only [IgwIpTypeMatch.hits, Ternary.hits_any, Bool.and_true]
  ac_rfl

/-- A row matches on the outer addresses that it stands for and on the rest of its key. -/
def IgwIpTypeRow.Hits (cfg : SwitchConfig) (row : IgwIpTypeRow) (key : IgwIpTypeKey) : Prop :=
  match row.address with
  | .vip => ownsVip cfg key.ipv4DstAddr ∧ ({ row.key with ipv4DstAddr := .any } : IgwIpTypeMatch).hits key = true
  | .dlIp => inDl cfg key.ipv4DstAddr ∧ ({ row.key with ipv4DstAddr := .any } : IgwIpTypeMatch).hits key = true
  | .own => row.key.hits key = true

theorem IgwIpTypeRow.hits_iff (cfg : SwitchConfig) (row : IgwIpTypeRow) (key : IgwIpTypeKey) :
    (∃ m ∈ row.matches cfg, m.hits key = true) ↔ row.Hits cfg key := by
  unfold IgwIpTypeRow.matches IgwIpTypeRow.Hits
  cases row.address with
  | vip =>
      dsimp only
      unfold ownsVip
      split
      · rename_i backup
        simp only [List.mem_cons, List.not_mem_nil, or_false, exists_eq_or_imp, exists_eq_left,
          hits_withDst row.key (.exactly _), Bool.and_eq_true, Ternary.hits_exactly, beq_iff_eq]
        tauto
      · rename_i backup
        simp only [List.mem_singleton, exists_eq_left, hits_withDst row.key (.exactly _), Bool.and_eq_true,
          Ternary.hits_exactly, beq_iff_eq]
        tauto
  | dlIp =>
      simp only [List.mem_singleton, exists_eq_left]
      rw [hits_withDst, Bool.and_eq_true, hits_prefix_iff]
      rfl
  | own => simp only [List.mem_singleton, exists_eq_left]

/-- The table matches where a row does. -/
theorem matches_igwIpTypeTable (cfg : SwitchConfig) (key : IgwIpTypeKey) (p : Nat) (a : IgwIpTypeAction) :
    Matches (igwIpTypeTable cfg) key p a ↔
      ∃ row ∈ igwIpTypeRows, row.Hits cfg key ∧ row.priority = p ∧ row.action = a := by
  constructor
  · rintro ⟨entry, member, hit, rfl, rfl⟩
    obtain ⟨write, written, rfl⟩ := List.mem_map.mp member
    obtain ⟨row, among, listed⟩ := List.mem_flatMap.mp written
    obtain ⟨m, inside, rfl⟩ := List.mem_map.mp listed
    exact ⟨row, among, (row.hits_iff cfg key).mp ⟨m, inside, hit⟩, rfl, rfl⟩
  · rintro ⟨row, among, hits, rfl, rfl⟩
    obtain ⟨m, inside, hit⟩ := (row.hits_iff cfg key).mpr hits
    exact ⟨_, List.mem_map.mpr ⟨_, List.mem_flatMap.mpr ⟨row, among, List.mem_map.mpr ⟨m, inside, rfl⟩⟩, rfl⟩,
      hit, rfl, rfl⟩

/-- A tunnel packet leaves for the internet when its type and its outer destination say so. -/
def wantsOut (cfg : SwitchConfig) (jd : Bool) (tof : BitVec 4) (dst : BitVec 32) : Prop :=
  if jd then (tof = tofAzOut ∧ ownsVip cfg dst) ∨ (tof = tofEipOut ∧ inDl cfg dst)
  else tof = 0 ∧ ownsVip cfg dst

/-- Only a redirected packet comes from the internet inside a tunnel. -/
def wantsIn (cfg : SwitchConfig) (jd : Bool) (tof : BitVec 4) (dst : BitVec 32) : Prop :=
  jd = true ∧ ((tof = tofAzIn ∧ ownsVip cfg dst) ∨ (tof = tofEipIn ∧ inDl cfg dst))

instance (cfg : SwitchConfig) (jd : Bool) (tof : BitVec 4) (dst : BitVec 32) :
    Decidable (wantsOut cfg jd tof dst) := by
  unfold wantsOut
  infer_instance

instance (cfg : SwitchConfig) (jd : Bool) (tof : BitVec 4) (dst : BitVec 32) :
    Decidable (wantsIn cfg jd tof dst) :=
  inferInstanceAs (Decidable (_ ∧ _))

/-- The four types of a redirection keep the two directions apart. -/
theorem wantsOut_wantsIn (cfg : SwitchConfig) (jd : Bool) (tof : BitVec 4) (dst : BitVec 32) :
    ¬ (wantsOut cfg jd tof dst ∧ wantsIn cfg jd tof dst) := by
  rintro ⟨out, redirected, back⟩
  subst redirected
  change (tof = tofAzOut ∧ _) ∨ (tof = tofEipOut ∧ _) at out
  rcases out with ⟨rfl, _⟩ | ⟨rfl, _⟩
  · rcases back with ⟨same, _⟩ | ⟨same, _⟩ <;> exact absurd same (by decide)
  · rcases back with ⟨same, _⟩ | ⟨same, _⟩ <;> exact absurd same (by decide)

/-- The classifier has at most two rules of the highest priority and one of the lowest for a key. -/
theorem decides_of_rules {table : TernaryTable IgwIpTypeKey IgwIpTypeAction} {key : IgwIpTypeKey}
    {first second : Prop} [Decidable first] [Decidable second] {a₁ a₂ a₃ : IgwIpTypeAction}
    (disjoint : ¬ (first ∧ second))
    (rules : ∀ p a, Matches table key p a ↔ (first ∧ highestPri = p ∧ a₁ = a) ∨
      (second ∧ highestPri = p ∧ a₂ = a) ∨ (lowestPri = p ∧ a₃ = a)) :
    Decides table key (if first then a₁ else if second then a₂ else a₃) := by
  split
  · rename_i holds
    apply decides_of_matches ((rules highestPri a₁).mpr (.inl ⟨holds, rfl, rfl⟩))
    intro p a found
    rcases (rules p a).mp found with ⟨_, rfl, rfl⟩ | ⟨other, _⟩ | ⟨rfl, _⟩
    · exact .inr ⟨rfl, rfl⟩
    · exact absurd ⟨holds, other⟩ disjoint
    · exact .inl (by decide)
  · rename_i fails
    split
    · rename_i holds
      apply decides_of_matches ((rules highestPri a₂).mpr (.inr (.inl ⟨holds, rfl, rfl⟩)))
      intro p a found
      rcases (rules p a).mp found with ⟨other, _⟩ | ⟨_, rfl, rfl⟩ | ⟨rfl, _⟩
      · exact absurd other fails
      · exact .inr ⟨rfl, rfl⟩
      · exact .inl (by decide)
    · rename_i fails'
      apply decides_of_matches ((rules lowestPri a₃).mpr (.inr (.inr ⟨rfl, rfl⟩)))
      intro p a found
      rcases (rules p a).mp found with ⟨other, _⟩ | ⟨other, _⟩ | ⟨rfl, rfl⟩
      · exact absurd other fails
      · exact absurd other fails'
      · exact .inr ⟨rfl, rfl⟩

@[simp] theorem ipv6Addr1_eq : ipv6Addr1 = 1#128 := by decide

@[simp] theorem ipv6Addr2_eq : ipv6Addr2 = 0#128 := by decide

@[simp] theorem ipv6AddrMask_eq : ipv6AddrMask = 1#128 := by decide

/-- The multicast entry compares the first byte of the address. -/
@[simp] theorem hits_ipv6Multicast (dst : BitVec 128) :
    (Ternary.mk ipv6Multicast ipv6MulticastMask).hits dst = (dst.extractLsb' 120 8 == 0xff) := by
  have value : ipv6Multicast = 0xff#8 ++ 0#120 := by decide
  have mask : ipv6MulticastMask = ipv6Multicast := rfl
  have halves : dst = dst.extractLsb' 120 8 ++ dst.extractLsb' 0 120 := by
    apply BitVec.eq_of_getLsbD_eq
    intro index inside
    rw [BitVec.getLsbD_append]
    by_cases low : index < 120
    · simp [low]
    · simp [low, show index - 120 < 8 by omega, show 120 + (index - 120) = index by omega]
  generalize dst.extractLsb' 120 8 = high at halves
  generalize dst.extractLsb' 0 120 = low at halves
  subst halves
  rw [Ternary.hits, mask, Bool.eq_iff_iff, beq_iff_eq, beq_iff_eq, BitVec.and_self, value]
  change high ++ low &&& 0xff#8 ++ 0#120 = 0xff#8 ++ 0#120 ↔ _
  have full : high &&& 0xff#8 = high := BitVec.and_allOnes
  rw [BitVec.and_append, full, BitVec.and_zero]
  constructor
  · intro same
    apply BitVec.eq_of_getLsbD_eq
    intro index inside
    have bit : (high ++ 0#120).getLsbD (120 + index) = (0xff#8 ++ 0#120).getLsbD (120 + index) := by
      rw [same]
    rw [BitVec.getLsbD_append, BitVec.getLsbD_append] at bit
    simpa [show ¬ 120 + index < 120 by omega] using bit
  · rintro rfl
    rfl

section
variable (cfg : SwitchConfig) (key : IgwIpTypeKey)

attribute [simp] igwIpTypeRows internetOutEntryInit internetOutBetweenClusterDlEntryInit
  internetOutWithinClusterDlEntryInit internetInEntryInit internetInBetweenClusterDlEntryInit
  internetInWithinClusterDlEntryInit vipRow dlRow IgwIpTypeRow.Hits innerV4 innerV6 vxlanMatch IgwIpTypeMatch.hits
  matches_igwIpTypeTable

/-- Every entry asks for an outer IP header. -/
theorem misses_without_ip (v4 : key.ipv4IsValid = 0) (v6 : key.ipv6IsValid = 0) :
    (igwIpTypeTable cfg).lookup key = none := by
  apply lookup_of_no_match
  intro p a
  simp [v4, v6]

/-- Outer IPv6 goes to an internal pipe, unless it is multicast. -/
theorem decides_direct6 (v4 : key.ipv4IsValid = 0) (v6 : key.ipv6IsValid = 1) :
    Decides (igwIpTypeTable cfg) key
      (if key.ipv6DstAddr.extractLsb' 120 8 = 0xff then .needDrop
      else if False then .needDrop
      else .ipFromInternetInHit (inboundPipeline key.ipv6DstAddr)) := by
  apply decides_of_rules
  · exact fun both => both.2
  · intro p a
    cases outer : key.ipv6DstAddr.getLsbD 0 <;>
      simp [-BitVec.getLsbD_eq_getElem, inboundPipeline, v4, v6, outer]

/-- Outer IPv4 without an inner IP packet is inbound. -/
theorem decides_plain4 (v4 : key.ipv4IsValid = 1) (v6 : key.ipv6IsValid = 0)
    (plain : key.vxlanIsValid = 0 ∨ (key.innerIpv4IsValid = 0 ∧ key.innerIpv6IsValid = 0)) :
    Decides (igwIpTypeTable cfg) key
      (if False then .needDrop else if False then .needDrop
      else .ipFromInternetInHit (inboundPipeline key.ipv4DstAddr)) := by
  apply decides_of_rules
  · exact fun both => both.2
  · intro p a
    rcases plain with vxlan | ⟨inner4, inner6⟩
    · cases outer : key.ipv4DstAddr.getLsbD 0 <;>
        simp [-BitVec.getLsbD_eq_getElem, inboundPipeline, v4, v6, vxlan, outer]
    · cases outer : key.ipv4DstAddr.getLsbD 0 <;>
        simp [-BitVec.getLsbD_eq_getElem, inboundPipeline, v4, v6, inner4, inner6, outer]

/-- Inner IPv4 leaves through one pipe and enters by its lowest destination bit. -/
theorem decides_innerV4 (jd : Bool) (v4 : key.ipv4IsValid = 1) (v6 : key.ipv6IsValid = 0)
    (vxlan : key.vxlanIsValid = 1) (inner4 : key.innerIpv4IsValid = 1)
    (inner6 : key.innerIpv6IsValid = 0) (type : key.vxlanType = if jd then vxlanTypeJd else vxlanTypeStd) :
    Decides (igwIpTypeTable cfg) key
      (if wantsOut cfg jd key.vxlanTof key.ipv4DstAddr then
        (if jd then .ipFromInternetOutDlHit egrPipeline2 else .ipFromInternetOutHit egrPipeline2)
      else if wantsIn cfg jd key.vxlanTof key.ipv4DstAddr then
        .ipFromInternetInDlHit (inboundPipeline key.innerIpv4DstAddr)
      else .ipFromInternetInHit (inboundPipeline key.ipv4DstAddr)) := by
  apply decides_of_rules (wantsOut_wantsIn cfg jd _ _)
  intro p a
  rw [matches_igwIpTypeTable]
  simp only [igwIpTypeRows, internetOutEntryInit, internetOutBetweenClusterDlEntryInit,
    internetOutWithinClusterDlEntryInit, internetInEntryInit, internetInBetweenClusterDlEntryInit,
    internetInWithinClusterDlEntryInit, List.cons_append, List.nil_append, List.mem_cons, List.not_mem_nil, or_false,
    exists_eq_or_imp, exists_eq_left, IgwIpTypeRow.Hits, vipRow, dlRow]
  cases jd <;> cases outer : key.ipv4DstAddr.getLsbD 0 <;>
    cases inner : key.innerIpv4DstAddr.getLsbD 0 <;>
    simp [-BitVec.getLsbD_eq_getElem, inboundPipeline, v4, v6, vxlan, inner4, inner6, type, wantsOut,
      wantsIn, outer, inner] <;> grind

/-- Inner IPv6 leaves by its lowest source bit and enters by its lowest destination bit. -/
theorem decides_innerV6 (jd : Bool) (v4 : key.ipv4IsValid = 1) (v6 : key.ipv6IsValid = 0)
    (vxlan : key.vxlanIsValid = 1) (inner4 : key.innerIpv4IsValid = 0)
    (inner6 : key.innerIpv6IsValid = 1) (type : key.vxlanType = if jd then vxlanTypeJd else vxlanTypeStd) :
    Decides (igwIpTypeTable cfg) key
      (if wantsOut cfg jd key.vxlanTof key.ipv4DstAddr then
        (if jd then .ipFromInternetOutDlHit (outboundPipeline key.innerIpv6SrcAddr)
        else .ipFromInternetOutHit (outboundPipeline key.innerIpv6SrcAddr))
      else if wantsIn cfg jd key.vxlanTof key.ipv4DstAddr then
        .ipFromInternetInDlHit (inboundPipeline key.innerIpv6DstAddr)
      else .ipFromInternetInHit (inboundPipeline key.ipv4DstAddr)) := by
  apply decides_of_rules (wantsOut_wantsIn cfg jd _ _)
  intro p a
  rw [matches_igwIpTypeTable]
  simp only [igwIpTypeRows, internetOutEntryInit, internetOutBetweenClusterDlEntryInit,
    internetOutWithinClusterDlEntryInit, internetInEntryInit, internetInBetweenClusterDlEntryInit,
    internetInWithinClusterDlEntryInit, List.cons_append, List.nil_append, List.mem_cons, List.not_mem_nil, or_false,
    exists_eq_or_imp, exists_eq_left, IgwIpTypeRow.Hits, vipRow, dlRow]
  cases jd <;> cases outer : key.ipv4DstAddr.getLsbD 0 <;>
    cases src : key.innerIpv6SrcAddr.getLsbD 0 <;> cases dst : key.innerIpv6DstAddr.getLsbD 0 <;>
    simp [-BitVec.getLsbD_eq_getElem, inboundPipeline, outboundPipeline, v4, v6, vxlan, inner4, inner6,
      type, wantsOut, wantsIn, outer, src, dst] <;> grind

end

end IgwP4.Setup
