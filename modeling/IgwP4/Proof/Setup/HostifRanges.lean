/-
This file shows for which documents the values of the interfaces keep the later arithmetic defined.
-/

import IgwP4.Construction.Setup.Initialisation
import IgwP4.Proof.Setup.ConfigReading

namespace IgwP4.Setup
open Netlink

/-- The values of an interface in memory are in the ranges that their uses rely on. -/
structure ConfigState.InRange (s : ConfigState) (index : Nat) : Prop where
  netMaskLen : 1 ≤ (s.netMaskLen index).toNat ∧ (s.netMaskLen index).toNat ≤ 32
  mask : switchIpv4ComputeMask (s.netMaskLen index) = some (getMaskByPrefixLen (s.netMaskLen index).toNat)
  ip : ipAtoi (s.string (HostifField.ipAddr.ofHostif index)) ≠ 0
  gwIp : ipAtoi (s.string (HostifField.gwIpAddr.ofHostif index)) ≠ 0
  fakeFpPort : 1 ≤ (s.fakeFpPort index).toNat
  fpPort : ((s.fpPort index).toNat : Int) = ((s.fakeFpPort index).toNat - 1) * 4

/-- The values of an interface in the document are in range behind the cuts to their fields. -/
structure HostifDoc.InRange (doc : HostifDoc) : Prop where
  netMaskLen : 1 ≤ (doc.netMaskLen.setWidth 16).toNat ∧ (doc.netMaskLen.setWidth 16).toNat ≤ 32
  ip : doc.ip.address ≠ 0
  gwIp : doc.gwIp.address ≠ 0
  fpPort : doc.fpPort.setWidth 16 ≠ 0

/-- In its range the two computations of a mask agree. -/
theorem switchIpv4ComputeMask_eq (len : BitVec 16) (least : 1 ≤ len.toNat) (most : len.toNat ≤ 32) :
    switchIpv4ComputeMask len = some (getMaskByPrefixLen len.toNat) := by
  have shifts : ∀ length : Fin 33, 1 ≤ length.val →
      0xFFFFFFFF#32 <<< (32 - (length.val : Int)).toNat = getMaskByPrefixLen length.val := by decide
  rw [switchIpv4ComputeMask, if_pos (by omega)]
  exact congrArg some (shifts ⟨len.toNat, by omega⟩ least)

/-- The front port of an interface does not wrap around. -/
theorem toNat_fpPort (s : ConfigState) (index : Nat) (least : 1 ≤ (s.fakeFpPort index).toNat) :
    ((s.fpPort index).toNat : Int) = ((s.fakeFpPort index).toNat - 1) * 4 := by
  have bound := (s.fakeFpPort index).isLt
  have less : (((s.fakeFpPort index).setWidth 32 - 1) * 4).toNat = ((s.fakeFpPort index).toNat - 1) * 4 := by
    rw [BitVec.toNat_mul, BitVec.toNat_sub, BitVec.toNat_setWidth]
    change (2 ^ 32 - 1 + _ % 2 ^ 32) % 2 ^ 32 * 4 % 2 ^ 32 = _
    omega
  rw [show s.fpPort index = ((s.fakeFpPort index).setWidth 32 - 1) * 4 from rfl, less]
  omega

namespace ConfigDoc

variable {doc : ConfigDoc}

/-- The values of an interface are in range in memory exactly when they are in the document. -/
theorem inRange_iff (count : doc.hostifs.length ≤ hostifsSize) {index : Nat}
    (inside : index < doc.hostifs.length) :
    (ConfigState.initial.stores doc.stores).InRange index ↔ doc.hostifs[index].InRange := by
  have front : ∀ store ∈ doc.hostifs[index].frontStores, store ∈ doc.hostifs[index].stores :=
    fun _ member => List.mem_append_left _ member
  have ip := string_text count inside (front (HostifField.ipAddr, padded doc.hostifs[index].ip
    constIpv4AddrLen) (by simp [HostifDoc.frontStores])) rfl (by decide) (by decide) (by decide)
  have gwIp := string_text count inside (front (HostifField.gwIpAddr, padded doc.hostifs[index].gwIp
    constIpv4AddrLen) (by simp [HostifDoc.frontStores])) rfl (by decide) (by decide) (by decide)
  have mask : ((ConfigState.initial.stores doc.stores).netMaskLen index).toNat =
      (doc.hostifs[index].netMaskLen.setWidth 16).toNat :=
    load16_number inside (front (HostifField.netMaskLen,
      littleEndian (doc.hostifs[index].netMaskLen.setWidth 32)) (by simp [HostifDoc.frontStores])) rfl
  have port : ((ConfigState.initial.stores doc.stores).fakeFpPort index).toNat =
      (doc.hostifs[index].fpPort.setWidth 16).toNat :=
    load16_number inside (show (HostifField.fpPort,
      littleEndian (doc.hostifs[index].fpPort.setWidth 32)) ∈ doc.hostifs[index].stores by
        simp [HostifDoc.stores]) rfl
  have positive : 1 ≤ (doc.hostifs[index].fpPort.setWidth 16).toNat ↔
      doc.hostifs[index].fpPort.setWidth 16 ≠ 0 := by
    rw [Nat.one_le_iff_ne_zero, Ne, Ne, BitVec.toNat_eq]
    rfl
  constructor
  · intro valid
    have range := valid.netMaskLen
    have least := valid.fakeFpPort
    have address := valid.ip
    have gateway := valid.gwIp
    rw [mask] at range
    rw [port] at least
    rw [ip] at address
    rw [gwIp] at gateway
    exact ⟨range, address, gateway, positive.mp least⟩
  · intro valid
    have range := valid.netMaskLen
    have least := positive.mpr valid.fpPort
    rw [← mask] at range
    rw [← port] at least
    exact {
      netMaskLen := range
      mask := switchIpv4ComputeMask_eq _ range.1 range.2
      ip := by rw [ip]; exact valid.ip
      gwIp := by rw [gwIp]; exact valid.gwIp
      fakeFpPort := least
      fpPort := toNat_fpPort _ _ least }

end ConfigDoc

/-- The interfaces of an accepted document are in range in memory exactly when they are in the file. -/
theorem hostifsInRange_iff {root : Json} {s : ConfigState} (accepted : switchConfigInit root = .ok s) :
    ∃ doc, root.config = some doc ∧
      ((∀ index < doc.hostifs.length, s.InRange index) ↔ ∀ hostif ∈ doc.hostifs, hostif.InRange) := by
  obtain ⟨doc, read, -, -, -, room, -, rfl⟩ := switchConfigInit_stores accepted
  refine ⟨doc, read, fun valid hostif member => ?_, fun valid index inside => ?_⟩
  · obtain ⟨index, inside, rfl⟩ := List.getElem_of_mem member
    exact (ConfigDoc.inRange_iff room inside).mp (valid index inside)
  · exact (ConfigDoc.inRange_iff room inside).mpr (valid _ (List.getElem_mem inside))

/-- The sample file with one interface is accepted. -/
theorem hostifsInRange_iff_sample : ∃ s doc, switchConfigInit (sampleConfig 1) = .ok s ∧
    (sampleConfig 1).config = some doc ∧
      ((∀ index < doc.hostifs.length, s.InRange index) ↔ ∀ hostif ∈ doc.hostifs, hostif.InRange) := by
  have accepted : ((switchConfigInit (sampleConfig 1)).toOption).isSome = true := by decide +kernel
  cases result : switchConfigInit (sampleConfig 1) with
  | error failure =>
      rw [result] at accepted
      contradiction
  | ok s =>
      obtain ⟨doc, read, same⟩ := hostifsInRange_iff result
      exact ⟨s, doc, rfl, read, same⟩

/-- An interface with the length zero for its mask -/
def Json.unmasked : Json → Json
  | .object members => .object (members.map fun member =>
      if member.1 = "net_mask_len" then (member.1, .integer 0) else member)
  | json => json

def unmaskedConfig : Json := sampleFile sampleVip [sampleHostif.unmasked]

/-- A file with an interface without a mask is accepted. -/
theorem not_inRange_unmasked : ¬ ∀ (root : Json) (s : ConfigState) (doc : ConfigDoc),
    switchConfigInit root = .ok s → root.config = some doc →
      ∀ index < doc.hostifs.length, s.InRange index := by
  intro all
  have stored : (switchConfigInit unmaskedConfig).toOption.map (·.netMaskLen 0) = some 0 := by decide +kernel
  have length : unmaskedConfig.config.map (·.hostifs.length) = some 1 := by decide +kernel
  obtain ⟨doc, read, count⟩ := Option.map_eq_some_iff.mp length
  cases result : switchConfigInit unmaskedConfig with
  | error failure =>
      rw [result] at stored
      exact absurd stored.symm (Option.some_ne_none _)
  | ok s =>
      rw [result] at stored
      have zero : s.netMaskLen 0 = 0 := Option.some.inj stored
      have range := (all unmaskedConfig s doc result read 0 (by omega)).netMaskLen.1
      rw [zero] at range
      exact absurd range (by decide)

end IgwP4.Setup
