/-
This file shows when the writes of the initialisation bring no key twice and fit their tables.
-/

import IgwP4.Construction.Setup.Initialisation
import Mathlib.Algebra.Order.BigOperators.Group.List
import Mathlib.Algebra.Order.Ring.Nat

namespace IgwP4.Setup
open Packet Dataplane

/-! The table of packet types -/

/-- Two rows differ in more than the outer address, or both stand for themselves. -/
def IgwIpTypeRow.Apart (first second : IgwIpTypeRow) : Prop :=
  (first.priority, { first.key with ipv4DstAddr := .any }) ≠
      (second.priority, { second.key with ipv4DstAddr := .any }) ∨
    first.address = .own ∧ second.address = .own ∧ first.key ≠ second.key

instance (first second : IgwIpTypeRow) : Decidable (first.Apart second) :=
  inferInstanceAs (Decidable (_ ∨ _))

theorem igwIpTypeRows_apart : igwIpTypeRows.Pairwise IgwIpTypeRow.Apart := by
  decide

namespace IgwIpTypeRow

/-- The keys of a row agree with it before the outer address. -/
theorem withoutDst_of_mem {cfg : SwitchConfig} {row : IgwIpTypeRow} {m : IgwIpTypeMatch}
    (member : m ∈ row.matches cfg) :
    { m with ipv4DstAddr := .any } = { row.key with ipv4DstAddr := .any } := by
  unfold IgwIpTypeRow.matches at member
  split at member
  · rcases List.mem_cons.mp member with rfl | backup
    · rfl
    · split at backup
      · rw [List.mem_singleton.mp backup]
      · exact absurd backup List.not_mem_nil
  · rw [List.mem_singleton.mp member]
  · rw [List.mem_singleton.mp member]

theorem matches_own {cfg : SwitchConfig} {row : IgwIpTypeRow} (own : row.address = .own) :
    row.matches cfg = [row.key] := by
  rw [IgwIpTypeRow.matches, own]

theorem keys_writes (cfg : SwitchConfig) (row : IgwIpTypeRow) :
    (row.writes cfg).map Prod.fst = (row.matches cfg).map (Prod.mk row.priority) := by
  rw [writes, List.map_map]
  rfl

/-- Rows that stand apart share no key. -/
theorem disjoint_of_apart (cfg : SwitchConfig) {first second : IgwIpTypeRow} (apart : first.Apart second) :
    ((first.writes cfg).map Prod.fst).Disjoint ((second.writes cfg).map Prod.fst) := by
  intro key inFirst inSecond
  rw [keys_writes] at inFirst inSecond
  obtain ⟨one, among, rfl⟩ := List.mem_map.mp inFirst
  obtain ⟨two, also, same⟩ := List.mem_map.mp inSecond
  obtain ⟨priority, rfl⟩ := Prod.mk.inj same
  rcases apart with differ | ⟨ownFirst, ownSecond, differ⟩
  · rw [← withoutDst_of_mem among, ← withoutDst_of_mem also, priority] at differ
    exact differ rfl
  · rw [matches_own ownFirst, List.mem_singleton] at among
    rw [matches_own ownSecond, List.mem_singleton] at also
    exact differ (among.symm.trans also)

/-- A row for the address of the cluster brings one key twice when the backup address is the same. -/
theorem keys_nodup_iff (cfg : SwitchConfig) (row : IgwIpTypeRow) :
    ((row.writes cfg).map Prod.fst).Nodup ↔
      (row.address = .vip → cfg.backupVip = 0 ∨ cfg.backupVip ≠ cfg.vip) := by
  rw [keys_writes, List.nodup_map_iff (Prod.mk_right_injective _)]
  unfold IgwIpTypeRow.matches
  split
  · rename_i vip
    rw [vip]
    by_cases backup : cfg.backupVip = 0#32
    · simp [backup]
    · have apart : cfg.vip ≠ cfg.backupVip ↔ cfg.backupVip ≠ cfg.vip := ne_comm
      simp [backup, Ternary.exactly, apart]
  · rename_i dlIp
    simp [dlIp]
  · rename_i own
    simp [own]

theorem writes_length (cfg : SwitchConfig) (row : IgwIpTypeRow) : (row.writes cfg).length ≤ 2 := by
  rw [writes, List.length_map, IgwIpTypeRow.matches]
  split
  · rw [List.length_cons]
    split <;> simp
  · simp
  · simp

end IgwIpTypeRow

/-- The keys differ unless the backup address repeats the address of the cluster. -/
theorem igwIpTypeWrites_nodup_iff (cfg : SwitchConfig) : ((igwIpTypeWrites cfg).map Prod.fst).Nodup ↔
    cfg.backupVip = 0 ∨ cfg.backupVip ≠ cfg.vip := by
  rw [igwIpTypeWrites, List.map_flatMap, List.nodup_flatMap]
  constructor
  · rintro ⟨each, _⟩
    exact (IgwIpTypeRow.keys_nodup_iff cfg _).mp (each _ List.mem_cons_self) rfl
  · intro differ
    exact ⟨fun row _ => (IgwIpTypeRow.keys_nodup_iff cfg row).mpr fun _ => differ,
      igwIpTypeRows_apart.imp fun apart => IgwIpTypeRow.disjoint_of_apart cfg apart⟩

theorem igwIpTypeWrites_length (cfg : SwitchConfig) : (igwIpTypeWrites cfg).length ≤ 64 := by
  rw [igwIpTypeWrites, List.length_flatMap]
  have sum := List.sum_le_card_nsmul (igwIpTypeRows.map fun row => (row.writes cfg).length) 2 (by
    intro length member
    obtain ⟨row, _, rfl⟩ := List.mem_map.mp member
    exact row.writes_length cfg)
  rw [List.length_map] at sum
  exact Nat.le_trans sum (by decide)

theorem igwIpTypeTableInit_isSome_iff (cfg : SwitchConfig) :
    (igwIpTypeTableInit cfg).isSome ↔ cfg.backupVip = 0 ∨ cfg.backupVip ≠ cfg.vip := by
  rw [igwIpTypeTableInit, KeyedTable.addAll_isSome_iff, ← igwIpTypeWrites_nodup_iff]
  constructor
  · exact fun both => both.1
  · intro distinct
    exact ⟨distinct, by simpa [KeyedTable.empty] using igwIpTypeWrites_length cfg⟩

/-! The punt table -/

theorem PuntAddress.match_injective : Function.Injective PuntAddress.match := by
  rintro ⟨port, dip⟩ ⟨port', dip'⟩ same
  cases dip <;> cases dip' <;>
    simp_all [PuntAddress.match, ipv4Match, ipv6Match, Ternary.exactly, Ternary.any]

/-- The fixed keys differ from one another. -/
theorem fixedWrites_nodup {cfg : SwitchConfig} (differ : cfg.backupVip = 0 ∨ cfg.backupVip ≠ cfg.vip) :
    ((fixedWrites cfg).map Prod.fst).Nodup := by
  unfold fixedWrites backupVipCopyToCpuNosInit
  split
  · simp [copyToCpuNosWrite, layerTwoMatch, ipv4Match, Ternary.exactly, Ternary.any]
  · rename_i backup
    have other : ¬ cfg.vip = cfg.backupVip := fun same => (differ.resolve_left backup) same.symm
    simp [copyToCpuNosWrite, layerTwoMatch, ipv4Match, Ternary.exactly, Ternary.any, other]

/-- No fixed key compares the port at the lowest priority. -/
theorem fixedWrites_port (cfg : SwitchConfig) (address : PuntAddress) :
    (lowestPri, address.match) ∉ (fixedWrites cfg).map Prod.fst := by
  intro member
  have unset : ∀ key ∈ (fixedWrites cfg).map Prod.fst, key.1 = lowestPri → key.2.ingressPort.mask = 0 := by
    unfold fixedWrites backupVipCopyToCpuNosInit
    split <;>
      simp [copyToCpuNosWrite, layerTwoMatch, ipv4Match, Ternary.any]
  have closed : address.match.ingressPort.mask = BitVec.allOnes 9 := by
    obtain ⟨port, dip⟩ := address
    cases dip <;> rfl
  have masks := closed.symm.trans (unset _ member rfl)
  exact absurd masks (by decide)

/-- The number of fixed keys -/
theorem fixedWrites_length (cfg : SwitchConfig) :
    (fixedWrites cfg).length = 6 + if cfg.backupVip = 0 then 0 else 1 := by
  unfold fixedWrites backupVipCopyToCpuNosInit
  split <;> rfl

/-- The table has room when the different addresses of the interfaces fit behind the fixed keys. -/
theorem processProtocolPacketTableInit_isSome_iff {cfg : SwitchConfig}
    (differ : cfg.backupVip = 0 ∨ cfg.backupVip ≠ cfg.vip) (hostifs : List Hostif) :
    (processProtocolPacketTableInit cfg hostifs).isSome ↔
      6 + (if cfg.backupVip = 0 then 0 else 1) + (hostifs.flatMap Hostif.addresses).toFinset.card ≤ 128 := by
  have injective : Function.Injective fun address : PuntAddress => (lowestPri, address.match) :=
    fun _ _ same => PuntAddress.match_injective (Prod.mk.inj same).2
  have keys : (protocolPacketWrites cfg hostifs).map Prod.fst = (fixedWrites cfg).map Prod.fst ++
      (hostifs.flatMap Hostif.addresses).map fun address => (lowestPri, address.match) := by
    rw [protocolPacketWrites, hostifCopyToCpuNosInit, List.map_append, List.map_map]
    rfl
  have image : ((hostifs.flatMap Hostif.addresses).map fun address => (lowestPri, address.match)).toFinset =
      (hostifs.flatMap Hostif.addresses).toFinset.image fun address => (lowestPri, address.match) := by
    ext key
    simp
  have apart : Disjoint ((fixedWrites cfg).map Prod.fst).toFinset
      ((hostifs.flatMap Hostif.addresses).toFinset.image fun address => (lowestPri, address.match)) := by
    rw [Finset.disjoint_right]
    intro key own fixed
    obtain ⟨address, _, rfl⟩ := Finset.mem_image.mp own
    exact fixedWrites_port cfg address (List.mem_toFinset.mp fixed)
  rw [processProtocolPacketTableInit, KeyedTable.addOrModifyAll_isSome_iff]
  change ([] ++ _ : List _).toFinset.card ≤ 128 ↔ _
  rw [List.nil_append, keys, List.toFinset_append, image, Finset.card_union_of_disjoint apart,
    Finset.card_image_of_injective _ injective, List.toFinset_card_of_nodup (fixedWrites_nodup differ),
    List.length_map, fixedWrites_length]

end IgwP4.Setup
