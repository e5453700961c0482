/-
This file shows which keys the installed punt table takes to the CPU.
-/

import IgwP4.Proof.Setup.PacketTable
import IgwP4.Proof.Setup.TableWrites

namespace IgwP4.Setup
open Packet Dataplane Netlink TernaryTable

/-! The addresses of an interface -/

/-- The solicited-node multicast address holds the low 24 bits of a unicast address. -/
def solicitedNode (address : BitVec 128) : BitVec 128 :=
  (0xff0200000000000000000001ff : BitVec 104) ++ address.extractLsb' 0 24

/-- The link-local address of a MAC address turns its universal bit and spreads it around two fixed octets. -/
def linkLocal (mac : Fin 6 → Byte) : BitVec 128 :=
  (0xfe80000000000000 : BitVec 64) ++ (mac 0 ^^^ 0x02) ++ mac 1 ++ mac 2 ++ (0xfffe : BitVec 16) ++ mac 3 ++ mac 4 ++
    mac 5

/-- Setting the highest byte of a word leaves the other three. -/
theorem highByte_or (word : BitVec 32) : 0xff000000 ||| word = (0xff : BitVec 8) ++ word.extractLsb' 0 24 := by
  apply BitVec.eq_of_getLsbD_eq
  intro index inside
  rw [BitVec.getLsbD_append, BitVec.getLsbD_or, BitVec.getLsbD_extractLsb', Nat.zero_add]
  by_cases low : index < 24
  · have clear : ∀ i < 24, (0xff000000 : BitVec 32).getLsbD i = false := by decide
    rw [if_pos low, clear index low, decide_eq_true low, Bool.false_or, Bool.true_and]
  · have set : ∀ i < 32, 24 ≤ i → (0xff000000 : BitVec 32).getLsbD i = true ∧
        (0xff : BitVec 8).getLsbD (i - 24) = true := by decide
    obtain ⟨first, second⟩ := set index inside (Nat.le_of_not_lt low)
    rw [if_neg low, first, second, Bool.true_or]

theorem ipv6AddrSolictMultSet_eq (address : BitVec 128) : ipv6AddrSolictMultSet address = solicitedNode address := by
  have last : littleEndianWord (ntohl 0xff000000 ||| lastWord address) =
      (0xff : BitVec 8) ++ address.extractLsb' 0 24 := by
    change ntohl (ntohl 0xff000000 ||| ntohl (address.extractLsb' 0 32)) = _
    rw [ntohl_or, ntohl_ntohl, ntohl_ntohl, highByte_or, BitVec.extractLsb'_extractLsb'_of_le (by decide)]
  have front : (littleEndianWord (ntohl 0xff020000) ++ littleEndianWord 0 ++ littleEndianWord (ntohl 0x1) :
      BitVec (32 + 32 + 32)) = (0xff0200000000000000000001 : BitVec 96) := by decide
  rw [ipv6AddrSolictMultSet, ipv6AddrSet, ipv6Field, last, front]
  have whole : (0xff0200000000000000000001ff : BitVec 104) =
      (0xff0200000000000000000001 : BitVec 96) ++ (0xff : BitVec 8) := by decide
  rw [solicitedNode, whole, BitVec.append_assoc, BitVec.cast_eq]

theorem ip6GetLinklocal_eq (mac : Fin 6 → Byte) : ip6GetLinklocal mac = linkLocal mac := by
  have front : (littleEndianWord (ntohl 0xfe800000) ++ littleEndianWord (ntohl 0x0) : BitVec (32 + 32)) =
      (0xfe80000000000000 : BitVec 64) := by decide
  have middle (head : BitVec 88) : head ++ (0xff : BitVec 8) ++ (0xfe : BitVec 8) = head ++ (0xfffe : BitVec 16) := by
    have octets : (0xfffe : BitVec 16) = (0xff : BitVec 8) ++ (0xfe : BitVec 8) := by decide
    rw [octets, BitVec.append_assoc, BitVec.cast_eq]
  rw [ip6GetLinklocal, front]
  exact congrArg (fun head : BitVec 104 => head ++ mac 3 ++ mac 4 ++ mac 5) (middle _)

/-- What the configuration says of an interface -/
structure Interface where
  devPort : BitVec 9
  gwIp : BitVec 32
  ip4 : BitVec 32
  ip6 : Option (BitVec 128)
  mac : Fin 6 → Byte

namespace Interface

def hostif (i : Interface) : Hostif := Hostif.ofAddresses i.devPort i.gwIp i.ip4 i.ip6 i.mac

/-- The IPv6 addresses that an interface with IPv6 answers to -/
def ip6Addresses (i : Interface) : List (BitVec 128) :=
  match i.ip6 with
  | none => []
  | some ip6 => [ip6, solicitedNode ip6, linkLocal i.mac, solicitedNode (linkLocal i.mac)]

/-- The interface takes these addresses from its port. -/
theorem hostif_addresses (i : Interface) : i.hostif.addresses =
    ⟨i.devPort, .inl i.ip4⟩ :: i.ip6Addresses.map fun dip => ⟨i.devPort, .inr dip⟩ := by
  unfold hostif Hostif.ofAddresses ip6Addresses
  cases i.ip6 with
  | none => rfl
  | some ip6 =>
      dsimp only
      rw [ipv6AddrSolictMultSet_eq, ipv6AddrSolictMultSet_eq, ip6GetLinklocal_eq]
      rfl

end Interface

/-! What the installed table holds -/

/-- The entries of the installed table, in the order of their insertion -/
def punts (table : KeyedTable (Nat × ProtocolPacketMatch) ProcessProtocolAction 128) :
    TernaryTable ProcessProtocolKey ProcessProtocolAction :=
  table.entries.map fun entry => protocolPacketEntry entry.1.1 entry.1.2 entry.2

/-- The action goes with the priority. -/
def prioritised (priority : Nat) : ProcessProtocolAction :=
  if priority = highestPri then .receiveFromCpuLldp
  else if priority = middlePri then .receiveFromCpuNos
  else .copyToCpuNos cpuPciePort

theorem action_of_mem {cfg : SwitchConfig} {hostifs : List Hostif} {write : ProtocolPacketWrite}
    (member : write ∈ protocolPacketWrites cfg hostifs) : write.2 = prioritised write.1.1 := by
  rcases List.mem_append.mp member with fixed | own
  · have all : ∀ write ∈ fixedWrites cfg, write.2 = prioritised write.1.1 := by
      unfold fixedWrites backupVipCopyToCpuNosInit
      split <;> simp [copyToCpuNosWrite, prioritised]
    exact all write fixed
  · obtain ⟨address, _, rfl⟩ := List.mem_map.mp own
    rfl

theorem protocolPacketWrites_consistent (cfg : SwitchConfig) (hostifs : List Hostif) :
    KeyedTable.Consistent (protocolPacketWrites cfg hostifs) := by
  intro first one second two same
  rw [action_of_mem one, action_of_mem two, same]

/-- The installed table holds the written entries, whatever was merged. -/
theorem mem_punts_iff {cfg : SwitchConfig} {hostifs : List Hostif}
    {table : KeyedTable (Nat × ProtocolPacketMatch) ProcessProtocolAction 128}
    (installed : processProtocolPacketTableInit cfg hostifs = some table) (entry : ProtocolPacketEntry) :
    entry ∈ punts table ↔ entry ∈ protocolPacketTable cfg hostifs := by
  have members := KeyedTable.mem_addOrModifyAll (protocolPacketWrites_consistent cfg hostifs) installed
  rw [punts, protocolPacketTable, List.mem_map, List.mem_map]
  constructor
  · rintro ⟨write, inside, rfl⟩
    exact ⟨write, ((members write).mp inside).resolve_left List.not_mem_nil, rfl⟩
  · rintro ⟨write, inside, rfl⟩
    exact ⟨write, (members write).mpr (.inr inside), rfl⟩

theorem action_of_entry {cfg : SwitchConfig} {hostifs : List Hostif} {entry : ProtocolPacketEntry}
    (member : entry ∈ protocolPacketTable cfg hostifs) : entry.action = prioritised entry.priority := by
  obtain ⟨write, inside, rfl⟩ := List.mem_map.mp member
  exact action_of_mem inside

/-- Entries that win together have the same action. -/
theorem winners_agree {cfg : SwitchConfig} {hostifs : List Hostif} {key : ProcessProtocolKey}
    {first second : ProtocolPacketEntry} (one : (protocolPacketTable cfg hostifs).Wins key first)
    (two : (protocolPacketTable cfg hostifs).Wins key second) : first.action = second.action := by
  have same : first.priority = second.priority :=
    Nat.le_antisymm (one.2.2 second two.1 two.2.1) (two.2.2 first one.1 one.2.1)
  rw [action_of_entry one.1, action_of_entry two.1, same]

/-- The installed table answers as the list of the written entries. -/
theorem punts_lookup {cfg : SwitchConfig} {hostifs : List Hostif}
    {table : KeyedTable (Nat × ProtocolPacketMatch) ProcessProtocolAction 128}
    (installed : processProtocolPacketTableInit cfg hostifs = some table) :
    (punts table).lookup = (protocolPacketTable cfg hostifs).lookup := by
  funext key
  exact lookup_congr (mem_punts_iff installed) fun _ _ => winners_agree

/-! The keys that go to the CPU -/

/-- The key of a frame with an outer IPv4 header behind its EtherType -/
def IsIpv4 (key : ProcessProtocolKey) : Prop :=
  key.ipv4IsValid = 1 ∧ key.ipv6IsValid = 0 ∧ key.etherType = etherTypeIpv4

/-- The key of a frame with an outer IPv6 header behind its EtherType -/
def IsIpv6 (key : ProcessProtocolKey) : Prop :=
  key.ipv4IsValid = 0 ∧ key.ipv6IsValid = 1 ∧ key.etherType = etherTypeIpv6

/-- The key of a frame without an IP header and with this EtherType -/
def IsLayerTwo (etherType : BitVec 16) (key : ProcessProtocolKey) : Prop :=
  key.ipv4IsValid = 0 ∧ key.ipv6IsValid = 0 ∧ key.vxlanIsValid = 0 ∧ key.etherType = etherType

theorem layerTwoMatch_hits (etherType : BitVec 16) (key : ProcessProtocolKey) :
    (layerTwoMatch etherType).hits key = true ↔ IsLayerTwo etherType key := by
  simp only [ProtocolPacketMatch.hits, layerTwoMatch, Ternary.hits_exactly, Ternary.hits_any, Bool.and_true,
    Bool.and_eq_true, beq_iff_eq, IsLayerTwo]
  tauto

theorem ipv4Match_hits (dip : BitVec 32) (vxlan : Ternary 1) (port : Ternary 9) (key : ProcessProtocolKey) :
    ProtocolPacketMatch.hits { ipv4Match dip with vxlanIsValid := vxlan, ingressPort := port } key = true ↔
      IsIpv4 key ∧ vxlan.hits key.vxlanIsValid = true ∧ port.hits key.ingressPort = true ∧ key.ipv4DstAddr = dip := by
  simp only [ProtocolPacketMatch.hits, ipv4Match, Ternary.hits_exactly, Ternary.hits_any, Bool.and_true,
    Bool.and_eq_true, beq_iff_eq, IsIpv4]
  tauto

theorem ipv6Match_hits (dip : BitVec 128) (port : Ternary 9) (key : ProcessProtocolKey) :
    ProtocolPacketMatch.hits { ipv6Match dip with ingressPort := port } key = true ↔
      IsIpv6 key ∧ port.hits key.ingressPort = true ∧ key.ipv6DstAddr = dip := by
  simp only [ProtocolPacketMatch.hits, ipv6Match, Ternary.hits_exactly, Ternary.hits_any, Bool.and_true,
    Bool.and_eq_true, beq_iff_eq, IsIpv6]
  tauto

/-- A match among the fixed entries for the CPU -/
def FixedWanted (cfg : SwitchConfig) (key : ProcessProtocolKey) : Prop :=
  IsLayerTwo etherTypeLldp key ∨ IsLayerTwo etherTypeArp key ∨ IsIpv4 key ∧ (key.ipv4DstAddr = cfg.mgtIp ∨
    key.vxlanIsValid = 0 ∧ (key.ipv4DstAddr = cfg.vip ∨ cfg.backupVip ≠ 0 ∧ key.ipv4DstAddr = cfg.backupVip))

/-- A match among the entries of the interfaces -/
def OwnWanted (interfaces : List Interface) (key : ProcessProtocolKey) : Prop :=
  ∃ i ∈ interfaces, i.devPort = key.ingressPort ∧
    (IsIpv4 key ∧ key.ipv4DstAddr = i.ip4 ∨ IsIpv6 key ∧ key.ipv6DstAddr ∈ i.ip6Addresses)

theorem ProtocolPacketMatch.misses_outside {m : ProtocolPacketMatch} (port : m.ingressPort = .exactly cpuPciePort)
    {key : ProcessProtocolKey} (outside : key.ingressPort ≠ cpuPciePort) : m.hits key = false := by
  have missed : m.ingressPort.hits key.ingressPort = false := by
    rw [port, Ternary.hits_exactly]
    exact beq_false_of_ne outside
  rw [ProtocolPacketMatch.hits, missed, Bool.and_false, Bool.false_and, Bool.false_and]

theorem fixedWrites_hit_iff (cfg : SwitchConfig) {key : ProcessProtocolKey} (outside : key.ingressPort ≠ cpuPciePort) :
    (∃ write ∈ fixedWrites cfg, write.1.2.hits key = true) ↔ FixedWanted cfg key := by
  have lldp : ProtocolPacketMatch.hits { layerTwoMatch etherTypeLldp with ingressPort := .exactly cpuPciePort } key =
      false := ProtocolPacketMatch.misses_outside rfl outside
  have nos : ProtocolPacketMatch.hits { ingressPort := .exactly cpuPciePort } key = false :=
    ProtocolPacketMatch.misses_outside rfl outside
  have management : (ipv4Match cfg.mgtIp).hits key = true ↔ IsIpv4 key ∧ key.ipv4DstAddr = cfg.mgtIp := by
    refine (ipv4Match_hits cfg.mgtIp .any .any key).trans ?_
    rw [Ternary.hits_any, Ternary.hits_any, eq_self, true_and, true_and]
  have plain (dip : BitVec 32) : ProtocolPacketMatch.hits { ipv4Match dip with vxlanIsValid := .exactly 0 } key = true ↔
      IsIpv4 key ∧ key.vxlanIsValid = 0 ∧ key.ipv4DstAddr = dip := by
    refine (ipv4Match_hits dip (.exactly 0) .any key).trans ?_
    rw [Ternary.hits_any, Ternary.hits_exactly, beq_iff_eq, eq_self, true_and]
  rw [← List.any_eq_true, fixedWrites, backupVipCopyToCpuNosInit, FixedWanted]
  by_cases given : cfg.backupVip = 0
  · rw [if_pos given]
    simp only [receiveFromCpuLldpInit, receiveFromCpuNosInit, arpCopyToCpuNosInit, mgtIpCopyToCpuNosInit,
      vipCopyToCpuNosInit, List.any_append, List.any_cons, List.any_nil, copyToCpuNosWrite, lldp, nos, Bool.or_false, Bool.false_or,
      Bool.or_eq_true, layerTwoMatch_hits, management, plain, given, ne_eq, not_true_eq_false, false_and, or_false,
      and_or_left, or_assoc]
  · rw [if_neg given]
    simp only [receiveFromCpuLldpInit, receiveFromCpuNosInit, arpCopyToCpuNosInit, mgtIpCopyToCpuNosInit,
      vipCopyToCpuNosInit, List.any_append, List.any_cons, List.any_nil, copyToCpuNosWrite, lldp, nos, Bool.or_false, Bool.false_or,
      Bool.or_eq_true, layerTwoMatch_hits, management, plain, given, ne_eq, not_false_eq_true, true_and,
      and_or_left, or_assoc]

theorem own_hit_iff (interfaces : List Interface) (key : ProcessProtocolKey) :
    (∃ address ∈ (interfaces.map Interface.hostif).flatMap Hostif.addresses,
      (PuntAddress.match address).hits key = true) ↔ OwnWanted interfaces key := by
  have v4 (i : Interface) : (PuntAddress.match ⟨i.devPort, .inl i.ip4⟩).hits key = true ↔
      i.devPort = key.ingressPort ∧ IsIpv4 key ∧ key.ipv4DstAddr = i.ip4 := by
    refine (ipv4Match_hits i.ip4 .any (.exactly i.devPort) key).trans ?_
    rw [Ternary.hits_any, Ternary.hits_exactly, beq_iff_eq, @eq_comm _ key.ingressPort]
    tauto
  have v6 (i : Interface) (dip : BitVec 128) : (PuntAddress.match ⟨i.devPort, .inr dip⟩).hits key = true ↔
      i.devPort = key.ingressPort ∧ IsIpv6 key ∧ key.ipv6DstAddr = dip := by
    refine (ipv6Match_hits dip (.exactly i.devPort) key).trans ?_
    rw [Ternary.hits_exactly, beq_iff_eq, @eq_comm _ key.ingressPort]
    tauto
  constructor
  · rintro ⟨address, member, hit⟩
    obtain ⟨_, among, listed⟩ := List.mem_flatMap.mp member
    obtain ⟨i, inside, rfl⟩ := List.mem_map.mp among
    rw [Interface.hostif_addresses] at listed
    rcases List.mem_cons.mp listed with rfl | ip6
    · obtain ⟨port, rest⟩ := (v4 i).mp hit
      exact ⟨i, inside, port, .inl rest⟩
    · obtain ⟨dip, known, rfl⟩ := List.mem_map.mp ip6
      obtain ⟨port, family, same⟩ := (v6 i dip).mp hit
      exact ⟨i, inside, port, .inr ⟨family, same ▸ known⟩⟩
  · rintro ⟨i, inside, port, wanted⟩
    have listed (address : PuntAddress) (member : address ∈ i.hostif.addresses) :
        address ∈ (interfaces.map Interface.hostif).flatMap Hostif.addresses :=
      List.mem_flatMap.mpr ⟨_, List.mem_map.mpr ⟨i, inside, rfl⟩, member⟩
    rw [Interface.hostif_addresses] at listed
    rcases wanted with v4Wanted | ⟨family, known⟩
    · exact ⟨_, listed _ List.mem_cons_self, (v4 i).mpr ⟨port, v4Wanted⟩⟩
    · exact ⟨_, listed _ (List.mem_cons_of_mem _ (List.mem_map.mpr ⟨_, known, rfl⟩)),
        (v6 i _).mpr ⟨port, family, rfl⟩⟩

/-- A port other than the one of the CPU meets only the entries for the CPU. -/
theorem action_outside {cfg : SwitchConfig} {hostifs : List Hostif} {write : ProtocolPacketWrite}
    (member : write ∈ protocolPacketWrites cfg hostifs) {key : ProcessProtocolKey}
    (outside : key.ingressPort ≠ cpuPciePort) (hit : write.1.2.hits key = true) :
    write.2 = .copyToCpuNos cpuPciePort := by
  have all : ∀ write ∈ fixedWrites cfg, write.1.2.ingressPort = .exactly cpuPciePort ∨
      write.2 = .copyToCpuNos cpuPciePort := by
    unfold fixedWrites backupVipCopyToCpuNosInit
    split <;> simp [copyToCpuNosWrite]
  rcases List.mem_append.mp member with fixed | own
  · refine (all write fixed).resolve_left fun port => ?_
    rw [ProtocolPacketMatch.misses_outside port outside] at hit
    contradiction
  · obtain ⟨address, _, rfl⟩ := List.mem_map.mp own
    rfl

theorem lookup_outside {cfg : SwitchConfig} {hostifs : List Hostif} {key : ProcessProtocolKey}
    (outside : key.ingressPort ≠ cpuPciePort) {action : ProcessProtocolAction}
    (found : (protocolPacketTable cfg hostifs).lookup key = some action) : action = .copyToCpuNos cpuPciePort := by
  obtain ⟨entry, best, rfl⟩ := Option.map_eq_some_iff.mp found
  obtain ⟨member, hit, _⟩ := wins_of_best best
  obtain ⟨winner, among, rfl⟩ := List.mem_map.mp member
  exact action_outside among outside hit

/-- From outside, exactly the wanted keys go to the CPU. -/
theorem lookup_copy_iff (cfg : SwitchConfig) (interfaces : List Interface) {key : ProcessProtocolKey}
    (outside : key.ingressPort ≠ cpuPciePort) :
    (protocolPacketTable cfg (interfaces.map Interface.hostif)).lookup key = some (.copyToCpuNos cpuPciePort) ↔
      FixedWanted cfg key ∨ OwnWanted interfaces key := by
  rw [← fixedWrites_hit_iff cfg outside, ← own_hit_iff interfaces key]
  have hits : (∃ write ∈ protocolPacketWrites cfg (interfaces.map Interface.hostif), write.1.2.hits key = true) ↔
      (∃ write ∈ fixedWrites cfg, write.1.2.hits key = true) ∨
        ∃ address ∈ (interfaces.map Interface.hostif).flatMap Hostif.addresses,
          (PuntAddress.match address).hits key = true := by
    simp only [protocolPacketWrites, List.mem_append, or_and_right, exists_or, List.mem_map, exists_exists_and_eq_and,
      hostifCopyToCpuNosInit, copyToCpuNosWrite]
  rw [← hits]
  constructor
  · intro found
    obtain ⟨entry, best, _⟩ := Option.map_eq_some_iff.mp found
    obtain ⟨member, hit, _⟩ := wins_of_best best
    obtain ⟨write, inside, rfl⟩ := List.mem_map.mp member
    exact ⟨write, inside, hit⟩
  · rintro ⟨write, inside, hit⟩
    cases found : (protocolPacketTable cfg (interfaces.map Interface.hostif)).lookup key with
    | none =>
        have missed := (lookup_eq_none_iff _ key).mp found _ (List.mem_map.mpr ⟨write, inside, rfl⟩)
        exact absurd (missed.symm.trans hit) Bool.false_ne_true
    | some action => exact congrArg some (lookup_outside outside found)

/-- Behind another EtherType than LLDP no entry comes before the one for the port of the CPU. -/
theorem middlePri_le {cfg : SwitchConfig} {hostifs : List Hostif} {write : ProtocolPacketWrite}
    (member : write ∈ protocolPacketWrites cfg hostifs) {key : ProcessProtocolKey}
    (other : key.etherType ≠ etherTypeLldp) (hit : write.1.2.hits key = true) : middlePri ≤ write.1.1 := by
  have all : ∀ write ∈ fixedWrites cfg, write.1.2.etherType = .exactly etherTypeLldp ∨ middlePri ≤ write.1.1 := by
    have order : middlePri ≤ lowestPri := by decide
    unfold fixedWrites backupVipCopyToCpuNosInit
    split <;> simp [copyToCpuNosWrite, layerTwoMatch, order]
  rcases List.mem_append.mp member with fixed | own
  · refine (all write fixed).resolve_left fun type => ?_
    have missed : write.1.2.etherType.hits key.etherType = false := by
      rw [type, Ternary.hits_exactly]
      exact beq_false_of_ne other
    simp [ProtocolPacketMatch.hits, missed] at hit
  · obtain ⟨address, _, rfl⟩ := List.mem_map.mp own
    exact (by decide : middlePri ≤ lowestPri)

/-- The port of the CPU brings the packets of the host, except behind the EtherType of LLDP. -/
theorem lookup_receive (cfg : SwitchConfig) (hostifs : List Hostif) {key : ProcessProtocolKey}
    (port : key.ingressPort = cpuPciePort) (other : key.etherType ≠ etherTypeLldp) :
    (protocolPacketTable cfg hostifs).lookup key = some .receiveFromCpuNos := by
  have nos : protocolPacketEntry middlePri { ingressPort := .exactly cpuPciePort } .receiveFromCpuNos ∈
      protocolPacketTable cfg hostifs := by
    simp [protocolPacketTable, protocolPacketWrites, fixedWrites]
  have matched : ProtocolPacketMatch.hits { ingressPort := .exactly cpuPciePort } key = true := by
    simp [ProtocolPacketMatch.hits, port]
  cases best : TernaryTable.best key (protocolPacketTable cfg hostifs) with
  | none =>
      have missed := (best_eq_none_iff _ key).mp best _ nos
      exact absurd (missed.symm.trans matched) Bool.false_ne_true
  | some entry =>
      obtain ⟨member, hit, least⟩ := wins_of_best best
      have above : middlePri ≤ entry.priority := by
        obtain ⟨write, inside, rfl⟩ := List.mem_map.mp member
        exact middlePri_le inside other hit
      have priority : entry.priority = middlePri := Nat.le_antisymm (least _ nos matched) above
      rw [lookup, best, Option.map_some, action_of_entry member, priority]
      rfl

/-- Only the frames of four EtherTypes go to the CPU, all of them to its port. -/
theorem lookup_copy {cfg : SwitchConfig} {hostifs : List Hostif} {key : ProcessProtocolKey} {egressPort : BitVec 9}
    (found : (protocolPacketTable cfg hostifs).lookup key = some (.copyToCpuNos egressPort)) :
    egressPort = cpuPciePort ∧ key.etherType ∈ puntedTypes := by
  have all : ∀ write ∈ protocolPacketWrites cfg hostifs, write.2 = .copyToCpuNos egressPort →
      egressPort = cpuPciePort ∧ ∃ etherType ∈ puntedTypes, write.1.2.etherType = .exactly etherType := by
    have initial : ∀ write ∈ fixedWrites cfg, write.2 = .copyToCpuNos egressPort →
        egressPort = cpuPciePort ∧ ∃ etherType ∈ puntedTypes, write.1.2.etherType = .exactly etherType := by
      unfold fixedWrites backupVipCopyToCpuNosInit
      split <;> simp [copyToCpuNosWrite, puntedTypes, layerTwoMatch, ipv4Match, eq_comm]
    intro write member copies
    rcases List.mem_append.mp member with fixed | own
    · exact initial write fixed copies
    · obtain ⟨address, _, rfl⟩ := List.mem_map.mp own
      refine ⟨(ProcessProtocolAction.copyToCpuNos.inj copies).symm, ?_⟩
      obtain ⟨devPort, dip⟩ := address
      cases dip with
      | inl dip => exact ⟨etherTypeIpv4, by simp [puntedTypes], rfl⟩
      | inr dip => exact ⟨etherTypeIpv6, by simp [puntedTypes], rfl⟩
  obtain ⟨entry, best, copies⟩ := Option.map_eq_some_iff.mp found
  obtain ⟨member, hit, _⟩ := wins_of_best best
  obtain ⟨write, inside, rfl⟩ := List.mem_map.mp member
  obtain ⟨port, etherType, listed, type⟩ := all write inside copies
  have same : etherType = key.etherType := by
    have matched : write.1.2.etherType.hits key.etherType = true := by
      have whole : write.1.2.hits key = true := hit
      simp only [ProtocolPacketMatch.hits, Bool.and_eq_true] at whole
      exact whole.1.1.1.1.2
    rw [type, Ternary.hits_exactly, beq_iff_eq] at matched
    exact matched.symm
  exact ⟨port, same ▸ listed⟩

end IgwP4.Setup
