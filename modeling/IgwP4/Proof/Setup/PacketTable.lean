/-
This file shows which packets the punt entries of the initialisation can never take.
-/

import IgwP4.Construction.Setup.PacketTable

namespace IgwP4.Setup
open Packet Dataplane TernaryTable

/-- The EtherTypes that some punt entry asks for -/
def puntedTypes : List (BitVec 16) := [etherTypeLldp, etherTypeArp, etherTypeIpv4, etherTypeIpv6]

/-- The match asks for one of the punted EtherTypes or for the CPU port. -/
def ProtocolPacketMatch.Guarded (m : ProtocolPacketMatch) : Prop :=
  m.ingressPort = .exactly cpuPciePort ∨ ∃ etherType ∈ puntedTypes, m.etherType = .exactly etherType

theorem ProtocolPacketMatch.misses {m : ProtocolPacketMatch} (guarded : m.Guarded)
    (key : ProcessProtocolKey) (outside : key.ingressPort ≠ cpuPciePort)
    (unknown : key.etherType ∉ puntedTypes) : m.hits key = false := by
  rw [ProtocolPacketMatch.hits]
  rcases guarded with port | ⟨etherType, listed, type⟩
  · have missed : m.ingressPort.hits key.ingressPort = false := by
      rw [port, Ternary.hits_exactly]
      exact beq_false_of_ne outside
    simp [missed]
  · have missed : m.etherType.hits key.etherType = false := by
      rw [type, Ternary.hits_exactly]
      exact beq_false_of_ne fun same => unknown (same ▸ listed)
    simp [missed]

theorem protocolPacketWrites_guarded {cfg : SwitchConfig} {hostifs : List Hostif} {write : ProtocolPacketWrite}
    (member : write ∈ protocolPacketWrites cfg hostifs) : write.1.2.Guarded := by
  rcases List.mem_append.mp member with fixed | own
  · have all : ∀ write ∈ fixedWrites cfg, write.1.2.Guarded := by
      unfold fixedWrites backupVipCopyToCpuNosInit
      split <;> simp [copyToCpuNosWrite, ProtocolPacketMatch.Guarded, puntedTypes, layerTwoMatch, ipv4Match]
    exact all write fixed
  · obtain ⟨⟨devPort, dip⟩, _, rfl⟩ := List.mem_map.mp own
    cases dip with
    | inl dip => exact .inr ⟨etherTypeIpv4, by simp [puntedTypes], rfl⟩
    | inr dip => exact .inr ⟨etherTypeIpv6, by simp [puntedTypes], rfl⟩

/-- No punt entry takes a packet with another EtherType from outside. -/
theorem protocolPacketTable_misses (cfg : SwitchConfig) (hostifs : List Hostif)
    (key : ProcessProtocolKey) (outside : key.ingressPort ≠ cpuPciePort)
    (unknown : key.etherType ∉ puntedTypes) :
    (protocolPacketTable cfg hostifs).lookup key = none := by
  rw [lookup_eq_none_iff]
  intro entry member
  obtain ⟨write, written, rfl⟩ := List.mem_map.mp member
  exact write.1.2.misses (protocolPacketWrites_guarded written) key outside unknown

end IgwP4.Setup
