/-
This file shows which packets the egress ACL drops beside the mirror rules.
-/

import IgwP4.Construction.Setup.AclTable

namespace IgwP4.Dataplane

/-- The two drop actions set the lowest drop bit. -/
def EgressAclAction.drops : EgressAclAction → Bool
  | .systemAclDropPacket => true
  | .systemAclDropMirrorPacket => true
  | _ => false

/-- A packet that some control has marked for the drop still has an outer IPv4 header. -/
def EgressAclKey.Marked (key : EgressAclKey) : Prop := key.ipv4IsValid = 1 ∧ key.needDrop = 1

def EgressAclKey.Red (key : EgressAclKey) : Prop := key.meterPacketColor = colorRed

end IgwP4.Dataplane

namespace IgwP4.Setup
open Packet Dataplane TernaryTable

/-- A mirror rule stands before the drop of the marked packets. -/
def Shadowed (rules : List MirrorRule) (key : EgressAclKey) : Prop :=
  ∃ rule ∈ rules, rule.priority = aclMirrorPri ∧ rule.hits key = true

theorem MirrorAction.action_drops (action : MirrorAction) : action.action.drops = false := by
  cases action <;> rfl

theorem MirrorRule.priority_bounds (rule : MirrorRule) : 10 ≤ rule.priority ∧ rule.priority ≤ 30 := by
  rcases rule.reserved with h | h <;> rw [h] <;> decide

/-- The entry for a red packet matches no other packet, and wins before every rule. -/
theorem matches_mirroringTable (rules : List MirrorRule) (key : EgressAclKey) (priority : Nat)
    (action : EgressAclAction) :
    Matches (mirroringTable rules) key priority action ↔
      (key.Marked ∧ priority = aclSystemPri ∧ action = .systemAclDropPacket) ∨
      (key.Red ∧ priority = aclHighestPri ∧ action = .systemAclDropPacket) ∨
      ∃ rule ∈ rules, rule.hits key = true ∧ rule.priority = priority ∧ rule.action.action = action := by
  have marked : EgressAclMatch.hits { ipv4IsValid := .exactly 1, needDrop := .exactly 1 } key = true ↔
      key.Marked := by
    simp [EgressAclMatch.hits, EgressAclKey.Marked]
  have red : EgressAclMatch.hits { meterPacketColor := .exactly aclRed } key = true ↔ key.Red := by
    simp [EgressAclMatch.hits, EgressAclKey.Red]
  rw [mirroringTable, matches_append, egressAclInit, matches_cons, matches_cons, marked, red]
  simp only [Matches, List.not_mem_nil, false_and, exists_false, or_false, List.mem_map]
  constructor
  · rintro ((⟨h, rfl, rfl⟩ | ⟨h, rfl, rfl⟩) | ⟨entry, ⟨rule, member, rfl⟩, hit, rfl, rfl⟩)
    · exact .inl ⟨h, rfl, rfl⟩
    · exact .inr (.inl ⟨h, rfl, rfl⟩)
    · exact .inr (.inr ⟨rule, member, hit, rfl, rfl⟩)
  · rintro (⟨h, rfl, rfl⟩ | ⟨h, rfl, rfl⟩ | ⟨rule, member, hit, rfl, rfl⟩)
    · exact .inl (.inl ⟨h, rfl, rfl⟩)
    · exact .inl (.inr ⟨h, rfl, rfl⟩)
    · exact .inr ⟨rule.entry, ⟨rule, member, rfl⟩, hit, rfl, rfl⟩

/-- A red packet is dropped before any rule is asked. -/
theorem mirroringTable_red (rules : List MirrorRule) (key : EgressAclKey) (red : key.Red) :
    egressAclAction (mirroringTable rules) key = .systemAclDropPacket := by
  have decided : (mirroringTable rules).Decides key .systemAclDropPacket := by
    refine decides_of_matches ((matches_mirroringTable _ _ _ _).mpr (.inr (.inl ⟨red, rfl, rfl⟩))) ?_
    intro other action found
    rcases (matches_mirroringTable _ _ _ _).mp found with
      ⟨_, rfl, rfl⟩ | ⟨_, rfl, rfl⟩ | ⟨rule, _, _, rfl, _⟩
    · exact .inl (by decide)
    · exact .inr ⟨rfl, rfl⟩
    · exact .inl (Nat.lt_of_lt_of_le (by decide) rule.priority_bounds.1)
  rw [egressAclAction, decided.lookup, Option.getD_some]

/-- The winning entry comes from the initialisation or from a rule. -/
theorem mirroringTable_cases (rules : List MirrorRule) (key : EgressAclKey) :
    (egressAclAction (mirroringTable rules) key).drops = true ↔
      key.Red ∨ (key.Marked ∧ ¬ Shadowed rules key) := by
  by_cases red : key.Red
  · rw [mirroringTable_red rules key red]
    exact ⟨fun _ => .inl red, fun _ => rfl⟩
  · rw [egressAclAction, TernaryTable.lookup]
    cases found : best key (mirroringTable rules) with
    | none =>
        have empty := (best_eq_none_iff _ _).mp found
        constructor
        · intro drops
          contradiction
        · rintro (isRed | ⟨marked, _⟩)
          · exact absurd isRed red
          · obtain ⟨entry, member, hit, _⟩ :=
              (matches_mirroringTable rules key _ _).mpr (.inl ⟨marked, rfl, rfl⟩)
            rw [empty entry member] at hit
            contradiction
    | some entry =>
        obtain ⟨member, hit, least⟩ := wins_of_best found
        have least' (priority : Nat) (action : EgressAclAction)
            (other : Matches (mirroringTable rules) key priority action) : entry.priority ≤ priority := by
          obtain ⟨second, among, matched, rfl, _⟩ := other
          exact least second among matched
        rw [Option.map_some, Option.getD_some]
        rcases (matches_mirroringTable rules key _ _).mp ⟨entry, member, hit, rfl, rfl⟩ with
          ⟨marked, priority, action⟩ | ⟨isRed, _⟩ | ⟨rule, among, matched, priority, action⟩
        · rw [action]
          refine ⟨fun _ => .inr ⟨marked, ?_⟩, fun _ => rfl⟩
          rintro ⟨rule, among, first, matched⟩
          have order := least' _ _ ((matches_mirroringTable _ _ _ _).mpr
            (.inr (.inr ⟨rule, among, matched, rfl, rfl⟩)))
          rw [priority, first] at order
          exact absurd order (by decide)
        · exact absurd isRed red
        · rw [← action, rule.action.action_drops]
          refine ⟨fun h => absurd h (by decide), ?_⟩
          rintro (isRed | ⟨marked, unshadowed⟩)
          · exact absurd isRed red
          · exfalso
            have order := least' _ _ ((matches_mirroringTable _ _ _ _).mpr (.inl ⟨marked, rfl, rfl⟩))
            rcases rule.reserved with first | last
            · exact unshadowed ⟨rule, among, first, matched⟩
            · rw [← priority, last] at order
              exact absurd order (by decide)

/-- The initialisation alone drops the red and the marked packets. -/
theorem egressAclInit_drops (key : EgressAclKey) :
    (egressAclAction egressAclInit key).drops = true ↔ key.Red ∨ key.Marked := by
  have alone : mirroringTable [] = egressAclInit := List.append_nil _
  rw [← alone, mirroringTable_cases]
  simp [Shadowed]

end IgwP4.Setup
