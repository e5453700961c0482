/-
This file shows which packets the redirection entries of the initialisation rewrite.
-/

import IgwP4.Construction.Setup.RedirectTables

namespace IgwP4.Setup
open Packet Dataplane TernaryTable

/-- A packet of a single cluster goes to its address, and a packet between clusters to the zone. -/
def jdVxlanAction (cfg : SwitchConfig) (tofAz tof : BitVec 4) (betweenCluster withinCluster : BitVec 1) :
    Option ModifyJdVxlanAction :=
  if tof = 0 then
    if betweenCluster = 1 then some (.rewriteAz cfg.sharedBwVip)
    else if withinCluster = 1 then some (.rewriteEip cfg.vip)
    else none
  else if tof = tofAz ∧ withinCluster = 1 then some (.rewriteEip cfg.vip)
  else none

/-- The three entries are disjoint, so their order does not matter. -/
theorem jdVxlanTable_lookup (cfg : SwitchConfig) (tofAz tof : BitVec 4) (moved : tofAz ≠ 0)
    (betweenCluster withinCluster : BitVec 1) :
    (eipEntryInit cfg tofAz ++ azEntryInit cfg).lookup ⟨1, tof, betweenCluster, withinCluster⟩ =
      jdVxlanAction cfg tofAz tof betweenCluster withinCluster := by
  have bits (bit : BitVec 1) : bit = 0 ∨ bit = 1 := by
    revert bit
    decide
  have apart : ¬ 0#4 = tofAz := fun same => moved same.symm
  rw [jdVxlanAction, TernaryTable.lookup, eipEntryInit, azEntryInit]
  by_cases first : tof = 0
  · subst first
    rcases bits betweenCluster with rfl | rfl <;> rcases bits withinCluster with rfl | rfl <;>
      simp [best, better, jdVxlanEntry, JdVxlanMatch.hits, apart]
  · by_cases second : tof = tofAz
    · subst second
      have first' : ¬ tof = 0#4 := first
      rcases bits betweenCluster with rfl | rfl <;> rcases bits withinCluster with rfl | rfl <;>
        simp [best, better, jdVxlanEntry, JdVxlanMatch.hits, first']
    · have first' : ¬ tof = 0#4 := first
      simp [best, jdVxlanEntry, JdVxlanMatch.hits, first', second]

theorem eipInJdVxlanTable_lookup (cfg : SwitchConfig) (tof : BitVec 4)
    (betweenCluster withinCluster : BitVec 1) :
    (eipInJdVxlanTable cfg).lookup ⟨1, tof, betweenCluster, withinCluster⟩ =
      jdVxlanAction cfg tofAzIn tof betweenCluster withinCluster :=
  jdVxlanTable_lookup cfg tofAzIn tof (by decide) betweenCluster withinCluster

theorem eipOutJdVxlanTable_lookup (cfg : SwitchConfig) (tof : BitVec 4)
    (betweenCluster withinCluster : BitVec 1) :
    (eipOutJdVxlanTable cfg).lookup ⟨1, tof, betweenCluster, withinCluster⟩ =
      jdVxlanAction cfg tofAzOut tof betweenCluster withinCluster :=
  jdVxlanTable_lookup cfg tofAzOut tof (by decide) betweenCluster withinCluster

/-- A first redirection goes to the zone or to the address, and a second one from the zone to the address. -/
theorem jdVxlanAction_cases {cfg : SwitchConfig} {tofAz tof : BitVec 4} {betweenCluster withinCluster : BitVec 1}
    {action : ModifyJdVxlanAction} (chosen : jdVxlanAction cfg tofAz tof betweenCluster withinCluster = some action) :
    (tof = 0 ∧ action = .rewriteAz cfg.sharedBwVip) ∨ (tof = 0 ∧ action = .rewriteEip cfg.vip) ∨
      (tof = tofAz ∧ action = .rewriteEip cfg.vip) := by
  unfold jdVxlanAction at chosen
  split at chosen
  · rename_i first
    split at chosen
    · exact .inl ⟨first, (Option.some.inj chosen).symm⟩
    · split at chosen
      · exact .inr (.inl ⟨first, (Option.some.inj chosen).symm⟩)
      · contradiction
  · split at chosen
    · rename_i second
      exact .inr (.inr ⟨second.1, (Option.some.inj chosen).symm⟩)
    · contradiction

/-- An address without an entry is not redirected. -/
theorem jdVxlanAction_idle (cfg : SwitchConfig) (tofAz tof : BitVec 4) :
    jdVxlanAction cfg tofAz tof 0 0 = none := by
  simp [jdVxlanAction]

end IgwP4.Setup
