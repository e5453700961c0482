/-
This file gives the entries that `eip_in_jd_vxlan_table_init` and `eip_out_jd_vxlan_table_init`
install.
-/

import IgwP4.Construction.Setup.Config

namespace IgwP4.Setup
open Packet Dataplane

/-- The key starts from zero, so a field that is not set compares nothing. -/
structure JdVxlanMatch where
  vxlanIsValid : Ternary 1 := .any
  vxlanTof : Ternary 4 := .any
  betweenCluster : Ternary 1 := .any
  withinCluster : Ternary 1 := .any

def JdVxlanMatch.hits (m : JdVxlanMatch) (key : ModifyJdVxlanKey) : Bool :=
  m.vxlanIsValid.hits key.vxlanIsValid && m.vxlanTof.hits key.vxlanTof &&
    m.betweenCluster.hits key.betweenCluster && m.withinCluster.hits key.withinCluster

def jdVxlanEntry (m : JdVxlanMatch) (action : ModifyJdVxlanAction) :
    TernaryEntry ModifyJdVxlanKey ModifyJdVxlanAction :=
  ⟨highestPri, m.hits, action⟩

/-- `eip_in_entry_init` and `eip_out_entry_init`, which differ in the type of the second entry -/
def eipEntryInit (cfg : SwitchConfig) (tofAz : BitVec 4) :
    TernaryTable ModifyJdVxlanKey ModifyJdVxlanAction := [
  jdVxlanEntry {
    vxlanIsValid := .exactly 1
    vxlanTof := .exactly 0
    betweenCluster := .exactly 0
    withinCluster := .exactly 1 } (.rewriteEip cfg.vip),
  jdVxlanEntry {
    vxlanIsValid := .exactly 1
    vxlanTof := .exactly tofAz
    withinCluster := .exactly 1 } (.rewriteEip cfg.vip)]

/-- `az_in_entry_init` and `az_out_entry_init` -/
def azEntryInit (cfg : SwitchConfig) : TernaryTable ModifyJdVxlanKey ModifyJdVxlanAction := [
  jdVxlanEntry {
    vxlanIsValid := .exactly 1
    vxlanTof := .exactly 0
    betweenCluster := .exactly 1 } (.rewriteAz cfg.sharedBwVip)]

/-- `eip_in_jd_vxlan_table_init` -/
def eipInJdVxlanTable (cfg : SwitchConfig) : TernaryTable ModifyJdVxlanKey ModifyJdVxlanAction :=
  eipEntryInit cfg tofAzIn ++ azEntryInit cfg

/-- `eip_out_jd_vxlan_table_init` -/
def eipOutJdVxlanTable (cfg : SwitchConfig) : TernaryTable ModifyJdVxlanKey ModifyJdVxlanAction :=
  eipEntryInit cfg tofAzOut ++ azEntryInit cfg

end IgwP4.Setup
