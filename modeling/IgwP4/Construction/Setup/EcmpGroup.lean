/-
This file gives the selector groups and the entries that `ecmp_group02_init_4p` installs.
-/

import IgwP4.Construction.Setup.Config

namespace IgwP4.Setup
open Packet Dataplane

/-- `PIPE0_SELECTORCID` to `PIPE3_SELECTORCID` -/
inductive SelectorGroup where
  | pipe0
  | pipe1
  | pipe2
  | pipe3
deriving DecidableEq

/-- The device port of the first member of a group -/
def SelectorGroup.base : SelectorGroup → BitVec 9
  | .pipe0 => 0
  | .pipe1 => 128
  | .pipe2 => 256
  | .pipe3 => 384

/-- Numerals name the members of a group. -/
instance member : NeZero 16 := ⟨by decide⟩

/-- A group has sixteen members, four device ports apart. -/
def SelectorGroup.port (group : SelectorGroup) (index : Fin 16) : BitVec 9 :=
  group.base + BitVec.ofNat 9 (index.val * 4)

/-- The key of `ecmp_group_02_v2`, without its selector fields -/
structure EcmpGroupKey where
  egrPipeline : BitVec 3
  haveSharedBd : BitVec 1

def ecmpGroupEntry (egrPipeline : BitVec 3) (haveSharedBd : Ternary 1) (group : SelectorGroup) :
    TernaryEntry EcmpGroupKey SelectorGroup where
  priority := 0
  hits key := key.egrPipeline == egrPipeline && haveSharedBd.hits key.haveSharedBd
  action := group

/-- `ecmp_group02_init_4p` -/
def ecmpGroup02Init4p : TernaryTable EcmpGroupKey SelectorGroup := [
  ecmpGroupEntry egrPipeline1 (.exactly 0) .pipe1,
  ecmpGroupEntry egrPipeline1 (.exactly 1) .pipe3,
  ecmpGroupEntry egrPipeline3 .any .pipe3,
  ecmpGroupEntry egrPipeline0 (.exactly 0) .pipe0,
  ecmpGroupEntry egrPipeline0 (.exactly 1) .pipe2,
  ecmpGroupEntry egrPipeline2 .any .pipe2]

/-- The members of the internal pipes start active and those of the external pipes inactive. -/
def initialStatus : SelectorGroup → Fin 16 → Bool
  | .pipe0, _ => false
  | .pipe1, _ => true
  | .pipe2, _ => false
  | .pipe3, _ => true

/-- The selector hash picks one of the active members of a group, when it has any. -/
structure Selector where
  status : SelectorGroup → Fin 16 → Bool
  pick : SelectorGroup → FlowKey → Option (Fin 16)
  pick_active : ∀ group flow index, pick group flow = some index → status group index = true
  pick_total : ∀ group flow, (∃ index, status group index = true) → (pick group flow).isSome

/-- `ecmp_group_02_v2` -/
def Selector.ecmpGroup02 (selector : Selector) (egrPipeline : BitVec 3) (haveSharedBd : BitVec 1)
    (flow : FlowKey) : Option (BitVec 9) :=
  match ecmpGroup02Init4p.lookup ⟨egrPipeline, haveSharedBd⟩ with
  | some group => (selector.pick group flow).map group.port
  | none => none

end IgwP4.Setup
