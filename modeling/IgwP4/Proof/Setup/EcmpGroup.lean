/-
This file shows which pipe the pipeline override and the selector groups choose.
-/

import IgwP4.Construction.Dataplane.Pipes
import IgwP4.Construction.Setup.EcmpGroup
import IgwP4.Proof.Setup.IgwIpTypeTable

namespace IgwP4.Setup
open Packet Dataplane TernaryTable

/-- The override chooses between the two external pipes by the lowest bit of the inner source. -/
theorem pipelineFixTable_lookup (src : BitVec 32) :
    pipelineFixTable.lookup ⟨1, src⟩ = some (outboundPipeline src) := by
  have first : (pipelineFixEntry ⟨1, 1⟩ egrPipeline0).hits ⟨1, src⟩ = src.getLsbD 0 := by
    simp [pipelineFixEntry]
  have second : (pipelineFixEntry ⟨0, 1⟩ egrPipeline2).hits ⟨1, src⟩ = !src.getLsbD 0 := by
    simp [pipelineFixEntry]
  change lookup [pipelineFixEntry ⟨1, 1⟩ egrPipeline0, pipelineFixEntry ⟨0, 1⟩ egrPipeline2] ⟨1, src⟩ = _
  rw [TernaryTable.lookup, best, first, best, second, best, outboundPipeline]
  cases src.getLsbD 0 <;> rfl

/-- A packet without an inner IPv4 header keeps its pipeline. -/
theorem pipelineFixTable_lookup_off (src : BitVec 32) :
    pipelineFixTable.lookup ⟨0, src⟩ = none := by
  rw [lookup_eq_none_iff]
  simp [pipelineFixTable, pipelineFixWrites, pipelineFixEntry]

/-- The pipe of a group -/
def SelectorGroup.pipe : SelectorGroup → BitVec 2
  | .pipe0 => 0
  | .pipe1 => 1
  | .pipe2 => 2
  | .pipe3 => 3

theorem SelectorGroup.pipeOf_port (group : SelectorGroup) (index : Fin 16) :
    pipeOf (group.port index) = group.pipe := by
  revert index
  cases group <;> decide

/-- A shared bandwidth overrides the choice by the lowest bit. -/
theorem ecmpGroup02Init4p_inbound (odd : Bool) (haveSharedBd : BitVec 1) :
    ecmpGroup02Init4p.lookup ⟨if odd then egrPipeline1 else egrPipeline3, haveSharedBd⟩ =
      some (if haveSharedBd = 1 then .pipe3 else if odd then .pipe1 else .pipe3) := by
  revert haveSharedBd
  cases odd <;> decide

theorem ecmpGroup02Init4p_outbound (odd : Bool) (haveSharedBd : BitVec 1) :
    ecmpGroup02Init4p.lookup ⟨if odd then egrPipeline0 else egrPipeline2, haveSharedBd⟩ =
      some (if haveSharedBd = 1 then .pipe2 else if odd then .pipe0 else .pipe2) := by
  revert haveSharedBd
  cases odd <;> decide

/-- A group with an active member gives a port of its own pipe, whatever the hash is. -/
theorem Selector.ecmpGroup02_pipe (selector : Selector) (egrPipeline : BitVec 3)
    (haveSharedBd : BitVec 1) (flow : FlowKey) {group : SelectorGroup}
    (active : ∃ index, selector.status group index = true)
    (found : ecmpGroup02Init4p.lookup ⟨egrPipeline, haveSharedBd⟩ = some group) :
    ∃ port, selector.ecmpGroup02 egrPipeline haveSharedBd flow = some port ∧
      pipeOf port = group.pipe := by
  obtain ⟨index, picked⟩ := Option.isSome_iff_exists.mp (selector.pick_total group flow active)
  refine ⟨group.port index, ?_, group.pipeOf_port index⟩
  rw [Selector.ecmpGroup02, found]
  simp only [picked, Option.map_some]

end IgwP4.Setup
