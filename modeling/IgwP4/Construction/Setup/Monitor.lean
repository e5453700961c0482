/-
This file gives the monitor that takes the gateway down when the ports of a pipe are down.
-/

import IgwP4.Construction.Setup.Config
import Mathlib.Data.List.DropRight

namespace IgwP4.Setup

/-- `UP` and `DOWN` -/
inductive OperState where
  | down
  | up
deriving DecidableEq

/-- `MAX_DOWN_COUNT` -/
abbrev maxDownCount : BitVec 32 := 15

/-- `monitor_devport_t`, as far as the check of the port states reads it -/
structure MonitorDevport where
  pipe : BitVec 8
  devPort : BitVec 32
deriving DecidableEq

/-- `DEV_PORT_TO_PIPE` -/
def devPortToPipe (devPort : BitVec 9) : BitVec 9 := devPort >>> 7

/-- `monitor_devports_init` -/
def monitorDevportsInit (hostifs : List Hostif) : List MonitorDevport :=
  hostifs.map fun hostif => ⟨(devPortToPipe hostif.devPort).setWidth 8, hostif.devPort.setWidth 32⟩

/-- The answer of `bf_pal_port_oper_state_get` to each call of a poll, or nothing where it fails -/
abbrev Poll := Nat → Option OperState

/-- The static variables of the monitor -/
structure MonitorState where
  igwOperState : OperState
  pipe0PortGroupDownCount : BitVec 32
  pipe2PortGroupDownCount : BitVec 32
  upRetryCount : BitVec 32
deriving DecidableEq

def MonitorState.initial : MonitorState := ⟨.up, 0, 0, 0⟩

/-- The scripts that a poll runs -/
inductive IgwScript where
  | setIgwDown
  | setIgwUp
deriving DecidableEq

/-- `pipe0_port_group_state` and `pipe2_port_group_state` -/
structure PortGroupStates where
  pipe0 : OperState
  pipe2 : OperState
deriving DecidableEq

/-- A port that is up brings up the group of its pipe. -/
def PortGroupStates.mark (groups : PortGroupStates) (pipe : BitVec 8) (state : OperState) : PortGroupStates :=
  if pipe = 0 ∧ state = .up then { groups with pipe0 := .up }
  else if pipe = 2 ∧ state = .up then { groups with pipe2 := .up }
  else groups

/-- The loop over the ports gives up at the first failing read. -/
def scanDevports (poll : Poll) : Nat → List MonitorDevport → PortGroupStates → Option PortGroupStates
  | _, [], groups => some groups
  | i, mdp :: rest, groups =>
      match poll i with
      | none => none
      | some state => scanDevports poll (i + 1) rest (groups.mark mdp.pipe state)

/-- The state that a poll leaves, and the scripts that it has run in their order -/
structure Polled where
  state : MonitorState
  scripts : List IgwScript
deriving DecidableEq

def Polled.setIgwDown (p : Polled) : Polled :=
  ⟨{ p.state with igwOperState := .down }, p.scripts ++ [.setIgwDown]⟩

/-- The counter of a group is compared before it is incremented. -/
def nextDownCount (state : OperState) (count : BitVec 32) : BitVec 32 :=
  if state = .down then count + 1 else 0

def downDue (state : OperState) (count : BitVec 32) : Prop := state = .down ∧ count ≥ maxDownCount

instance (state : OperState) (count : BitVec 32) : Decidable (downDue state count) :=
  inferInstanceAs (Decidable (_ ∧ _))

def Polled.pipe0Group (state : OperState) (p : Polled) : Polled :=
  let count := p.state.pipe0PortGroupDownCount
  let p := { p with state.pipe0PortGroupDownCount := nextDownCount state count }
  if downDue state count then p.setIgwDown else p

def Polled.pipe2Group (state : OperState) (p : Polled) : Polled :=
  let count := p.state.pipe2PortGroupDownCount
  let p := { p with state.pipe2PortGroupDownCount := nextDownCount state count }
  if downDue state count then p.setIgwDown else p

/-- A gateway that is down is set up again in three polls. -/
def Polled.setIgwUp (p : Polled) : Polled :=
  let retries := p.state.upRetryCount + 1
  let scripts := p.scripts ++ [.setIgwUp]
  if retries ≥ 3 then ⟨{ p.state with igwOperState := .up, upRetryCount := 0 }, scripts⟩
  else ⟨{ p.state with upRetryCount := retries }, scripts⟩

def Polled.recover (groups : PortGroupStates) (p : Polled) : Polled :=
  if groups.pipe0 = .up ∧ groups.pipe2 = .up then
    if p.state.igwOperState = .down then p.setIgwUp else p
  else p

/-- `igw_monitor_all_devports_oper_state` -/
def igwMonitorAllDevportsOperState (devports : List MonitorDevport) (poll : Poll) (s : MonitorState) :
    Polled :=
  match scanDevports poll 0 devports ⟨.down, .down⟩ with
  | none => ⟨s, []⟩
  | some groups => (((Polled.mk s []).pipe0Group groups.pipe0).pipe2Group groups.pipe2).recover groups

/-- A poll behind the polls before it -/
def Polled.poll (devports : List MonitorDevport) (p : Polled) (poll : Poll) : Polled :=
  let polled := igwMonitorAllDevportsOperState devports poll p.state
  ⟨polled.state, p.scripts ++ polled.scripts⟩

/-- The polls of a run one after the other, with all the scripts that they run -/
def monitorPolls (devports : List MonitorDevport) (polls : List Poll) : Polled :=
  polls.foldl (Polled.poll devports) ⟨.initial, []⟩

end IgwP4.Setup
