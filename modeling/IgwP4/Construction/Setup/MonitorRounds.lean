/-
This file gives the rounds of the monitor, which reads the error counters of the ports before their states.
-/

import IgwP4.Construction.Setup.Monitor
import IgwP4.Construction.Structures.ChangeLog

namespace IgwP4.Setup
open Structures

/-- The counters that `monitor_devport_t` remembers -/
inductive ErrorCounter where
  | crcError
  | fcsError
  | igTmCount
  | egTmCount
deriving DecidableEq

/-- An interface with the number of its port in the configuration -/
structure NumberedHostif where
  hostif : Hostif
  fakeFpPort : BitVec 32

/-- `monitor_devport_t` -/
structure WatchedDevport where
  fpPort : BitVec 32
  devport : MonitorDevport
  counts : ErrorCounter → BitVec 64

/-- A line of the log about a counter, with the number that is printed for its value -/
structure CounterLine where
  fpPort : BitVec 32
  counter : ErrorCounter
  value : Int
deriving DecidableEq

/-- The lines print a counter of 64 bits with `%d`, which takes its low half with a sign. -/
def printed (value : BitVec 64) : Int := (value.setWidth 32).toInt

/-- What the driver answers about the counters of one port in one round, or nothing where a read fails -/
structure CounterReads where
  crcErrorStomped : Option (BitVec 64)
  framesReceivedWithFcsError : Option (BitVec 64)
  tmPortDrop : Option (BitVec 64 × BitVec 64)

namespace WatchedDevport

/-- A value is logged when it is positive and differs from the one that is remembered. -/
def check (counter : ErrorCounter) (value : BitVec 64) (mdp : WatchedDevport) : WatchedDevport × List CounterLine :=
  let observed := observe (0 < ·) (mdp.counts counter) value
  ({ mdp with counts := Function.update mdp.counts counter observed.1 },
    observed.2.map fun value => ⟨mdp.fpPort, counter, printed value⟩)

/-- One round of the loop of `port_syncd_monitor`, which leaves the port at the first read that fails -/
def portSyncd (reads : CounterReads) (mdp : WatchedDevport) : WatchedDevport × List CounterLine :=
  match reads.crcErrorStomped with
  | none => (mdp, [])
  | some crc =>
      let crcChecked := mdp.check .crcError crc
      match reads.framesReceivedWithFcsError with
      | none => crcChecked
      | some fcs =>
          let fcsChecked := crcChecked.1.check .fcsError fcs
          (fcsChecked.1, crcChecked.2 ++ fcsChecked.2)

/-- One round of the loop of `tm_port_drop_monitor` -/
def tmPortDrop (reads : CounterReads) (mdp : WatchedDevport) : WatchedDevport × List CounterLine :=
  match reads.tmPortDrop with
  | none => (mdp, [])
  | some (igCount, egCount) =>
      let egChecked := mdp.check .egTmCount egCount
      let igChecked := egChecked.1.check .igTmCount igCount
      (igChecked.1, egChecked.2 ++ igChecked.2)

end WatchedDevport

/-- Both monitors visit the ports in their order. -/
def visitDevports (visit : CounterReads → WatchedDevport → WatchedDevport × List CounterLine)
    (reads : Nat → CounterReads) : Nat → List WatchedDevport → List WatchedDevport × List CounterLine
  | _, [] => ([], [])
  | i, mdp :: rest =>
      let visited := visit (reads i) mdp
      let others := visitDevports visit reads (i + 1) rest
      (visited.1 :: others.1, visited.2 ++ others.2)

/-- `port_syncd_monitor` -/
def portSyncdMonitor (reads : Nat → CounterReads) (devports : List WatchedDevport) :
    List WatchedDevport × List CounterLine :=
  visitDevports WatchedDevport.portSyncd reads 0 devports

/-- `tm_port_drop_monitor` -/
def tmPortDropMonitor (reads : Nat → CounterReads) (devports : List WatchedDevport) :
    List WatchedDevport × List CounterLine :=
  visitDevports WatchedDevport.tmPortDrop reads 0 devports

/-- `monitor_devports_init` with the fields of the counters -/
def watchedDevportsInit (hostifs : List NumberedHostif) : List WatchedDevport :=
  hostifs.map fun numbered => ⟨numbered.fakeFpPort,
    ⟨(devPortToPipe numbered.hostif.devPort).setWidth 8, numbered.hostif.devPort.setWidth 32⟩, fun _ => 0⟩

/-- What the driver answers in one round -/
structure MonitorRound where
  counters : Nat → CounterReads
  states : Poll

/-- The array and the static variables of the monitor, with what it has logged and run so far -/
structure MonitorMain where
  devports : List WatchedDevport
  polled : Polled
  lines : List CounterLine

/-- A round of `switch_monitor_main`, which reads the states of the ports on one hardware model only -/
def MonitorMain.round (checksStates : Bool) (m : MonitorMain) (round : MonitorRound) : MonitorMain :=
  let synced := portSyncdMonitor round.counters m.devports
  let drops := tmPortDropMonitor round.counters synced.1
  let devports := drops.1.map WatchedDevport.devport
  ⟨drops.1, if checksStates then m.polled.poll devports round.states else m.polled,
    m.lines ++ (synced.2 ++ drops.2)⟩

/-- The rounds of `switch_monitor_main` one after the other -/
def switchMonitorMain (checksStates : Bool) (hostifs : List NumberedHostif) (rounds : List MonitorRound) :
    MonitorMain :=
  rounds.foldl (MonitorMain.round checksStates) ⟨watchedDevportsInit hostifs, ⟨.initial, []⟩, []⟩

end IgwP4.Setup
