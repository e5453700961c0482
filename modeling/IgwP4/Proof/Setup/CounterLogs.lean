/-
This file shows which values of the error counters the monitor logs in any run.
-/

import IgwP4.Construction.Setup.MonitorRounds

namespace IgwP4.Setup
open Structures

/-- The value of a counter that a round comes to, where the FCS errors stand behind the read of the CRC errors -/
def CounterReads.seen (reads : CounterReads) : ErrorCounter → Option (BitVec 64)
  | .crcError => reads.crcErrorStomped
  | .fcsError => reads.crcErrorStomped.bind fun _ => reads.framesReceivedWithFcsError
  | .igTmCount => reads.tmPortDrop.map Prod.fst
  | .egTmCount => reads.tmPortDrop.map Prod.snd

/-- The numbers that the lines about a counter print -/
def valuesOf (counter : ErrorCounter) (lines : List CounterLine) : List Int :=
  (lines.filter fun line => line.counter = counter).map CounterLine.value

@[simp] theorem valuesOf_append (counter : ErrorCounter) (first second : List CounterLine) :
    valuesOf counter (first ++ second) = valuesOf counter first ++ valuesOf counter second := by
  rw [valuesOf, List.filter_append, List.map_append]
  rfl

/-! One port -/

namespace WatchedDevport

/-- The port keeps its names, and the lines of the visit have its number. -/
structure Names (mdp : WatchedDevport) (visited : WatchedDevport × List CounterLine) : Prop where
  fpPort : visited.1.fpPort = mdp.fpPort
  devport : visited.1.devport = mdp.devport
  lines : ∀ line ∈ visited.2, line.fpPort = mdp.fpPort

theorem check_names (counter : ErrorCounter) (value : BitVec 64) (mdp : WatchedDevport) :
    mdp.Names (mdp.check counter value) := by
  refine ⟨rfl, rfl, fun line logged => ?_⟩
  obtain ⟨_, _, rfl⟩ := List.mem_map.mp logged
  rfl

theorem Names.append {mdp : WatchedDevport} {first second : WatchedDevport × List CounterLine}
    (one : mdp.Names first) (two : first.1.Names second) : mdp.Names (second.1, first.2 ++ second.2) where
  fpPort := two.fpPort.trans one.fpPort
  devport := two.devport.trans one.devport
  lines line logged := by
    rcases List.mem_append.mp logged with early | late
    · exact one.lines line early
    · exact (two.lines line late).trans one.fpPort

theorem portSyncd_names (reads : CounterReads) (mdp : WatchedDevport) : mdp.Names (mdp.portSyncd reads) := by
  unfold portSyncd
  split
  · exact ⟨rfl, rfl, fun line logged => absurd logged List.not_mem_nil⟩
  · dsimp only
    split
    · exact check_names _ _ mdp
    · exact (check_names _ _ mdp).append (check_names _ _ _)

theorem tmPortDrop_names (reads : CounterReads) (mdp : WatchedDevport) : mdp.Names (mdp.tmPortDrop reads) := by
  unfold tmPortDrop
  split
  · exact ⟨rfl, rfl, fun line logged => absurd logged List.not_mem_nil⟩
  · exact (check_names _ _ mdp).append (check_names _ _ _)

/-- The visit changes one counter as the detector of changes does for this value, or leaves it. -/
def Detects (counter : ErrorCounter) (value : Option (BitVec 64)) (mdp : WatchedDevport)
    (visited : WatchedDevport × List CounterLine) : Prop :=
  match value with
  | none => visited.1.counts counter = mdp.counts counter ∧ valuesOf counter visited.2 = []
  | some value => visited.1.counts counter = (observe (0 < ·) (mdp.counts counter) value).1 ∧
      valuesOf counter visited.2 = (observe (0 < ·) (mdp.counts counter) value).2.map printed

theorem check_detects (counter other : ErrorCounter) (value : BitVec 64) (mdp : WatchedDevport) :
    Detects counter (if counter = other then some value else none) mdp (mdp.check other value) := by
  have lines (values : List (BitVec 64)) :
      valuesOf counter (values.map fun value => ⟨mdp.fpPort, other, printed value⟩) =
        if counter = other then values.map printed else [] := by
    rw [valuesOf, List.filter_map, List.map_map]
    by_cases same : counter = other
    · subst same
      simp [Function.comp_def]
    · simp [Function.comp_def, same, Ne.symm same]
  by_cases same : counter = other
  · subst same
    rw [if_pos rfl]
    exact ⟨Function.update_self _ _ _, (lines _).trans (if_pos rfl)⟩
  · rw [if_neg same]
    exact ⟨Function.update_of_ne same _ _, (lines _).trans (if_neg same)⟩

/-- Of two visits one meets the counter at most. -/
theorem Detects.append {counter : ErrorCounter} {value value' : Option (BitVec 64)} {mdp : WatchedDevport}
    {first second : WatchedDevport × List CounterLine} (one : Detects counter value mdp first)
    (two : Detects counter value' first.1 second) (apart : value = none ∨ value' = none) :
    Detects counter (value.or value') mdp (second.1, first.2 ++ second.2) := by
  rcases apart with rfl | rfl
  · obtain ⟨kept, silent⟩ := one
    cases value' with
    | none => exact ⟨two.1.trans kept, by rw [valuesOf_append, silent, two.2]; rfl⟩
    | some value =>
        obtain ⟨changed, logged⟩ := two
        rw [kept] at changed logged
        exact ⟨changed, by rw [valuesOf_append, silent, logged]; rfl⟩
  · obtain ⟨kept, silent⟩ := two
    cases value with
    | none => exact ⟨kept.trans one.1, by rw [valuesOf_append, silent, one.2]; rfl⟩
    | some value =>
        obtain ⟨changed, logged⟩ := one
        exact ⟨kept.trans changed, by rw [valuesOf_append, silent, logged]; exact List.append_nil _⟩

/-- The two monitors visit a port one after the other. -/
def watch (reads : CounterReads) (mdp : WatchedDevport) : WatchedDevport × List CounterLine :=
  ((mdp.portSyncd reads).1.tmPortDrop reads |>.1,
    (mdp.portSyncd reads).2 ++ ((mdp.portSyncd reads).1.tmPortDrop reads).2)

theorem watch_names (reads : CounterReads) (mdp : WatchedDevport) : mdp.Names (mdp.watch reads) :=
  (portSyncd_names reads mdp).append (tmPortDrop_names reads _)

/-- A round detects the value of each counter that it comes to. -/
theorem watch_detects (reads : CounterReads) (mdp : WatchedDevport) (counter : ErrorCounter) :
    Detects counter (reads.seen counter) mdp (mdp.watch reads) := by
  obtain ⟨crc, fcs, drop⟩ := reads
  have synced (mdp : WatchedDevport) : Detects counter
      (match counter with
        | .crcError => crc
        | .fcsError => crc.bind fun _ => fcs
        | _ => none) mdp (mdp.portSyncd ⟨crc, fcs, drop⟩) := by
    cases crc with
    | none => cases counter <;> exact ⟨rfl, rfl⟩
    | some crc =>
        have first := check_detects counter .crcError crc mdp
        cases fcs with
        | none => cases counter <;> exact first
        | some fcs =>
            have second := check_detects counter .fcsError fcs (mdp.check .crcError crc).1
            have both := first.append second (by cases counter <;> simp)
            cases counter <;> exact both
  have dropped (mdp : WatchedDevport) : Detects counter
      (match counter with
        | .igTmCount => drop.map Prod.fst
        | .egTmCount => drop.map Prod.snd
        | _ => none) mdp (mdp.tmPortDrop ⟨crc, fcs, drop⟩) := by
    cases drop with
    | none => cases counter <;> exact ⟨rfl, rfl⟩
    | some counts =>
        have first := check_detects counter .egTmCount counts.2 mdp
        have second := check_detects counter .igTmCount counts.1 (mdp.check .egTmCount counts.2).1
        have both := first.append second (by cases counter <;> simp)
        cases counter <;> exact both
  have both := (synced mdp).append (dropped _) (by cases counter <;> simp)
  cases counter with
  | crcError =>
      rw [Option.or_none] at both
      exact both
  | fcsError =>
      rw [Option.or_none] at both
      exact both
  | igTmCount => exact both
  | egTmCount => exact both

end WatchedDevport

/-! All ports -/

section Visits

variable {visit : CounterReads → WatchedDevport → WatchedDevport × List CounterLine}
  (names : ∀ reads (mdp : WatchedDevport), mdp.Names (visit reads mdp)) (reads : Nat → CounterReads)

include names

/-- A visit of all ports keeps their names, and logs lines with their numbers only. -/
theorem visitDevports_names (i : Nat) (devports : List WatchedDevport) :
    (visitDevports visit reads i devports).1.map WatchedDevport.fpPort = devports.map WatchedDevport.fpPort ∧
    (visitDevports visit reads i devports).1.map WatchedDevport.devport = devports.map WatchedDevport.devport ∧
    ∀ line ∈ (visitDevports visit reads i devports).2, line.fpPort ∈ devports.map WatchedDevport.fpPort := by
  induction devports generalizing i with
  | nil => exact ⟨rfl, rfl, fun line logged => absurd logged List.not_mem_nil⟩
  | cons mdp rest ih =>
      obtain ⟨fpPorts, kept, lines⟩ := ih (i + 1)
      have own := names (reads i) mdp
      rw [visitDevports]
      refine ⟨?_, ?_, fun line logged => ?_⟩
      · rw [List.map_cons, List.map_cons, own.fpPort, fpPorts]
      · rw [List.map_cons, List.map_cons, own.devport, kept]
      · rcases List.mem_append.mp logged with first | later
        · rw [own.lines line first]
          exact List.mem_cons_self
        · exact List.mem_cons_of_mem _ (lines line later)

/-- With distinct numbers the lines of one number are those of the visit to its port. -/
theorem visitDevports_port {devports : List WatchedDevport}
    (distinct : (devports.map WatchedDevport.fpPort).Nodup) {k : Nat} {mdp : WatchedDevport}
    (place : devports[k]? = some mdp) (i : Nat) :
    (visitDevports visit reads i devports).1[k]? = some (visit (reads (i + k)) mdp).1 ∧
    (visitDevports visit reads i devports).2.filter (fun line => line.fpPort = mdp.fpPort) =
      (visit (reads (i + k)) mdp).2 := by
  induction devports generalizing i k with
  | nil => contradiction
  | cons first rest ih =>
      obtain ⟨apart, distinct⟩ := List.nodup_cons.mp distinct
      have own := names (reads i) first
      rw [visitDevports, List.filter_append]
      cases k with
      | zero =>
          obtain rfl : first = mdp := Option.some.inj place
          refine ⟨rfl, ?_⟩
          have all : (visit (reads i) first).2.filter (fun line => line.fpPort = first.fpPort) =
              (visit (reads i) first).2 :=
            List.filter_eq_self.mpr fun line logged => decide_eq_true (own.lines line logged)
          have none : (visitDevports visit reads (i + 1) rest).2.filter (fun line => line.fpPort = first.fpPort) =
              [] := by
            refine List.filter_eq_nil_iff.mpr fun line logged same => apart ?_
            rw [← of_decide_eq_true same]
            exact (visitDevports_names names reads (i + 1) rest).2.2 line logged
          rw [all, none, List.append_nil]
          rfl
      | succ k =>
          obtain ⟨left, lines⟩ := ih distinct place (i + 1)
          have member : mdp.fpPort ∈ rest.map WatchedDevport.fpPort :=
            List.mem_map.mpr ⟨mdp, List.mem_of_getElem? place, rfl⟩
          have none : (visit (reads i) first).2.filter (fun line => line.fpPort = mdp.fpPort) = [] := by
            refine List.filter_eq_nil_iff.mpr fun line logged same => apart ?_
            rw [← own.lines line logged, of_decide_eq_true same]
            exact member
          rw [none, lines, List.nil_append, Nat.add_right_comm, Nat.add_assoc]
          exact ⟨(Nat.add_right_comm i k 1 ▸ left), rfl⟩

end Visits

/-! The rounds -/

namespace MonitorMain

variable (checksStates : Bool) (m : MonitorMain) (round : MonitorRound)

theorem round_names : (m.round checksStates round).devports.map WatchedDevport.fpPort =
      m.devports.map WatchedDevport.fpPort ∧
    (m.round checksStates round).devports.map WatchedDevport.devport = m.devports.map WatchedDevport.devport ∧
    ∀ line ∈ (m.round checksStates round).lines, line ∈ m.lines ∨
      line.fpPort ∈ m.devports.map WatchedDevport.fpPort := by
  obtain ⟨syncedPorts, syncedKept, synced⟩ :=
    visitDevports_names WatchedDevport.portSyncd_names round.counters 0 m.devports
  obtain ⟨droppedPorts, droppedKept, dropped⟩ := visitDevports_names WatchedDevport.tmPortDrop_names round.counters 0
    (portSyncdMonitor round.counters m.devports).1
  refine ⟨droppedPorts.trans syncedPorts, droppedKept.trans syncedKept, fun line logged => ?_⟩
  rcases List.mem_append.mp logged with before | logged
  · exact .inl before
  · rcases List.mem_append.mp logged with first | second
    · exact .inr (synced line first)
    · exact .inr (syncedPorts ▸ dropped line second)

variable {m}

/-- A round watches each port as if it were the only one. -/
theorem round_port (distinct : (m.devports.map WatchedDevport.fpPort).Nodup) {k : Nat} {mdp : WatchedDevport}
    (place : m.devports[k]? = some mdp) :
    (m.round checksStates round).devports[k]? = some (mdp.watch (round.counters k)).1 ∧
    (m.round checksStates round).lines.filter (fun line => line.fpPort = mdp.fpPort) =
      m.lines.filter (fun line => line.fpPort = mdp.fpPort) ++ (mdp.watch (round.counters k)).2 := by
  obtain ⟨synced, first⟩ :=
    visitDevports_port WatchedDevport.portSyncd_names round.counters distinct place 0
  have still := (visitDevports_names WatchedDevport.portSyncd_names round.counters 0 m.devports).1
  have own := (WatchedDevport.portSyncd_names (round.counters k) mdp).fpPort
  rw [Nat.zero_add] at synced first
  obtain ⟨dropped, second⟩ :=
    visitDevports_port WatchedDevport.tmPortDrop_names round.counters (still ▸ distinct) synced 0
  rw [Nat.zero_add, own] at second
  rw [Nat.zero_add] at dropped
  refine ⟨dropped, ?_⟩
  rw [MonitorMain.round, List.filter_append, List.filter_append]
  exact congrArg₂ (fun early late => _ ++ (early ++ late)) first second

/-- The rounds log the changes of a counter from the value that it has before them. -/
theorem rounds_log (counter : ErrorCounter) (rounds : List MonitorRound)
    (distinct : (m.devports.map WatchedDevport.fpPort).Nodup) {k : Nat} {mdp : WatchedDevport}
    (place : m.devports[k]? = some mdp) :
    valuesOf counter ((rounds.foldl (MonitorMain.round checksStates) m).lines.filter
        fun line => line.fpPort = mdp.fpPort) =
      valuesOf counter (m.lines.filter fun line => line.fpPort = mdp.fpPort) ++
        (changeLog (0 < ·) (mdp.counts counter)
          (rounds.filterMap fun round => (round.counters k).seen counter)).map printed := by
  induction rounds generalizing m mdp with
  | nil => exact (List.append_nil _).symm
  | cons round rest ih =>
      obtain ⟨left, lines⟩ := round_port checksStates round distinct place
      have later := ih ((round_names checksStates m round).1 ▸ distinct) left
      rw [(mdp.watch_names (round.counters k)).fpPort, lines, valuesOf_append] at later
      rw [List.foldl_cons, later, List.append_assoc, List.filterMap_cons]
      have detects := mdp.watch_detects (round.counters k) counter
      congr 1
      cases seen : (round.counters k).seen counter with
      | none =>
          rw [seen] at detects
          rw [detects.1, detects.2]
          rfl
      | some value =>
          rw [seen] at detects
          rw [detects.1, detects.2, ← List.map_append]
          rfl

/-- What holds of all rounds beside the counters: the names, the numbers of the lines, and the polls -/
theorem rounds_names (rounds : List MonitorRound) (m : MonitorMain) :
    (∀ line ∈ (rounds.foldl (MonitorMain.round checksStates) m).lines, line ∈ m.lines ∨
      line.fpPort ∈ m.devports.map WatchedDevport.fpPort) ∧
    (rounds.foldl (MonitorMain.round checksStates) m).polled = if checksStates then
      (rounds.map MonitorRound.states).foldl (Polled.poll (m.devports.map WatchedDevport.devport)) m.polled
      else m.polled := by
  induction rounds generalizing m with
  | nil => exact ⟨fun _ logged => .inl logged, by cases checksStates <;> rfl⟩
  | cons round rest ih =>
      obtain ⟨lines, polled⟩ := ih (m.round checksStates round)
      obtain ⟨fpPorts, devports, logged⟩ := round_names checksStates m round
      rw [List.foldl_cons]
      refine ⟨fun line held => ?_, ?_⟩
      · rcases lines line held with early | late
        · exact logged line early
        · exact .inr (fpPorts ▸ late)
      · rw [polled, devports, List.map_cons, List.foldl_cons]
        have now : (m.round checksStates round).polled = if checksStates then
            m.polled.poll (m.devports.map WatchedDevport.devport) round.states else m.polled := by
          rw [← devports]
          rfl
        rw [now]
        cases checksStates <;> rfl

end MonitorMain

/--
In every run the monitor logs exactly the changes of the positive values that it reads of each counter, each as far
as it is printed and with the number of its port, and what it reads of the counters does not touch its decision over
the gateway.
-/
theorem switchMonitorMain_logs (checksStates : Bool) {hostifs : List NumberedHostif}
    (distinct : (hostifs.map NumberedHostif.fakeFpPort).Nodup) (rounds : List MonitorRound) :
    (∀ k numbered, hostifs[k]? = some numbered → ∀ counter,
      valuesOf counter ((switchMonitorMain checksStates hostifs rounds).lines.filter
          fun line => line.fpPort = numbered.fakeFpPort) =
        (((rounds.filterMap fun round => (round.counters k).seen counter).filter (0 < ·)).destutter'
          (· ≠ ·) 0).tail.map printed) ∧
    (∀ line ∈ (switchMonitorMain checksStates hostifs rounds).lines,
      line.fpPort ∈ hostifs.map NumberedHostif.fakeFpPort) ∧
    (switchMonitorMain checksStates hostifs rounds).polled =
      if checksStates then
        monitorPolls (monitorDevportsInit (hostifs.map NumberedHostif.hostif)) (rounds.map MonitorRound.states)
      else ⟨.initial, []⟩ := by
  have fpPorts : (watchedDevportsInit hostifs).map WatchedDevport.fpPort =
      hostifs.map NumberedHostif.fakeFpPort := by
    rw [watchedDevportsInit, List.map_map]
    rfl
  have devports : (watchedDevportsInit hostifs).map WatchedDevport.devport =
      monitorDevportsInit (hostifs.map NumberedHostif.hostif) := by
    rw [watchedDevportsInit, monitorDevportsInit, List.map_map, List.map_map]
    rfl
  obtain ⟨lines, polled⟩ := MonitorMain.rounds_names checksStates rounds
    ⟨watchedDevportsInit hostifs, ⟨.initial, []⟩, []⟩
  refine ⟨fun k numbered place counter => ?_, fun line logged => ?_, ?_⟩
  · have watched : (watchedDevportsInit hostifs)[k]? = some ⟨numbered.fakeFpPort,
        ⟨(devPortToPipe numbered.hostif.devPort).setWidth 8, numbered.hostif.devPort.setWidth 32⟩, fun _ => 0⟩ := by
      rw [watchedDevportsInit, List.getElem?_map, place]
      rfl
    have logged := MonitorMain.rounds_log checksStates counter rounds
      (m := ⟨watchedDevportsInit hostifs, ⟨.initial, []⟩, []⟩) (fpPorts ▸ distinct) watched
    rw [changeLog_eq] at logged
    exact logged
  · rcases lines line logged with none | own
    · exact absurd none List.not_mem_nil
    · exact fpPorts ▸ own
  · rw [switchMonitorMain, polled, devports]
    rfl

/-- Two interfaces in different pipes -/
def twoNumberedHostifs : List NumberedHostif :=
  [⟨⟨0, 1, 2, false, 0, 0, 0, 0⟩, 1⟩, ⟨⟨256, 3, 4, false, 0, 0, 0, 0⟩, 17⟩]

/-- A round in which only the second port has errors, where a read of the CRC errors may fail -/
def roundOf (crc : Option (BitVec 64)) (fcs : BitVec 64) : MonitorRound where
  counters i := if i = 1 then ⟨crc, some fcs, none⟩ else ⟨some 0, some 0, some (0, 0)⟩
  states _ := some .up

/-- The failing read of the CRC errors hides the FCS errors of the third round, and the last line shows no high half. -/
theorem switchMonitorMain_logs_two :
    valuesOf .fcsError ((switchMonitorMain true twoNumberedHostifs
      [roundOf (some 0) 3, roundOf (some 2) 3, roundOf none 4, roundOf (some 2) 5,
        roundOf (some 2) 0x1ffffffff]).lines.filter fun line => line.fpPort = 17) = [3, 5, -1] := by
  have distinct : (twoNumberedHostifs.map NumberedHostif.fakeFpPort).Nodup := by decide
  exact (switchMonitorMain_logs true distinct _).1 1 _ rfl .fcsError

end IgwP4.Setup
