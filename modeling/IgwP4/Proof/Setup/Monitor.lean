/-
This file shows at which polls the monitor takes the gateway down.
-/

import IgwP4.Construction.Setup.Monitor

namespace IgwP4.Setup

/-- All reads of the poll succeed. -/
def Poll.Succeeds (devports : List MonitorDevport) (poll : Poll) : Prop :=
  ∀ port ∈ devports.zipIdx, poll port.2 ≠ none

/-- The poll reads a port of the pipe that is up. -/
def Poll.FindsUp (devports : List MonitorDevport) (pipe : BitVec 8) (poll : Poll) : Prop :=
  ∃ port ∈ devports.zipIdx, port.1.pipe = pipe ∧ poll port.2 = some .up

instance (devports : List MonitorDevport) : DecidablePred (Poll.Succeeds devports) :=
  fun poll => inferInstanceAs (Decidable (∀ port ∈ devports.zipIdx, poll port.2 ≠ none))

instance (devports : List MonitorDevport) (pipe : BitVec 8) : DecidablePred (Poll.FindsUp devports pipe) :=
  fun poll => inferInstanceAs
    (Decidable (∃ port ∈ devports.zipIdx, port.1.pipe = pipe ∧ poll port.2 = some .up))

/-- The last successful polls of a run without a port of the pipe that is up, counted back to the
latest successful poll with such a port -/
def downPolls (devports : List MonitorDevport) (pipe : BitVec 8) (polls : List Poll) : Nat :=
  ((polls.filter fun poll => poll.Succeeds devports).rtakeWhile
    fun poll => ¬ poll.FindsUp devports pipe).length

/-- The state that a run leaves -/
def monitorState (devports : List MonitorDevport) (polls : List Poll) : MonitorState :=
  (monitorPolls devports polls).state

@[simp] theorem mark_pipe0 (groups : PortGroupStates) (pipe : BitVec 8) (state : OperState) :
    (groups.mark pipe state).pipe0 = .up ↔ groups.pipe0 = .up ∨ pipe = 0 ∧ state = .up := by
  unfold PortGroupStates.mark
  grind

@[simp] theorem mark_pipe2 (groups : PortGroupStates) (pipe : BitVec 8) (state : OperState) :
    (groups.mark pipe state).pipe2 = .up ↔ groups.pipe2 = .up ∨ pipe = 2 ∧ state = .up := by
  unfold PortGroupStates.mark
  grind

/-- The scan ends at a failing read, and else brings up the groups of the ports that are up. -/
theorem scanDevports_cases (poll : Poll) (devports : List MonitorDevport) (start : Nat)
    (groups : PortGroupStates) :
    ((∃ port ∈ devports.zipIdx start, poll port.2 = none) ∧ scanDevports poll start devports groups = none) ∨
      (∀ port ∈ devports.zipIdx start, poll port.2 ≠ none) ∧ ∃ marked,
        scanDevports poll start devports groups = some marked ∧
        (marked.pipe0 = .up ↔ groups.pipe0 = .up ∨
          ∃ port ∈ devports.zipIdx start, port.1.pipe = 0 ∧ poll port.2 = some .up) ∧
        (marked.pipe2 = .up ↔ groups.pipe2 = .up ∨
          ∃ port ∈ devports.zipIdx start, port.1.pipe = 2 ∧ poll port.2 = some .up) := by
  induction devports generalizing start groups with
  | nil => exact .inr ⟨by simp, groups, rfl, by simp, by simp⟩
  | cons mdp rest ih =>
      rw [List.zipIdx_cons]
      cases read : poll start with
      | none =>
          refine .inl ⟨⟨(mdp, start), List.mem_cons_self, read⟩, ?_⟩
          rw [scanDevports, read]
      | some state =>
          rw [scanDevports, read]
          rcases ih (start + 1) (groups.mark mdp.pipe state) with ⟨failing, ended⟩ | ⟨reads, marked, ended, ups⟩
          · obtain ⟨port, member, failed⟩ := failing
            exact .inl ⟨⟨port, List.mem_cons_of_mem _ member, failed⟩, ended⟩
          · refine .inr ⟨?_, marked, ended, ?_, ?_⟩
            · simpa [read] using reads
            · rw [ups.1, mark_pipe0]
              simp [read, or_assoc]
            · rw [ups.2, mark_pipe2]
              simp [read, or_assoc]

/-- The script of a group that is due -/
def downScripts (state : OperState) (count : BitVec 32) : List IgwScript :=
  if downDue state count then [.setIgwDown] else []

/-- The gateway state behind the check of a group -/
def stateBehind (state : OperState) (count : BitVec 32) (before : OperState) : OperState :=
  if downDue state count then .down else before

theorem pipe0Group_eq (p : Polled) (state : OperState) : p.pipe0Group state =
    ⟨{ p.state with
        igwOperState := stateBehind state p.state.pipe0PortGroupDownCount p.state.igwOperState
        pipe0PortGroupDownCount := nextDownCount state p.state.pipe0PortGroupDownCount },
      p.scripts ++ downScripts state p.state.pipe0PortGroupDownCount⟩ := by
  unfold stateBehind downScripts
  by_cases due : downDue state p.state.pipe0PortGroupDownCount
  · simp [Polled.pipe0Group, Polled.setIgwDown, due]
  · simp [Polled.pipe0Group, due]

theorem pipe2Group_eq (p : Polled) (state : OperState) : p.pipe2Group state =
    ⟨{ p.state with
        igwOperState := stateBehind state p.state.pipe2PortGroupDownCount p.state.igwOperState
        pipe2PortGroupDownCount := nextDownCount state p.state.pipe2PortGroupDownCount },
      p.scripts ++ downScripts state p.state.pipe2PortGroupDownCount⟩ := by
  unfold stateBehind downScripts
  by_cases due : downDue state p.state.pipe2PortGroupDownCount
  · simp [Polled.pipe2Group, Polled.setIgwDown, due]
  · simp [Polled.pipe2Group, due]

/-- The state in front of the recovery -/
def MonitorState.checked (s : MonitorState) (groups : PortGroupStates) : MonitorState where
  igwOperState := stateBehind groups.pipe2 s.pipe2PortGroupDownCount
    (stateBehind groups.pipe0 s.pipe0PortGroupDownCount s.igwOperState)
  pipe0PortGroupDownCount := nextDownCount groups.pipe0 s.pipe0PortGroupDownCount
  pipe2PortGroupDownCount := nextDownCount groups.pipe2 s.pipe2PortGroupDownCount
  upRetryCount := s.upRetryCount

/-- A poll either fails and does nothing, or checks the two groups and then recovers. -/
theorem poll_cases (devports : List MonitorDevport) (poll : Poll) (s : MonitorState) :
    (¬ poll.Succeeds devports ∧ igwMonitorAllDevportsOperState devports poll s = ⟨s, []⟩) ∨
      poll.Succeeds devports ∧ ∃ groups,
        (groups.pipe0 = .up ↔ poll.FindsUp devports 0) ∧ (groups.pipe2 = .up ↔ poll.FindsUp devports 2) ∧
        igwMonitorAllDevportsOperState devports poll s =
          (Polled.mk (s.checked groups) (downScripts groups.pipe0 s.pipe0PortGroupDownCount ++
            downScripts groups.pipe2 s.pipe2PortGroupDownCount)).recover groups := by
  rcases scanDevports_cases poll devports 0 ⟨.down, .down⟩ with ⟨failing, ended⟩ | ⟨reads, groups, ended, ups⟩
  · refine .inl ⟨fun reads => ?_, by rw [igwMonitorAllDevportsOperState, ended]⟩
    obtain ⟨port, member, failed⟩ := failing
    exact reads port member failed
  · refine .inr ⟨reads, groups, ?_, ?_, ?_⟩
    · rw [ups.1]
      simp [Poll.FindsUp]
    · rw [ups.2]
      simp [Poll.FindsUp]
    · rw [igwMonitorAllDevportsOperState, ended]
      simp only [pipe0Group_eq, pipe2Group_eq, List.nil_append]
      rfl

/-- The recovery runs its script when both groups are up and the gateway is down. -/
def Polled.Recovers (p : Polled) (groups : PortGroupStates) : Prop :=
  groups.pipe0 = .up ∧ groups.pipe2 = .up ∧ p.state.igwOperState = .down

theorem recover_of_recovers {p : Polled} {groups : PortGroupStates} (recovers : p.Recovers groups) :
    p.recover groups = p.setIgwUp := by
  rw [Polled.recover, if_pos ⟨recovers.1, recovers.2.1⟩, if_pos recovers.2.2]

theorem recover_of_not {p : Polled} {groups : PortGroupStates} (stays : ¬ p.Recovers groups) :
    p.recover groups = p := by
  unfold Polled.recover
  split
  next both => rw [if_neg fun down => stays ⟨both.1, both.2, down⟩]
  next => rfl

theorem setIgwUp_scripts (p : Polled) : p.setIgwUp.scripts = p.scripts ++ [.setIgwUp] := by
  unfold Polled.setIgwUp
  dsimp only
  split <;> rfl

theorem setIgwUp_counts (p : Polled) :
    p.setIgwUp.state.pipe0PortGroupDownCount = p.state.pipe0PortGroupDownCount ∧
      p.setIgwUp.state.pipe2PortGroupDownCount = p.state.pipe2PortGroupDownCount := by
  unfold Polled.setIgwUp
  dsimp only
  split <;> exact ⟨rfl, rfl⟩

/-- The recovery leaves the counters of the groups as they are. -/
theorem recover_counts (p : Polled) (groups : PortGroupStates) :
    (p.recover groups).state.pipe0PortGroupDownCount = p.state.pipe0PortGroupDownCount ∧
      (p.recover groups).state.pipe2PortGroupDownCount = p.state.pipe2PortGroupDownCount := by
  by_cases recovers : p.Recovers groups
  · rw [recover_of_recovers recovers]
    exact setIgwUp_counts p
  · rw [recover_of_not recovers]
    exact ⟨rfl, rfl⟩

theorem mem_downScripts {script : IgwScript} {state : OperState} {count : BitVec 32} :
    script ∈ downScripts state count ↔ downDue state count ∧ script = .setIgwDown := by
  unfold downScripts
  split
  next due => simp [due]
  next idle => simp [idle]

/-- The recovery adds no script that takes the gateway down. -/
theorem setIgwDown_mem_recover (p : Polled) (groups : PortGroupStates) :
    .setIgwDown ∈ (p.recover groups).scripts ↔ .setIgwDown ∈ p.scripts := by
  by_cases recovers : p.Recovers groups
  · rw [recover_of_recovers recovers, setIgwUp_scripts]
    simp
  · rw [recover_of_not recovers]

theorem monitorPolls_append (devports : List MonitorDevport) (polls : List Poll) (poll : Poll) :
    monitorPolls devports (polls ++ [poll]) = (monitorPolls devports polls).poll devports poll := by
  rw [monitorPolls, List.foldl_append]
  rfl

theorem monitorState_append (devports : List MonitorDevport) (polls : List Poll) (poll : Poll) :
    monitorState devports (polls ++ [poll]) =
      (igwMonitorAllDevportsOperState devports poll (monitorState devports polls)).state := by
  rw [monitorState, monitorPolls_append]
  rfl

theorem downPolls_of_failing {devports : List MonitorDevport} {poll : Poll}
    (failing : ¬ poll.Succeeds devports) (pipe : BitVec 8) (polls : List Poll) :
    downPolls devports pipe (polls ++ [poll]) = downPolls devports pipe polls := by
  simp [downPolls, failing]

theorem downPolls_of_up {devports : List MonitorDevport} {pipe : BitVec 8} {poll : Poll}
    (reads : poll.Succeeds devports) (up : poll.FindsUp devports pipe) (polls : List Poll) :
    downPolls devports pipe (polls ++ [poll]) = 0 := by
  simp [downPolls, reads, up]

theorem downPolls_of_down {devports : List MonitorDevport} {pipe : BitVec 8} {poll : Poll}
    (reads : poll.Succeeds devports) (down : ¬ poll.FindsUp devports pipe) (polls : List Poll) :
    downPolls devports pipe (polls ++ [poll]) = downPolls devports pipe polls + 1 := by
  simp [downPolls, reads, down]

/-- A group that is down counts one poll more, and a group that is up starts again. -/
theorem downPolls_of_succeeds {devports : List MonitorDevport} {pipe : BitVec 8} {poll : Poll}
    {state : OperState} (reads : poll.Succeeds devports)
    (found : state = .up ↔ poll.FindsUp devports pipe) (polls : List Poll) :
    downPolls devports pipe (polls ++ [poll]) =
      if state = .down then downPolls devports pipe polls + 1 else 0 := by
  cases state with
  | down => exact downPolls_of_down reads (fun up => absurd (found.mpr up) (by decide)) polls
  | up => exact downPolls_of_up reads (found.mp rfl) polls

/-- The counters hold the numbers of the last polls with their groups down. -/
structure Counted (devports : List MonitorDevport) (polls : List Poll) (s : MonitorState) : Prop where
  pipe0 : s.pipe0PortGroupDownCount.toNat = downPolls devports 0 polls
  pipe2 : s.pipe2PortGroupDownCount.toNat = downPolls devports 2 polls

theorem toNat_nextDownCount {state : OperState} {count : BitVec 32} (short : count.toNat + 1 < 2 ^ 32) :
    (nextDownCount state count).toNat = if state = .down then count.toNat + 1 else 0 := by
  unfold nextDownCount
  split
  · rw [BitVec.toNat_add]
    exact Nat.mod_eq_of_lt short
  · rfl

theorem downPolls_le (devports : List MonitorDevport) (pipe : BitVec 8) (polls : List Poll) :
    downPolls devports pipe polls ≤ polls.length :=
  (List.rtakeWhile_suffix _ _).length_le.trans (List.length_filter_le _ _)

/-- One poll more keeps the counters, as long as they do not wrap around. -/
theorem counted_step {devports : List MonitorDevport} {polls : List Poll} {s : MonitorState}
    (counted : Counted devports polls s) (poll : Poll) (short : polls.length + 1 < 2 ^ 32) :
    Counted devports (polls ++ [poll]) (igwMonitorAllDevportsOperState devports poll s).state := by
  have least0 := downPolls_le devports 0 polls
  have least2 := downPolls_le devports 2 polls
  rcases poll_cases devports poll s with ⟨failing, same⟩ | ⟨reads, groups, found0, found2, polled⟩
  · rw [same]
    exact ⟨by rw [downPolls_of_failing failing, counted.pipe0],
      by rw [downPolls_of_failing failing, counted.pipe2]⟩
  · rw [polled]
    constructor
    · rw [(recover_counts _ _).1, downPolls_of_succeeds reads found0, ← counted.pipe0]
      exact toNat_nextDownCount (by rw [counted.pipe0]; omega)
    · rw [(recover_counts _ _).2, downPolls_of_succeeds reads found2, ← counted.pipe2]
      exact toNat_nextDownCount (by rw [counted.pipe2]; omega)

theorem counted_run (devports : List MonitorDevport) (polls : List Poll) (short : polls.length < 2 ^ 32) :
    Counted devports polls (monitorState devports polls) := by
  induction polls using List.reverseRecOn with
  | nil => exact ⟨rfl, rfl⟩
  | append_singleton polls poll ih =>
      rw [List.length_append, List.length_singleton] at short
      rw [monitorState_append]
      exact counted_step (ih (by omega)) poll short

/-- A group is due at its sixteenth poll without a port that is up. -/
theorem downDue_iff {devports : List MonitorDevport} {pipe : BitVec 8} {poll : Poll} {polls : List Poll}
    {state : OperState} {count : BitVec 32} (reads : poll.Succeeds devports)
    (found : state = .up ↔ poll.FindsUp devports pipe) (counted : count.toNat = downPolls devports pipe polls) :
    downDue state count ↔ 16 ≤ downPolls devports pipe (polls ++ [poll]) := by
  have bound : count ≥ maxDownCount ↔ 15 ≤ count.toNat := BitVec.le_def
  rw [downDue, bound, downPolls_of_succeeds reads found, ← counted]
  cases state with
  | down => simp
  | up => simp

/-- A group that is due is down, so that the recovery does not begin in the same poll. -/
theorem not_recovers_of_due {p : Polled} {groups : PortGroupStates} {count0 count2 : BitVec 32}
    (due : downDue groups.pipe0 count0 ∨ downDue groups.pipe2 count2) : ¬ p.Recovers groups := by
  intro recovers
  rcases due with due | due
  · exact absurd (recovers.1.symm.trans due.1) (by decide)
  · exact absurd (recovers.2.1.symm.trans due.1) (by decide)

/-- A poll takes the gateway down when it succeeds and one of the two groups is due. -/
theorem setIgwDown_mem_iff {devports : List MonitorDevport} {poll : Poll} {s : MonitorState}
    {groups : PortGroupStates} (polled : igwMonitorAllDevportsOperState devports poll s =
      (Polled.mk (s.checked groups) (downScripts groups.pipe0 s.pipe0PortGroupDownCount ++
        downScripts groups.pipe2 s.pipe2PortGroupDownCount)).recover groups) :
    .setIgwDown ∈ (igwMonitorAllDevportsOperState devports poll s).scripts ↔
      downDue groups.pipe0 s.pipe0PortGroupDownCount ∨ downDue groups.pipe2 s.pipe2PortGroupDownCount := by
  rw [polled, setIgwDown_mem_recover, List.mem_append, mem_downScripts, mem_downScripts]
  simp

/-- The counters tell at which polls the gateway is taken down. -/
theorem setIgwDown_mem_poll (devports : List MonitorDevport) (polls : List Poll) (poll : Poll)
    (short : polls.length < 2 ^ 32) :
    .setIgwDown ∈ (igwMonitorAllDevportsOperState devports poll (monitorState devports polls)).scripts ↔
      poll.Succeeds devports ∧ (16 ≤ downPolls devports 0 (polls ++ [poll]) ∨
        16 ≤ downPolls devports 2 (polls ++ [poll])) := by
  have counted := counted_run devports polls short
  rcases poll_cases devports poll (monitorState devports polls) with
    ⟨failing, same⟩ | ⟨reads, groups, found0, found2, polled⟩
  · rw [same]
    simp [failing]
  · rw [setIgwDown_mem_iff polled, downDue_iff reads found0 counted.pipe0,
      downDue_iff reads found2 counted.pipe2]
    simp [reads]

/-- No poll takes the gateway down and sets it up. -/
theorem not_both_scripts (devports : List MonitorDevport) (poll : Poll) (s : MonitorState) :
    ¬ (.setIgwDown ∈ (igwMonitorAllDevportsOperState devports poll s).scripts ∧
      .setIgwUp ∈ (igwMonitorAllDevportsOperState devports poll s).scripts) := by
  rintro ⟨down, up⟩
  rcases poll_cases devports poll s with ⟨-, same⟩ | ⟨-, groups, -, -, polled⟩
  · rw [same] at down
    exact absurd down List.not_mem_nil
  · rw [setIgwDown_mem_iff polled] at down
    rw [polled, recover_of_not (not_recovers_of_due down), List.mem_append, mem_downScripts,
      mem_downScripts] at up
    simp at up

theorem poll_of_failing {devports : List MonitorDevport} {poll : Poll} (failing : ¬ poll.Succeeds devports)
    (s : MonitorState) : igwMonitorAllDevportsOperState devports poll s = ⟨s, []⟩ := by
  rcases poll_cases devports poll s with ⟨-, same⟩ | ⟨reads, -⟩
  · exact same
  · exact absurd reads failing

/--
A poll takes the gateway down exactly when it succeeds and is at least the sixteenth successful poll
in a row without a port of one of the two pipes up. A failing poll changes nothing, and no poll runs
both scripts.
-/
theorem setIgwDown_iff_downPolls (devports : List MonitorDevport) (polls : List Poll) (poll : Poll)
    (short : (polls ++ [poll]).length < 2 ^ 32) :
    (.setIgwDown ∈ (igwMonitorAllDevportsOperState devports poll (monitorState devports polls)).scripts ↔
      poll.Succeeds devports ∧ (16 ≤ downPolls devports 0 (polls ++ [poll]) ∨
        16 ≤ downPolls devports 2 (polls ++ [poll]))) ∧
      (¬ poll.Succeeds devports → monitorState devports (polls ++ [poll]) = monitorState devports polls) ∧
      ¬ (.setIgwDown ∈ (igwMonitorAllDevportsOperState devports poll (monitorState devports polls)).scripts ∧
        .setIgwUp ∈ (igwMonitorAllDevportsOperState devports poll (monitorState devports polls)).scripts) := by
  rw [List.length_append] at short
  refine ⟨setIgwDown_mem_poll devports polls poll (by omega), fun failing => ?_,
    not_both_scripts devports poll _⟩
  rw [monitorState_append, poll_of_failing failing]

theorem setIgwDown_iff_downPolls_sixteen :
    .setIgwDown ∈ (igwMonitorAllDevportsOperState [⟨0, 8⟩] (fun _ => some .down)
      (monitorState [⟨0, 8⟩] (List.replicate 15 fun _ => some .down))).scripts :=
  (setIgwDown_iff_downPolls [⟨0, 8⟩] (List.replicate 15 fun _ => some .down) (fun _ => some .down)
    (by decide)).1.mpr ⟨by decide, .inl (by decide)⟩

end IgwP4.Setup
