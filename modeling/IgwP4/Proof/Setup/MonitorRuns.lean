/-
This file shows when the monitor recovers in three fresh attempts and when it raises no false alarm.
-/

import IgwP4.Construction.Netlink.Gateways
import IgwP4.Proof.Setup.Monitor

namespace IgwP4.Setup

/-- The successful poll finds a group down whose counter has reached its bound. -/
def Poll.FindsExhausted (devports : List MonitorDevport) (s : MonitorState) (poll : Poll) : Prop :=
  poll.Succeeds devports ∧
    (¬ poll.FindsUp devports 0 ∧ maxDownCount ≤ s.pipe0PortGroupDownCount ∨
      ¬ poll.FindsUp devports 2 ∧ maxDownCount ≤ s.pipe2PortGroupDownCount)

/-- The attempts to set the gateway up since it was last taken down -/
def upsSinceDown (scripts : List IgwScript) : Nat := (scripts.rtakeWhile (· = .setIgwUp)).length

instance (devports : List MonitorDevport) (s : MonitorState) (poll : Poll) :
    Decidable (poll.FindsExhausted devports s) := inferInstanceAs (Decidable (_ ∧ (_ ∨ _)))

/-- A poll that brings the state from `DOWN` to `UP` makes at least the third attempt since the
gateway was last taken down. -/
def RecoversFresh (devports : List MonitorDevport) (polls : List Poll) : Prop :=
  ∀ (n : Nat) (inside : n < polls.length),
    (monitorState devports (polls.take n)).igwOperState = .down →
    (monitorState devports (polls.take (n + 1))).igwOperState = .up →
    .setIgwUp ∈ (igwMonitorAllDevportsOperState devports polls[n]
        (monitorState devports (polls.take n))).scripts ∧
      3 ≤ upsSinceDown (monitorPolls devports (polls.take (n + 1))).scripts

/-- No poll takes the gateway down while a recovery has made some but not all of its attempts. -/
def NeverInterrupted (devports : List MonitorDevport) (polls : List Poll) : Prop :=
  ∀ (n : Nat) (inside : n < polls.length),
    polls[n].FindsExhausted devports (monitorState devports (polls.take n)) →
      (monitorState devports (polls.take n)).upRetryCount = 0

instance (devports : List MonitorDevport) (polls : List Poll) : Decidable (RecoversFresh devports polls) :=
  inferInstanceAs (Decidable (∀ (n : Nat) (_ : n < polls.length), _))

instance (devports : List MonitorDevport) (polls : List Poll) : Decidable (NeverInterrupted devports polls) :=
  inferInstanceAs (Decidable (∀ (n : Nat) (_ : n < polls.length), _))

/-- The retry counter holds the attempts since the gateway was last taken down. -/
structure Fresh (p : Polled) : Prop where
  whenUp : p.state.igwOperState = .up → p.state.upRetryCount = 0
  whenDown : p.state.igwOperState = .down → p.state.upRetryCount.toNat = upsSinceDown p.scripts
  few : p.state.upRetryCount.toNat < 3

theorem downDue_of_found {devports : List MonitorDevport} {pipe : BitVec 8} {poll : Poll}
    {state : OperState} {count : BitVec 32} (found : state = .up ↔ poll.FindsUp devports pipe) :
    downDue state count ↔ ¬ poll.FindsUp devports pipe ∧ maxDownCount ≤ count := by
  rw [← found, downDue]
  cases state with
  | down => simp
  | up => simp

theorem upsSinceDown_append_down (scripts : List IgwScript) :
    upsSinceDown (scripts ++ [.setIgwDown]) = 0 := by
  simp [upsSinceDown]

theorem upsSinceDown_append_up (scripts : List IgwScript) :
    upsSinceDown (scripts ++ [.setIgwUp]) = upsSinceDown scripts + 1 := by
  simp [upsSinceDown]

/-- The scripts of a poll with a group that is due end with one that takes the gateway down. -/
theorem downScripts_of_due {state0 state2 : OperState} {count0 count2 : BitVec 32}
    (due : downDue state0 count0 ∨ downDue state2 count2) :
    ∃ front, downScripts state0 count0 ++ downScripts state2 count2 = front ++ [.setIgwDown] := by
  unfold downScripts
  by_cases due2 : downDue state2 count2
  · exact ⟨_, by rw [if_pos due2]⟩
  · refine ⟨[], ?_⟩
    rw [if_pos (due.resolve_right due2), if_neg due2]
    rfl

theorem stateBehind_of_due {state0 state2 before : OperState} {count0 count2 : BitVec 32}
    (due : downDue state0 count0 ∨ downDue state2 count2) :
    stateBehind state2 count2 (stateBehind state0 count0 before) = .down := by
  unfold stateBehind
  grind

/-- A third attempt sets the state up, and one before it counts. -/
theorem fresh_setIgwUp {p : Polled} (fresh : Fresh p) (down : p.state.igwOperState = .down) :
    Fresh p.setIgwUp ∧
      (p.setIgwUp.state.igwOperState = .up → 3 ≤ upsSinceDown p.setIgwUp.scripts) := by
  have held := fresh.whenDown down
  have few := fresh.few
  have retries : (p.state.upRetryCount + 1).toNat = p.state.upRetryCount.toNat + 1 := by
    rw [BitVec.toNat_add]
    exact Nat.mod_eq_of_lt (by change p.state.upRetryCount.toNat + 1 < _; omega)
  have bound : p.state.upRetryCount + 1 ≥ 3 ↔ 3 ≤ p.state.upRetryCount.toNat + 1 := by
    rw [← retries]
    exact BitVec.le_def
  rw [setIgwUp_scripts, upsSinceDown_append_up]
  by_cases third : p.state.upRetryCount + 1 ≥ 3
  · have state : p.setIgwUp.state = { p.state with igwOperState := .up, upRetryCount := 0 } := by
      rw [Polled.setIgwUp, if_pos third]
    refine ⟨⟨fun _ => by rw [state], ?_, by simp [state]⟩, fun _ => ?_⟩
    · intro still
      simp [state] at still
    · have reached := bound.mp third
      omega
  · have state : p.setIgwUp.state = { p.state with upRetryCount := p.state.upRetryCount + 1 } := by
      rw [Polled.setIgwUp, if_neg third]
    have before := mt bound.mpr third
    refine ⟨⟨?_, fun _ => ?_, ?_⟩, ?_⟩
    · intro up
      rw [state] at up
      exact absurd (down.symm.trans up) (by decide)
    · rw [state, setIgwUp_scripts, upsSinceDown_append_up, ← held]
      exact retries
    · rw [state]
      change (p.state.upRetryCount + 1).toNat < 3
      omega
    · intro up
      rw [state] at up
      exact absurd (down.symm.trans up) (by decide)

/-- The attempt depends on the state only and adds its script behind the others. -/
theorem setIgwUp_behind (s : MonitorState) (scripts : List IgwScript) :
    (Polled.mk s scripts).setIgwUp = ⟨(Polled.mk s []).setIgwUp.state, scripts ++ [.setIgwUp]⟩ := by
  unfold Polled.setIgwUp
  dsimp only
  split <;> rfl

theorem poll_of_due {devports : List MonitorDevport} {poll : Poll} {p : Polled} {groups : PortGroupStates}
    (polled : igwMonitorAllDevportsOperState devports poll p.state =
      (Polled.mk (p.state.checked groups) (downScripts groups.pipe0 p.state.pipe0PortGroupDownCount ++
        downScripts groups.pipe2 p.state.pipe2PortGroupDownCount)).recover groups)
    (due : downDue groups.pipe0 p.state.pipe0PortGroupDownCount ∨
      downDue groups.pipe2 p.state.pipe2PortGroupDownCount) :
    (p.poll devports poll).state = p.state.checked groups ∧
      (p.state.checked groups).igwOperState = .down ∧ upsSinceDown (p.poll devports poll).scripts = 0 := by
  obtain ⟨front, scripts⟩ := downScripts_of_due due
  rw [recover_of_not (not_recovers_of_due due), scripts] at polled
  refine ⟨by rw [Polled.poll, polled], stateBehind_of_due due, ?_⟩
  rw [Polled.poll, polled]
  dsimp only
  rw [← List.append_assoc, upsSinceDown_append_down]

theorem poll_of_idle {devports : List MonitorDevport} {poll : Poll} {p : Polled} {groups : PortGroupStates}
    (polled : igwMonitorAllDevportsOperState devports poll p.state =
      (Polled.mk (p.state.checked groups) (downScripts groups.pipe0 p.state.pipe0PortGroupDownCount ++
        downScripts groups.pipe2 p.state.pipe2PortGroupDownCount)).recover groups)
    (idle : ¬ (downDue groups.pipe0 p.state.pipe0PortGroupDownCount ∨
      downDue groups.pipe2 p.state.pipe2PortGroupDownCount)) :
    (p.state.checked groups).igwOperState = p.state.igwOperState ∧
      (igwMonitorAllDevportsOperState devports poll p.state).scripts =
        ((Polled.mk (p.state.checked groups) []).recover groups).scripts ∧
      p.poll devports poll = (Polled.mk (p.state.checked groups) p.scripts).recover groups := by
  obtain ⟨idle0, idle2⟩ := not_or.mp idle
  have same : (p.state.checked groups).igwOperState = p.state.igwOperState := by
    simp only [MonitorState.checked, stateBehind, if_neg idle0, if_neg idle2]
  rw [downScripts, if_neg idle0, downScripts, if_neg idle2, List.append_nil] at polled
  refine ⟨same, by rw [polled], ?_⟩
  rw [Polled.poll, polled]
  by_cases recovers : (Polled.mk (p.state.checked groups) p.scripts).Recovers groups
  · rw [recover_of_recovers recovers, setIgwUp_behind _ p.scripts,
      recover_of_recovers (p := ⟨p.state.checked groups, []⟩) recovers, setIgwUp_scripts]
    rfl
  · rw [recover_of_not recovers, recover_of_not (p := ⟨p.state.checked groups, []⟩) recovers,
      List.append_nil]

/-- A poll that does not interrupt a recovery keeps the counter fresh. -/
theorem fresh_poll {devports : List MonitorDevport} {poll : Poll} {p : Polled} (fresh : Fresh p)
    (calm : poll.FindsExhausted devports p.state → p.state.upRetryCount = 0) :
    Fresh (p.poll devports poll) ∧
      (p.state.igwOperState = .down → (p.poll devports poll).state.igwOperState = .up →
        .setIgwUp ∈ (igwMonitorAllDevportsOperState devports poll p.state).scripts ∧
          3 ≤ upsSinceDown (p.poll devports poll).scripts) := by
  rcases poll_cases devports poll p.state with ⟨-, same⟩ | ⟨reads, groups, found0, found2, polled⟩
  · have still : p.poll devports poll = p := by rw [Polled.poll, same, List.append_nil]
    rw [still]
    exact ⟨fresh, fun down up => absurd (down.symm.trans up) (by decide)⟩
  · by_cases due : downDue groups.pipe0 p.state.pipe0PortGroupDownCount ∨
      downDue groups.pipe2 p.state.pipe2PortGroupDownCount
    · obtain ⟨state, down, none⟩ := poll_of_due polled due
      rw [downDue_of_found found0, downDue_of_found found2] at due
      have zero : (p.state.checked groups).upRetryCount = 0 := calm ⟨reads, due⟩
      refine ⟨⟨fun _ => by rw [state, zero], fun _ => by rw [state, zero, none]; rfl,
        by rw [state, zero]; decide⟩, fun _ up => ?_⟩
      rw [state, down] at up
      exact absurd up (by decide)
    · obtain ⟨same, scripts, behind⟩ := poll_of_idle polled due
      have kept : Fresh ⟨p.state.checked groups, p.scripts⟩ :=
        ⟨fun up => fresh.whenUp (same.symm.trans up), fun down => fresh.whenDown (same.symm.trans down),
          fresh.few⟩
      rw [behind, scripts]
      by_cases recovers : (Polled.mk (p.state.checked groups) p.scripts).Recovers groups
      · obtain ⟨counted, third⟩ := fresh_setIgwUp kept recovers.2.2
        rw [recover_of_recovers recovers, recover_of_recovers (p := ⟨p.state.checked groups, []⟩) recovers,
          setIgwUp_scripts]
        exact ⟨counted, fun _ up => ⟨List.mem_append_right _ (List.mem_singleton_self _), third up⟩⟩
      · rw [recover_of_not recovers]
        exact ⟨kept, fun down up => absurd ((same.trans down).symm.trans up) (by decide)⟩

theorem fresh_initial : Fresh ⟨.initial, []⟩ :=
  ⟨fun _ => rfl, fun down => absurd down (by decide), by decide⟩

/-- The counter stays fresh along the polls of a run that interrupts no recovery. -/
theorem fresh_run {devports : List MonitorDevport} {polls : List Poll}
    (calm : NeverInterrupted devports polls) (n : Nat) (inside : n ≤ polls.length) :
    Fresh (monitorPolls devports (polls.take n)) := by
  induction n with
  | zero => exact fresh_initial
  | succ n ih =>
      rw [← List.take_append_getElem (by omega), monitorPolls_append]
      exact (fresh_poll (ih (by omega)) (calm n (by omega))).1

/--
In a run in which no poll takes the gateway down between the attempts of a recovery, the state comes
back to `UP` only with the third attempt since the gateway was last taken down.
-/
theorem recoversFresh_of_neverInterrupted (devports : List MonitorDevport) (polls : List Poll)
    (calm : NeverInterrupted devports polls) : RecoversFresh devports polls := by
  intro n inside down up
  have step := fresh_poll (fresh_run calm n (by omega)) (calm n inside)
  rw [← monitorPolls_append, List.take_append_getElem inside] at step
  exact step.2 down up

/-- Two ports of the two pipes -/
def twoPorts : List MonitorDevport := [⟨0, 8⟩, ⟨2, 264⟩]

def allDown : Poll := fun _ => some .down

def allUp : Poll := fun _ => some .up

theorem recoversFresh_of_neverInterrupted_outage :
    RecoversFresh twoPorts (List.replicate 16 allDown ++ List.replicate 3 allUp) :=
  recoversFresh_of_neverInterrupted twoPorts _ (by decide)

/-- Two attempts are left over from a recovery that a second outage interrupts. -/
theorem not_recoversFresh_flapping : ¬ ∀ (devports : List MonitorDevport) (polls : List Poll),
    RecoversFresh devports polls := by
  intro all
  exact absurd (all twoPorts (List.replicate 16 allDown ++ List.replicate 2 allUp ++
    List.replicate 16 allDown ++ [allUp])) (by decide)

/-- All reads succeed and find their ports up. -/
def Poll.AllUp (devports : List MonitorDevport) (poll : Poll) : Prop :=
  ∀ port ∈ devports.zipIdx, poll port.2 = some .up

theorem succeeds_of_allUp {devports : List MonitorDevport} {poll : Poll} (up : poll.AllUp devports) :
    poll.Succeeds devports := by
  intro port member failed
  rw [up port member] at failed
  exact absurd failed (by decide)

/-- With all ports up a poll finds those groups up that have a port. -/
theorem findsUp_of_allUp {devports : List MonitorDevport} {poll : Poll} (up : poll.AllUp devports)
    (pipe : BitVec 8) : poll.FindsUp devports pipe ↔ ∃ mdp ∈ devports, mdp.pipe = pipe := by
  constructor
  · rintro ⟨port, member, same, -⟩
    exact ⟨port.1, List.fst_mem_of_mem_zipIdx member, same⟩
  · rintro ⟨mdp, member, same⟩
    obtain ⟨i, inside, rfl⟩ := List.getElem_of_mem member
    have indexed : (devports[i], i) ∈ devports.zipIdx := by
      rw [List.mk_mem_zipIdx_iff_getElem?]
      exact List.getElem?_eq_getElem inside
    exact ⟨_, indexed, same, up _ indexed⟩

/-- The scripts of a run are those of its polls. -/
theorem mem_monitorPolls {devports : List MonitorDevport} {polls : List Poll} {script : IgwScript} :
    script ∈ (monitorPolls devports polls).scripts ↔ ∃ (n : Nat) (inside : n < polls.length),
      script ∈ (igwMonitorAllDevportsOperState devports polls[n]
        (monitorState devports (polls.take n))).scripts := by
  have upTo (n : Nat) (inside : n ≤ polls.length) :
      script ∈ (monitorPolls devports (polls.take n)).scripts ↔ ∃ (m : Nat) (before : m < n),
        script ∈ (igwMonitorAllDevportsOperState devports polls[m]
          (monitorState devports (polls.take m))).scripts := by
    induction n with
    | zero => simp [monitorPolls]
    | succ n ih =>
        rw [← List.take_append_getElem (by omega), monitorPolls_append]
        change _ ∈ _ ++ _ ↔ _
        rw [List.mem_append, ih (by omega)]
        constructor
        · rintro (⟨m, before, ran⟩ | ran)
          · exact ⟨m, by omega, ran⟩
          · exact ⟨n, by omega, ran⟩
        · rintro ⟨m, before, ran⟩
          rcases Nat.lt_succ_iff_lt_or_eq.mp before with earlier | rfl
          · exact .inl ⟨m, earlier, ran⟩
          · exact .inr ran
  have whole := upTo polls.length le_rfl
  rw [List.take_length] at whole
  exact whole

/-- A run without any port of the pipe counts all of its polls. -/
theorem downPolls_of_absent {devports : List MonitorDevport} {polls : List Poll} {pipe : BitVec 8}
    (up : ∀ poll ∈ polls, poll.AllUp devports) (absent : ¬ ∃ mdp ∈ devports, mdp.pipe = pipe) :
    downPolls devports pipe polls = polls.length := by
  induction polls using List.reverseRecOn with
  | nil => rfl
  | append_singleton polls poll ih =>
      have last := up poll (by simp)
      rw [downPolls_of_down (succeeds_of_allUp last) (by rwa [findsUp_of_allUp last]),
        ih fun poll' member => up poll' (List.mem_append_left _ member), List.length_append]
      rfl

/-- A poll that finds both groups up does not take the gateway down, whatever the counters are. -/
theorem not_setIgwDown_of_found {devports : List MonitorDevport} {poll : Poll} (s : MonitorState)
    (found0 : poll.FindsUp devports 0) (found2 : poll.FindsUp devports 2) :
    .setIgwDown ∉ (igwMonitorAllDevportsOperState devports poll s).scripts := by
  intro down
  rcases poll_cases devports poll s with ⟨-, same⟩ | ⟨-, groups, up0, up2, polled⟩
  · rw [same] at down
    exact absurd down List.not_mem_nil
  · rw [setIgwDown_mem_iff polled, downDue_of_found up0, downDue_of_found up2] at down
    rcases down with ⟨absent, -⟩ | ⟨absent, -⟩
    · exact absent found0
    · exact absent found2

/-- With all ports up the gateway is taken down at the sixteenth poll, unless both groups have a port. -/
theorem no_setIgwDown_iff {devports : List MonitorDevport} {polls : List Poll}
    (up : ∀ poll ∈ polls, poll.AllUp devports) :
    .setIgwDown ∉ (monitorPolls devports polls).scripts ↔
      polls.length < 16 ∨ ((∃ mdp ∈ devports, mdp.pipe = 0) ∧ ∃ mdp ∈ devports, mdp.pipe = 2) := by
  rw [mem_monitorPolls]
  constructor
  · intro quiet
    by_contra other
    obtain ⟨long, missing⟩ := not_or.mp other
    have inside : 15 < polls.length := by omega
    refine quiet ⟨15, inside, (setIgwDown_mem_poll devports _ _ ?_).mpr
      ⟨succeeds_of_allUp (up _ (List.getElem_mem inside)), ?_⟩⟩
    · rw [List.length_take]
      omega
    · rw [List.take_append_getElem inside]
      have first : ∀ poll ∈ polls.take 16, poll.AllUp devports := fun poll member =>
        up poll (List.mem_of_mem_take member)
      have length : (polls.take 16).length = 16 := by
        rw [List.length_take]
        omega
      rcases not_and_or.mp missing with absent | absent
      · exact .inl (by rw [downPolls_of_absent first absent, length])
      · exact .inr (by rw [downPolls_of_absent first absent, length])
  · rintro (short | ⟨port0, port2⟩) ⟨n, inside, down⟩
    · rw [setIgwDown_mem_poll devports _ _ (by rw [List.length_take]; omega)] at down
      have least (pipe : BitVec 8) := downPolls_le devports pipe (polls.take n ++ [polls[n]])
      rw [List.take_append_getElem inside, List.length_take] at least
      have least0 := least 0
      have least2 := least 2
      rw [List.take_append_getElem inside] at down
      omega
    · have last := up _ (List.getElem_mem inside)
      exact not_setIgwDown_of_found _ ((findsUp_of_allUp last 0).mpr port0)
        ((findsUp_of_allUp last 2).mpr port2) down

/-- The conversion to a byte does not merge two pipes. -/
theorem devPortToPipe_iff (pipe : BitVec 9) (small : pipe.toNat < 4) (devPort : BitVec 9) :
    (devPortToPipe devPort).setWidth 8 = pipe.setWidth 8 ↔ devPortToPipe devPort = pipe := by
  constructor
  · intro same
    have bound := devPort.isLt
    have values := congrArg BitVec.toNat same
    simp only [devPortToPipe, BitVec.toNat_setWidth, BitVec.toNat_ushiftRight, Nat.shiftRight_eq_div_pow]
      at values
    apply BitVec.eq_of_toNat_eq
    rw [devPortToPipe, BitVec.toNat_ushiftRight, Nat.shiftRight_eq_div_pow]
    omega
  · intro same
    rw [same]

theorem exists_monitored_iff (hostifs : List Hostif) (pipe : BitVec 9) (small : pipe.toNat < 4) :
    (∃ mdp ∈ monitorDevportsInit hostifs, mdp.pipe = pipe.setWidth 8) ↔
      ∃ hostif ∈ hostifs, devPortToPipe hostif.devPort = pipe := by
  constructor
  · rintro ⟨mdp, member, same⟩
    obtain ⟨hostif, listed, rfl⟩ := List.mem_map.mp member
    exact ⟨hostif, listed, (devPortToPipe_iff pipe small _).mp same⟩
  · rintro ⟨hostif, listed, same⟩
    exact ⟨_, List.mem_map.mpr ⟨hostif, listed, rfl⟩, (devPortToPipe_iff pipe small _).mpr same⟩

/--
With all ports up in every poll the gateway is never taken down exactly when both pipes have a port,
or when the run has fewer than sixteen polls.
-/
theorem noFalseAlarm_iff (hostifs : List Hostif) (polls : List Poll)
    (up : ∀ poll ∈ polls, poll.AllUp (monitorDevportsInit hostifs)) :
    .setIgwDown ∉ (monitorPolls (monitorDevportsInit hostifs) polls).scripts ↔
      polls.length < 16 ∨ ((∃ hostif ∈ hostifs, devPortToPipe hostif.devPort = 0) ∧
        ∃ hostif ∈ hostifs, devPortToPipe hostif.devPort = 2) := by
  have pipe0 := exists_monitored_iff hostifs 0 (by decide)
  have pipe2 := exists_monitored_iff hostifs 2 (by decide)
  rw [no_setIgwDown_iff up, ← pipe0, ← pipe2]
  rfl

theorem allUp_replicate (devports : List MonitorDevport) (count : Nat) :
    ∀ poll ∈ List.replicate count allUp, poll.AllUp devports := by
  intro poll member
  rw [List.eq_of_mem_replicate member]
  exact fun _ _ => rfl

/-- An interface on the port `8` of the pipe 0 -/
def onePipeHostif : Hostif := ⟨8, 0, 0, false, 0, 0, 0, 0⟩

theorem noFalseAlarm_iff_onePipe : .setIgwDown ∉
    (monitorPolls (monitorDevportsInit [onePipeHostif]) (List.replicate 15 allUp)).scripts :=
  (noFalseAlarm_iff [onePipeHostif] _ (allUp_replicate _ 15)).mpr (.inl (by decide))

/-- The gateway table accepts an interface in one pipe, and the gateway is taken down in the end. -/
theorem falseAlarm_onePipe : ¬ ∀ (hostifs : List Hostif) (polls : List Poll), hostifs ≠ [] →
    (Netlink.hostifArrayToGateways hostifs).isSome →
    (∀ poll ∈ polls, poll.AllUp (monitorDevportsInit hostifs)) →
    .setIgwDown ∉ (monitorPolls (monitorDevportsInit hostifs) polls).scripts := by
  intro all
  exact absurd (all [onePipeHostif] (List.replicate 16 allUp) (by decide) (by decide)
    (allUp_replicate _ 16)) (by decide)

end IgwP4.Setup
