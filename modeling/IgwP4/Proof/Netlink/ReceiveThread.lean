/-
This file shows that the receiving thread handles every message of its datagrams once and in their order.
-/

import IgwP4.Construction.Netlink.ReceiveThread
import IgwP4.Proof.Netlink.ControlPlane

namespace IgwP4.Netlink
open Setup Structures

/-! The messages of a datagram -/

/-- The loop ends and passes these headers. -/
def Passes (buf : Memory) (s : LoopState) (hdrs : List Nat) : Prop :=
  ∃ fuel, processNetlinkLoop buf fuel s = some hdrs

theorem passes_of_more {buf : Memory} {s : LoopState} (more : s.more) {hdrs : List Nat}
    (later : Passes buf (s.next buf) hdrs) : Passes buf s (s.hdr :: hdrs) := by
  obtain ⟨fuel, ended⟩ := later
  refine ⟨fuel + 1, ?_⟩
  rw [processNetlinkLoop, if_pos more, ended]
  rfl

theorem passes_of_end {buf : Memory} {s : LoopState} (ended : ¬ s.more) : Passes buf s [] := by
  refine ⟨1, ?_⟩
  rw [processNetlinkLoop, if_neg ended]

/-- The loop goes from the first to the last of two states and passes these headers between them. -/
inductive Handles (buf : Memory) (s : LoopState) : List Nat → LoopState → Prop
  | start : Handles buf s [] s
  | next {hdrs : List Nat} {s' : LoopState} (before : Handles buf s hdrs s') (more : s'.more) :
      Handles buf s (hdrs ++ [s'.hdr]) (s'.next buf)

/-- A loop that ends passes the headers behind a state after those before it. -/
theorem Handles.passes {buf : Memory} {s s' : LoopState} {hdrs later : List Nat} (handles : Handles buf s hdrs s')
    (behind : Passes buf s' later) : Passes buf s (hdrs ++ later) := by
  induction handles generalizing later with
  | start => exact behind
  | next _ more ih =>
      rw [List.append_assoc]
      exact ih (passes_of_more more behind)

/-! The history of the thread, the newest first -/

/-- The datagrams that passed the checks -/
def datagrams : List ThreadEvent → List (Memory × Nat)
  | [] => []
  | .receive r :: past =>
      match r.outcome with
      | .datagram count => (r.buf, count) :: datagrams past
      | _ => datagrams past
  | _ :: past => datagrams past

/-- The messages that came to their handlers -/
def messagesOf : List ControlEvent → List (Memory × Nat)
  | [] => []
  | .message m :: events => (m.memory, m.nlmsg) :: messagesOf events
  | _ :: events => messagesOf events

/-- What another thread or program changes in a step -/
def ThreadEvent.change : ThreadEvent → Option ControlEvent
  | .portChange devPort up done => some (.portChange devPort up done)
  | .adminChange intfName up => some (.adminChange intfName up)
  | _ => none

/-- Each change comes at its step, and each message at a step of the loop with what its handler finds there. -/
inductive Brings : List ThreadEvent → List ControlEvent → Prop
  | start : Brings [] []
  | nothing {past : List ThreadEvent} {events : List ControlEvent} {event : ThreadEvent} (before : Brings past events)
      (changes : event.change = none) : Brings (event :: past) events
  | change {past : List ThreadEvent} {events : List ControlEvent} {event : ThreadEvent} {change : ControlEvent}
      (before : Brings past events) (changes : event.change = some change) : Brings (event :: past) (change :: events)
  | message {past : List ThreadEvent} {events : List ControlEvent} (before : Brings past events)
      (surroundings : HandlerSurroundings) (buf : Memory) (hdr : Nat) :
      Brings (.nextMessage surroundings :: past) (.message ⟨buf, hdr, surroundings.v4addr, surroundings.i,
        surroundings.accepts, surroundings.hardware⟩ :: events)

/-- The messages at these headers behind earlier ones, the last one first -/
def behind (buf : Memory) (hdrs : List Nat) (earlier : List (Memory × Nat)) : List (Memory × Nat) :=
  (hdrs.map fun hdr => (buf, hdr)).reverse ++ earlier

theorem behind_next (buf : Memory) (hdrs : List Nat) (hdr : Nat) (earlier : List (Memory × Nat)) :
    behind buf (hdrs ++ [hdr]) earlier = (buf, hdr) :: behind buf hdrs earlier := by
  rw [behind, List.map_append, List.reverse_append]
  rfl

/-- The loops over the datagrams have ended and have passed these messages. -/
inductive Carry : List (Memory × Nat) → List (Memory × Nat) → Prop
  | nil : Carry [] []
  | cons {buf : Memory} {count : Nat} {hdrs : List Nat} {rest earlier : List (Memory × Nat)}
      (before : Carry rest earlier) (passes : Passes buf (received count) hdrs) :
      Carry ((buf, count) :: rest) (behind buf hdrs earlier)

/-- The datagrams carry these messages, the newest one as far as the thread has come in it. -/
def ReceiveThread.Carries (thread : ReceiveThread) (datagrams messages : List (Memory × Nat)) : Prop :=
  match thread.messages with
  | none => Carry datagrams messages
  | some (buf, s) => ∃ count rest hdrs earlier, datagrams = (buf, count) :: rest ∧ Carry rest earlier ∧
      Handles buf (Netlink.received count) hdrs s ∧ messages = behind buf hdrs earlier

/-- The thread has brought these events to the control plane. -/
structure Hears (past : List ThreadEvent) (thread : ReceiveThread) (events : List ControlEvent) : Prop where
  carried : thread.Carries (datagrams past) (messagesOf events)
  brings : Brings past events

namespace Hears

variable {past : List ThreadEvent} {thread thread' : ReceiveThread} {events : List ControlEvent}

theorem initial : Hears [] .initial [] :=
  ⟨.nil, .start⟩

/-- A thread without a datagram has passed all messages. -/
theorem idle (hears : Hears past thread events) (outside : thread.messages.isNone = true) :
    Carry (datagrams past) (messagesOf events) := by
  have carried := hears.carried
  rw [ReceiveThread.Carries, Option.isNone_iff_eq_none.mp outside] at carried
  exact carried

theorem received (hears : Hears past thread events) (outside : thread.messages.isNone = true) (r : Reception) :
    Hears (.receive r :: past) (thread.received r) events := by
  refine ⟨?_, .nothing hears.brings rfl⟩
  rw [datagrams, ReceiveThread.received]
  cases r.outcome with
  | ignored => exact hears.carried
  | abort => exact hears.carried
  | datagram count => exact ⟨count, datagrams past, [], messagesOf events, rfl, hears.idle outside, .start, rfl⟩

/-- The loop hands over the message at its header, or it has passed all of them. -/
theorem nextMessage (hears : Hears past thread events) {buf : Memory} {s : LoopState}
    (inside : thread.messages = some (buf, s)) (surroundings : HandlerSurroundings) :
    Hears (.nextMessage surroundings :: past) (thread.nextMessage surroundings buf s).1
      ((thread.nextMessage surroundings buf s).2.toList ++ events) := by
  have carried := hears.carried
  rw [ReceiveThread.Carries, inside] at carried
  obtain ⟨count, rest, hdrs, earlier, newest, before, handles, same⟩ := carried
  unfold ReceiveThread.nextMessage
  split
  · rename_i more
    refine ⟨⟨count, rest, hdrs ++ [s.hdr], earlier, newest, before, handles.next more, ?_⟩,
      .message hears.brings surroundings buf s.hdr⟩
    rw [behind_next, ← same]
    rfl
  · rename_i ended
    refine ⟨?_, .nothing hears.brings rfl⟩
    change Carry (datagrams past) (messagesOf events)
    have passes := handles.passes (passes_of_end ended)
    rw [List.append_nil] at passes
    rw [newest, same]
    exact .cons before passes

/-- One step brings at most one event, and loses none. -/
theorem step (hears : Hears past thread events) {event : ThreadEvent} {brought : Option ControlEvent}
    (stepped : thread.step event = some (thread', brought)) :
    Hears (event :: past) thread' (brought.toList ++ events) := by
  cases event with
  | switchlinkSockInit opened =>
      obtain ⟨enabled, same⟩ := Option.ite_none_right_eq_some.mp stepped
      obtain ⟨rfl, rfl⟩ := Prod.mk.inj (Option.some.inj same)
      exact ⟨hears.carried, .nothing hears.brings rfl⟩
  | receive r =>
      obtain ⟨enabled, same⟩ := Option.ite_none_right_eq_some.mp stepped
      obtain ⟨rfl, rfl⟩ := Prod.mk.inj (Option.some.inj same)
      exact hears.received enabled.2 r
  | nextMessage surroundings =>
      obtain ⟨⟨buf, s⟩, inside, same⟩ := Option.map_eq_some_iff.mp stepped
      have next := hears.nextMessage inside surroundings
      rw [same] at next
      exact next
  | portChange devPort up done =>
      obtain ⟨rfl, rfl⟩ := Prod.mk.inj (Option.some.inj stepped)
      exact ⟨hears.carried, .change hears.brings rfl⟩
  | adminChange intfName up =>
      obtain ⟨rfl, rfl⟩ := Prod.mk.inj (Option.some.inj stepped)
      exact ⟨hears.carried, .change hears.brings rfl⟩

end Hears

/-! The state of the gateway -/

section Machine

variable {kernel : Kernel} {hostifs : List SwitchHostif} {tables : ControlTables} {start : ControlState} {fuel : Nat}

/-- The thread and the machine of the events take the same steps. -/
theorem threadStep_refines {past : List ThreadEvent} {s : ReceiveThread × ControlState}
    (reached : Reaches (threadStep kernel tables fuel) (.initial, start) past s) :
    ∃ events, Hears past s.1 events ∧ Reaches (controlStep kernel tables fuel) start events s.2 := by
  refine reached.invariant (P := fun past s => ∃ events, Hears past s.1 events ∧
    Reaches (controlStep kernel tables fuel) start events s.2) ⟨[], .initial, .start⟩ ?_
  rintro past ⟨thread, state⟩ event s' ⟨events, hears, reaches⟩ stepped
  obtain ⟨⟨thread', brought⟩, moved, same⟩ := Option.bind_eq_some_iff.mp stepped
  cases brought with
  | none =>
      obtain rfl := Option.some.inj same
      exact ⟨events, hears.step moved, reaches⟩
  | some change =>
      obtain ⟨state', handled, rfl⟩ := Option.map_eq_some_iff.mp same
      exact ⟨change :: events, hears.step moved, reaches.step handled⟩

/--
In every interleaving of the receptions, the handlers and the changes to the interfaces, the messages of each
datagram that passes the checks come to their handlers once and in their order, and the state is what these
messages and changes say.
-/
theorem Starts.hears (starts : Starts kernel hostifs tables start) {past : List ThreadEvent} {thread : ReceiveThread}
    {state : ControlState} (reached : Reaches (threadStep kernel tables fuel) (.initial, start) past (thread, state)) :
    ∃ events, Follows kernel hostifs fuel events state ∧ Brings past events ∧
      thread.Carries (datagrams past) (messagesOf events) := by
  obtain ⟨events, hears, reaches⟩ := threadStep_refines reached
  refine ⟨events, ?_, hears.brings, hears.carried⟩
  exact reaches.invariant starts.built.2.2 fun _ _ _ _ follows stepped => starts.step follows stepped

end Machine

/-! A datagram of two messages between which a port goes down -/

/-- The address of a gateway, and then a default route over it -/
def pairBuffer : Memory :=
  Memory.ofList ((List.range 48).map sampleNeigh.memory ++ (List.range 36).map sampleRouteMemory)

def pairReception : Reception := ⟨1, false, true, 84, sockaddrNlSize, false, pairBuffer⟩

def pairSurroundings : HandlerSurroundings := ⟨fun _ => 0, 0, fun _ => true, ⟨true, true⟩⟩

/-- The socket opens at the second attempt, the newest step first. -/
def pairThreadPast : List ThreadEvent := [
  .nextMessage pairSurroundings,
  .nextMessage pairSurroundings,
  .portChange 0 false true,
  .nextMessage pairSurroundings,
  .receive pairReception,
  .receive { pairReception with msgTrunc := true },
  .switchlinkSockInit true,
  .switchlinkSockInit false]

/-- Both messages of the datagram come to their handlers, with the change between them. -/
theorem hears_pair : ∃ tables start thread state, startControl pairKernel pairHostifs = some (tables, start) ∧
    Reaches (threadStep pairKernel tables 0) (.initial, start) pairThreadPast (thread, state) ∧
    ∃ events, Follows pairKernel pairHostifs 0 events state ∧ Brings pairThreadPast events ∧
      Carry [(pairBuffer, 84)] (messagesOf events) := by
  obtain ⟨tables, start, started⟩ : ∃ tables start, startControl pairKernel pairHostifs = some (tables, start) :=
    ⟨_, _, rfl⟩
  have ends : ((startControl pairKernel pairHostifs).bind fun begun => pairThreadPast.foldr
      (fun event before => before.bind (threadStep pairKernel begun.1 0 · event))
        (some (.initial, begun.2))).map (fun s => s.1.messages.isNone) = some true := by
    decide +kernel
  rw [started] at ends
  obtain ⟨⟨thread, state⟩, computed, outside⟩ := Option.map_eq_some_iff.mp ends
  have reached := Reaches.iff_foldr.mpr computed
  obtain ⟨events, follows, brings, carried⟩ := (pair_starts started).hears reached
  rw [ReceiveThread.Carries, Option.isNone_iff_eq_none.mp outside] at carried
  exact ⟨tables, start, thread, state, started, reached, events, follows, brings, carried⟩

end IgwP4.Netlink
