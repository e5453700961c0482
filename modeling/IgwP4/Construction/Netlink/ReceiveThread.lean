/-
This file gives the thread that receives the datagrams, beside the threads that change the interfaces.
-/

import IgwP4.Construction.Netlink.ControlPlane
import IgwP4.Construction.Netlink.MessageLoop

namespace IgwP4.Netlink
open Setup

/-! One round of the loop over the datagrams -/

/-- `sizeof(struct sockaddr_nl)` -/
abbrev sockaddrNlSize : BitVec 32 := 12

/-- What the kernel answers to `poll` and to `recvmsg`, with the buffer behind them -/
structure Reception where
  res : Int
  errnoEintr : Bool
  pollin : Bool
  status : Int
  msgNamelen : BitVec 32
  msgTrunc : Bool
  buf : Memory

/-- A round ignores what it has received, ends the loop, or goes through the messages of so many bytes. -/
inductive Outcome where
  | ignored
  | abort
  | datagram (count : Nat)
deriving DecidableEq

/-- The checks of `process_netlink_loop` before the messages, in their order -/
def Reception.outcome (r : Reception) : Outcome :=
  if r.res < 0 ∧ r.errnoEintr = false then .ignored
  else if r.pollin = false then .ignored
  else if r.status < 0 then .ignored
  else if r.status = 0 then .abort
  else if r.msgNamelen ≠ sockaddrNlSize then .ignored
  else if bufSize < r.status.toNat ∨ r.msgTrunc = true then .ignored
  else .datagram r.status.toNat

/-! The thread -/

/-- What the handler of a message finds in its uninitialised variables and at the driver -/
structure HandlerSurroundings where
  v4addr : Nat → Byte
  i : BitVec 32
  accepts : SelectorGroup → Bool
  hardware : HardwareAnswers

/-- The thread has a socket or none, and it may stand inside the messages of its buffer. -/
structure ReceiveThread where
  opened : Bool
  messages : Option (Memory × LoopState)

/-- The thread starts without a socket. -/
def ReceiveThread.initial : ReceiveThread := ⟨false, none⟩

/-- A step of the thread, or a change to an interface by another thread or program -/
inductive ThreadEvent where
  | switchlinkSockInit (opened : Bool)
  | receive (r : Reception)
  | nextMessage (surroundings : HandlerSurroundings)
  | portChange (devPort : BitVec 32) (up done : Bool)
  | adminChange (intfName : List Byte) (up : Bool)

namespace ReceiveThread

/-- A reception behind its checks, where the end of the loop closes the socket -/
def received (thread : ReceiveThread) (r : Reception) : ReceiveThread :=
  match r.outcome with
  | .ignored => thread
  | .abort => { thread with opened := false }
  | .datagram count => { thread with messages := some (r.buf, Netlink.received count) }

/-- The loop passes the next message to its handler, or it ends. -/
def nextMessage (thread : ReceiveThread) (surroundings : HandlerSurroundings) (buf : Memory) (s : LoopState) :
    ReceiveThread × Option ControlEvent :=
  if s.more then
    ({ thread with messages := some (buf, s.next buf) },
      some (.message ⟨buf, s.hdr, surroundings.v4addr, surroundings.i, surroundings.accepts, surroundings.hardware⟩))
  else ({ thread with messages := none }, none)

/-- What a step leaves of the thread and what it brings to the control plane, or nothing where it cannot come -/
def step (thread : ReceiveThread) : ThreadEvent → Option (ReceiveThread × Option ControlEvent)
  | .switchlinkSockInit opened =>
      if thread.opened = false ∧ thread.messages.isNone = true then some ({ thread with opened }, none) else none
  | .receive r =>
      if thread.opened = true ∧ thread.messages.isNone = true then some (thread.received r, none) else none
  | .nextMessage surroundings =>
      thread.messages.map fun inside => thread.nextMessage surroundings inside.1 inside.2
  | .portChange devPort up done => some (thread, some (.portChange devPort up done))
  | .adminChange intfName up => some (thread, some (.adminChange intfName up))

end ReceiveThread

/-- One step of the thread together with the state that its messages change -/
def threadStep (kernel : Kernel) (tables : ControlTables) (fuel : Nat) (s : ReceiveThread × ControlState)
    (event : ThreadEvent) : Option (ReceiveThread × ControlState) := do
  let (thread, brought) ← s.1.step event
  match brought with
  | none => some (thread, s.2)
  | some event => (controlStep kernel tables fuel s.2 event).map fun state => (thread, state)

end IgwP4.Netlink
