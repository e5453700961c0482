/-
This file joins the handlers of the port changes and of the netlink messages to one machine.
-/

import IgwP4.Construction.Netlink.NexthopLoop
import IgwP4.Construction.Setup.LinkState

namespace IgwP4.Netlink
open Setup

/-- What the kernel answers about its interfaces, and their flags before the start -/
structure Kernel where
  ifNametoindex : List Byte → BitVec 32
  ifIndextoname : BitVec 32 → Option (List Byte)
  flags : LinkFlags

/-- The tables that the start builds and nothing changes -/
structure ControlTables where
  hostifs : HostifTable
  gateways : GatewayTable

/-- The flags of the kernel, the members of the groups and the neighbours -/
structure ControlState where
  flags : LinkFlags
  routes : RouteState
  neigh : NeighState

/-- `hostif_array_to_hash_table`, `hostif_array_to_gateways` and `hostif_array_to_mac_entry_table` from one array -/
def startControl (kernel : Kernel) (hostifs : List SwitchHostif) : Option (ControlTables × ControlState) := do
  let gateways ← hostifArrayToGateways (hostifs.map SwitchHostif.toHostif)
  let table ← hostifArrayToMacEntryTable kernel.ifNametoindex (hostifs.map SwitchHostif.interface)
  some (⟨hostifArrayToHashTable hostifs, gateways⟩,
    ⟨createHostif hostifs kernel.flags, .initial, ⟨table, fun _ => none⟩⟩)

/-- A message in the receive buffer, with what its handler finds in its uninitialised variables and at the driver -/
structure Datagram where
  memory : Memory
  nlmsg : Nat
  v4addr : Nat → Byte
  i : BitVec 32
  accepts : SelectorGroup → Bool
  hardware : HardwareAnswers

/-- An event is a port change, a change that another program makes to an interface, or a message. -/
inductive ControlEvent where
  | portChange (devPort : BitVec 32) (up done : Bool)
  | adminChange (intfName : List Byte) (up : Bool)
  | message (m : Datagram)

/-- `get_intf_up` asks for the name of the interface and then for its flag. -/
def getIntfUp (kernel : Kernel) (flags : LinkFlags) (ifindex : BitVec 32) : Bool :=
  match kernel.ifIndextoname ifindex with
  | none => false
  | some intfName => flags intfName

/-- `process_netlink_message`, or nothing when a walk over next hops has not ended after so many rounds -/
def handleMessage (kernel : Kernel) (tables : ControlTables) (fuel : Nat) (m : Datagram) (s : ControlState) :
    Option ControlState :=
  let type := nlmsgType m.memory m.nlmsg
  if type = rtmNewNeigh ∨ type = rtmDelNeigh then
    some { s with neigh := (processNeighMsg m.hardware m.memory m.v4addr m.nlmsg type s.neigh).state }
  else if type = rtmNewRoute ∨ type = rtmDelRoute then
    (processRouteMsgFrom ⟨getIntfUp kernel s.flags, m.accepts⟩ tables.gateways fuel m.memory m.nlmsg type m.i
      s.routes).map fun run => { s with routes := run.state }
  else some s

/-- One step of the machine -/
def controlStep (kernel : Kernel) (tables : ControlTables) (fuel : Nat) (s : ControlState) :
    ControlEvent → Option ControlState
  | .portChange devPort up done =>
      some { s with flags := switchPortStateChange tables.hostifs done devPort up s.flags }
  | .adminChange intfName up => some { s with flags := Function.update s.flags intfName up }
  | .message m => handleMessage kernel tables fuel m s

end IgwP4.Netlink
