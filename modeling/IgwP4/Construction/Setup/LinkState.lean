/-
This file gives the table of the host interfaces and what a change of a port does to its interface.
-/

import IgwP4.Construction.Netlink.NeighMessage
import IgwP4.Construction.Structures.BucketTable

namespace IgwP4.Setup
open Structures
open Netlink (Byte Mac Interface)

/-- `switch_hostif_t`, as far as the tables of the ports, the routes and the neighbours read it -/
structure SwitchHostif extends Hostif where
  intfName : List Byte
  mac : Mac
  fpPort : BitVec 32

namespace SwitchHostif

def interface (hostif : SwitchHostif) : Interface :=
  ⟨hostif.intfName, hostif.mac, hostif.gwIp, hostif.devPort⟩

/-- The callback and the table hold a device port in a whole word. -/
def port (hostif : SwitchHostif) : BitVec 32 := hostif.devPort.setWidth 32

end SwitchHostif

/-- `hostif_entry_t` -/
structure HostifEntry where
  intfName : List Byte
  devPort : BitVec 32
  fpPort : BitVec 32
deriving DecidableEq

/-- `dev_port & HOSTIF_HASH_TBL_MASK` -/
def hostifEntryKey (devPort : BitVec 32) : BitVec 32 := devPort &&& 63

abbrev HostifTable := BucketTable (BitVec 32) HostifEntry

/-- `hostif_array_to_hash_table` -/
def hostifArrayToHashTable (hostifs : List SwitchHostif) : HostifTable :=
  BucketTable.ofList hostifEntryKey HostifEntry.devPort
    (hostifs.map fun hostif => ⟨hostif.intfName, hostif.port, hostif.fpPort⟩)

/-- `hostif_entry_get` -/
def hostifEntryGet (table : HostifTable) (devPort : BitVec 32) : Option HostifEntry :=
  BucketTable.get hostifEntryKey HostifEntry.devPort table devPort

/-- The flag `IFF_UP` of every interface of the kernel -/
abbrev LinkFlags := List Byte → Bool

/-- `set_hostif_admin_state`, whose socket or request the kernel may refuse -/
def setHostifAdminState (done : Bool) (intfName : List Byte) (state : Bool) (flags : LinkFlags) : LinkFlags :=
  if done then Function.update flags intfName state else flags

/-- `switch_port_state_change` tells the kernel about the interface of the port, if it has one. -/
def switchPortStateChange (table : HostifTable) (done : Bool) (devPort : BitVec 32) (up : Bool) (flags : LinkFlags) :
    LinkFlags :=
  match hostifEntryGet table devPort with
  | none => flags
  | some entry => setHostifAdminState done entry.intfName up flags

/-- `create_hostif` starts every interface in the state up. -/
def createHostif (hostifs : List SwitchHostif) (flags : LinkFlags) : LinkFlags :=
  hostifs.foldl (fun flags hostif => setHostifAdminState true hostif.intfName true flags) flags

end IgwP4.Setup
