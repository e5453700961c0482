/-
This file gives the calls of the driver that write an entry of the table of MAC addresses.
-/

import IgwP4.Construction.Netlink.NeighMessage

namespace IgwP4.Setup
open Netlink (Byte Memory Mac)

/-- The host stores the lowest byte of a `uint64_t` first. -/
def load64 (memory : Memory) (offset : Nat) : BitVec 64 := memory.load32 (offset + 4) ++ memory.load32 offset

/-- A field of the action `rewrite_tunnel_mac` -/
inductive MacField where
  | srcMac
  | dstMac
deriving DecidableEq

/-- The offset of the field in `macWrite_actionData` -/
def MacField.offset : MacField → Nat
  | .srcMac => 0
  | .dstMac => 8

/-- A call of the driver on the table, its key and its data -/
inductive DriverCall where
  | keyReset
  | dataReset
  | actionDataReset
  | keyFieldSetValue (egressPort : BitVec 16)
  | dataFieldSetValue (field : MacField) (value : BitVec 64)
  | entryGet
  | entryAdd
  | entryMod
  | sessionCompleteOperations
deriving DecidableEq

/-- Whether a call succeeds after those before it -/
abbrev Driver := List DriverCall → DriverCall → Bool

/-- Whether a function succeeds, and the calls up to its end -/
abbrev Driven := Bool × List DriverCall

def Driver.call (driver : Driver) (calls : List DriverCall) (call : DriverCall) : Driven :=
  (driver calls call, calls ++ [call])

/-- The next step is taken only after success. -/
def Driven.andThen (driven : Driven) (next : List DriverCall → Driven) : Driven :=
  if driven.1 then next driven.2 else driven

def macRewriteKeySetup (driver : Driver) (egressPort : BitVec 16) (calls : List DriverCall) : Driven :=
  driver.call calls (.keyFieldSetValue egressPort)

/-- `macRewrite_data_setup` -/
def macRewriteDataSetup (driver : Driver) (data : Memory) (calls : List DriverCall) : Driven :=
  (driver.call calls (.dataFieldSetValue .srcMac (load64 data MacField.srcMac.offset))).andThen fun calls =>
    driver.call calls (.dataFieldSetValue .dstMac (load64 data MacField.dstMac.offset))

/-- `macRewrite_entry_find` -/
def macRewriteEntryFind (driver : Driver) (egressPort : BitVec 16) (calls : List DriverCall) : Driven :=
  (macRewriteKeySetup driver egressPort (calls ++ [.keyReset, .dataReset])).andThen fun calls =>
    driver.call calls .entryGet

/-- `macRewrite_entry_add` -/
def macRewriteEntryAdd (driver : Driver) (egressPort : BitVec 16) (data : Memory) (add : Bool)
    (calls : List DriverCall) : Driven :=
  (macRewriteKeySetup driver egressPort (calls ++ [.keyReset, .actionDataReset])).andThen fun calls =>
    (macRewriteDataSetup driver data calls).andThen fun calls =>
      (driver.call calls (if add then .entryAdd else .entryMod)).andThen fun calls =>
        (true, calls ++ [.sessionCompleteOperations])

/-- `reverse_mac` writes the six bytes of `rmac`. -/
def reverseMac (mac : Mac) : List Byte := [mac 5, mac 4, mac 3, mac 2, mac 1, mac 0]

/-- `macRewrite_data` behind the two copies, which leave what stood in the other bytes before -/
def macRewriteData (smac dmac : Mac) (data : Memory) : Memory :=
  (data.write MacField.srcMac.offset (reverseMac smac)).write MacField.dstMac.offset (reverseMac dmac)

/-- `mac_rewrite_table_entry_add`, where a missing address stands for a null pointer -/
def macRewriteTableEntryAdd (driver : Driver) (egressPort : BitVec 16) (smac dmac : Option Mac) (data : Memory) :
    Driven :=
  match smac, dmac with
  | some smac, some dmac =>
      let find := macRewriteEntryFind driver egressPort []
      macRewriteEntryAdd driver egressPort (macRewriteData smac dmac data) (!find.1) find.2
  | _, _ => (false, [])

end IgwP4.Setup
