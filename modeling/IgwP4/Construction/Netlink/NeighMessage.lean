/-
This file gives the neighbour cache, the table of MAC addresses and `process_neigh_msg`.
-/

import Mathlib.Data.Fintype.Pi
import IgwP4.Construction.Netlink.RouteMessage

namespace IgwP4.Netlink

/-- The six octets of a MAC address, in the order of the wire -/
abbrev Mac := Fin 6 → Byte

/-! The neighbour cache -/

/-- `mac_rewrite_entry_t`, without its name and its unread address -/
structure MacRewriteEntry where
  ifindex : BitVec 32
  smac : Mac
  dmac : Mac
  gwIp : BitVec 32
  devPort : BitVec 9
  valid : Bool
deriving DecidableEq

/-- `ifindex & MAC_ENTRY_HASH_TBL_MASK` -/
def macEntryKey (ifindex : BitVec 32) : BitVec 32 := ifindex &&& 63

/-- The entries of all buckets, where a bucket has its newest entry first -/
abbrev MacEntryTable := List MacRewriteEntry

/-- `mac_entry_get` searches the bucket of the index. -/
def macEntryGet (table : MacEntryTable) (ifindex : BitVec 32) : Option MacRewriteEntry :=
  (table.filter fun entry => macEntryKey entry.ifindex == macEntryKey ifindex).find? fun entry =>
    entry.ifindex == ifindex

/-- A store through the pointer that `mac_entry_get` has returned -/
def updateMacEntry (change : MacRewriteEntry → MacRewriteEntry) (ifindex : BitVec 32) :
    MacEntryTable → MacEntryTable
  | [] => []
  | entry :: rest =>
      if entry.ifindex = ifindex then change entry :: rest
      else entry :: updateMacEntry change ifindex rest

/-- What the neighbour cache needs of an interface -/
structure Interface where
  intfName : List Byte
  mac : Mac
  gwIp : BitVec 32
  devPort : BitVec 9

def macEntryOfHostif (ifNametoindex : List Byte → BitVec 32) (hostif : Interface) :
    Option MacRewriteEntry :=
  if ifNametoindex hostif.intfName = 0 then none
  else some ⟨ifNametoindex hostif.intfName, hostif.mac, fun _ => 0, hostif.gwIp, hostif.devPort, false⟩

/-- `hostif_array_to_mac_entry_table`, which stops at an interface without an index -/
def hostifArrayToMacEntryTable (ifNametoindex : List Byte → BitVec 32) (hostifs : List Interface) :
    Option MacEntryTable :=
  (hostifs.mapM (macEntryOfHostif ifNametoindex)).map List.reverse

/-! The table of MAC addresses -/

/-- The source and the destination address that the hardware writes at a port -/
abbrev MacRewriteTable := BitVec 9 → Option (Mac × Mac)

/-- A read and a write of the hardware may fail at any time. -/
structure HardwareAnswers where
  finds : Bool
  accepts : Bool

/-- `mac_rewrite_table_entry_add` gives the new table, or nothing when the write fails. -/
def macRewriteTableEntryAdd (answers : HardwareAnswers) (egressPort : BitVec 9) (smac dmac : Mac)
    (hardware : MacRewriteTable) : Option MacRewriteTable :=
  let held := (hardware egressPort).isSome
  let found := answers.finds && held
  -- An add fails on a key that the table holds, and a modification on one that it does not hold.
  if answers.accepts && (found == held) then
    some (Function.update hardware egressPort (some (smac, dmac)))
  else none

/-! The attributes -/

abbrev ndaDst : Nat := 1
abbrev ndaLladdr : Nat := 2

/-- `NDA_MAX` -/
abbrev ndaMax : Nat := 14

def rtaLen (memory : Memory) (rta : Nat) : Nat := (memory.load16 rta).toNat

def rtaType (memory : Memory) (rta : Nat) : Nat := (memory.load16 (rta + 2)).toNat

/-- `RTA_OK`, whose length may be negative -/
def rtaOk (memory : Memory) (rta : Nat) (len : Int) : Prop :=
  4 ≤ len ∧ 4 ≤ rtaLen memory rta ∧ rtaLen memory rta ≤ len

instance (memory : Memory) (rta : Nat) (len : Int) : Decidable (rtaOk memory rta len) :=
  inferInstanceAs (Decidable (_ ∧ _ ∧ _))

/-- The table of the attributes, where the walk stands behind the last, and the bytes that it has read -/
structure RtattrTable where
  tb : Nat → Option Nat
  rta : Nat
  len : Int
  reads : List (Nat × Nat)

/-- The loop of `parse_rtattr_flags` with the flags zero, which keeps the first attribute of each type -/
def walkRtattrs (memory : Memory) (max : Nat) : Nat → RtattrTable → RtattrTable
  | 0, t => t
  | rounds + 1, t =>
      if rtaOk memory t.rta t.len then
        let type := rtaType memory t.rta
        walkRtattrs memory max rounds {
          tb := if type ≤ max ∧ t.tb type = none then Function.update t.tb type (some t.rta) else t.tb
          rta := t.rta + align4 (rtaLen memory t.rta)
          len := t.len - align4 (rtaLen memory t.rta)
          reads := t.reads ++ [(t.rta, 4)] }
      else { t with reads := t.reads ++ if 4 ≤ t.len then [(t.rta, 2)] else [] }

/-- `parse_rtattr_flags` reports a deficit with the length that it finds behind the last attribute. -/
def parseRtattrFlags (memory : Memory) (max rta : Nat) (len : Int) : RtattrTable :=
  let t := walkRtattrs memory max len.toNat ⟨fun _ => none, rta, len, []⟩
  if t.len ≠ 0 then { t with reads := t.reads ++ [(t.rta, 2)] } else t

/-! The handler -/

/-- The length of the attributes is an `int`, from which the size of the headers is taken off in 32 bits. -/
def neighAttrlen (memory : Memory) (nlmsg : Nat) : Int := (nlmsgLen memory nlmsg - 28).toInt

/-- What the handler does with the message, with `v4addr` and with the hardware -/
inductive NeighEvent where
  | read (offset size : Nat)
  | copyDst (size : Nat)
  | compareDst (copied : Nat)
  | copyLladdr (rta : Nat)
  | write (devPort : BitVec 9) (smac dmac : Mac) (accepted : Bool)

structure NeighState where
  table : MacEntryTable
  hardware : MacRewriteTable

structure NeighRun where
  events : List NeighEvent
  state : NeighState

def NeighRun.after (events : List NeighEvent) (run : NeighRun) : NeighRun :=
  ⟨events ++ run.events, run.state⟩

/-- `is_valid_ether_addr` -/
def isValidEtherAddr (mac : Mac) : Bool := !(mac 0).getLsbD 0 && decide (mac ≠ fun _ => 0)

def macAt (memory : Memory) (offset : Nat) : Mac := fun octet => memory (offset + octet)

/-- `v4addr` behind the copy of the payload, which leaves its old bytes where the payload ends -/
def copiedDst (memory : Memory) (v4addr : Nat → Byte) (rta : Nat) : BitVec 32 :=
  Memory.load32 (fun index =>
    if index < rtaLen memory rta - 4 then memory (rta + 4 + index) else v4addr index) 0

/-- The write at the end of the handler -/
def writeNeigh (answers : HardwareAnswers) (entry : MacRewriteEntry) (dmac : Mac) (s : NeighState) :
    NeighRun :=
  if entry.valid = true ∧ entry.dmac = dmac then ⟨[], s⟩
  else
    match macRewriteTableEntryAdd answers entry.devPort entry.smac dmac s.hardware with
    | none => ⟨[.write entry.devPort entry.smac dmac false], s⟩
    | some hardware =>
        ⟨[.write entry.devPort entry.smac dmac true], {
          table := updateMacEntry (fun entry => { entry with dmac := dmac, valid := true }) entry.ifindex s.table
          hardware := hardware }⟩

/-- The two attributes of the message, where the handler returns early at the first that does not fit -/
def processNeighAttrs (answers : HardwareAnswers) (memory : Memory) (v4addr : Nat → Byte)
    (tb : Nat → Option Nat) (entry : MacRewriteEntry) (s : NeighState) : NeighRun :=
  let lladdr (dst : Bool) : NeighRun :=
    match tb ndaLladdr with
    | none => ⟨[], s⟩
    | some rta =>
        NeighRun.after [.copyLladdr rta] <|
          if isValidEtherAddr (macAt memory (rta + 4)) = false ∨ dst = false then ⟨[], s⟩
          else writeNeigh answers entry (macAt memory (rta + 4)) s
  match tb ndaDst with
  | none => lladdr false
  | some rta =>
      let size := rtaLen memory rta - 4
      NeighRun.after [.copyDst size, .compareDst size] <|
        if entry.gwIp ≠ ntohl (copiedDst memory v4addr rta) then ⟨[], s⟩ else lladdr true

/-- `process_neigh_msg`, with the bytes that stand in `v4addr` before the call -/
def processNeighMsg (answers : HardwareAnswers) (memory : Memory) (v4addr : Nat → Byte) (nlmsg : Nat)
    (type : BitVec 16) (s : NeighState) : NeighRun :=
  if type ≠ rtmNewNeigh then ⟨[], s⟩
  else
    let len := neighAttrlen memory nlmsg
    NeighRun.after [.read nlmsg 4] <|
      if len < 0 then ⟨[], s⟩
      else NeighRun.after [.read (nlmsg + 16) 1] <|
        if memory (nlmsg + 16) ≠ afInet then ⟨[], s⟩
        else NeighRun.after [.read (nlmsg + 20) 4] <|
          match macEntryGet s.table (memory.load32 (nlmsg + 20)) with
          | none => ⟨[], s⟩
          | some entry =>
              let t := parseRtattrFlags memory ndaMax (nlmsg + 28) len
              NeighRun.after (t.reads.map fun range => .read range.1 range.2) <|
                processNeighAttrs answers memory v4addr t.tb entry s

end IgwP4.Netlink
