/-
This file gives the configuration file, the memory of `switch_cfg` and the way from one to the other.
-/

import IgwP4.Construction.Setup.Utils

namespace IgwP4.Setup
open Netlink

/-! The document -/

/-- The loader accepts no zero byte in a text. -/
structure Text where
  bytes : List Byte
  nonzero : 0 ∉ bytes

/-- A loaded value, where the code tells apart only these kinds, and an object has one member of a name. -/
inductive Json where
  | object (members : List (String × Json))
  | array (items : List Json)
  | string (text : Text)
  | integer (value : BitVec 64)
  | other

/-- `json_object_get` -/
def Json.get (json : Json) (fieldName : String) : Option Json :=
  match json with
  | .object members => members.lookup fieldName
  | _ => none

def Json.isObject : Json → Bool
  | .object _ => true
  | _ => false

/-- The initialisation returns an error, or it fails an assertion. -/
inductive Failure where
  | rejected
  | aborted
deriving DecidableEq

/-- A check of the source returns the error -1 when it fails. -/
def accept (condition : Prop) [Decidable condition] : Except Failure Unit :=
  if condition then .ok () else .error .rejected

/-- The results 0, 1 and -1 of the two field readers -/
inductive FieldResult (α : Type) where
  | found (value : α)
  | absent
  | failed

def FieldResult.required {α : Type} : FieldResult α → Except Failure α
  | .found value => .ok value
  | _ => .error .rejected

def getFieldOfString (json : Json) (fieldName : String) (required : Bool) : FieldResult Text :=
  match json.get fieldName with
  | none => if required then .failed else .absent
  | some (.string text) => .found text
  | some _ => .failed

/-- The value is cut to the size of an `int`. -/
def getFieldOfInt (json : Json) (fieldName : String) (required : Bool) : FieldResult (BitVec 32) :=
  match json.get fieldName with
  | none => if required then .failed else .absent
  | some (.integer value) => .found (value.setWidth 32)
  | some _ => .failed

/-! The layout -/

/-- An object of the program: where it starts and how many bytes it has -/
structure Field where
  offset : Nat
  size : Nat
deriving DecidableEq

/-- Each field of a structure starts at the next multiple of its alignment. -/
def naturalLayout (offset : Nat) : List (Nat × Nat) → List Field
  | [] => []
  | (size, alignment) :: rest =>
      let start := (offset + alignment - 1) / alignment * alignment
      ⟨start, size⟩ :: naturalLayout (start + size) rest

abbrev constMaxPortNameLen : Nat := 15
abbrev constIpv4AddrLen : Nat := 16
abbrev constIpv6AddrLen : Nat := 128
abbrev constMacAddrLen : Nat := 32
abbrev hostifsSize : Nat := 128

namespace HostifField

def intfName : Field := ⟨0, 16⟩
def ipAddr : Field := ⟨16, 17⟩
def gwIpAddr : Field := ⟨33, 17⟩
def netMaskLen : Field := ⟨50, 2⟩
def ip6Addr : Field := ⟨52, 129⟩
def ip6PrefixLen : Field := ⟨181, 1⟩
def ipv6Enable : Field := ⟨182, 1⟩
def macStr : Field := ⟨183, 33⟩
def mac : Field := ⟨216, 6⟩
def fpPort : Field := ⟨222, 2⟩

/-- The layout of `switch_cfg_hostif_t` -/
theorem natural : naturalLayout 0 [(constMaxPortNameLen + 1, 1), (constIpv4AddrLen + 1, 1),
    (constIpv4AddrLen + 1, 1), (2, 2), (constIpv6AddrLen + 1, 1), (1, 1), (1, 1), (constMacAddrLen + 1, 1),
    (6, 1), (2, 2)] =
      [intfName, ipAddr, gwIpAddr, netMaskLen, ip6Addr, ip6PrefixLen, ipv6Enable, macStr, mac, fpPort] := by
  decide

end HostifField

/-- `sizeof(switch_cfg_hostif_t)` -/
abbrev hostifSize : Nat := 224

namespace ConfigField

def hostifNum : Field := ⟨28672, 4⟩
def mgtIpAddr : Field := ⟨28676, 17⟩
def vipAddr : Field := ⟨28693, 17⟩
def backupVipAddr : Field := ⟨28710, 17⟩
def sharedBwVipAddr : Field := ⟨28727, 17⟩
def dlIpAddr : Field := ⟨28744, 17⟩
def dlIp : Field := ⟨28764, 4⟩
def dlIpPrefixLen : Field := ⟨28768, 4⟩
def mgtIp : Field := ⟨28772, 4⟩
def vip : Field := ⟨28776, 4⟩
def sharedBwVip : Field := ⟨28780, 4⟩
def backupVip : Field := ⟨28784, 4⟩
def portSpeed : Field := ⟨28788, 2⟩
def hardwareModel : Field := ⟨28790, 2⟩
def fecModel : Field := ⟨28792, 2⟩

/-- The layout of `switch_config_t` behind its array of interfaces -/
theorem natural : naturalLayout (hostifsSize * hostifSize) [(4, 4), (constIpv4AddrLen + 1, 1),
    (constIpv4AddrLen + 1, 1), (constIpv4AddrLen + 1, 1), (constIpv4AddrLen + 1, 1), (constIpv4AddrLen + 1, 1),
    (4, 4), (4, 4), (4, 4), (4, 4), (4, 4), (4, 4), (2, 2), (2, 2), (2, 2)] =
      [hostifNum, mgtIpAddr, vipAddr, backupVipAddr, sharedBwVipAddr, dlIpAddr, dlIp, dlIpPrefixLen, mgtIp,
        vip, sharedBwVip, backupVip, portSpeed, hardwareModel, fecModel] := by
  decide

end ConfigField

/-- A field of one interface -/
def Field.ofHostif (field : Field) (index : Nat) : Field := ⟨index * hostifSize + field.offset, field.size⟩

/-! The memory -/

/-- `switch_cfg`, and for each store the field and the bytes that it held behind the store -/
structure ConfigState where
  memory : Memory
  stored : List (Field × List Byte)

/-- `memset` leaves zeros. -/
def ConfigState.initial : ConfigState := ⟨fun _ => 0, []⟩

namespace ConfigState

/-- A store may write more bytes than its field has. -/
def store (s : ConfigState) (field : Field) (bytes : List Byte) : ConfigState :=
  let memory := s.memory.write field.offset bytes
  ⟨memory, (field, memory.read field.offset field.size) :: s.stored⟩

/-- `strncpy` cuts a long text, and fills up with zeros behind a short one. -/
def strncpy (s : ConfigState) (field : Field) (text : Text) (size : Nat) : ConfigState :=
  s.store field ((text.bytes ++ List.replicate size 0).take size)

def string (s : ConfigState) (field : Field) : List Byte := s.memory.string field.offset field.size

def load16 (s : ConfigState) (field : Field) : BitVec 16 := s.memory.load16 field.offset

def load32 (s : ConfigState) (field : Field) : BitVec 32 := s.memory.load32 field.offset

end ConfigState

/-! The readers -/

/-- The two stores for an address, or none -/
def setHostifIp6 (index : Nat) (json : Json) (s : ConfigState) : Except Failure ConfigState :=
  match getFieldOfString json "ip6" false with
  | .found text => do
      let s := s.strncpy (HostifField.ip6Addr.ofHostif index) text constIpv6AddrLen
      let prefixLen ← (getFieldOfInt json "ip6_prefix_len" true).required
      let s := s.store (HostifField.ip6PrefixLen.ofHostif index) (littleEndian prefixLen)
      return s.store (HostifField.ipv6Enable.ofHostif index) [1]
  | .absent => return s
  | .failed => throw .rejected

/-- The address is stored as a text and as octets, and the program stops at a text that is none. -/
def setHostifMac (index : Nat) (text : Text) (s : ConfigState) : Except Failure ConfigState :=
  let s := s.strncpy (HostifField.macStr.ofHostif index) text constMacAddrLen
  let (parsed, octets) := etherAton (s.string (HostifField.macStr.ofHostif index))
    (s.memory.read (HostifField.mac.ofHostif index).offset (HostifField.mac.ofHostif index).size)
  if parsed then .ok (s.store (HostifField.mac.ofHostif index) octets) else .error .aborted

/-- `switch_config_set_hostif` -/
def switchConfigSetHostif (index : Nat) (json : Json) (s : ConfigState) :
    Except Failure ConfigState := do
  let intfName ← (getFieldOfString json "intf_name" true).required
  let s := s.strncpy (HostifField.intfName.ofHostif index) intfName constMaxPortNameLen
  let ip ← (getFieldOfString json "ip" true).required
  let s := s.strncpy (HostifField.ipAddr.ofHostif index) ip constIpv4AddrLen
  let netMaskLen ← (getFieldOfInt json "net_mask_len" true).required
  let s := s.store (HostifField.netMaskLen.ofHostif index) (littleEndian netMaskLen)
  let gwIp ← (getFieldOfString json "gw_ip" true).required
  let s := s.strncpy (HostifField.gwIpAddr.ofHostif index) gwIp constIpv4AddrLen
  let s ← setHostifIp6 index json s
  let mac ← (getFieldOfString json "mac" true).required
  let s ← setHostifMac index mac s
  let fpPort ← (getFieldOfInt json "fp_port" true).required
  return s.store (HostifField.fpPort.ofHostif index) (littleEndian fpPort)

/-- The loop of `switch_config_set_hostifs` from one index on -/
def setHostifsFrom (index : Nat) : List Json → ConfigState → Except Failure ConfigState
  | [], s => return s
  | item :: rest, s => do
      let s ← switchConfigSetHostif index item s
      setHostifsFrom (index + 1) rest s

/-- `switch_config_set_hostifs` -/
def switchConfigSetHostifs (root : Json) (s : ConfigState) : Except Failure ConfigState :=
  match root.get "hostifs" with
  | some (.array items) => do
      accept ¬ (items.length = 0 ∨ hostifsSize < items.length)
      setHostifsFrom 0 items
        (s.store ConfigField.hostifNum (littleEndian (BitVec.ofNat 32 items.length)))
  | _ => throw .rejected

/-- A text field and the address that it names -/
def storeAddress (textField addressField : Field) (text : Text) (s : ConfigState) : ConfigState :=
  let s := s.strncpy textField text constIpv4AddrLen
  s.store addressField (littleEndian (ipAtoi (s.string textField)))

/-- Without a text the backup address is zero. -/
def setBackupVip (json : Json) (s : ConfigState) : ConfigState :=
  match getFieldOfString json "backup_vip" true with
  | .found text => storeAddress ConfigField.backupVipAddr ConfigField.backupVip text s
  | _ => s.store ConfigField.backupVip (littleEndian 0)

/-- `Wedge_100BF_65X` and `Wedge_100BF_32X` -/
abbrev wedge100Bf65x : BitVec 16 := 1
abbrev wedge100Bf32x : BitVec 16 := 2

/-- `SWITCH_PORT_FEC_MODE_NONE`, `SWITCH_PORT_FEC_MODE_FC` and `SWITCH_PORT_FEC_MODE_RS` -/
abbrev fecModes : List (BitVec 16) := [0, 1, 2]

/-- `switch_config_set_higw` -/
def switchConfigSetHigw (root : Json) (s : ConfigState) : Except Failure ConfigState :=
  match root.get "higw" with
  | some (.object members) => do
      let higw := Json.object members
      let mgtIp ← (getFieldOfString higw "mgt_ip" true).required
      let s := storeAddress ConfigField.mgtIpAddr ConfigField.mgtIp mgtIp s
      let vip ← (getFieldOfString higw "vip" true).required
      let s := storeAddress ConfigField.vipAddr ConfigField.vip vip s
      let sharedBwVip ← (getFieldOfString higw "shared_bandwith_vip" true).required
      let s := storeAddress ConfigField.sharedBwVipAddr ConfigField.sharedBwVip sharedBwVip s
      let s := setBackupVip higw s
      accept ¬ (s.load32 ConfigField.vip = 0 ∨ s.load32 ConfigField.mgtIp = 0 ∨
        s.load32 ConfigField.sharedBwVip = 0)
      let portSpeed ← (getFieldOfInt higw "port_speed" true).required
      let s := s.store ConfigField.portSpeed (littleEndian portSpeed)
      accept ¬ (s.load16 ConfigField.portSpeed ≠ 40 ∧ s.load16 ConfigField.portSpeed ≠ 100)
      let hardware ← (getFieldOfInt higw "Hardware" true).required
      let s := s.store ConfigField.hardwareModel (littleEndian hardware)
      accept ¬ (s.load16 ConfigField.hardwareModel ≠ wedge100Bf65x ∧
        s.load16 ConfigField.hardwareModel ≠ wedge100Bf32x)
      let fec ← (getFieldOfInt higw "FEC" true).required
      let s := s.store ConfigField.fecModel (littleEndian fec)
      accept (s.load16 ConfigField.fecModel ∈ fecModes)
      return s
  | _ => throw .rejected

/-- `switch_config_set_redirectip` -/
def switchConfigSetRedirectip (root : Json) (s : ConfigState) : Except Failure ConfigState :=
  match root.get "RedirectIP" with
  | some (.object members) => do
      let redirect := Json.object members
      let addrPrefix ← (getFieldOfString redirect "addr_prefix" true).required
      let s := storeAddress ConfigField.dlIpAddr ConfigField.dlIp addrPrefix s
      accept ¬ s.load32 ConfigField.dlIp = 0
      let prefixLen ← (getFieldOfInt redirect "prefix_len" true).required
      let s := s.store ConfigField.dlIpPrefixLen (littleEndian prefixLen)
      accept ¬ (s.load32 ConfigField.dlIpPrefixLen < 24 ∨ 32 < s.load32 ConfigField.dlIpPrefixLen)
      return s
  | _ => throw .rejected

/-- `switch_config_init`, behind the loader -/
def switchConfigInit (root : Json) : Except Failure ConfigState := do
  accept (root.isObject = true)
  let s ← switchConfigSetHigw root .initial
  let s ← switchConfigSetRedirectip root s
  switchConfigSetHostifs root s

end IgwP4.Setup
