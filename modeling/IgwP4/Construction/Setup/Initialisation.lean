/-
This file gives the initialisation of the tables behind an accepted configuration.
-/

import IgwP4.Construction.Netlink.Gateways
import IgwP4.Construction.Packet.KeyedTable
import IgwP4.Construction.Setup.ConfigFile
import IgwP4.Construction.Setup.IgwIpTypeTable
import IgwP4.Construction.Setup.PacketTable

namespace IgwP4.Setup
open Packet Dataplane Netlink

/-! The configuration in memory -/

namespace ConfigState

variable (s : ConfigState)

/-- `switch_cfg.hostif_num` is an `int`. -/
def hostifNum : Int := (s.load32 ConfigField.hostifNum).toInt

def hardwareModel : BitVec 16 := s.load16 ConfigField.hardwareModel

def switchConfig : SwitchConfig where
  mgtIp := s.load32 ConfigField.mgtIp
  vip := s.load32 ConfigField.vip
  backupVip := s.load32 ConfigField.backupVip
  sharedBwVip := s.load32 ConfigField.sharedBwVip
  dlIp := s.load32 ConfigField.dlIp
  dlIpPrefixLen := (s.load32 ConfigField.dlIpPrefixLen).toInt

/-- `hostif->v4addr.len` -/
def netMaskLen (index : Nat) : BitVec 16 := s.load16 (HostifField.netMaskLen.ofHostif index)

/-- `hostif->fake_fp_port` -/
def fakeFpPort (index : Nat) : BitVec 16 := s.load16 (HostifField.fpPort.ofHostif index)

/-- `(hostif->fake_fp_port - 1) * 4`, as the machine takes it -/
def fpPort (index : Nat) : BitVec 32 :=
  ((s.load16 (HostifField.fpPort.ofHostif index)).setWidth 32 - 1) * 4

def ipv6Enable (index : Nat) : Bool := s.memory (HostifField.ipv6Enable.ofHostif index).offset != 0

def mac (index : Nat) (octet : Fin 6) : Byte :=
  s.memory ((HostifField.mac.ofHostif index).offset + octet)

end ConfigState

/-! The interfaces -/

/-- An interface with an IPv6 address also takes the addresses that follow from it and from the MAC address. -/
def Hostif.ofAddresses (devPort : BitVec 9) (gwIp ip4 : BitVec 32) (ip6 : Option (BitVec 128))
    (mac : Fin 6 → Byte) : Hostif :=
  match ip6 with
  | none => ⟨devPort, gwIp, ip4, false, 0, 0, 0, 0⟩
  | some ip6 =>
      ⟨devPort, gwIp, ip4, true, ip6, ipv6AddrSolictMultSet ip6, ip6GetLinklocal mac,
        ipv6AddrSolictMultSet (ip6GetLinklocal mac)⟩

/-- One round of `parser_switch_config_to_hostif`, which stops at a text that is no IPv6 address -/
def parseHostif (s : ConfigState) (index : Nat) : Option (BitVec 32 × Hostif) :=
  let gwIp := ipAtoi (s.string (HostifField.gwIpAddr.ofHostif index))
  let ip4 := ipAtoi (s.string (HostifField.ipAddr.ofHostif index))
  if s.ipv6Enable index then
    (ip6Atoi (s.string (HostifField.ip6Addr.ofHostif index))).map fun ip6 =>
      (s.fpPort index, Hostif.ofAddresses 0 gwIp ip4 (some ip6) (s.mac index))
  else some (s.fpPort index, Hostif.ofAddresses 0 gwIp ip4 none (s.mac index))

/-- `HOSTIF_ARRAY_SIZE` -/
abbrev hostifArraySize : Nat := 128

/-- `parser_switch_config_to_hostif` -/
def parserSwitchConfigToHostif (s : ConfigState) : Option (List (BitVec 32 × Hostif)) :=
  if s.hostifNum ≤ hostifArraySize then (List.range s.hostifNum.toNat).mapM (parseHostif s) else none

/-- `bf_pal_fp_idx_to_dev_port_map` gives the device port of a front port, when it has one. -/
abbrev PortMap := BitVec 32 → Option (BitVec 9)

/-- `switch_dev_port_get`, which `switch_api_hostif_create` calls -/
def switchDevPortGet (ports : PortMap) (parsed : BitVec 32 × Hostif) : Option Hostif :=
  (ports parsed.1).map fun devPort => { parsed.2 with devPort := devPort }

/-! The tables -/

/-- `Wedge_100BF_65X` is the only model that `hostif_array_to_gateways` serves. -/
def hostifArrayToGatewaysOn (hardwareModel : BitVec 16) (hostifs : List Hostif) : Option GatewayTable :=
  if maxGateway < hostifs.length then none
  else if hardwareModel ≠ wedge100Bf65x then none
  else hostifArrayToGateways hostifs

/-- `MAX_DL_IP_NUM` -/
abbrev maxDlIpNum : Nat := 120

/-- The two selector groups of the redirection have this number. -/
abbrev selectorGroupId : Nat := 1

/-- The members, the groups and the choice of a group that the redirection of one direction has -/
structure EipDlTables where
  actionProfile : KeyedTable Nat (BitVec 32) 120
  selector : KeyedTable Nat (List (Nat × Bool)) 2
  selectRedirectIp : KeyedTable (BitVec 1) Nat 2

/-- The loop over the addresses of the prefix, while there is room for a member -/
def addDlIps (lastIp : BitVec 32) : Nat → Nat → BitVec 32 → KeyedTable Nat (BitVec 32) 120 →
    Option (KeyedTable Nat (BitVec 32) 120)
  | 0, _, _, table => some table
  | room + 1, index, dlIp, table =>
      if dlIp ≤ lastIp then
        (table.add (index + 1) dlIp).bind (addDlIps lastIp room (index + 1) (dlIp + 1))
      else some table

/-- `htonl` swaps the bytes of a word like `ntohl`. -/
abbrev htonl : BitVec 32 → BitVec 32 := ntohl

/-- The first address of the redirection prefix, computed in network order -/
def firstDlIp (cfg : SwitchConfig) : BitVec 32 :=
  ntohl (htonl cfg.dlIp &&& htonl (getMaskByPrefixLen cfg.dlIpPrefixLen))

/-- The last address of the redirection prefix, computed in network order -/
def lastDlIp (cfg : SwitchConfig) : BitVec 32 :=
  ntohl (htonl cfg.dlIp ||| ~~~ htonl (getMaskByPrefixLen cfg.dlIpPrefixLen))

/-- The two functions for the redirection differ only in the tables that they fill. -/
def ecmpDlTableInit (cfg : SwitchConfig) : Option EipDlTables := do
  let actionProfile ← addDlIps (lastDlIp cfg) maxDlIpNum 0 (firstDlIp cfg) .empty
  let members := (List.range actionProfile.entries.length).map fun index => (index + 1, true)
  let selector ← KeyedTable.empty.add selectorGroupId members
  let selectRedirectIp ← KeyedTable.empty.add 1 selectorGroupId
  return ⟨actionProfile, selector, selectRedirectIp⟩

def eipInEcmpDlTableInit (cfg : SwitchConfig) : Option EipDlTables := ecmpDlTableInit cfg

def eipOutEcmpDlTableInit (cfg : SwitchConfig) : Option EipDlTables := ecmpDlTableInit cfg

/-- `igw_ip_type_table_init` asserts that each add succeeds. -/
def igwIpTypeTableInit (cfg : SwitchConfig) :
    Option (KeyedTable (Nat × IgwIpTypeMatch) IgwIpTypeAction 64) :=
  KeyedTable.addAll (igwIpTypeWrites cfg) .empty

/-- `pipelinefix_init` -/
def pipelinefixInit : Option (KeyedTable (Ternary 32) (BitVec 3) 4) :=
  KeyedTable.addAll pipelineFixWrites .empty

/-- `process_protocol_packet_table_init` looks for each key before it writes. -/
def processProtocolPacketTableInit (cfg : SwitchConfig) (hostifs : List Hostif) :
    Option (KeyedTable (Nat × ProtocolPacketMatch) ProcessProtocolAction 128) :=
  KeyedTable.addOrModifyAll (protocolPacketWrites cfg hostifs) .empty

/-- What the initialisation leaves in the tables and in the program -/
structure Installed where
  hostifs : List Hostif
  igwIpType : KeyedTable (Nat × IgwIpTypeMatch) IgwIpTypeAction 64
  pipelineFix : KeyedTable (Ternary 32) (BitVec 3) 4
  eipIn : EipDlTables
  eipOut : EipDlTables
  gateways : GatewayTable
  processProtocolPacket : KeyedTable (Nat × ProtocolPacketMatch) ProcessProtocolAction 128

/-- The steps of `main` whose failure stops the program, where nothing stands for a stop -/
def initialise (ports : PortMap) (s : ConfigState) : Option Installed := do
  let parsed ← parserSwitchConfigToHostif s
  let hostifs ← parsed.mapM (switchDevPortGet ports)
  let igwIpType ← igwIpTypeTableInit s.switchConfig
  let pipelineFix ← pipelinefixInit
  let eipIn ← eipInEcmpDlTableInit s.switchConfig
  let eipOut ← eipOutEcmpDlTableInit s.switchConfig
  let gateways ← hostifArrayToGatewaysOn s.hardwareModel hostifs
  let processProtocolPacket ← processProtocolPacketTableInit s.switchConfig hostifs
  return ⟨hostifs, igwIpType, pipelineFix, eipIn, eipOut, gateways, processProtocolPacket⟩

end IgwP4.Setup
