/-
This file gives the entries that `process_protocol_packet_table_init` installs.
-/

import IgwP4.Construction.Setup.Config

namespace IgwP4.Setup
open Packet Dataplane

/-- `g_cpu_pcie_port` of the four-pipe box -/
abbrev cpuPciePort : BitVec 9 := 320

/-- The key starts from zero, so a field that is not set compares nothing. -/
structure ProtocolPacketMatch where
  ipv4IsValid : Ternary 1 := .any
  vxlanIsValid : Ternary 1 := .any
  etherType : Ternary 16 := .any
  ipv4DstAddr : Ternary 32 := .any
  ingressPort : Ternary 9 := .any
  ipv6IsValid : Ternary 1 := .any
  ipv6DstAddr : Ternary 128 := .any
deriving DecidableEq

def ProtocolPacketMatch.hits (m : ProtocolPacketMatch) (key : ProcessProtocolKey) : Bool :=
  m.ipv4IsValid.hits key.ipv4IsValid && m.vxlanIsValid.hits key.vxlanIsValid &&
    m.etherType.hits key.etherType && m.ipv4DstAddr.hits key.ipv4DstAddr &&
    m.ingressPort.hits key.ingressPort && m.ipv6IsValid.hits key.ipv6IsValid &&
    m.ipv6DstAddr.hits key.ipv6DstAddr

abbrev ProtocolPacketEntry := TernaryEntry ProcessProtocolKey ProcessProtocolAction

def protocolPacketEntry (priority : Nat) (m : ProtocolPacketMatch)
    (action : ProcessProtocolAction) : ProtocolPacketEntry :=
  ⟨priority, m.hits, action⟩

/-- The priority is a part of the key. -/
abbrev ProtocolPacketWrite := (Nat × ProtocolPacketMatch) × ProcessProtocolAction

def copyToCpuNosWrite (m : ProtocolPacketMatch) : ProtocolPacketWrite :=
  ((lowestPri, m), .copyToCpuNos cpuPciePort)

/-- No outer family and no VXLAN header stand behind this EtherType. -/
def layerTwoMatch (etherType : BitVec 16) : ProtocolPacketMatch where
  ipv4IsValid := .exactly 0
  ipv6IsValid := .exactly 0
  vxlanIsValid := .exactly 0
  etherType := .exactly etherType

def ipv4Match (dip : BitVec 32) : ProtocolPacketMatch where
  ipv4IsValid := .exactly 1
  ipv6IsValid := .exactly 0
  etherType := .exactly etherTypeIpv4
  ipv4DstAddr := .exactly dip

def ipv6Match (dip : BitVec 128) : ProtocolPacketMatch where
  ipv4IsValid := .exactly 0
  ipv6IsValid := .exactly 1
  etherType := .exactly etherTypeIpv6
  ipv6DstAddr := .exactly dip

def receiveFromCpuLldpInit : List ProtocolPacketWrite := [
  ((highestPri, { layerTwoMatch etherTypeLldp with ingressPort := .exactly cpuPciePort }),
    .receiveFromCpuLldp),
  copyToCpuNosWrite (layerTwoMatch etherTypeLldp)]

def receiveFromCpuNosInit : List ProtocolPacketWrite := [
  ((middlePri, { ingressPort := .exactly cpuPciePort }), .receiveFromCpuNos)]

def arpCopyToCpuNosInit : List ProtocolPacketWrite := [
  copyToCpuNosWrite (layerTwoMatch etherTypeArp)]

def mgtIpCopyToCpuNosInit (cfg : SwitchConfig) : List ProtocolPacketWrite := [
  copyToCpuNosWrite (ipv4Match cfg.mgtIp)]

def vipCopyToCpuNosInit (cfg : SwitchConfig) : List ProtocolPacketWrite := [
  copyToCpuNosWrite { ipv4Match cfg.vip with vxlanIsValid := .exactly 0 }]

def backupVipCopyToCpuNosInit (cfg : SwitchConfig) : List ProtocolPacketWrite :=
  if cfg.backupVip = 0 then []
  else [copyToCpuNosWrite { ipv4Match cfg.backupVip with vxlanIsValid := .exactly 0 }]

attribute [simp] receiveFromCpuLldpInit receiveFromCpuNosInit arpCopyToCpuNosInit mgtIpCopyToCpuNosInit
  vipCopyToCpuNosInit

/-- The writes before those of the interfaces -/
def fixedWrites (cfg : SwitchConfig) : List ProtocolPacketWrite :=
  receiveFromCpuLldpInit ++ receiveFromCpuNosInit ++ arpCopyToCpuNosInit ++ mgtIpCopyToCpuNosInit cfg ++
    vipCopyToCpuNosInit cfg ++ backupVipCopyToCpuNosInit cfg

/-- An address that an interface takes from its own port -/
structure PuntAddress where
  devPort : BitVec 9
  dip : BitVec 32 ⊕ BitVec 128
deriving DecidableEq

def PuntAddress.match (address : PuntAddress) : ProtocolPacketMatch :=
  match address.dip with
  | .inl dip => { ipv4Match dip with ingressPort := .exactly address.devPort }
  | .inr dip => { ipv6Match dip with ingressPort := .exactly address.devPort }

/-- Each interface takes its own addresses from its own port. -/
def Hostif.addresses (hostif : Hostif) : List PuntAddress :=
  ⟨hostif.devPort, .inl hostif.ip4⟩ ::
    if hostif.ipv6Enable then
      [hostif.ip6, hostif.ip6Mc, hostif.ip6Linklocal, hostif.ip6LinklocalMc].map fun dip =>
        ⟨hostif.devPort, .inr dip⟩
    else []

def hostifCopyToCpuNosInit (hostifs : List Hostif) : List ProtocolPacketWrite :=
  (hostifs.flatMap Hostif.addresses).map fun address => copyToCpuNosWrite address.match

/-- `process_protocol_packet_table_init`, one write after the other -/
def protocolPacketWrites (cfg : SwitchConfig) (hostifs : List Hostif) : List ProtocolPacketWrite :=
  fixedWrites cfg ++ hostifCopyToCpuNosInit hostifs

/-- Each written key is an entry of the table. -/
def protocolPacketTable (cfg : SwitchConfig) (hostifs : List Hostif) :
    TernaryTable ProcessProtocolKey ProcessProtocolAction :=
  (protocolPacketWrites cfg hostifs).map fun write => protocolPacketEntry write.1.1 write.1.2 write.2

end IgwP4.Setup
