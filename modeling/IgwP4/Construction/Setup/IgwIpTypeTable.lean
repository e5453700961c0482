/-
This file gives the entries that `igw_ip_type_table_init` installs.
-/

import IgwP4.Construction.Setup.Config

namespace IgwP4.Setup
open Packet Dataplane

/-- `igwIpTypeKey` starts from zero, so a field that is not set compares nothing. -/
structure IgwIpTypeMatch where
  ipv4IsValid : Ternary 1 := .any
  ipv4DstAddr : Ternary 32 := .any
  vxlanIsValid : Ternary 1 := .any
  innerIpv4IsValid : Ternary 1 := .any
  innerIpv4DstAddr : Ternary 32 := .any
  innerIpv6IsValid : Ternary 1 := .any
  innerIpv6DstAddr : Ternary 2 := .any
  innerIpv6SrcAddr : Ternary 2 := .any
  vxlanType : Ternary 2 := .any
  vxlanTof : Ternary 4 := .any
  ipv6IsValid : Ternary 1 := .any
  ipv6DstAddr : Ternary 128 := .any
deriving DecidableEq

def IgwIpTypeMatch.hits (m : IgwIpTypeMatch) (key : IgwIpTypeKey) : Bool :=
  m.ipv4IsValid.hits key.ipv4IsValid && m.ipv4DstAddr.hits key.ipv4DstAddr &&
    m.vxlanIsValid.hits key.vxlanIsValid && m.innerIpv4IsValid.hits key.innerIpv4IsValid &&
    m.innerIpv4DstAddr.hits key.innerIpv4DstAddr && m.innerIpv6IsValid.hits key.innerIpv6IsValid &&
    m.innerIpv6DstAddr.hits key.innerIpv6DstAddr && m.innerIpv6SrcAddr.hits key.innerIpv6SrcAddr &&
    m.vxlanType.hits key.vxlanType && m.vxlanTof.hits key.vxlanTof &&
    m.ipv6IsValid.hits key.ipv6IsValid && m.ipv6DstAddr.hits key.ipv6DstAddr

abbrev IgwIpTypeEntry := TernaryEntry IgwIpTypeKey IgwIpTypeAction

def igwIpTypeEntry (priority : Nat) (m : IgwIpTypeMatch) (action : IgwIpTypeAction) :
    IgwIpTypeEntry :=
  ⟨priority, m.hits, action⟩

/-- A row stands for the address of the cluster and its backup, for the redirection prefix, or for itself. -/
inductive RowAddress where
  | vip
  | dlIp
  | own
deriving DecidableEq

/-- One comment of the source, with the key that it fills before the outer address -/
structure IgwIpTypeRow where
  address : RowAddress
  priority : Nat
  key : IgwIpTypeMatch
  action : IgwIpTypeAction

def vipRow (key : IgwIpTypeMatch) (action : IgwIpTypeAction) : IgwIpTypeRow := ⟨.vip, highestPri, key, action⟩

def dlRow (key : IgwIpTypeMatch) (action : IgwIpTypeAction) : IgwIpTypeRow := ⟨.dlIp, highestPri, key, action⟩

/-- Each key for the address of the cluster has a copy for the backup address, when there is one. -/
def IgwIpTypeRow.matches (cfg : SwitchConfig) (row : IgwIpTypeRow) : List IgwIpTypeMatch :=
  match row.address with
  | .vip =>
      { row.key with ipv4DstAddr := .exactly cfg.vip } ::
        if cfg.backupVip ≠ 0 then [{ row.key with ipv4DstAddr := .exactly cfg.backupVip }] else []
  | .dlIp => [{ row.key with ipv4DstAddr := ⟨cfg.dlIp, getMaskByPrefixLen cfg.dlIpPrefixLen⟩ }]
  | .own => [row.key]

/-- All VXLAN entries fix these five fields. -/
def vxlanMatch (innerIpv4 innerIpv6 : Ternary 1) (vxlanType : BitVec 2) (tof : BitVec 4) :
    IgwIpTypeMatch where
  ipv4IsValid := .exactly 1
  vxlanIsValid := .exactly 1
  innerIpv4IsValid := innerIpv4
  innerIpv6IsValid := innerIpv6
  vxlanType := .exactly vxlanType
  vxlanTof := .exactly tof
  ipv6IsValid := .exactly 0

def innerV4 (vxlanType : BitVec 2) (tof : BitVec 4) : IgwIpTypeMatch :=
  vxlanMatch (.exactly 1) (.exactly 0) vxlanType tof

def innerV6 (vxlanType : BitVec 2) (tof : BitVec 4) : IgwIpTypeMatch :=
  vxlanMatch (.exactly 0) (.exactly 1) vxlanType tof

/-- `internet_out_entry_init` -/
def internetOutEntryInit : List IgwIpTypeRow := [
  vipRow (innerV4 vxlanTypeStd 0) (.ipFromInternetOutHit egrPipeline2),
  vipRow { innerV6 vxlanTypeStd 0 with innerIpv6SrcAddr := ⟨1, 1⟩ } (.ipFromInternetOutHit egrPipeline0),
  vipRow { innerV6 vxlanTypeStd 0 with innerIpv6SrcAddr := ⟨0, 1⟩ } (.ipFromInternetOutHit egrPipeline2)]

/-- `internet_out_between_cluster_dl_entry_init` -/
def internetOutBetweenClusterDlEntryInit : List IgwIpTypeRow := [
  vipRow (innerV4 vxlanTypeJd tofAzOut) (.ipFromInternetOutDlHit egrPipeline2),
  vipRow { innerV6 vxlanTypeJd tofAzOut with innerIpv6SrcAddr := ⟨1, 1⟩ } (.ipFromInternetOutDlHit egrPipeline0),
  vipRow { innerV6 vxlanTypeJd tofAzOut with innerIpv6SrcAddr := ⟨0, 1⟩ } (.ipFromInternetOutDlHit egrPipeline2)]

/-- `internet_out_within_cluster_dl_entry_init` leaves the other inner family open. -/
def internetOutWithinClusterDlEntryInit : List IgwIpTypeRow := [
  dlRow (vxlanMatch (.exactly 1) .any vxlanTypeJd tofEipOut) (.ipFromInternetOutDlHit egrPipeline2),
  dlRow { vxlanMatch .any (.exactly 1) vxlanTypeJd tofEipOut with innerIpv6SrcAddr := ⟨1, 1⟩ }
    (.ipFromInternetOutDlHit egrPipeline0),
  dlRow { vxlanMatch .any (.exactly 1) vxlanTypeJd tofEipOut with innerIpv6SrcAddr := ⟨0, 1⟩ }
    (.ipFromInternetOutDlHit egrPipeline2)]

def ipv6Multicast : BitVec 128 := ipv6Field 0x000000FF 0 0 0
def ipv6MulticastMask : BitVec 128 := ipv6Field 0x000000FF 0 0 0
def ipv6Addr1 : BitVec 128 := ipv6Field 0 0 0 0x01000000
def ipv6Addr2 : BitVec 128 := ipv6Field 0 0 0 0
def ipv6AddrMask : BitVec 128 := ipv6Field 0 0 0 0x01000000

/-- `internet_in_entry_init` -/
def internetInEntryInit : List IgwIpTypeRow := [
  ⟨.own, lowestPri, { ipv4IsValid := .exactly 1, ipv4DstAddr := ⟨1, 1⟩, ipv6IsValid := .exactly 0 },
    .ipFromInternetInHit egrPipeline1⟩,
  ⟨.own, lowestPri, { ipv4IsValid := .exactly 1, ipv4DstAddr := ⟨0, 1⟩, ipv6IsValid := .exactly 0 },
    .ipFromInternetInHit egrPipeline3⟩,
  ⟨.own, highestPri, { ipv4IsValid := .exactly 0, ipv6IsValid := .exactly 1,
                       ipv6DstAddr := ⟨ipv6Multicast, ipv6MulticastMask⟩ }, .needDrop⟩,
  ⟨.own, lowestPri, { ipv4IsValid := .exactly 0, ipv6IsValid := .exactly 1,
                      ipv6DstAddr := ⟨ipv6Addr1, ipv6AddrMask⟩ }, .ipFromInternetInHit egrPipeline1⟩,
  ⟨.own, lowestPri, { ipv4IsValid := .exactly 0, ipv6IsValid := .exactly 1,
                      ipv6DstAddr := ⟨ipv6Addr2, ipv6AddrMask⟩ }, .ipFromInternetInHit egrPipeline3⟩]

/-- `internet_in_between_cluster_dl_entry_init` -/
def internetInBetweenClusterDlEntryInit : List IgwIpTypeRow := [
  vipRow { innerV4 vxlanTypeJd tofAzIn with innerIpv4DstAddr := ⟨1, 1⟩ } (.ipFromInternetInDlHit egrPipeline1),
  vipRow { innerV4 vxlanTypeJd tofAzIn with innerIpv4DstAddr := ⟨0, 1⟩ } (.ipFromInternetInDlHit egrPipeline3),
  vipRow { innerV6 vxlanTypeJd tofAzIn with innerIpv6DstAddr := ⟨1, 1⟩ } (.ipFromInternetInDlHit egrPipeline1),
  vipRow { innerV6 vxlanTypeJd tofAzIn with innerIpv6DstAddr := ⟨0, 1⟩ } (.ipFromInternetInDlHit egrPipeline3)]

/-- `internet_in_within_cluster_dl_entry_init` -/
def internetInWithinClusterDlEntryInit : List IgwIpTypeRow := [
  dlRow { innerV4 vxlanTypeJd tofEipIn with innerIpv4DstAddr := ⟨1, 1⟩ } (.ipFromInternetInDlHit egrPipeline1),
  dlRow { innerV4 vxlanTypeJd tofEipIn with innerIpv4DstAddr := ⟨0, 1⟩ } (.ipFromInternetInDlHit egrPipeline3),
  dlRow { innerV6 vxlanTypeJd tofEipIn with innerIpv6DstAddr := ⟨1, 1⟩ } (.ipFromInternetInDlHit egrPipeline1),
  dlRow { innerV6 vxlanTypeJd tofEipIn with innerIpv6DstAddr := ⟨0, 1⟩ } (.ipFromInternetInDlHit egrPipeline3)]

/-- The rows of `igw_ip_type_table_init`, in the order of its functions and up to the pipeline table -/
def igwIpTypeRows : List IgwIpTypeRow :=
  internetOutEntryInit ++ internetOutBetweenClusterDlEntryInit ++ internetOutWithinClusterDlEntryInit ++
    internetInEntryInit ++ internetInBetweenClusterDlEntryInit ++ internetInWithinClusterDlEntryInit

/-- The priority is a part of the key. -/
abbrev IgwIpTypeWrite := (Nat × IgwIpTypeMatch) × IgwIpTypeAction

def IgwIpTypeRow.writes (cfg : SwitchConfig) (row : IgwIpTypeRow) : List IgwIpTypeWrite :=
  (row.matches cfg).map fun m => ((row.priority, m), row.action)

/-- The keys that the initialisation writes, one write after the other -/
def igwIpTypeWrites (cfg : SwitchConfig) : List IgwIpTypeWrite :=
  igwIpTypeRows.flatMap (IgwIpTypeRow.writes cfg)

/-- Each written key is an entry of the table. -/
def igwIpTypeTable (cfg : SwitchConfig) : TernaryTable IgwIpTypeKey IgwIpTypeAction :=
  (igwIpTypeWrites cfg).map fun write => igwIpTypeEntry write.1.1 write.1.2 write.2

def pipelineFixEntry (srcAddr : Ternary 32) (egrPipeline : BitVec 3) :
    TernaryEntry PipelineFixKey (BitVec 3) where
  priority := 0
  hits key :=
    (Ternary.exactly 1).hits key.innerIpv4IsValid && srcAddr.hits key.innerIpv4SrcAddr
  action := egrPipeline

/-- `pipelinefix_init` writes the inner address as the only field that differs. -/
def pipelineFixWrites : List (Ternary 32 × BitVec 3) := [(⟨1, 1⟩, egrPipeline0), (⟨0, 1⟩, egrPipeline2)]

def pipelineFixTable : TernaryTable PipelineFixKey (BitVec 3) :=
  pipelineFixWrites.map fun write => pipelineFixEntry write.1 write.2

end IgwP4.Setup
