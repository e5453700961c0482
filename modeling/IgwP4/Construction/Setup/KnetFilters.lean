/-
This file gives the headers that `bf_knet` inserts and the filters that it applies between the CPU port and the
interfaces.
-/

import IgwP4.Construction.Netlink.Memory
import IgwP4.Construction.Packet.Codec

namespace IgwP4.Setup
open Netlink Packet

/-- The host stores the lower byte of a `uint16_t` first. -/
def storedWord (word : BitVec 16) : List Byte := [word.extractLsb' 0 8, word.extractLsb' 8 8]

def htons (word : BitVec 16) : BitVec 16 := word.extractLsb' 0 8 ++ word.extractLsb' 8 8

/-- `switch_fabric_header_t` -/
structure SwitchFabricHeader where
  etherType : BitVec 16 := 0
  pad1 : BitVec 1 := 0
  packetVersion : BitVec 2 := 0
  headerVersion : BitVec 2 := 0
  packetType : BitVec 3 := 0
  fabricColor : BitVec 3 := 0
  fabricQos : BitVec 5 := 0
  dstDevice : Byte := 0
  dstPortOrGroup : BitVec 16 := 0

/-- The bit-fields fill a byte from its lowest bit. -/
def SwitchFabricHeader.bytes (h : SwitchFabricHeader) : List Byte :=
  storedWord h.etherType ++ [h.packetType ++ h.headerVersion ++ h.packetVersion ++ h.pad1,
    h.fabricQos ++ h.fabricColor, h.dstDevice] ++ storedWord h.dstPortOrGroup

/-- `switch_cpu_header_t` -/
structure SwitchCpuHeader where
  reserved : BitVec 1 := 0
  captureTstampOnTx : BitVec 1 := 0
  txBypass : BitVec 1 := 0
  egressQueue : BitVec 5 := 0
  ingressPort : BitVec 16 := 0
  ingressIfindex : BitVec 16 := 0
  ingressBd : BitVec 16 := 0
  reasonCode : BitVec 16 := 0

def SwitchCpuHeader.bytes (h : SwitchCpuHeader) : List Byte :=
  [h.egressQueue ++ h.txBypass ++ h.captureTstampOnTx ++ h.reserved] ++ storedWord h.ingressPort ++
    storedWord h.ingressIfindex ++ storedWord h.ingressBd ++ storedWord h.reasonCode

/-- `switch_packet_header_t` -/
structure SwitchPacketHeader where
  fabricHeader : SwitchFabricHeader := {}
  cpuHeader : SwitchCpuHeader := {}

def SwitchPacketHeader.bytes (h : SwitchPacketHeader) : List Byte := h.fabricHeader.bytes ++ h.cpuHeader.bytes

abbrev switchFabricHeaderSize : Nat := 7
abbrev switchCpuHeaderSize : Nat := 9
abbrev switchPacketHeaderSize : Nat := 16
abbrev switchEthernetHeaderSize : Nat := 14

/-- `offsetof(switch_ethernet_header_t, ether_type)` -/
abbrev etherTypeOffset : Nat := 12

/-! What `bf_knet` does -/

/-- The bits of the bytes in wire order -/
def octets (bytes : List Byte) : Bits := bytes.flatMap (Codec.word 8).encode

/-- The byte of a packet at an index -/
def octetAt (packet : Bits) (index : Nat) : Byte := (Codec.word 8).decode ((packet.drop (8 * index)).take 8)

/-- `bf_knet_packet_mutation_t` -/
inductive PacketMutation where
  | insert (offset : Nat) (data : List Byte)
  | strip (offset len : Nat)

def PacketMutation.apply : PacketMutation → Bits → Bits
  | .insert offset data, packet => packet.take (8 * offset) ++ (octets data ++ packet.drop (8 * offset))
  | .strip offset len, packet => packet.take (8 * offset) ++ packet.drop (8 * (offset + len))

/-- `bf_knet_rx_filter_t` -/
structure RxFilter where
  filter : Memory
  mask : Memory
  filterSize : Nat
  pktMutation : List PacketMutation

/-- A packet matches when the bytes of the filter are its own under the mask. -/
def RxFilter.Matches (f : RxFilter) (packet : Bits) : Prop :=
  8 * f.filterSize ≤ packet.length ∧
    ∀ index < f.filterSize, octetAt packet index &&& f.mask index = f.filter index &&& f.mask index

/-- The mutations of the filter take place one after the other. -/
def RxFilter.received (f : RxFilter) (packet : Bits) : Bits :=
  f.pktMutation.foldl (fun packet mutation => mutation.apply packet) packet

/-! The filters -/

/-- `bit_mask` -/
def bitMask (x : BitVec 64) : BitVec 64 := if x.toNat ≥ 8 * 8 then -1 else (1 <<< x.toNat) - 1

/-- `switch_pktdriver_rx_filter_key_t`, as far as it is read -/
structure RxFilterKey where
  devPort : BitVec 16 := 0
  ifindex : BitVec 32 := 0
  bd : BitVec 16 := 0
  reasonCode : BitVec 32 := 0

abbrev rxFilterAttrDevPort : BitVec 64 := 1
abbrev rxFilterAttrIfindex : BitVec 64 := 2
abbrev rxFilterAttrBd : BitVec 64 := 4
abbrev rxFilterAttrReasonCode : BitVec 64 := 8

/-- The fields of the CPU header that the flags name, with these contents -/
def selectedFields (flags : BitVec 64) (devPort bd reasonCode ifindex : BitVec 16) : SwitchCpuHeader where
  ingressPort := if flags &&& rxFilterAttrDevPort ≠ 0 then devPort else 0
  ingressBd := if flags &&& rxFilterAttrBd ≠ 0 then bd else 0
  reasonCode := if flags &&& rxFilterAttrReasonCode ≠ 0 then reasonCode else 0
  ingressIfindex := if flags &&& rxFilterAttrIfindex ≠ 0 then ifindex else 0

/-- The offset of the CPU header behind the other two headers, which share an EtherType -/
abbrev cpuHdrOffset : Nat := switchEthernetHeaderSize + switchFabricHeaderSize - 2

/-- `switch_knet_rx_filter_create`, where the handle of an interface may be zero -/
def switchKnetRxFilterCreate (flags : BitVec 64) (rxKey : RxFilterKey) (knetHostifHandle : BitVec 64) :
    RxFilter where
  filter := Memory.write (fun _ => 0) cpuHdrOffset
    (selectedFields flags (htons rxKey.devPort) (htons rxKey.bd) (htons (rxKey.reasonCode.setWidth 16))
      (htons (rxKey.ifindex.setWidth 16))).bytes
  mask :=
    let ones := (bitMask (8 * 2)).setWidth 16
    Memory.write (fun _ => 0) cpuHdrOffset (selectedFields flags ones ones ones ones).bytes
  filterSize := switchEthernetHeaderSize + switchCpuHeaderSize + switchFabricHeaderSize
  pktMutation := if knetHostifHandle ≠ 0 then [.strip etherTypeOffset switchPacketHeaderSize] else []

/-- `switch_pktdriver_tx_filter_action_t`, as far as it is read -/
structure TxFilterAction where
  bypassFlags : BitVec 16 := 0
  bd : BitVec 16 := 0
  devPort : BitVec 16 := 0

abbrev switchBypassAll : BitVec 16 := 0xFFFF
abbrev switchInvalidHwPort : BitVec 16 := 0x1FF
abbrev switchFabricHeaderEthtype : BitVec 16 := 0x9000
abbrev switchFabricHeaderTypeCpu : BitVec 3 := 5
abbrev txEgressQueueDefault : BitVec 5 := 7

/-- The header that `switch_knet_tx_filter_create` fills -/
def txPacketHeader (txAction : TxFilterAction) : SwitchPacketHeader where
  fabricHeader := {
    etherType := htons switchFabricHeaderEthtype
    packetType := switchFabricHeaderTypeCpu
    dstPortOrGroup :=
      if txAction.bypassFlags = switchBypassAll then htons txAction.devPort else switchInvalidHwPort }
  cpuHeader := {
    txBypass := if txAction.bypassFlags = switchBypassAll then 1 else 0
    ingressBd := if txAction.bypassFlags = switchBypassAll then 0 else htons txAction.bd
    reasonCode := htons txAction.bypassFlags
    egressQueue := txEgressQueueDefault }

/-- `switch_knet_tx_filter_create` fails when `BF_KNET_DATA_BYTES_MAX` is too small. -/
def switchKnetTxFilterCreate (dataBytesMax : Nat) (txAction : TxFilterAction) : Option PacketMutation :=
  if etherTypeOffset + switchPacketHeaderSize < dataBytesMax then
    some (.insert etherTypeOffset (txPacketHeader txAction).bytes)
  else none

/-- The filter that `switch_api_hostif_create` adds for an interface -/
def hostifRxFilter (devPort : BitVec 16) (knetHostifHandle : BitVec 64) : RxFilter :=
  switchKnetRxFilterCreate rxFilterAttrDevPort { devPort } knetHostifHandle

/-- The action that `switch_api_hostif_create` adds for an interface -/
def hostifTxAction (dataBytesMax : Nat) (devPort : BitVec 16) : Option PacketMutation :=
  switchKnetTxFilterCreate dataBytesMax { bypassFlags := switchBypassAll, devPort }

end IgwP4.Setup
