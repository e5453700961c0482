/-
This file gives the headers of `p4src/common/header.h` with their wire layouts.
-/

import IgwP4.Construction.Packet.Codec

namespace IgwP4.Dataplane
open Packet

/-- A header instance keeps its fields when its validity bit is off. -/
structure Header (A : Type) where
  valid : Bool
  fields : A
deriving DecidableEq, Inhabited

namespace Header

variable {A : Type}

/-- `setValid` leaves a valid header alone and gives an invalid one unspecified contents. -/
def setValid (header : Header A) (contents : A) : Header A :=
  if header.valid then header else ⟨true, contents⟩

def setInvalid (header : Header A) : Header A := { header with valid := false }

/-- The deparser writes a header only when it is valid. -/
def emit (codec : Codec A) (header : Header A) : Bits :=
  if header.valid then codec.encode header.fields else []

@[simp] theorem emit_valid (codec : Codec A) (fields : A) :
    emit codec ⟨true, fields⟩ = codec.encode fields := rfl

@[simp] theorem emit_invalid (codec : Codec A) (fields : A) :
    emit codec ⟨false, fields⟩ = [] := rfl

theorem emit_of_invalid (codec : Codec A) (header : Header A) (off : header.valid = false) :
    header.emit codec = [] := by
  simp [emit, off]

@[simp] theorem setInvalid_valid (header : Header A) : header.setInvalid.valid = false := rfl

@[simp] theorem setInvalid_fields (header : Header A) :
    header.setInvalid.fields = header.fields := rfl

theorem setValid_of_invalid (header : Header A) (contents : A) (off : header.valid = false) :
    header.setValid contents = ⟨true, contents⟩ := by
  simp [setValid, off]

@[simp] theorem setValid_valid (header : Header A) (contents : A) :
    (header.setValid contents).valid = true := by
  cases on : header.valid <;> simp [setValid, on]

@[simp] theorem emit_setInvalid (codec : Codec A) (header : Header A) :
    header.setInvalid.emit codec = [] := rfl

end Header

/-- `ethernet_t` -/
structure Ethernet where
  dstAddr : BitVec 48
  srcAddr : BitVec 48
  etherType : BitVec 16
deriving DecidableEq, Inhabited

def Ethernet.codec : Codec Ethernet :=
  ((Codec.word 48).pair ((Codec.word 48).pair (Codec.word 16))).transport
    { toFun := fun h => (h.dstAddr, h.srcAddr, h.etherType)
      invFun := fun t => ⟨t.1, t.2.1, t.2.2⟩
      left_inv := fun _ => rfl
      right_inv := fun _ => rfl }

/-- `ipv4_t` -/
structure Ipv4 where
  version : BitVec 4
  ihl : BitVec 4
  dscp : BitVec 6
  ecn : BitVec 2
  totalLen : BitVec 16
  identification : BitVec 16
  flags : BitVec 3
  fragOffset : BitVec 13
  ttl : BitVec 8
  protocol : BitVec 8
  hdrChecksum : BitVec 16
  srcAddr : BitVec 32
  dstAddr : BitVec 32
deriving DecidableEq, Inhabited

def Ipv4.codec : Codec Ipv4 :=
  ((Codec.word 4).pair ((Codec.word 4).pair ((Codec.word 6).pair ((Codec.word 2).pair
    ((Codec.word 16).pair ((Codec.word 16).pair ((Codec.word 3).pair ((Codec.word 13).pair
    ((Codec.word 8).pair ((Codec.word 8).pair ((Codec.word 16).pair
    ((Codec.word 32).pair (Codec.word 32))))))))))))).transport
    { toFun := fun h => (h.version, h.ihl, h.dscp, h.ecn, h.totalLen, h.identification, h.flags,
        h.fragOffset, h.ttl, h.protocol, h.hdrChecksum, h.srcAddr, h.dstAddr)
      invFun := fun (version, ihl, dscp, ecn, totalLen, identification, flags, fragOffset, ttl,
        protocol, hdrChecksum, srcAddr, dstAddr) => ⟨version, ihl, dscp, ecn, totalLen,
        identification, flags, fragOffset, ttl, protocol, hdrChecksum, srcAddr, dstAddr⟩
      left_inv := fun _ => rfl
      right_inv := fun _ => rfl }

/-- `option_word_t` -/
abbrev OptionWord := BitVec 32

def OptionWord.codec : Codec OptionWord := Codec.word 32

/-- `ipv6_t` -/
structure Ipv6 where
  version : BitVec 4
  trafficClass : BitVec 8
  flowLabel : BitVec 20
  payloadLen : BitVec 16
  nextHdr : BitVec 8
  hopLimit : BitVec 8
  srcAddr : BitVec 128
  dstAddr : BitVec 128
deriving DecidableEq, Inhabited

def Ipv6.codec : Codec Ipv6 :=
  ((Codec.word 4).pair ((Codec.word 8).pair ((Codec.word 20).pair ((Codec.word 16).pair
    ((Codec.word 8).pair ((Codec.word 8).pair
    ((Codec.word 128).pair (Codec.word 128)))))))).transport
    { toFun := fun h => (h.version, h.trafficClass, h.flowLabel, h.payloadLen, h.nextHdr,
        h.hopLimit, h.srcAddr, h.dstAddr)
      invFun := fun (version, trafficClass, flowLabel, payloadLen, nextHdr, hopLimit, srcAddr,
        dstAddr) => ⟨version, trafficClass, flowLabel, payloadLen, nextHdr, hopLimit, srcAddr,
        dstAddr⟩
      left_inv := fun _ => rfl
      right_inv := fun _ => rfl }

/-- `tcp_t` -/
structure Tcp where
  srcPort : BitVec 16
  dstPort : BitVec 16
  seqNo : BitVec 32
  ackNo : BitVec 32
  dataOffset : BitVec 4
  res : BitVec 4
  flags : BitVec 8
  window : BitVec 16
  checksum : BitVec 16
  urgentPtr : BitVec 16
deriving DecidableEq, Inhabited

def Tcp.codec : Codec Tcp :=
  ((Codec.word 16).pair ((Codec.word 16).pair ((Codec.word 32).pair ((Codec.word 32).pair
    ((Codec.word 4).pair ((Codec.word 4).pair ((Codec.word 8).pair ((Codec.word 16).pair
    ((Codec.word 16).pair (Codec.word 16)))))))))).transport
    { toFun := fun h => (h.srcPort, h.dstPort, h.seqNo, h.ackNo, h.dataOffset, h.res, h.flags,
        h.window, h.checksum, h.urgentPtr)
      invFun := fun (srcPort, dstPort, seqNo, ackNo, dataOffset, res, flags, window, checksum,
        urgentPtr) => ⟨srcPort, dstPort, seqNo, ackNo, dataOffset, res, flags, window, checksum,
        urgentPtr⟩
      left_inv := fun _ => rfl
      right_inv := fun _ => rfl }

/-- `udp_t` -/
structure Udp where
  srcPort : BitVec 16
  dstPort : BitVec 16
  length : BitVec 16
  checksum : BitVec 16
deriving DecidableEq, Inhabited

def Udp.codec : Codec Udp :=
  ((Codec.word 16).pair ((Codec.word 16).pair ((Codec.word 16).pair (Codec.word 16)))).transport
    { toFun := fun h => (h.srcPort, h.dstPort, h.length, h.checksum)
      invFun := fun (srcPort, dstPort, length, checksum) => ⟨srcPort, dstPort, length, checksum⟩
      left_inv := fun _ => rfl
      right_inv := fun _ => rfl }

/-- `icmp_t` -/
structure Icmp where
  typeNum : BitVec 8
  code : BitVec 8
  hdrChecksum : BitVec 16
deriving DecidableEq, Inhabited

def Icmp.codec : Codec Icmp :=
  ((Codec.word 8).pair ((Codec.word 8).pair (Codec.word 16))).transport
    { toFun := fun h => (h.typeNum, h.code, h.hdrChecksum)
      invFun := fun (typeNum, code, hdrChecksum) => ⟨typeNum, code, hdrChecksum⟩
      left_inv := fun _ => rfl
      right_inv := fun _ => rfl }

/-- `vxlan_t` -/
structure Vxlan where
  flags : BitVec 8
  version : BitVec 4
  reserved : BitVec 20
  vni : BitVec 24
  tof : BitVec 4
  reserved2 : BitVec 4
deriving DecidableEq, Inhabited

def Vxlan.codec : Codec Vxlan :=
  ((Codec.word 8).pair ((Codec.word 4).pair ((Codec.word 20).pair ((Codec.word 24).pair
    ((Codec.word 4).pair (Codec.word 4)))))).transport
    { toFun := fun h => (h.flags, h.version, h.reserved, h.vni, h.tof, h.reserved2)
      invFun := fun (flags, version, reserved, vni, tof, reserved2) =>
        ⟨flags, version, reserved, vni, tof, reserved2⟩
      left_inv := fun _ => rfl
      right_inv := fun _ => rfl }

/-- `fabric_h` -/
structure Fabric where
  reserved : BitVec 8
  color : BitVec 3
  qos : BitVec 5
  reserved2 : BitVec 8
  dstPortOrGroup : BitVec 16
deriving DecidableEq, Inhabited

def Fabric.codec : Codec Fabric :=
  ((Codec.word 8).pair ((Codec.word 3).pair ((Codec.word 5).pair ((Codec.word 8).pair
    (Codec.word 16))))).transport
    { toFun := fun h => (h.reserved, h.color, h.qos, h.reserved2, h.dstPortOrGroup)
      invFun := fun (reserved, color, qos, reserved2, dstPortOrGroup) =>
        ⟨reserved, color, qos, reserved2, dstPortOrGroup⟩
      left_inv := fun _ => rfl
      right_inv := fun _ => rfl }

/-- `cpu_h` -/
structure Cpu where
  egressQueue : BitVec 5
  txBypass : BitVec 1
  captureTs : BitVec 1
  reserved : BitVec 1
  ingressPort : BitVec 16
  ingressIfindex : BitVec 16
  ingressBd : BitVec 16
  reasonCode : BitVec 16
  etherType : BitVec 16
deriving DecidableEq, Inhabited

def Cpu.codec : Codec Cpu :=
  ((Codec.word 5).pair ((Codec.word 1).pair ((Codec.word 1).pair ((Codec.word 1).pair
    ((Codec.word 16).pair ((Codec.word 16).pair ((Codec.word 16).pair
    ((Codec.word 16).pair (Codec.word 16))))))))).transport
    { toFun := fun h => (h.egressQueue, h.txBypass, h.captureTs, h.reserved, h.ingressPort,
        h.ingressIfindex, h.ingressBd, h.reasonCode, h.etherType)
      invFun := fun (egressQueue, txBypass, captureTs, reserved, ingressPort, ingressIfindex,
        ingressBd, reasonCode, etherType) => ⟨egressQueue, txBypass, captureTs, reserved,
        ingressPort, ingressIfindex, ingressBd, reasonCode, etherType⟩
      left_inv := fun _ => rfl
      right_inv := fun _ => rfl }

/-- `bridge_metadata_t` as `__SDE_9_7_SUPPORT__` declares it -/
structure BridgeMetadata where
  proto : BitVec 8
  tunnelSrcId : BitVec 8
  l3EcmpEntryIdx : BitVec 16
  sharedBandwidthId : BitVec 16
  tunnelNexthop : BitVec 16
  innerMacId : BitVec 16
  pad0 : BitVec 7
  igrPort : BitVec 9
  outerEthernetType : BitVec 16
  eipOrBwid : BitVec 32
  lkpVni : BitVec 24
  dlPkt : BitVec 1
  pad01 : BitVec 3
  igrTunnelType : BitVec 3
  outerEthernetInvalid : BitVec 1
  needDrop : BitVec 1
  pad02 : BitVec 3
  tunnelDstId : BitVec 12
  tunnelDirectSend : BitVec 3
  nlbEip : BitVec 1
  meterPacketColor : BitVec 2
  egrTunnelType : BitVec 2
  lkpL4Sport : BitVec 16
  lkpL4Dport : BitVec 16
deriving DecidableEq, Inhabited

def BridgeMetadata.codec : Codec BridgeMetadata :=
  ((Codec.word 8).pair ((Codec.word 8).pair ((Codec.word 16).pair ((Codec.word 16).pair
    ((Codec.word 16).pair ((Codec.word 16).pair ((Codec.word 7).pair ((Codec.word 9).pair
    ((Codec.word 16).pair ((Codec.word 32).pair ((Codec.word 24).pair ((Codec.word 1).pair
    ((Codec.word 3).pair ((Codec.word 3).pair ((Codec.word 1).pair ((Codec.word 1).pair
    ((Codec.word 3).pair ((Codec.word 12).pair ((Codec.word 3).pair ((Codec.word 1).pair
    ((Codec.word 2).pair ((Codec.word 2).pair
    ((Codec.word 16).pair (Codec.word 16)))))))))))))))))))))))).transport
    { toFun := fun h => (h.proto, h.tunnelSrcId, h.l3EcmpEntryIdx, h.sharedBandwidthId,
        h.tunnelNexthop, h.innerMacId, h.pad0, h.igrPort, h.outerEthernetType, h.eipOrBwid,
        h.lkpVni, h.dlPkt, h.pad01, h.igrTunnelType, h.outerEthernetInvalid, h.needDrop, h.pad02,
        h.tunnelDstId, h.tunnelDirectSend, h.nlbEip, h.meterPacketColor, h.egrTunnelType,
        h.lkpL4Sport, h.lkpL4Dport)
      invFun := fun (proto, tunnelSrcId, l3EcmpEntryIdx, sharedBandwidthId, tunnelNexthop,
        innerMacId, pad0, igrPort, outerEthernetType, eipOrBwid, lkpVni, dlPkt, pad01,
        igrTunnelType, outerEthernetInvalid, needDrop, pad02, tunnelDstId, tunnelDirectSend,
        nlbEip, meterPacketColor, egrTunnelType, lkpL4Sport, lkpL4Dport) =>
        ⟨proto, tunnelSrcId, l3EcmpEntryIdx, sharedBandwidthId, tunnelNexthop, innerMacId, pad0,
        igrPort, outerEthernetType, eipOrBwid, lkpVni, dlPkt, pad01, igrTunnelType,
        outerEthernetInvalid, needDrop, pad02, tunnelDstId, tunnelDirectSend, nlbEip,
        meterPacketColor, egrTunnelType, lkpL4Sport, lkpL4Dport⟩
      left_inv := fun _ => rfl
      right_inv := fun _ => rfl }

/--
This record is `headers_t`. The parsers only ever validate the option words as a prefix of the
ten and no control touches them, so they are the list of the valid words.
-/
structure Headers where
  bgMd : Header BridgeMetadata
  ethernet : Header Ethernet
  fabric : Header Fabric
  cpu : Header Cpu
  ipv4 : Header Ipv4
  ipv6 : Header Ipv6
  udp : Header Udp
  tcp : Header Tcp
  icmp : Header Icmp
  vxlan : Header Vxlan
  innerEthernet : Header Ethernet
  innerIpv4 : Header Ipv4
  innerOptionWords : List OptionWord
  innerIpv6 : Header Ipv6
  innerTcp : Header Tcp
  innerUdp : Header Udp
deriving DecidableEq, Inhabited

namespace Headers

/-- A parser starts with every header invalid and nothing assigned to the fields. -/
def unparsed (containers : Headers) : Headers where
  bgMd := containers.bgMd.setInvalid
  ethernet := containers.ethernet.setInvalid
  fabric := containers.fabric.setInvalid
  cpu := containers.cpu.setInvalid
  ipv4 := containers.ipv4.setInvalid
  ipv6 := containers.ipv6.setInvalid
  udp := containers.udp.setInvalid
  tcp := containers.tcp.setInvalid
  icmp := containers.icmp.setInvalid
  vxlan := containers.vxlan.setInvalid
  innerEthernet := containers.innerEthernet.setInvalid
  innerIpv4 := containers.innerIpv4.setInvalid
  innerOptionWords := []
  innerIpv6 := containers.innerIpv6.setInvalid
  innerTcp := containers.innerTcp.setInvalid
  innerUdp := containers.innerUdp.setInvalid

/-- The words are written one after the other. -/
def emitOptions (words : List OptionWord) : Bits := words.flatMap OptionWord.codec.encode

/-- This part of the emission follows the inner Ethernet header. -/
def emitInner (hdr : Headers) : Bits :=
  hdr.innerIpv4.emit Ipv4.codec ++ emitOptions hdr.innerOptionWords ++
    hdr.innerIpv6.emit Ipv6.codec ++ hdr.innerTcp.emit Tcp.codec ++ hdr.innerUdp.emit Udp.codec

/-- This part of the emission starts at the outer layer-three header. -/
def emitOuter (hdr : Headers) : Bits :=
  hdr.ipv4.emit Ipv4.codec ++ hdr.ipv6.emit Ipv6.codec ++ hdr.udp.emit Udp.codec ++
    hdr.tcp.emit Tcp.codec ++ hdr.icmp.emit Icmp.codec ++ hdr.vxlan.emit Vxlan.codec ++
    hdr.innerEthernet.emit Ethernet.codec

/-- `pkt.emit(hdr)` writes the valid headers in their declared order. -/
def emit (hdr : Headers) : Bits :=
  hdr.bgMd.emit BridgeMetadata.codec ++ hdr.ethernet.emit Ethernet.codec ++
    hdr.fabric.emit Fabric.codec ++ hdr.cpu.emit Cpu.codec ++ hdr.emitOuter ++ hdr.emitInner

end Headers

end IgwP4.Dataplane
