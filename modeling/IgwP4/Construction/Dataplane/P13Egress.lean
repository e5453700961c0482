/-
This file gives the controls of `P13_Egress` in the order in which the pipe applies them.
-/

import IgwP4.Construction.Dataplane.ControlStates

namespace IgwP4.Dataplane.P13Egress

/-! `DecapMetaData_I2E13` -/

def egDecapMd13V4 (s : EgressState) : EgressState :=
  { s with
    metadata.l3 := { s.metadata.l3 with
      lkpSip := s.hdr.innerIpv4.fields.srcAddr.setWidth 128
      lkpDip := s.hdr.innerIpv4.fields.dstAddr.setWidth 128
      lkpL4Sport := s.hdr.bgMd.fields.lkpL4Sport
      lkpL4Dport := s.hdr.bgMd.fields.lkpL4Dport }
    hdr.bgMd.fields.eipOrBwid := s.hdr.innerIpv4.fields.dstAddr }

/-- The direct actions take the outer protocol and ports for the lookups. -/
def egDecapMd13Direct (sip dip : BitVec 128) (s : EgressState) : EgressState :=
  { s with
    metadata.l3 := { s.metadata.l3 with
      lkpSip := sip
      lkpDip := dip
      lkpIpProto := s.metadata.l3.lkpOuterIpProto
      lkpL4Sport := s.metadata.l3.lkpOuterL4Sport
      lkpL4Dport := s.metadata.l3.lkpOuterL4Dport } }

def egDecapMd13V4NoDl (s : EgressState) : EgressState :=
  let s := egDecapMd13Direct (s.hdr.ipv4.fields.srcAddr.setWidth 128)
    (s.hdr.ipv4.fields.dstAddr.setWidth 128) s
  { s with hdr.bgMd.fields.eipOrBwid := s.hdr.ipv4.fields.dstAddr }

def egDecapMd13V6 (s : EgressState) : EgressState :=
  egDecapMd13Direct s.hdr.ipv6.fields.srcAddr s.hdr.ipv6.fields.dstAddr s

def decapMetaDataI2E13 (s : EgressState) : EgressState :=
  match s.hdr.vxlan.valid, s.hdr.innerIpv4.valid, s.hdr.ipv6.valid with
  | true, true, false => egDecapMd13V4 s
  | false, false, false => egDecapMd13V4NoDl s
  | false, false, true => egDecapMd13V6 s
  | _, _, _ => s

/-! `EnCapVxlan` -/

/-- The checksum is not copied, since the deparser of the last pipe computes it again. -/
def copyIpv4Header (contents : Ipv4) (s : EgressState) : EgressState :=
  let innerIpv4 := s.hdr.innerIpv4.setValid contents
  { s with
    hdr.innerIpv4 := { innerIpv4 with fields := { s.hdr.ipv4.fields with
      hdrChecksum := innerIpv4.fields.hdrChecksum } }
    hdr.ipv4 := s.hdr.ipv4.setInvalid }

/-- The transport header moves inside. -/
def moveUdp (s : EgressState) : EgressState :=
  { s with hdr.innerUdp := s.hdr.udp, hdr.udp := s.hdr.udp.setInvalid }

def moveTcp (s : EgressState) : EgressState :=
  { s with hdr.innerTcp := s.hdr.tcp, hdr.tcp := s.hdr.tcp.setInvalid }

def moveIpv6 (s : EgressState) : EgressState :=
  { s with hdr.innerIpv6 := s.hdr.ipv6, hdr.ipv6 := s.hdr.ipv6.setInvalid }

/-- Each action returns the payload length beside the state. -/
def rewriteInnerIpv4Udp (contents : Ipv4) (s : EgressState) : EgressState × BitVec 16 :=
  (moveUdp (copyIpv4Header contents s), s.hdr.ipv4.fields.totalLen)

def rewriteInnerIpv4Tcp (contents : Ipv4) (s : EgressState) : EgressState × BitVec 16 :=
  (moveTcp (copyIpv4Header contents s), s.hdr.ipv4.fields.totalLen)

def rewriteInnerIpv4Unknown (contents : Ipv4) (s : EgressState) : EgressState × BitVec 16 :=
  (copyIpv4Header contents s, s.hdr.ipv4.fields.totalLen)

def rewriteInnerIpv6Udp (s : EgressState) : EgressState × BitVec 16 :=
  (moveUdp (moveIpv6 s), s.hdr.ipv6.fields.payloadLen + 40)

def rewriteInnerIpv6Tcp (s : EgressState) : EgressState × BitVec 16 :=
  (moveTcp (moveIpv6 s), s.hdr.ipv6.fields.payloadLen + 40)

def rewriteInnerIpv6Unknown (s : EgressState) : EgressState × BitVec 16 :=
  (moveIpv6 s, s.hdr.ipv6.fields.payloadLen + 40)

/-- A miss leaves the control's own length variable unassigned. -/
def encapOuter (fresh : Headers) (s : EgressState) : EgressState × BitVec 16 :=
  match s.hdr.ipv4.valid, s.hdr.udp.valid, s.hdr.tcp.valid, s.hdr.ipv6.valid with
  | true, false, false, false => rewriteInnerIpv4Unknown fresh.innerIpv4.fields s
  | true, true, false, false => rewriteInnerIpv4Udp fresh.innerIpv4.fields s
  | true, false, true, false => rewriteInnerIpv4Tcp fresh.innerIpv4.fields s
  | false, false, false, true => rewriteInnerIpv6Unknown s
  | false, true, false, true => rewriteInnerIpv6Udp s
  | false, false, true, true => rewriteInnerIpv6Tcp s
  | _, _, _, _ => (s, fresh.ipv4.fields.totalLen)

def addUdpHeader (contents : Udp) (srcPort dstPort : BitVec 16) (s : EgressState) : EgressState :=
  let udp := s.hdr.udp.setValid contents
  { s with hdr.udp := { udp with fields := { udp.fields with srcPort, dstPort, checksum := 0 } } }

def addVxlanHeader (contents : Vxlan) (s : EgressState) : EgressState :=
  let vxlan := s.hdr.vxlan.setValid contents
  { s with hdr.vxlan := { vxlan with fields := { vxlan.fields with flags := 0x08, tof := 0 } } }

def addIpv4Header (contents : Ipv4) (protocol : BitVec 8) (s : EgressState) : EgressState :=
  let ipv4 := s.hdr.ipv4.setValid contents
  { s with hdr.ipv4 := { ipv4 with fields := { ipv4.fields with
    version := 4
    ihl := 5
    identification := 0
    flags := 0x2
    fragOffset := 0
    protocol
    ttl := 64
    dscp := 0 } } }

def rewriteIpv4Vxlan (fresh : Headers) (payloadLen : BitVec 16) (s : EgressState) : EgressState :=
  let innerEthernet := s.hdr.innerEthernet.setValid fresh.innerEthernet.fields
  let s := { s with hdr.innerEthernet := { innerEthernet with fields := { innerEthernet.fields with
    etherType := s.hdr.bgMd.fields.outerEthernetType } } }
  let s := addIpv4Header fresh.ipv4.fields ipProtocolsUdp s
  let s := { s with hdr.ipv4.fields.totalLen := payloadLen + 50 }
  let s := addUdpHeader fresh.udp.fields 0 udpPortVxlan s
  let s := { s with hdr.udp.fields.length := payloadLen + 30 }
  let s := addVxlanHeader fresh.vxlan.fields s
  { s with hdr.ethernet.fields.etherType := etherTypeIpv4 }

/-- `add_vxlan` runs its one action on every key. -/
def enCapVxlan (fresh : Headers) (s : EgressState) : EgressState :=
  let (s, payloadLen) := encapOuter fresh s
  let s := rewriteIpv4Vxlan fresh payloadLen s
  { s with hdr.bgMd.fields.outerEthernetType := etherTypeIpv4 }

/-! `EipInRedirect` -/

def eipInNop (s : EgressState) : EgressState :=
  { s with hdr.bgMd.fields.sharedBandwidthId := 0 }

def eipInSetBwId (data : EipInBwId) (s : EgressState) : EgressState :=
  { s with
    hdr.bgMd.fields := { s.hdr.bgMd.fields with
      sharedBandwidthId := data.sharedBandwidthId
      nlbEip := data.nlbEip }
    metadata.ratelimit := { s.metadata.ratelimit with
      bandwidthId := data.bandwidthId
      withinCluster := data.withinCluster
      betweenCluster := data.betweenCluster } }

def eipInEntry (entry : Option EipInBwId) (s : EgressState) : EgressState :=
  match entry with
  | some data => eipInSetBwId data s
  | none => eipInNop s

def rewriteAzInJdVxlan (sharedBwVip : BitVec 32) (s : EgressState) : EgressState :=
  { s with
    hdr.vxlan.fields := { s.hdr.vxlan.fields with
      flags := 0x0c, version := 1, vni := 99, tof := tofAzIn }
    hdr.udp.fields.srcPort := 50
    hdr.ipv4.fields.dstAddr := sharedBwVip
    hdr.bgMd.fields.tunnelDirectSend := dlPacket }

def rewriteEipInJdVxlan (srcip : BitVec 32) (s : EgressState) : EgressState :=
  { s with
    hdr.vxlan.fields := { s.hdr.vxlan.fields with
      flags := 0x0c, version := 1, vni := 125, tof := tofEipIn }
    hdr.udp.fields.srcPort := 250
    hdr.ipv4.fields.srcAddr := srcip
    hdr.bgMd.fields.tunnelDirectSend := dlPacket }

def modifyJdVxlanKey (s : EgressState) : ModifyJdVxlanKey where
  vxlanIsValid := validBit s.hdr.vxlan.valid
  vxlanTof := s.hdr.vxlan.fields.tof
  betweenCluster := s.metadata.ratelimit.betweenCluster
  withinCluster := s.metadata.ratelimit.withinCluster

def selectRedirectIpIn (tables : Tables) (s : EgressState) : EgressState :=
  match tables.selectRedirectIpIn (validBit s.hdr.vxlan.valid)
      (hashIndex s.metadata.ratelimit.bandwidthId s.hdr.bgMd.fields.sharedBandwidthId) with
  | some dlIp => { s with hdr.ipv4.fields.dstAddr := dlIp }
  | none => s

/-- The two redirect tables are keyed by the inner destination of their family. -/
def eipInLookup (tables : Tables) (s : EgressState) : EgressState :=
  if s.hdr.innerIpv4.valid then
    eipInEntry (tables.eipInRedirect s.hdr.innerIpv4.fields.dstAddr) s
  else if s.hdr.innerIpv6.valid then
    eipInEntry (tables.eip6InRedirect s.hdr.innerIpv6.fields.dstAddr) s
  else s

def modifyJdVxlanIn (tables : Tables) (s : EgressState) : EgressState :=
  match tables.modifyJdVxlanIn (modifyJdVxlanKey s) with
  | some (.rewriteEip srcip) => selectRedirectIpIn tables (rewriteEipInJdVxlan srcip s)
  | some (.rewriteAz sharedBwVip) => rewriteAzInJdVxlan sharedBwVip s
  | none => s

def eipInRedirect (tables : Tables) (s : EgressState) : EgressState :=
  modifyJdVxlanIn tables (eipInLookup tables s)

/-! `EipInMeter` and `P13_Egress.apply` -/

/-- A miss leaves the colour that the bridge header holds. -/
def eipInMeter (tables : Tables) (s : EgressState) : EgressState :=
  if s.hdr.innerIpv4.valid = true ∨ s.hdr.innerIpv6.valid = true then
    let noted := s.note .eipInMeter s.metadata.ratelimit.bandwidthId.toNat
    match tables.eipInMeter s.metadata.ratelimit.bandwidthId with
    | some color => { noted with hdr.bgMd.fields.meterPacketColor := color }
    | none => noted
  else s

def encap (fresh : Headers) (s : EgressState) : EgressState :=
  if s.hdr.bgMd.fields.dlPkt = 0 ∧ s.hdr.vxlan.valid = false then enCapVxlan fresh s else s

def apply (tables : Tables) (fresh : Headers) (s : EgressState) : EgressState :=
  if s.metadata.mirror.flag ≠ 0 then s
  else
    let s := eipInRedirect tables (encap fresh (decapMetaDataI2E13 s))
    if s.hdr.bgMd.fields.tunnelDirectSend = matchPacket then eipInMeter tables s else s

end IgwP4.Dataplane.P13Egress
