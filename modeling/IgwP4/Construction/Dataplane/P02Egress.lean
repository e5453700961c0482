/-
This file gives the controls of `P02_Egress` in the order in which the pipe applies them.
-/

import IgwP4.Construction.Dataplane.ControlStates

namespace IgwP4.Dataplane.P02Egress

/-! `DecapMetaData_I2E02` -/

def egDecapMd02 (sip dip : BitVec 128) (s : EgressState) : EgressState :=
  { s with
    metadata.l3 := { s.metadata.l3 with
      lkpSip := sip
      lkpDip := dip
      lkpL4Sport := s.hdr.bgMd.fields.lkpL4Sport
      lkpL4Dport := s.hdr.bgMd.fields.lkpL4Dport }
    metadata.ratelimit.bandwidthId := s.hdr.bgMd.fields.eipOrBwid }

def egDecapMd02Nop (s : EgressState) : EgressState :=
  { s with metadata.l3 := { s.metadata.l3 with
      lkpSip := 0, lkpDip := 0, lkpL4Sport := 0, lkpL4Dport := 0 } }

def decapMetaDataI2E02 (s : EgressState) : EgressState :=
  match s.hdr.innerIpv4.valid, s.hdr.innerIpv6.valid with
  | true, false => egDecapMd02 (s.hdr.innerIpv4.fields.srcAddr.setWidth 128)
      (s.hdr.innerIpv4.fields.dstAddr.setWidth 128) s
  | false, true => egDecapMd02 s.hdr.innerIpv6.fields.srcAddr s.hdr.innerIpv6.fields.dstAddr s
  | false, false => egDecapMd02Nop s
  | true, true => s

/-! `InternetInProcess` -/

/-- Both standard VXLAN actions rewrite the tunnel headers alike. -/
def rewriteTunnelStd (s : EgressState) : EgressState :=
  { s with
    hdr.vxlan.fields := { s.hdr.vxlan.fields with flags := 0x08, version := 0, tof := 0 }
    hdr.udp.fields := { s.hdr.udp.fields with
      srcPort := s.hdr.bgMd.fields.l3EcmpEntryIdx, dstPort := udpPortVxlan, checksum := 0 } }

def rewriteStdVxlan (s : EgressState) : EgressState :=
  { rewriteTunnelStd s with
    hdr.innerIpv4.fields.ttl := s.hdr.innerIpv4.fields.ttl - 1
    metadata.tunnel.innerIpv4ChecksumEn := true }

def rewrite6StdVxlan : EgressState → EgressState := rewriteTunnelStd

def rewriteVxlanProcess (s : EgressState) : EgressState :=
  match s.hdr.innerIpv4.valid, s.hdr.innerIpv6.valid with
  | true, false => rewriteStdVxlan s
  | false, true => rewrite6StdVxlan s
  | _, _ => s

def tunnelInnerRewrite (tables : Tables) (s : EgressState) : EgressState :=
  match tables.tunnelInnerRewrite s.hdr.bgMd.fields.innerMacId with
  | some macs => { s with hdr.innerEthernet.fields := { s.hdr.innerEthernet.fields with
      srcAddr := macs.smac, dstAddr := macs.dmac } }
  | none => s

/-- A destination id that exists and misses marks the packet for the drop. -/
def tunnelDstRewrite (tables : Tables) (s : EgressState) : EgressState :=
  match tables.tunnelDstRewrite s.hdr.bgMd.fields.tunnelDstId with
  | some ip => { s with hdr.ipv4.fields.dstAddr := ip }
  | none =>
      if s.hdr.bgMd.fields.tunnelDstId ≠ 0 then
        ({ s with hdr.bgMd.fields.needDrop := 1 } : EgressState).note .dstipDrop 1
      else s

def tunnelSrcRewrite (tables : Tables) (s : EgressState) : EgressState :=
  match tables.tunnelSrcRewrite s.hdr.bgMd.fields.tunnelSrcId with
  | some ip => { s with hdr.ipv4.fields.srcAddr := ip }
  | none => s

def internetInProcess (tables : Tables) (s : EgressState) : EgressState :=
  let s :=
    if s.hdr.vxlan.valid then
      let s := rewriteVxlanProcess s
      { s with hdr.vxlan.fields.vni := s.hdr.bgMd.fields.lkpVni }
    else s
  tunnelSrcRewrite tables (tunnelDstRewrite tables (tunnelInnerRewrite tables s))

/-! `EipOutMeter`, `EipOutSharedMeter` and `EipOutEgressPktStats` -/

/-- A miss leaves the colour that the bridge header holds. -/
def eipOutMeter (tables : Tables) (s : EgressState) : EgressState :=
  if s.hdr.innerIpv4.valid = true ∨ s.hdr.innerIpv6.valid = true then
    let noted := s.note .eipOutMeter s.metadata.ratelimit.bandwidthId.toNat
    match tables.eipOutMeter s.metadata.ratelimit.bandwidthId with
    | some color => { noted with hdr.bgMd.fields.meterPacketColor := color }
    | none => noted
  else s

def sharedBwRatelimit (tables : Tables) (s : EgressState) : EgressState :=
  let noted := s.note .eipOutSharedMeter s.hdr.bgMd.fields.sharedBandwidthId.toNat
  match tables.eipOutSharedMeter s.hdr.bgMd.fields.sharedBandwidthId with
  | some color => { noted with hdr.bgMd.fields.meterPacketColor := color }
  | none => noted

def sharedBwStats (s : EgressState) : EgressState :=
  s.note
    (if s.hdr.bgMd.fields.meterPacketColor ≠ colorRed then .outSharedValid else .outSharedDrop)
    s.hdr.bgMd.fields.sharedBandwidthId.toNat eip46OutEgressAdjust

def eipOutSharedMeter (tables : Tables) (s : EgressState) : EgressState :=
  if s.hdr.bgMd.fields.meterPacketColor ≠ colorRed ∧ s.hdr.innerIpv4.valid = true then
    sharedBwStats (sharedBwRatelimit tables s)
  else s

def eipOutEgressPktStats (s : EgressState) : EgressState :=
  let color := s.hdr.bgMd.fields.meterPacketColor
  if s.hdr.innerIpv4.valid then
    if color ≠ colorRed then
      s.note .eipOutEgress s.hdr.innerIpv4.fields.srcAddr.toNat eip46OutEgressAdjust
    else s.note .eipOutDrop s.hdr.innerIpv4.fields.srcAddr.toNat
  else if s.hdr.innerIpv6.valid then
    if color ≠ colorRed then
      s.note .eip6OutEgress s.hdr.innerIpv6.fields.srcAddr.toNat eip46OutEgressAdjust
    else s.note .eip6OutDrop s.hdr.innerIpv6.fields.srcAddr.toNat
  else s

/-! `InternetOutProcess` -/

/-- The four tunnel headers go. -/
def decapTunnel (s : EgressState) : EgressState :=
  { s with
    hdr.innerEthernet := s.hdr.innerEthernet.setInvalid
    hdr.vxlan := s.hdr.vxlan.setInvalid
    hdr.udp := s.hdr.udp.setInvalid
    hdr.ipv4 := s.hdr.ipv4.setInvalid }

def internetOutDecapVxlan (s : EgressState) : EgressState :=
  { decapTunnel s with metadata.tunnel.innerIpv4ChecksumEn := true }

def internet6OutDecapVxlan (s : EgressState) : EgressState :=
  { decapTunnel s with hdr.ethernet.fields.etherType := etherTypeIpv6 }

def internetOutProcess (s : EgressState) : EgressState :=
  match s.hdr.innerIpv4.valid, s.hdr.innerIpv6.valid with
  | true, false => internetOutDecapVxlan s
  | false, true => internet6OutDecapVxlan s
  | _, _ => s

/-! `ProcessGwEgress` -/

def processGwEgress (tables : Tables) (s : EgressState) : EgressState :=
  if s.hdr.bgMd.fields.igrTunnelType = typeIngressInternetIn then internetInProcess tables s
  else
    internetOutProcess (eipOutEgressPktStats (eipOutSharedMeter tables (eipOutMeter tables s)))

/-! `EgressSystemAcl` -/

def copyEgressToSid (sid : BitVec 10) (s : EgressState) : EgressState :=
  { s with
    metadata.tunnel.sessionId := sid
    mirrorType := mirrorTypeE2E
    metadata.mirror := { s.metadata.mirror with
      proto := pktMirrMdEg
      flag := 1
      res := s.metadata.mirror.res ||| mirrorOutput
      timestamp := s.globalTstamp
      port := s.egressPort } }

def copyEgressToCpu : EgressState → EgressState := copyEgressToSid cpuMirrorSessionId

def systemAclDropPacket (s : EgressState) : EgressState := { s with dropCtl := 5 }

def systemAclDropMirrorPacket (s : EgressState) : EgressState :=
  copyEgressToCpu { s with dropCtl := 1 }

def egressAclKey (s : EgressState) : EgressAclKey where
  meterPacketColor := s.hdr.bgMd.fields.meterPacketColor
  ipv4IsValid := validBit s.hdr.ipv4.valid
  ipv4DstAddr := s.hdr.ipv4.fields.dstAddr
  ipv4SrcAddr := s.hdr.ipv4.fields.srcAddr
  ipv4Protocol := s.hdr.ipv4.fields.protocol
  lkpOuterL4Sport := s.metadata.l3.lkpOuterL4Sport
  lkpOuterL4Dport := s.metadata.l3.lkpOuterL4Dport
  lkpDip := s.metadata.l3.lkpDip
  lkpL4Dport := s.metadata.l3.lkpL4Dport
  lkpSip := s.metadata.l3.lkpSip
  lkpL4Sport := s.metadata.l3.lkpL4Sport
  lkpIpProto := s.metadata.l3.lkpIpProto
  vxlanIsValid := validBit s.hdr.vxlan.valid
  vxlanVni := s.hdr.vxlan.fields.vni
  needDrop := s.hdr.bgMd.fields.needDrop
  tunnelDirectSend := s.hdr.bgMd.fields.tunnelDirectSend
  vxlanTof := s.hdr.vxlan.fields.tof
  igrTunnelType := s.hdr.bgMd.fields.igrTunnelType

def egressSystemAcl (tables : Tables) (s : EgressState) : EgressState :=
  if s.egressPort ≠ cpuPort then
    let noted := s.note .egressSystemAcl 0
    match tables.egressSystemAcl (egressAclKey s) with
    | .copyEgressToCpu => copyEgressToCpu noted
    | .copyEgressToSid sid => copyEgressToSid sid noted
    | .systemAclDropPacket => systemAclDropPacket noted
    | .systemAclDropMirrorPacket => systemAclDropMirrorPacket noted
    | .nop => noted
  else s

/-! `EgressPortStats`, `RewriteOuterMac` and `ProcessMirror` -/

def egressPortStats (s : EgressState) : EgressState :=
  if s.hdr.bgMd.fields.needDrop ≠ 1 then s.note .egressPort s.egressPort.toNat brAdjustBytes else s

def rewriteOuterMac (tables : Tables) (s : EgressState) : EgressState :=
  match tables.tunnelMacRewrite s.egressPort with
  | some macs => { s with hdr.ethernet.fields := { s.hdr.ethernet.fields with
      srcAddr := macs.smac, dstAddr := macs.dmac } }
  | none => s

def addCpuHeader (fresh : Headers) (s : EgressState) : EgressState :=
  let fabric := s.hdr.fabric.setValid fresh.fabric.fields
  let cpu := s.hdr.cpu.setValid fresh.cpu.fields
  { s with
    hdr.fabric := { fabric with fields := {
      reserved := 0
      color := 0
      qos := 0
      reserved2 := 0
      dstPortOrGroup := 0 } }
    hdr.cpu := { cpu with fields := { cpu.fields with
      egressQueue := 0
      txBypass := 0
      reserved := 0
      ingressPort := mirrorDevPort
      etherType := s.hdr.ethernet.fields.etherType } }
    hdr.ethernet.fields.etherType := etherTypeBfn }

/-- The copy carries the reason and the port in its destination address. -/
def cloneToCpu (fresh : Headers) (s : EgressState) : EgressState :=
  let address := s.hdr.ethernet.fields.dstAddr
  addCpuHeader fresh { s with hdr.ethernet.fields := { s.hdr.ethernet.fields with
    dstAddr := (s.metadata.mirror.res ++ address.extractLsb' 33 7 ++ s.metadata.mirror.port ++
      address.extractLsb' 0 24).setWidth 48
    srcAddr := s.metadata.mirror.timestamp } }

def processMirror (tables : Tables) (fresh : Headers) (s : EgressState) : EgressState :=
  let s := if tables.mirror s.metadata.mirror.flag then cloneToCpu fresh s else s
  let meterPacketColor := (tables.mirrorRl s.metadata.mirror.flag).getD 0
  if tables.mirrorDrop meterPacketColor then { s with dropCtl := 0x1 } else s

/-! `P02_Egress.apply` -/

/-- The outer Ethernet header comes back without its addresses. -/
def restore (fresh : Headers) (s : EgressState) : EgressState :=
  if s.hdr.bgMd.valid then
    decapMetaDataI2E02
      (if s.hdr.bgMd.fields.outerEthernetInvalid = 1 then
        { s with hdr.ethernet := ⟨true, { (s.hdr.ethernet.setValid fresh.ethernet.fields).fields with
            etherType := s.hdr.bgMd.fields.outerEthernetType }⟩ }
      else s)
  else s

/-- This part runs on every packet that is no mirror copy. -/
def deliver (tables : Tables) (s : EgressState) : EgressState :=
  let s :=
    if s.hdr.bgMd.fields.tunnelDirectSend = matchPacket then processGwEgress tables s else s
  let s := egressPortStats (egressSystemAcl tables s)
  if s.hdr.bgMd.fields.matchOrDl then rewriteOuterMac tables s else s

def apply (tables : Tables) (fresh : Headers) (s : EgressState) : EgressState :=
  let s := restore fresh s
  let s := if s.metadata.mirror.flag ≠ 0 then processMirror tables fresh s else deliver tables s
  if s.hdr.bgMd.valid then { s with hdr.bgMd := s.hdr.bgMd.setInvalid } else s

end IgwP4.Dataplane.P02Egress
