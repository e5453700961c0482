/-
This file gives the controls of `P02_Ingress` in the order in which the pipe applies them.
-/

import IgwP4.Construction.Dataplane.ControlStates

namespace IgwP4.Dataplane.P02Ingress

/-! `DecapMetaData_02` -/

def igInitBridge (s : IngressState) : IngressState :=
  { s with hdr.bgMd.fields := { s.hdr.bgMd.fields with
      tunnelNexthop := 0
      tunnelDirectSend := matchPacket
      tunnelSrcId := 0
      tunnelDstId := 0
      innerMacId := 0
      needDrop := 0
      outerEthernetInvalid := 0 } }

/-- The overlay actions differ only in the inner family that gives the addresses. -/
def igDecapMd02Overlay (contents : BridgeMetadata) (sip dip : BitVec 128) (s : IngressState) :
    IngressState :=
  let s := { s with hdr.bgMd := s.hdr.bgMd.setValid contents }
  igInitBridge { s with
    hdr.bgMd.fields := { s.hdr.bgMd.fields with
      lkpVni := s.hdr.vxlan.fields.vni
      lkpL4Sport := s.metadata.l3.lkpL4Sport
      lkpL4Dport := s.metadata.l3.lkpL4Dport }
    metadata.l3 := { s.metadata.l3 with lkpSip := sip, lkpDip := dip } }

def igDecapMd02OverlayV4 (contents : BridgeMetadata) (s : IngressState) : IngressState :=
  igDecapMd02Overlay contents (s.hdr.innerIpv4.fields.srcAddr.setWidth 128)
    (s.hdr.innerIpv4.fields.dstAddr.setWidth 128) s

def igDecapMd02OverlayV6 (contents : BridgeMetadata) (s : IngressState) : IngressState :=
  igDecapMd02Overlay contents s.hdr.innerIpv6.fields.srcAddr s.hdr.innerIpv6.fields.dstAddr s

def igDecapMd02Nop (contents : BridgeMetadata) (s : IngressState) : IngressState :=
  let s := { s with hdr.bgMd := s.hdr.bgMd.setValid contents }
  igInitBridge { s with hdr.bgMd.fields.lkpVni := 0 }

/-- The direct actions take the outer protocol and ports for the lookups. -/
def igDecapMd02Direct (contents : BridgeMetadata) (sip dip : BitVec 128) (s : IngressState) :
    IngressState :=
  let s := { s with hdr.bgMd := s.hdr.bgMd.setValid contents }
  igInitBridge { s with
    metadata.l3 := { s.metadata.l3 with
      lkpIpProto := s.metadata.l3.lkpOuterIpProto
      lkpL4Sport := s.metadata.l3.lkpOuterL4Sport
      lkpL4Dport := s.metadata.l3.lkpOuterL4Dport
      lkpSip := sip
      lkpDip := dip } }

def igDecapMd02V4 (contents : BridgeMetadata) (s : IngressState) : IngressState :=
  igDecapMd02Direct contents (s.hdr.ipv4.fields.srcAddr.setWidth 128)
    (s.hdr.ipv4.fields.dstAddr.setWidth 128) s

def igDecapMd02V6 (contents : BridgeMetadata) (s : IngressState) : IngressState :=
  igDecapMd02Direct contents s.hdr.ipv6.fields.srcAddr s.hdr.ipv6.fields.dstAddr s

/-- `ig_decap_md02` has five constant entries and no default action. -/
def decapMetaData02 (fresh : Headers) (s : IngressState) : IngressState :=
  match s.hdr.ipv4.valid, s.hdr.ipv6.valid, s.hdr.innerIpv4.valid, s.hdr.innerIpv6.valid with
  | true, false, true, false => igDecapMd02OverlayV4 fresh.bgMd.fields s
  | true, false, false, true => igDecapMd02OverlayV6 fresh.bgMd.fields s
  | true, false, false, false => igDecapMd02V4 fresh.bgMd.fields s
  | false, true, false, false => igDecapMd02V6 fresh.bgMd.fields s
  | false, false, false, false => igDecapMd02Nop fresh.bgMd.fields s
  | _, _, _, _ => s

/-! `ProcessLocal` -/

def addNosCpuHeader (fresh : Headers) (s : IngressState) : IngressState :=
  let fabric := s.hdr.fabric.setValid fresh.fabric.fields
  let cpu := s.hdr.cpu.setValid fresh.cpu.fields
  { s with
    hdr.fabric := { fabric with fields := {
      reserved := 0
      color := 0
      qos := 0
      reserved2 := 0
      dstPortOrGroup := 0 } }
    hdr.cpu := { cpu with fields := { cpu.fields with
      egressQueue := 0
      txBypass := 0
      reserved := 0
      ingressPort := s.ingressPort.setWidth 16
      etherType := s.hdr.ethernet.fields.etherType } }
    hdr.ethernet.fields.etherType := etherTypeBfn }

def copyToCpuNos (fresh : Headers) (egressPort : BitVec 9) (s : IngressState) : IngressState :=
  let s := addNosCpuHeader fresh { s with ucastEgressPort := egressPort }
  { s with hdr.bgMd.fields.tunnelDirectSend := skipPacket }

/-- The two receive actions differ only in how far the packet skips the later controls. -/
def receiveFromCpu (directSend : BitVec 3) (s : IngressState) : IngressState :=
  { s with
    ucastEgressPort := s.hdr.fabric.fields.dstPortOrGroup.setWidth 9
    hdr.ethernet.fields.etherType := s.hdr.cpu.fields.etherType
    hdr.fabric := s.hdr.fabric.setInvalid
    hdr.cpu := s.hdr.cpu.setInvalid
    hdr.bgMd.fields.tunnelDirectSend := directSend }

def receiveFromCpuNos : IngressState → IngressState := receiveFromCpu skipPacket

def receiveFromCpuLldp : IngressState → IngressState := receiveFromCpu skipTunnelMacRewrite

def processProtocolKey (s : IngressState) : ProcessProtocolKey where
  ipv4IsValid := validBit s.hdr.ipv4.valid
  vxlanIsValid := validBit s.hdr.vxlan.valid
  etherType := s.hdr.ethernet.fields.etherType
  ipv4DstAddr := s.hdr.ipv4.fields.dstAddr
  ingressPort := s.ingressPort
  ipv6IsValid := validBit s.hdr.ipv6.valid
  ipv6DstAddr := s.hdr.ipv6.fields.dstAddr

def processLocal (tables : Tables) (fresh : Headers) (s : IngressState) : IngressState :=
  match tables.processProtocolPacket (processProtocolKey s) with
  | some .receiveFromCpuLldp => receiveFromCpuLldp (s.note .processProtocolPacket 0)
  | some (.copyToCpuNos egressPort) =>
      copyToCpuNos fresh egressPort (s.note .processProtocolPacket 0)
  | some .receiveFromCpuNos => receiveFromCpuNos (s.note .processProtocolPacket 0)
  | none => s

def ingressPortStats (s : IngressState) : IngressState :=
  s.note .ingressPort s.ingressPort.toNat crcAdjustBytes

/-! `IgwIpType` -/

/-- The four hit actions differ in the tunnel type and in the redirection flag. -/
def ipFromInternet (igrTunnelType : BitVec 3) (dlPkt : BitVec 1) (egrPipeline : BitVec 3)
    (s : IngressState) : IngressState :=
  { s with
    hdr.bgMd.fields := { s.hdr.bgMd.fields with igrTunnelType, dlPkt }
    metadata.l3.egrPipeline := egrPipeline }

def ipFromInternetInHit : BitVec 3 → IngressState → IngressState :=
  ipFromInternet typeIngressInternetIn 0

def ipFromInternetInDlHit : BitVec 3 → IngressState → IngressState :=
  ipFromInternet typeIngressInternetIn 1

def ipFromInternetOutHit : BitVec 3 → IngressState → IngressState :=
  ipFromInternet typeIngressInternetOut 0

def ipFromInternetOutDlHit : BitVec 3 → IngressState → IngressState :=
  ipFromInternet typeIngressInternetOut 1

def needDrop (s : IngressState) : IngressState := { s with dropCtl := 0x1 }

def igwIpTypeKey (s : IngressState) : IgwIpTypeKey where
  ipv4IsValid := validBit s.hdr.ipv4.valid
  ipv4DstAddr := s.hdr.ipv4.fields.dstAddr
  vxlanIsValid := validBit s.hdr.vxlan.valid
  innerIpv4IsValid := validBit s.hdr.innerIpv4.valid
  innerIpv4DstAddr := s.hdr.innerIpv4.fields.dstAddr
  innerIpv6IsValid := validBit s.hdr.innerIpv6.valid
  innerIpv6DstAddr := s.hdr.innerIpv6.fields.dstAddr.setWidth 2
  innerIpv6SrcAddr := s.hdr.innerIpv6.fields.srcAddr.setWidth 2
  vxlanType := s.metadata.tunnel.vxlanType
  vxlanTof := s.hdr.vxlan.fields.tof
  ipv6IsValid := validBit s.hdr.ipv6.valid
  ipv6DstAddr := s.hdr.ipv6.fields.dstAddr

/-- The default action drops the packet. -/
def igwIpType (tables : Tables) (s : IngressState) : IngressState :=
  match tables.igwIpType (igwIpTypeKey s) with
  | some (.ipFromInternetInHit egrPipeline) => ipFromInternetInHit egrPipeline s
  | some (.ipFromInternetInDlHit egrPipeline) => ipFromInternetInDlHit egrPipeline s
  | some (.ipFromInternetOutHit egrPipeline) => ipFromInternetOutHit egrPipeline s
  | some (.ipFromInternetOutDlHit egrPipeline) => ipFromInternetOutDlHit egrPipeline s
  | some .needDrop => needDrop s
  | none => needDrop s

/-! `IngressSystemAcl` -/

def copyIngressToSid (sid : BitVec 10) (s : IngressState) : IngressState :=
  { s with
    metadata.tunnel.sessionId := sid
    mirrorType := mirrorTypeI2E
    metadata.mirror := { s.metadata.mirror with
      proto := pktMirrMdIg
      flag := 1
      res := s.metadata.mirror.res ||| mirrorInput
      timestamp := s.globalTstamp
      port := s.ingressPort } }

def copyIngressToCpu : IngressState → IngressState := copyIngressToSid cpuMirrorSessionId

def systemAclDropPacket (s : IngressState) : IngressState := { s with dropCtl := 0x1 }

def ingressAclKey (s : IngressState) : IngressAclKey where
  ipv6IsValid := validBit s.hdr.ipv6.valid
  ipv4IsValid := validBit s.hdr.ipv4.valid
  ipv4DstAddr := s.hdr.ipv4.fields.dstAddr
  ipv4SrcAddr := s.hdr.ipv4.fields.srcAddr
  ipv4Protocol := s.hdr.ipv4.fields.protocol
  lkpOuterL4Sport := s.metadata.l3.lkpOuterL4Sport
  lkpOuterL4Dport := s.metadata.l3.lkpOuterL4Dport
  lkpL4Sport := s.metadata.l3.lkpL4Sport
  lkpL4Dport := s.metadata.l3.lkpL4Dport
  lkpIpProto := s.metadata.l3.lkpIpProto
  lkpSip := s.metadata.l3.lkpSip
  lkpDip := s.metadata.l3.lkpDip
  vxlanIsValid := validBit s.hdr.vxlan.valid
  vxlanVni := s.hdr.vxlan.fields.vni
  vxlanTof := s.hdr.vxlan.fields.tof
  igrTunnelType := s.hdr.bgMd.fields.igrTunnelType
  dlPkt := s.hdr.bgMd.fields.dlPkt

def ingressSystemAcl (tables : Tables) (s : IngressState) : IngressState :=
  if s.ingressPort ≠ cpuPort then
    let noted := s.note .ingressSystemAcl 0
    match tables.ingressSystemAcl (ingressAclKey s) with
    | .copyIngressToCpu => copyIngressToCpu noted
    | .copyIngressToSid sid => copyIngressToSid sid noted
    | .systemAclDropPacket => systemAclDropPacket noted
    | .nop => noted
  else s

/-! `FipInnerIpSnat` and `PipeLineFix` -/

def fipInnerIpSnat (tables : Tables) (s : IngressState) : IngressState :=
  if s.hdr.innerIpv4.valid then
    match tables.fipInnerIpSnat s.hdr.vxlan.fields.vni s.hdr.innerIpv4.fields.srcAddr with
    | some fip => { s with hdr.innerIpv4.fields.srcAddr := fip }
    | none => s
  else s

def pipelineFixKey (s : IngressState) : PipelineFixKey where
  innerIpv4IsValid := validBit s.hdr.innerIpv4.valid
  innerIpv4SrcAddr := s.hdr.innerIpv4.fields.srcAddr

def pipeLineFix (tables : Tables) (s : IngressState) : IngressState :=
  match tables.pipelineFix (pipelineFixKey s) with
  | some egrPipeline => { s with metadata.l3.egrPipeline := egrPipeline }
  | none => s

/-! `EipOutRedirect` -/

def eipOutNop (s : IngressState) : IngressState :=
  { s with hdr.bgMd.fields.sharedBandwidthId := 0 }

def eipOutSetBwId (data : EipOutBwId) (s : IngressState) : IngressState :=
  { s with
    hdr.bgMd.fields := { s.hdr.bgMd.fields with
      eipOrBwid := data.bandwidthId
      sharedBandwidthId := data.sharedBandwidthId }
    metadata.ratelimit := { s.metadata.ratelimit with
      withinCluster := data.withinCluster
      betweenCluster := data.betweenCluster
      haveSharedBd := data.haveSharedBd } }

def eipOutEntry (entry : Option EipOutBwId) (s : IngressState) : IngressState :=
  match entry with
  | some data => eipOutSetBwId data s
  | none => eipOutNop s

def rewriteAzOutJdVxlan (sharedBwVip : BitVec 32) (s : IngressState) : IngressState :=
  { s with
    hdr.vxlan.fields := { s.hdr.vxlan.fields with flags := 0x0c, version := 1, tof := tofAzOut }
    hdr.udp.fields.srcPort := 50
    hdr.ipv4.fields.dstAddr := sharedBwVip
    hdr.bgMd.fields.tunnelDirectSend := dlPacket }

def rewriteEipOutJdVxlan (srcip : BitVec 32) (s : IngressState) : IngressState :=
  { s with
    hdr.vxlan.fields := { s.hdr.vxlan.fields with flags := 0x0c, version := 1, tof := tofEipOut }
    hdr.udp.fields.srcPort := 250
    hdr.ipv4.fields.srcAddr := srcip
    hdr.bgMd.fields.tunnelDirectSend := dlPacket }

def modifyJdVxlanKey (s : IngressState) : ModifyJdVxlanKey where
  vxlanIsValid := validBit s.hdr.vxlan.valid
  vxlanTof := s.hdr.vxlan.fields.tof
  betweenCluster := s.metadata.ratelimit.betweenCluster
  withinCluster := s.metadata.ratelimit.withinCluster

def selectRedirectIpOut (tables : Tables) (s : IngressState) : IngressState :=
  match tables.selectRedirectIpOut (validBit s.hdr.vxlan.valid)
      (hashIndex s.hdr.bgMd.fields.eipOrBwid s.hdr.bgMd.fields.sharedBandwidthId) with
  | some dlIp => { s with hdr.ipv4.fields.dstAddr := dlIp }
  | none => s

/-- The two redirect tables are keyed by the inner source of their family. -/
def eipOutLookup (tables : Tables) (s : IngressState) : IngressState :=
  if s.hdr.innerIpv4.valid then
    eipOutEntry (tables.eipOutRedirect s.hdr.innerIpv4.fields.srcAddr) s
  else if s.hdr.innerIpv6.valid then
    eipOutEntry (tables.eip6OutRedirect s.hdr.innerIpv6.fields.srcAddr) s
  else s

def modifyJdVxlanOut (tables : Tables) (s : IngressState) : IngressState :=
  match tables.modifyJdVxlanOut (modifyJdVxlanKey s) with
  | some (.rewriteEip srcip) => selectRedirectIpOut tables (rewriteEipOutJdVxlan srcip s)
  | some (.rewriteAz sharedBwVip) => rewriteAzOutJdVxlan sharedBwVip s
  | none => s

def eipOutRedirect (tables : Tables) (s : IngressState) : IngressState :=
  modifyJdVxlanOut tables (eipOutLookup tables s)

/-! `HaveSharedBindWith`, `EcmpGroup02` and `EncapMetaData_02` -/

def setHaveFlag (hit : Bool) (s : IngressState) : IngressState :=
  if hit then { s with metadata.ratelimit.haveSharedBd := 1 } else s

def haveSharedBindWith (tables : Tables) (s : IngressState) : IngressState :=
  if s.hdr.bgMd.fields.dlPkt = 0 ∧ s.hdr.ipv4.valid = true then
    setHaveFlag (tables.haveSharedBd s.hdr.ipv4.fields.dstAddr) s
  else if s.hdr.bgMd.fields.dlPkt = 1 ∧ s.hdr.innerIpv4.valid = true then
    setHaveFlag (tables.innerHaveSharedBd s.hdr.innerIpv4.fields.dstAddr) s
  else s

/-- A miss leaves the port that the bridge header holds, which is not assigned yet. -/
def ecmpGroup02 (tables : Tables) (s : IngressState) : IngressState :=
  if s.hdr.bgMd.fields.matchOrDl then
    let s := { s with ucastEgressPort := s.hdr.bgMd.fields.igrPort }
    match tables.ecmpGroup02 s.metadata.l3.egrPipeline s.metadata.ratelimit.haveSharedBd
        s.flowKey with
    | some egressPort => { s with ucastEgressPort := egressPort }
    | none => s
  else s

def encapMetaData02 (s : IngressState) : IngressState :=
  let s := { s with hdr.bgMd.fields := { s.hdr.bgMd.fields with
    igrPort := s.ingressPort
    proto := pktBridge
    outerEthernetType := s.hdr.ethernet.fields.etherType } }
  if s.hdr.bgMd.fields.matchOrDl then
    { s with
      hdr.bgMd.fields.outerEthernetInvalid := 1
      hdr.ethernet := s.hdr.ethernet.setInvalid }
  else s

/-! `P02_Ingress.apply` -/

/-- The controls up to the ingress ACL classify the packet. -/
def classify (tables : Tables) (fresh : Headers) (s : IngressState) : IngressState :=
  let s := ingressPortStats (processLocal tables fresh (decapMetaData02 fresh s))
  let s := if s.hdr.bgMd.fields.tunnelDirectSend = matchPacket then igwIpType tables s else s
  ingressSystemAcl tables s

/-- The controls after the ingress ACL treat the two directions apart. -/
def direct (tables : Tables) (s : IngressState) : IngressState :=
  if s.hdr.bgMd.fields.tunnelDirectSend = matchPacket then
    if s.hdr.bgMd.fields.igrTunnelType = typeIngressInternetOut then
      eipOutRedirect tables (pipeLineFix tables (fipInnerIpSnat tables s))
    else haveSharedBindWith tables s
  else s

def apply (tables : Tables) (fresh : Headers) (s : IngressState) : IngressState :=
  encapMetaData02 (ecmpGroup02 tables (direct tables (classify tables fresh s)))

end IgwP4.Dataplane.P02Ingress
