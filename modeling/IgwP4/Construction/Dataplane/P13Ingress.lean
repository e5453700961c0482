/-
This file gives the controls of `P13_Ingress` in the order in which the pipe applies them.
-/

import IgwP4.Construction.Dataplane.ControlStates

namespace IgwP4.Dataplane.P13Ingress

/-! `DecapMetaData_13` -/

/-- The four entries read the inner addresses of the valid family and ignore `nlb_eip`. -/
def decapMetaData13 (s : IngressState) : IngressState :=
  match s.hdr.innerIpv4.valid, s.hdr.innerIpv6.valid with
  | true, false => { s with
      metadata.l3.lkpSip := s.hdr.innerIpv4.fields.srcAddr.setWidth 128
      metadata.l3.lkpDip := s.hdr.innerIpv4.fields.dstAddr.setWidth 128 }
  | false, true => { s with
      metadata.l3.lkpSip := s.hdr.innerIpv6.fields.srcAddr
      metadata.l3.lkpDip := s.hdr.innerIpv6.fields.dstAddr }
  | _, _ => s

/-! `EipInSharedMeter` -/

def sharedBwRatelimit (tables : Tables) (s : IngressState) : IngressState :=
  let noted := s.note .eipInSharedMeter s.hdr.bgMd.fields.sharedBandwidthId.toNat
  match tables.eipInSharedMeter s.hdr.bgMd.fields.sharedBandwidthId with
  | some color => { noted with hdr.bgMd.fields.meterPacketColor := color }
  | none => noted

def sharedBwStats (s : IngressState) : IngressState :=
  s.note (if s.hdr.bgMd.fields.meterPacketColor ≠ colorRed then .inSharedValid else .inSharedDrop)
    s.hdr.bgMd.fields.sharedBandwidthId.toNat eip46InEgressAdjust

def ratelimitDrop (tables : Tables) (s : IngressState) : IngressState :=
  let noted := s.note .ratelimitDrop s.hdr.bgMd.fields.meterPacketColor.toNat
  if tables.ratelimitDrop s.hdr.bgMd.fields.meterPacketColor then { noted with dropCtl := 0x1 }
  else noted

def eipInSharedMeter (tables : Tables) (s : IngressState) : IngressState :=
  ratelimitDrop tables
    (if s.hdr.bgMd.fields.meterPacketColor ≠ colorRed ∧ s.hdr.innerIpv4.valid = true then
      sharedBwStats (sharedBwRatelimit tables s)
    else s)

/-! `ComputeIpHashes` -/

def computeInnerIpHashes (tables : Tables) (s : IngressState) : IngressState :=
  { s with hdr.bgMd.fields.l3EcmpEntryIdx := tables.ipHash s.flowKey }

/-- The cast keeps the low sixteen bits of the source. -/
def computeNlbIpHashes (s : IngressState) : IngressState :=
  { s with hdr.bgMd.fields.l3EcmpEntryIdx := s.metadata.l3.lkpSip.setWidth 16 }

def computeIpHashes (tables : Tables) (s : IngressState) : IngressState :=
  if s.hdr.bgMd.fields.nlbEip = 1 then computeNlbIpHashes s else computeInnerIpHashes tables s

/-! `FipIpDnat` and `VmLocationMapping` -/

def fipIpDnat (tables : Tables) (s : IngressState) : IngressState :=
  if s.hdr.vxlan.valid = true ∧ s.hdr.innerIpv4.valid = true then
    let fip := s.hdr.innerIpv4.fields.dstAddr
    { s with metadata.tunnel := { s.metadata.tunnel with
        fip, fipDip := (tables.fipDnat fip).getD fip } }
  else s

def vmHostrouteNexthop (nexthop : BitVec 16) (vni : BitVec 24) (s : IngressState) :
    IngressState :=
  { s with
    hdr.bgMd.fields.tunnelNexthop := nexthop
    metadata.tunnel.routeIdx := vni.setWidth 32 }

def ipv6VmHostrouteNexthop (nexthop : BitVec 16) (s : IngressState) : IngressState :=
  { s with hdr.bgMd.fields.tunnelNexthop := nexthop }

def vmHostrouteNotHit (s : IngressState) : IngressState :=
  { s with
    hdr.bgMd.fields.needDrop := 1
    metadata.tunnel.routeIdx := 0 }

def vmLocMapping (tables : Tables) (s : IngressState) : IngressState :=
  match tables.vmLocMapping s.metadata.tunnel.fipDip with
  | some (nexthop, vni) => vmHostrouteNexthop nexthop vni s
  | none => vmHostrouteNotHit s

def ipv6VmLocMapping (tables : Tables) (s : IngressState) : IngressState :=
  match tables.ipv6VmLocMapping s.hdr.innerIpv6.fields.dstAddr with
  | some nexthop => ipv6VmHostrouteNexthop nexthop s
  | none => vmHostrouteNotHit s

def vmLocationMapping (tables : Tables) (s : IngressState) : IngressState :=
  let s :=
    if s.hdr.innerIpv4.valid then
      let s := vmLocMapping tables s
      { s with hdr.innerIpv4.fields.dstAddr := s.metadata.tunnel.fipDip }
    else if s.hdr.innerIpv6.valid then ipv6VmLocMapping tables s
    else s
  if s.hdr.bgMd.fields.needDrop = 1 then s.note .vmHostDrop 1 else s

/-! `AzSelector` and `NexthopProcess` -/

def azSelector (tables : Tables) (s : IngressState) : IngressState :=
  if s.hdr.bgMd.fields.nlbEip = 1 then
    match tables.azEcmp s.hdr.bgMd.fields.tunnelNexthop s.hdr.bgMd.fields.l3EcmpEntryIdx with
    | some nexthop => { s with hdr.bgMd.fields.tunnelNexthop := nexthop }
    | none => s
  else s

def routeEcmp (tables : Tables) (s : IngressState) : IngressState :=
  match tables.routeEcmp s.hdr.bgMd.fields.tunnelNexthop s.flowKey with
  | some nexthop => { s with hdr.bgMd.fields.tunnelNexthop := nexthop }
  | none => s

def processNexthop (data : NexthopData) (s : IngressState) : IngressState :=
  { s with hdr.bgMd.fields := { s.hdr.bgMd.fields with
      lkpVni := data.vni
      tunnelSrcId := data.srcid
      tunnelDstId := data.dstid
      innerMacId := data.innerMacId } }

/-- A next hop that exists and misses marks the packet for the drop in the last pipe. -/
def routeNexthop (tables : Tables) (s : IngressState) : IngressState :=
  match tables.routeNexthop s.hdr.bgMd.fields.tunnelNexthop with
  | some data => processNexthop data s
  | none =>
      if s.hdr.bgMd.fields.tunnelNexthop ≠ 0 then
        ({ s with hdr.bgMd.fields.needDrop := 1 } : IngressState).note .nexthopDrop 1
      else s

def nexthopProcess (tables : Tables) (s : IngressState) : IngressState :=
  routeNexthop tables (routeEcmp tables s)

/-! `EipInEgressPktStats` -/

def eipInEgressPktStats (s : IngressState) : IngressState :=
  let bgMd := s.hdr.bgMd.fields
  if bgMd.needDrop ≠ 1 then
    if s.hdr.innerIpv4.valid then
      if bgMd.meterPacketColor ≠ colorRed then
        s.note .eipInEgress bgMd.eipOrBwid.toNat eip46InEgressAdjust
      else s.note .eipInDrop bgMd.eipOrBwid.toNat
    else if s.hdr.innerIpv6.valid then
      if bgMd.meterPacketColor ≠ colorRed then
        s.note .eip6InEgress s.hdr.innerIpv6.fields.dstAddr.toNat eip46InEgressAdjust
      else s.note .eip6InDrop s.hdr.innerIpv6.fields.dstAddr.toNat
    else s
  else s

/-! `P13_Ingress.apply` -/

/-- These controls run on the packets that no redirection and no punt has taken. -/
def locate (tables : Tables) (s : IngressState) : IngressState :=
  let s := computeIpHashes tables (eipInSharedMeter tables s)
  let s := vmLocationMapping tables (fipIpDnat tables s)
  eipInEgressPktStats (nexthopProcess tables (azSelector tables s))

def apply (tables : Tables) (s : IngressState) : IngressState :=
  let s := decapMetaData13 s
  let s := { s with ucastEgressPort := s.hdr.bgMd.fields.igrPort }
  if s.hdr.bgMd.fields.tunnelDirectSend = matchPacket then locate tables s else s

end IgwP4.Dataplane.P13Ingress
