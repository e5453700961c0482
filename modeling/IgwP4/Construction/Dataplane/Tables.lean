/-
This file gives the keys, the action data and the contents of the match-action tables.
-/

import IgwP4.Construction.Dataplane.Meta
import IgwP4.Construction.Packet.Ternary

namespace IgwP4.Dataplane
open Packet

/-- The key field of `isValid()` -/
abbrev validBit (valid : Bool) : BitVec 1 := BitVec.ofBool valid

/-- The key of `process_protocol_packet` -/
structure ProcessProtocolKey where
  ipv4IsValid : BitVec 1
  vxlanIsValid : BitVec 1
  etherType : BitVec 16
  ipv4DstAddr : BitVec 32
  ingressPort : BitVec 9
  ipv6IsValid : BitVec 1
  ipv6DstAddr : BitVec 128

inductive ProcessProtocolAction where
  | receiveFromCpuLldp
  | copyToCpuNos (egressPort : BitVec 9)
  | receiveFromCpuNos
deriving DecidableEq

/-- The key of `igw_ip_type` -/
structure IgwIpTypeKey where
  ipv4IsValid : BitVec 1
  ipv4DstAddr : BitVec 32
  vxlanIsValid : BitVec 1
  innerIpv4IsValid : BitVec 1
  innerIpv4DstAddr : BitVec 32
  innerIpv6IsValid : BitVec 1
  innerIpv6DstAddr : BitVec 2
  innerIpv6SrcAddr : BitVec 2
  vxlanType : BitVec 2
  vxlanTof : BitVec 4
  ipv6IsValid : BitVec 1
  ipv6DstAddr : BitVec 128

inductive IgwIpTypeAction where
  | ipFromInternetInHit (egrPipeline : BitVec 3)
  | ipFromInternetInDlHit (egrPipeline : BitVec 3)
  | ipFromInternetOutHit (egrPipeline : BitVec 3)
  | ipFromInternetOutDlHit (egrPipeline : BitVec 3)
  | needDrop
deriving DecidableEq

/-- The key of `pipeline_fix` -/
structure PipelineFixKey where
  innerIpv4IsValid : BitVec 1
  innerIpv4SrcAddr : BitVec 32

/-- The key of `ingress_system_acl` -/
structure IngressAclKey where
  ipv6IsValid : BitVec 1
  ipv4IsValid : BitVec 1
  ipv4DstAddr : BitVec 32
  ipv4SrcAddr : BitVec 32
  ipv4Protocol : BitVec 8
  lkpOuterL4Sport : BitVec 16
  lkpOuterL4Dport : BitVec 16
  lkpL4Sport : BitVec 16
  lkpL4Dport : BitVec 16
  lkpIpProto : BitVec 8
  lkpSip : BitVec 128
  lkpDip : BitVec 128
  vxlanIsValid : BitVec 1
  vxlanVni : BitVec 24
  vxlanTof : BitVec 4
  igrTunnelType : BitVec 3
  dlPkt : BitVec 1

inductive IngressAclAction where
  | copyIngressToCpu
  | copyIngressToSid (sid : BitVec 10)
  | systemAclDropPacket
  | nop
deriving DecidableEq

/-- The key of `egress_system_acl` -/
structure EgressAclKey where
  meterPacketColor : BitVec 2
  ipv4IsValid : BitVec 1
  ipv4DstAddr : BitVec 32
  ipv4SrcAddr : BitVec 32
  ipv4Protocol : BitVec 8
  lkpOuterL4Sport : BitVec 16
  lkpOuterL4Dport : BitVec 16
  lkpDip : BitVec 128
  lkpL4Dport : BitVec 16
  lkpSip : BitVec 128
  lkpL4Sport : BitVec 16
  lkpIpProto : BitVec 8
  vxlanIsValid : BitVec 1
  vxlanVni : BitVec 24
  needDrop : BitVec 1
  tunnelDirectSend : BitVec 3
  vxlanTof : BitVec 4
  igrTunnelType : BitVec 3

inductive EgressAclAction where
  | copyEgressToCpu
  | copyEgressToSid (sid : BitVec 10)
  | systemAclDropPacket
  | systemAclDropMirrorPacket
  | nop
deriving DecidableEq

/-- The five fields that every flow hash of the program reads -/
structure FlowKey where
  lkpSip : BitVec 128
  lkpL4Sport : BitVec 16
  lkpDip : BitVec 128
  lkpL4Dport : BitVec 16
  lkpIpProto : BitVec 8
deriving DecidableEq

/-- The key of `modify_jd_vxlan` in both redirect controls -/
structure ModifyJdVxlanKey where
  vxlanIsValid : BitVec 1
  vxlanTof : BitVec 4
  betweenCluster : BitVec 1
  withinCluster : BitVec 1

/-- `rewrite_eip_*_jd_vxlan` and `rewrite_az_*_jd_vxlan` -/
inductive ModifyJdVxlanAction where
  | rewriteEip (srcip : BitVec 32)
  | rewriteAz (sharedBwVip : BitVec 32)
deriving DecidableEq

/-- The data of `set_bw_id` in `EipInRedirect` -/
structure EipInBwId where
  bandwidthId : BitVec 32
  sharedBandwidthId : BitVec 16
  withinCluster : BitVec 1
  betweenCluster : BitVec 1
  nlbEip : BitVec 1

/-- The data of `set_bw_id` in `EipOutRedirect` -/
structure EipOutBwId where
  bandwidthId : BitVec 32
  sharedBandwidthId : BitVec 16
  withinCluster : BitVec 1
  betweenCluster : BitVec 1
  haveSharedBd : BitVec 1

/-- The data of `process_nexthop` -/
structure NexthopData where
  srcid : BitVec 8
  dstid : BitVec 12
  vni : BitVec 24
  innerMacId : BitVec 16

/-- The data of `rewrite_inner_mac` and of `rewrite_tunnel_mac` -/
structure MacPair where
  smac : BitVec 48
  dmac : BitVec 48

/--
These are the contents of all tables of one gateway. A table without an entry for a key gives
`none`, and an entry whose action is `nop` counts as none when the default action is that `nop`.
A meter table gives the colour that its meter returns for this packet.
-/
structure Tables where
  processProtocolPacket : ProcessProtocolKey → Option ProcessProtocolAction
  igwIpType : IgwIpTypeKey → Option IgwIpTypeAction
  ingressSystemAcl : IngressAclKey → IngressAclAction
  fipInnerIpSnat : BitVec 24 → BitVec 32 → Option (BitVec 32)
  pipelineFix : PipelineFixKey → Option (BitVec 3)
  eipOutRedirect : BitVec 32 → Option EipOutBwId
  eip6OutRedirect : BitVec 128 → Option EipOutBwId
  modifyJdVxlanOut : ModifyJdVxlanKey → Option ModifyJdVxlanAction
  selectRedirectIpOut : BitVec 1 → BitVec 32 → Option (BitVec 32)
  haveSharedBd : BitVec 32 → Bool
  innerHaveSharedBd : BitVec 32 → Bool
  ecmpGroup02 : BitVec 3 → BitVec 1 → FlowKey → Option (BitVec 9)
  eipInRedirect : BitVec 32 → Option EipInBwId
  eip6InRedirect : BitVec 128 → Option EipInBwId
  modifyJdVxlanIn : ModifyJdVxlanKey → Option ModifyJdVxlanAction
  selectRedirectIpIn : BitVec 1 → BitVec 32 → Option (BitVec 32)
  eipInMeter : BitVec 32 → Option (BitVec 2)
  eipInSharedMeter : BitVec 16 → Option (BitVec 2)
  ratelimitDrop : BitVec 2 → Bool
  ipHash : FlowKey → BitVec 16
  fipDnat : BitVec 32 → Option (BitVec 32)
  vmLocMapping : BitVec 32 → Option (BitVec 16 × BitVec 24)
  ipv6VmLocMapping : BitVec 128 → Option (BitVec 16)
  azEcmp : BitVec 16 → BitVec 16 → Option (BitVec 16)
  routeEcmp : BitVec 16 → FlowKey → Option (BitVec 16)
  routeNexthop : BitVec 16 → Option NexthopData
  eipOutMeter : BitVec 32 → Option (BitVec 2)
  eipOutSharedMeter : BitVec 16 → Option (BitVec 2)
  tunnelInnerRewrite : BitVec 16 → Option MacPair
  tunnelDstRewrite : BitVec 12 → Option (BitVec 32)
  tunnelSrcRewrite : BitVec 8 → Option (BitVec 32)
  egressSystemAcl : EgressAclKey → EgressAclAction
  tunnelMacRewrite : BitVec 9 → Option MacPair
  mirror : BitVec 3 → Bool
  mirrorRl : BitVec 3 → Option (BitVec 2)
  mirrorDrop : BitVec 2 → Bool

/-- Before the initialisation no table has an entry, and the hash is left open. -/
def Tables.empty : Tables where
  processProtocolPacket _ := none
  igwIpType _ := none
  ingressSystemAcl _ := .nop
  fipInnerIpSnat _ _ := none
  pipelineFix _ := none
  eipOutRedirect _ := none
  eip6OutRedirect _ := none
  modifyJdVxlanOut _ := none
  selectRedirectIpOut _ _ := none
  haveSharedBd _ := false
  innerHaveSharedBd _ := false
  ecmpGroup02 _ _ _ := none
  eipInRedirect _ := none
  eip6InRedirect _ := none
  modifyJdVxlanIn _ := none
  selectRedirectIpIn _ _ := none
  eipInMeter _ := none
  eipInSharedMeter _ := none
  ratelimitDrop _ := false
  ipHash _ := 0
  fipDnat _ := none
  vmLocMapping _ := none
  ipv6VmLocMapping _ := none
  azEcmp _ _ := none
  routeEcmp _ _ := none
  routeNexthop _ := none
  eipOutMeter _ := none
  eipOutSharedMeter _ := none
  tunnelInnerRewrite _ := none
  tunnelDstRewrite _ := none
  tunnelSrcRewrite _ := none
  egressSystemAcl _ := .nop
  tunnelMacRewrite _ := none
  mirror _ := false
  mirrorRl _ := none
  mirrorDrop _ := false

/-- A counter or a meter of the program -/
inductive Site where
  | processProtocolPacket
  | ingressPort
  | egressPort
  | ingressSystemAcl
  | egressSystemAcl
  | eipInMeter
  | eipInSharedMeter
  | eipOutMeter
  | eipOutSharedMeter
  | inSharedValid
  | inSharedDrop
  | outSharedValid
  | outSharedDrop
  | ratelimitDrop
  | vmHostDrop
  | nexthopDrop
  | dstipDrop
  | eipInEgress
  | eipInDrop
  | eip6InEgress
  | eip6InDrop
  | eipOutEgress
  | eipOutDrop
  | eip6OutEgress
  | eip6OutDrop
deriving DecidableEq

/-- An event is one application of a meter or counter table with its key and byte adjustment. -/
structure Event where
  site : Site
  key : Nat
  adjust : Nat := 0
deriving DecidableEq

end IgwP4.Dataplane
