/-
This file gives the constants of `p4src/common/defines.h` and the metadata of `p4src/common/meta.h`.
-/

import IgwP4.Construction.Dataplane.Headers

namespace IgwP4.Dataplane
open Packet

abbrev etherTypeIpv4 : BitVec 16 := 0x0800
abbrev etherTypeIpv6 : BitVec 16 := 0x86dd
abbrev etherTypeBfn : BitVec 16 := 0x9000

abbrev ipProtocolsIcmp : BitVec 8 := 1
abbrev ipProtocolsTcp : BitVec 8 := 6
abbrev ipProtocolsUdp : BitVec 8 := 17

abbrev udpPortVxlan : BitVec 16 := 4789

abbrev pktBridge : BitVec 8 := 2
abbrev pktMirrMdIg : BitVec 8 := 3
abbrev pktMirrMdEg : BitVec 8 := 4

abbrev vxlanTypeStd : BitVec 2 := 1
abbrev vxlanTypeJd : BitVec 2 := 2

abbrev skipTunnelMacRewrite : BitVec 3 := 2
abbrev skipPacket : BitVec 3 := 3
abbrev dlPacket : BitVec 3 := 1
abbrev matchPacket : BitVec 3 := 0

abbrev egrPipeline0 : BitVec 3 := 1
abbrev egrPipeline1 : BitVec 3 := 2
abbrev egrPipeline2 : BitVec 3 := 3
abbrev egrPipeline3 : BitVec 3 := 4

/-- The four-pipe box is the one the preprocessor selects. -/
abbrev cpuPort : BitVec 9 := 320

abbrev typeIngressInternetIn : BitVec 3 := 1
abbrev typeIngressInternetOut : BitVec 3 := 2

abbrev cpuMirrorSessionId : BitVec 10 := 10
abbrev mirrorInput : BitVec 8 := 1
abbrev mirrorOutput : BitVec 8 := 2
abbrev mirrorDevPort : BitVec 16 := 0x1FF

abbrev crcAdjustBytes : Nat := 4
abbrev brAdjustBytes : Nat := 19
abbrev eip46InEgressAdjust : Nat := 83
abbrev eip46OutEgressAdjust : Nat := 83

abbrev tofEipIn : BitVec 4 := 1
abbrev tofEipOut : BitVec 4 := 2
abbrev tofAzIn : BitVec 4 := 3
abbrev tofAzOut : BitVec 4 := 4

abbrev colorRed : BitVec 2 := 3

abbrev mirrorTypeI2E : BitVec 3 := 1
abbrev mirrorTypeE2E : BitVec 3 := 2

/-- `mirror_metadata_t` -/
structure MirrorMetadata where
  proto : BitVec 8 := 0
  flag : BitVec 3 := 0
  pad0 : BitVec 5 := 0
  pad1 : BitVec 7 := 0
  port : BitVec 9 := 0
  res : BitVec 8 := 0
  timestamp : BitVec 48 := 0
deriving DecidableEq

def MirrorMetadata.codec : Codec MirrorMetadata :=
  ((Codec.word 8).pair ((Codec.word 3).pair ((Codec.word 5).pair ((Codec.word 7).pair
    ((Codec.word 9).pair ((Codec.word 8).pair (Codec.word 48))))))).transport
    { toFun := fun h => (h.proto, h.flag, h.pad0, h.pad1, h.port, h.res, h.timestamp)
      invFun := fun (proto, flag, pad0, pad1, port, res, timestamp) =>
        ⟨proto, flag, pad0, pad1, port, res, timestamp⟩
      left_inv := fun _ => rfl
      right_inv := fun _ => rfl }

/-- `tunnel_metadata_t` -/
structure TunnelMetadata where
  vxlanType : BitVec 2 := 0
  routeIdx : BitVec 32 := 0
  fip : BitVec 32 := 0
  fipDip : BitVec 32 := 0
  innerIpv4ChecksumEn : Bool := false
  sessionId : BitVec 10 := 0
deriving DecidableEq

/-- `l3_metadata_t` -/
structure L3Metadata where
  lkpIpProto : BitVec 8 := 0
  lkpL4Sport : BitVec 16 := 0
  lkpL4Dport : BitVec 16 := 0
  lkpSip : BitVec 128 := 0
  lkpDip : BitVec 128 := 0
  lkpOuterL4Sport : BitVec 16 := 0
  lkpOuterL4Dport : BitVec 16 := 0
  lkpOuterIpProto : BitVec 8 := 0
  egrPipeline : BitVec 3 := 0
deriving DecidableEq

/-- `ratelimit_metadata_t` -/
structure RatelimitMetadata where
  withinCluster : BitVec 1 := 0
  betweenCluster : BitVec 1 := 0
  haveSharedBd : BitVec 1 := 0
  bandwidthId : BitVec 32 := 0
deriving DecidableEq

/-- `common_metadata_t` starts from zero, as `pa_auto_init_metadata` asks. -/
structure CommonMetadata where
  tunnel : TunnelMetadata := {}
  l3 : L3Metadata := {}
  mirror : MirrorMetadata := {}
  ratelimit : RatelimitMetadata := {}
deriving DecidableEq

end IgwP4.Dataplane
