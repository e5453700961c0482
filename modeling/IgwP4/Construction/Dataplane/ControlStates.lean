/-
This file gives the states that the ingress and the egress controls transform.
-/

import IgwP4.Construction.Dataplane.Tables

namespace IgwP4.Dataplane

/-- An ingress control works on the headers, the metadata and the intrinsic outputs. -/
structure IngressState where
  hdr : Headers
  metadata : CommonMetadata
  ingressPort : BitVec 9
  globalTstamp : BitVec 48
  dropCtl : BitVec 3 := 0
  mirrorType : BitVec 3 := 0
  ucastEgressPort : BitVec 9 := 0
  events : List Event := []

/-- The events are kept in the order in which the tables are applied. -/
def IngressState.note (s : IngressState) (site : Site) (key : Nat) (adjust : Nat := 0) :
    IngressState :=
  { s with events := s.events ++ [⟨site, key, adjust⟩] }

/-- The selector fields of `EcmpGroup02`, `ComputeIpHashes` and `NexthopProcess` -/
def IngressState.flowKey (s : IngressState) : FlowKey where
  lkpSip := s.metadata.l3.lkpSip
  lkpL4Sport := s.metadata.l3.lkpL4Sport
  lkpDip := s.metadata.l3.lkpDip
  lkpL4Dport := s.metadata.l3.lkpL4Dport
  lkpIpProto := s.metadata.l3.lkpIpProto

/-- An egress control works on the headers, the metadata and the intrinsic outputs. -/
structure EgressState where
  hdr : Headers
  metadata : CommonMetadata
  egressPort : BitVec 9
  globalTstamp : BitVec 48
  dropCtl : BitVec 3 := 0
  mirrorType : BitVec 3 := 0
  events : List Event := []

def EgressState.note (s : EgressState) (site : Site) (key : Nat) (adjust : Nat := 0) :
    EgressState :=
  { s with events := s.events ++ [⟨site, key, adjust⟩] }

/-- The shared bandwidth id takes the place of the bandwidth id when it is set. -/
def hashIndex (bandwidthId : BitVec 32) (sharedBandwidthId : BitVec 16) : BitVec 32 :=
  if sharedBandwidthId ≠ 0 then sharedBandwidthId.setWidth 32 else bandwidthId

/-- `(tunnel_direct_send == MATCH_PACKET) || (tunnel_direct_send == DL_PACKET)` -/
def BridgeMetadata.matchOrDl (bgMd : BridgeMetadata) : Prop :=
  bgMd.tunnelDirectSend = matchPacket ∨ bgMd.tunnelDirectSend = dlPacket

instance (bgMd : BridgeMetadata) : Decidable bgMd.matchOrDl :=
  inferInstanceAs (Decidable (_ ∨ _))

end IgwP4.Dataplane
