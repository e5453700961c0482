/-
This file gives the effect of each control of `P02_Ingress` on a packet that no punt takes.
-/

import IgwP4.Proof.Dataplane.Classification

namespace IgwP4.Dataplane.P02Ingress
open Packet Setup

/-- The initialisation assigns seven fields of the bridge header. -/
structure Initialised (bgMd : BridgeMetadata) : Prop where
  tunnelNexthop : bgMd.tunnelNexthop = 0
  tunnelDirectSend : bgMd.tunnelDirectSend = matchPacket
  tunnelSrcId : bgMd.tunnelSrcId = 0
  tunnelDstId : bgMd.tunnelDstId = 0
  innerMacId : bgMd.innerMacId = 0
  needDrop : bgMd.needDrop = 0
  outerEthernetInvalid : bgMd.outerEthernetInvalid = 0

/-- The bridge header behind the first control -/
def opened (fresh : Headers) (s : IngressState) : BridgeMetadata :=
  (decapMetaData02 fresh s).hdr.bgMd.fields

/-- The lookup fields behind the first control, which takes none from the unassigned contents -/
def looked (s : IngressState) : L3Metadata := (decapMetaData02 default s).metadata.l3

/-- The first control validates the bridge header and changes only the lookup fields beside it. -/
theorem decapMetaData02_eq (fresh : Headers) (s : IngressState)
    (shape : WellShaped s.hdr s.metadata.tunnel.vxlanType) (unbridged : s.hdr.bgMd.valid = false) :
    decapMetaData02 fresh s =
        { s with hdr.bgMd := ⟨true, opened fresh s⟩, metadata.l3 := looked s } ∧
      Initialised (opened fresh s) := by
  have first := s.hdr.bgMd.setValid_of_invalid fresh.bgMd.fields unbridged
  unfold opened looked decapMetaData02
  rcases shape with ⟨ipv4, ipv6, _, inner4, inner6⟩ | ⟨ipv4, ipv6, _, inner4, inner6⟩ |
    ⟨ipv4, ipv6, _, inner4, inner6⟩ | ⟨ipv4, ipv6, _, families, _⟩
  · rw [ipv4, ipv6, inner4, inner6]
    dsimp only [igDecapMd02Nop, igInitBridge]
    rw [first]
    exact ⟨rfl, rfl, rfl, rfl, rfl, rfl, rfl, rfl⟩
  · rw [ipv4, ipv6, inner4, inner6]
    dsimp only [igDecapMd02V6, igDecapMd02Direct, igInitBridge]
    rw [first]
    exact ⟨rfl, rfl, rfl, rfl, rfl, rfl, rfl, rfl⟩
  · rw [ipv4, ipv6, inner4, inner6]
    dsimp only [igDecapMd02V4, igDecapMd02Direct, igInitBridge]
    rw [first]
    exact ⟨rfl, rfl, rfl, rfl, rfl, rfl, rfl, rfl⟩
  · rw [ipv4, ipv6]
    cases inner4 : s.hdr.innerIpv4.valid <;> cases inner6 : s.hdr.innerIpv6.valid
    · dsimp only [igDecapMd02V4, igDecapMd02Direct, igInitBridge]
      rw [first]
      exact ⟨rfl, rfl, rfl, rfl, rfl, rfl, rfl, rfl⟩
    · dsimp only [igDecapMd02OverlayV6, igDecapMd02Overlay, igInitBridge]
      rw [first]
      exact ⟨rfl, rfl, rfl, rfl, rfl, rfl, rfl, rfl⟩
    · dsimp only [igDecapMd02OverlayV4, igDecapMd02Overlay, igInitBridge]
      rw [first]
      exact ⟨rfl, rfl, rfl, rfl, rfl, rfl, rfl, rfl⟩
    · rw [inner4, inner6] at families
      simp at families

/-- A packet is punted exactly when the protocol table has an entry for it. -/
def Punted (tables : Tables) (fresh : Headers) (s : IngressState) : Prop :=
  tables.processProtocolPacket (processProtocolKey (decapMetaData02 fresh s)) ≠ none

theorem processLocal_of_none (tables : Tables) (fresh : Headers) (s : IngressState)
    (missed : tables.processProtocolPacket (processProtocolKey s) = none) :
    processLocal tables fresh s = s := by
  rw [processLocal, missed]

/-- The ingress ACL changes only the mirror data, the drop bit and the events. -/
theorem ingressSystemAcl_effect (tables : Tables) (s : IngressState) :
    ∃ dropCtl mirrorType sessionId mirror events, ingressSystemAcl tables s =
        { s with
          dropCtl, mirrorType, events
          metadata.tunnel.sessionId := sessionId, metadata.mirror := mirror } ∧
      (dropCtl = s.dropCtl ∨ dropCtl = 1) := by
  unfold ingressSystemAcl
  split
  · dsimp only
    split
    · exact ⟨_, _, _, _, _, rfl, .inl rfl⟩
    · exact ⟨_, _, _, _, _, rfl, .inl rfl⟩
    · exact ⟨_, _, _, _, _, rfl, .inr rfl⟩
    · exact ⟨_, _, _, _, _, rfl, .inl rfl⟩
  · exact ⟨_, _, _, _, _, rfl, .inl rfl⟩

/-! The classified packet -/

/-- A hit action marks the packet with its tunnel type, its redirection flag and its pipeline. -/
def marks : IgwIpTypeAction → Option (BitVec 3 × BitVec 1 × BitVec 3)
  | .ipFromInternetInHit egrPipeline => some (typeIngressInternetIn, 0, egrPipeline)
  | .ipFromInternetInDlHit egrPipeline => some (typeIngressInternetIn, 1, egrPipeline)
  | .ipFromInternetOutHit egrPipeline => some (typeIngressInternetOut, 0, egrPipeline)
  | .ipFromInternetOutDlHit egrPipeline => some (typeIngressInternetOut, 1, egrPipeline)
  | .needDrop => none

theorem igwIpType_of_marks {tables : Tables} {s : IngressState} {action : IgwIpTypeAction}
    {igrTunnelType : BitVec 3} {dlPkt : BitVec 1} {egrPipeline : BitVec 3}
    (found : tables.igwIpType (igwIpTypeKey s) = some action)
    (marked : marks action = some (igrTunnelType, dlPkt, egrPipeline)) :
    igwIpType tables s = ipFromInternet igrTunnelType dlPkt egrPipeline s := by
  rw [igwIpType, found]
  cases action with
  | needDrop => contradiction
  | _ =>
      obtain ⟨rfl, rfl, rfl⟩ : _ ∧ _ ∧ _ := by simpa [marks] using marked
      rfl

/-- A marked packet as it comes to the ingress ACL -/
def marked (fresh : Headers) (igrTunnelType : BitVec 3) (dlPkt : BitVec 1) (egrPipeline : BitVec 3)
    (s : IngressState) : IngressState :=
  (ipFromInternet igrTunnelType dlPkt egrPipeline
    { s with hdr.bgMd := ⟨true, opened fresh s⟩, metadata.l3 := looked s }).note .ingressPort
      s.ingressPort.toNat crcAdjustBytes

/-- The controls up to the ingress ACL mark an unpunted packet and leave its headers alone. -/
theorem classify_eq (tables : Tables) (fresh : Headers) (s : IngressState)
    (shape : WellShaped s.hdr s.metadata.tunnel.vxlanType) (unbridged : s.hdr.bgMd.valid = false)
    (unpunted : ¬ Punted tables fresh s) {action : IgwIpTypeAction} {igrTunnelType : BitVec 3}
    {dlPkt : BitVec 1} {egrPipeline : BitVec 3}
    (found : tables.igwIpType (igwIpTypeKey s) = some action)
    (hit : marks action = some (igrTunnelType, dlPkt, egrPipeline)) :
    classify tables fresh s =
        ingressSystemAcl tables (marked fresh igrTunnelType dlPkt egrPipeline s) ∧
      Initialised (opened fresh s) := by
  obtain ⟨first, assigned⟩ := decapMetaData02_eq fresh s shape unbridged
  have missed : tables.processProtocolPacket (processProtocolKey (decapMetaData02 fresh s)) = none :=
    Classical.not_not.mp unpunted
  have located := igwIpTypeKey_unchanged tables fresh s
  rw [processLocal_of_none _ _ _ missed, first] at located
  let noted := ingressPortStats
    { s with hdr.bgMd := ⟨true, opened fresh s⟩, metadata.l3 := looked s }
  refine ⟨?_, assigned⟩
  rw [classify, processLocal_of_none _ _ _ missed, first]
  change ingressSystemAcl tables
    (if (opened fresh s).tunnelDirectSend = matchPacket then igwIpType tables noted else noted) = _
  rw [if_pos assigned.tunnelDirectSend, igwIpType_of_marks (located ▸ found) hit]
  rfl

/-- A packet that the classifier does not mark is dropped. -/
theorem classify_of_unmarked (tables : Tables) (fresh : Headers) (s : IngressState)
    (shape : WellShaped s.hdr s.metadata.tunnel.vxlanType) (unbridged : s.hdr.bgMd.valid = false)
    (unpunted : ¬ Punted tables fresh s) (unmarked : (tables.igwIpType (igwIpTypeKey s)).bind marks = none) :
    (classify tables fresh s).dropCtl = 1 := by
  obtain ⟨first, assigned⟩ := decapMetaData02_eq fresh s shape unbridged
  have passed : tables.processProtocolPacket (processProtocolKey (decapMetaData02 fresh s)) = none :=
    Classical.not_not.mp unpunted
  have located := igwIpTypeKey_unchanged tables fresh s
  rw [processLocal_of_none _ _ _ passed, first] at located
  let noted := ingressPortStats
    { s with hdr.bgMd := ⟨true, opened fresh s⟩, metadata.l3 := looked s }
  have entered : igwIpType tables noted = needDrop noted := by
    rw [igwIpType, show igwIpTypeKey noted = igwIpTypeKey s from located]
    cases found : tables.igwIpType (igwIpTypeKey s) with
    | none => rfl
    | some action =>
        rw [found] at unmarked
        cases action with
        | needDrop => rfl
        | _ => contradiction
  have reached : classify tables fresh s = ingressSystemAcl tables (needDrop noted) := by
    rw [classify, processLocal_of_none _ _ _ passed, first]
    change ingressSystemAcl tables
      (if (opened fresh s).tunnelDirectSend = matchPacket then igwIpType tables noted else noted) = _
    rw [if_pos assigned.tunnelDirectSend, entered]
  obtain ⟨dropCtl, mirrorType, sessionId, mirror, events, checked, drops⟩ :=
    ingressSystemAcl_effect tables (needDrop noted)
  rw [reached, checked]
  exact drops.elim id id

/-- No control behind the ingress ACL takes a drop back or adds one. -/
theorem dropCtl_kept (tables : Tables) (s : IngressState) :
    (encapMetaData02 (ecmpGroup02 tables (direct tables s))).dropCtl = s.dropCtl := by
  have encapped (r : IngressState) : (encapMetaData02 r).dropCtl = r.dropCtl := by
    unfold encapMetaData02
    dsimp only
    split <;> rfl
  have grouped (r : IngressState) : (ecmpGroup02 tables r).dropCtl = r.dropCtl := by
    unfold ecmpGroup02
    dsimp only
    split
    · split <;> rfl
    · rfl
  have shared (r : IngressState) : (haveSharedBindWith tables r).dropCtl = r.dropCtl := by
    unfold haveSharedBindWith setHaveFlag
    dsimp only
    split
    · split <;> rfl
    · split
      · split <;> rfl
      · rfl
  have modified (r : IngressState) : (modifyJdVxlanOut tables r).dropCtl = r.dropCtl := by
    unfold modifyJdVxlanOut selectRedirectIpOut
    split
    · split <;> rfl
    · rfl
    · rfl
  have found (entry : Option EipOutBwId) (r : IngressState) : (eipOutEntry entry r).dropCtl = r.dropCtl := by
    cases entry <;> rfl
  have looked (r : IngressState) : (eipOutLookup tables r).dropCtl = r.dropCtl := by
    unfold eipOutLookup
    split
    · exact found _ r
    · split
      · exact found _ r
      · rfl
  have fixed (r : IngressState) : (pipeLineFix tables r).dropCtl = r.dropCtl := by
    unfold pipeLineFix
    split <;> rfl
  have translated (r : IngressState) : (fipInnerIpSnat tables r).dropCtl = r.dropCtl := by
    unfold fipInnerIpSnat
    split
    · split <;> rfl
    · rfl
  rw [encapped, grouped, direct]
  split
  · split
    · rw [eipOutRedirect, modified, looked, fixed, translated]
    · exact shared s
  · rfl

end IgwP4.Dataplane.P02Ingress
