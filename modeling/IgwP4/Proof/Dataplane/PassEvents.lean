/-
This file gives the meters and the counters that each ingress and each egress applies.
-/

import IgwP4.Construction.Dataplane.Pipes

namespace IgwP4.Dataplane
open Packet

/-- The two ingresses and the two egresses of the program -/
inductive Gress where
  | p02Ingress
  | p13Egress
  | p13Ingress
  | p02Egress
deriving DecidableEq

namespace Site

/-- Each table is applied in one place. -/
def gress : Site → Gress
  | .processProtocolPacket | .ingressPort | .ingressSystemAcl => .p02Ingress
  | .eipInMeter => .p13Egress
  | .eipInSharedMeter | .inSharedValid | .inSharedDrop | .ratelimitDrop | .vmHostDrop | .nexthopDrop |
    .eipInEgress | .eipInDrop | .eip6InEgress | .eip6InDrop => .p13Ingress
  | .egressPort | .egressSystemAcl | .dstipDrop | .eipOutMeter | .eipOutSharedMeter | .outSharedValid |
    .outSharedDrop | .eipOutEgress | .eipOutDrop | .eip6OutEgress | .eip6OutDrop => .p02Egress

/-- Each counter has one constant adjustment. -/
def adjust : Site → Nat
  | .ingressPort => crcAdjustBytes
  | .egressPort => brAdjustBytes
  | .inSharedValid | .inSharedDrop | .eipInEgress | .eip6InEgress => eip46InEgressAdjust
  | .outSharedValid | .outSharedDrop | .eipOutEgress | .eip6OutEgress => eip46OutEgressAdjust
  | _ => 0

/-- These tables belong to the outbound packets. -/
def outbound : Site → Bool
  | .eipOutMeter | .eipOutSharedMeter | .outSharedValid | .outSharedDrop | .eipOutEgress | .eipOutDrop |
    .eip6OutEgress | .eip6OutDrop => true
  | _ => false

end Site

/-- An event of this gress, which is one of an outbound table only where these are applied -/
structure Event.Of (gress : Gress) (outbound : Bool) (event : Event) : Prop where
  gress : event.site.gress = gress
  adjust : event.adjust = event.site.adjust
  outbound : event.site.outbound = true → outbound = true

/-- The second list continues the first with events of this gress. -/
def Extends (gress : Gress) (outbound : Bool) (first second : List Event) : Prop :=
  ∃ between, second = first ++ between ∧ ∀ event ∈ between, event.Of gress outbound

namespace Extends

variable {gress : Gress} {outbound : Bool} {first second third : List Event}

theorem refl (events : List Event) : Extends gress outbound events events :=
  ⟨[], (List.append_nil _).symm, fun _ member => absurd member List.not_mem_nil⟩

theorem note (events : List Event) {event : Event} (own : event.Of gress outbound) :
    Extends gress outbound events (events ++ [event]) := by
  refine ⟨[event], rfl, fun other member => ?_⟩
  rw [List.mem_singleton.mp member]
  exact own

theorem trans (one : Extends gress outbound first second) (two : Extends gress outbound second third) :
    Extends gress outbound first third := by
  obtain ⟨between, rfl, own⟩ := one
  obtain ⟨after, rfl, own'⟩ := two
  refine ⟨between ++ after, List.append_assoc _ _ _, fun event member => ?_⟩
  rcases List.mem_append.mp member with h | h
  · exact own event h
  · exact own' event h

/-- A pass starts without events. -/
theorem of_nil (extends_ : Extends gress outbound [] second) : ∀ event ∈ second, event.Of gress outbound := by
  obtain ⟨between, rfl, own⟩ := extends_
  exact own

end Extends

/-- A table without outbound entries -/
theorem Event.Of.of_site (site : Site) (key : Nat) (inbound : site.outbound = false) (outbound : Bool) :
    (⟨site, key, site.adjust⟩ : Event).Of site.gress outbound :=
  ⟨rfl, rfl, fun on => absurd (inbound.symm.trans on) Bool.false_ne_true⟩

namespace P02Ingress

theorem processLocal_extends (tables : Tables) (fresh : Headers) (s : IngressState) :
    Extends .p02Ingress false s.events (processLocal tables fresh s).events := by
  unfold processLocal
  split
  · exact .note _ (.of_site .processProtocolPacket _ rfl _)
  · exact .note _ (.of_site .processProtocolPacket _ rfl _)
  · exact .note _ (.of_site .processProtocolPacket _ rfl _)
  · exact .refl _

theorem ingressSystemAcl_extends (tables : Tables) (s : IngressState) :
    Extends .p02Ingress false s.events (ingressSystemAcl tables s).events := by
  unfold ingressSystemAcl
  split
  · dsimp only
    split <;> exact .note _ (.of_site .ingressSystemAcl _ rfl _)
  · exact .refl _

theorem classify_extends (tables : Tables) (fresh : Headers) (s : IngressState) :
    Extends .p02Ingress false s.events (classify tables fresh s).events := by
  have opened : (decapMetaData02 fresh s).events = s.events := by
    unfold decapMetaData02
    split <;> rfl
  have typed (s : IngressState) : (if s.hdr.bgMd.fields.tunnelDirectSend = matchPacket then
      igwIpType tables s else s).events = s.events := by
    split
    · unfold igwIpType
      split <;> rfl
    · rfl
  have counted : Extends .p02Ingress false s.events
      (ingressPortStats (processLocal tables fresh (decapMetaData02 fresh s))).events := by
    rw [← opened]
    exact (processLocal_extends tables fresh _).trans (.note _ (.of_site .ingressPort _ rfl _))
  unfold classify
  dsimp only
  refine counted.trans ?_
  rw [← typed]
  exact ingressSystemAcl_extends tables _

/-- No control behind the ACL applies a meter or a counter. -/
theorem apply_extends (tables : Tables) (fresh : Headers) (s : IngressState) :
    Extends .p02Ingress false s.events (apply tables fresh s).events := by
  have translated (s : IngressState) : (fipInnerIpSnat tables s).events = s.events := by
    unfold fipInnerIpSnat
    split
    · split <;> rfl
    · rfl
  have fixed (s : IngressState) : (pipeLineFix tables s).events = s.events := by
    unfold pipeLineFix
    split <;> rfl
  have looked (s : IngressState) : (eipOutLookup tables s).events = s.events := by
    have entered (entry : Option EipOutBwId) : (eipOutEntry entry s).events = s.events := by
      cases entry <;> rfl
    unfold eipOutLookup
    split
    · exact entered _
    · split
      · exact entered _
      · rfl
  have redirected (s : IngressState) : (modifyJdVxlanOut tables s).events = s.events := by
    have selected (s : IngressState) : (selectRedirectIpOut tables s).events = s.events := by
      unfold selectRedirectIpOut
      split <;> rfl
    unfold modifyJdVxlanOut
    split
    · exact selected _
    · rfl
    · rfl
  have bound (s : IngressState) : (haveSharedBindWith tables s).events = s.events := by
    have flagged (hit : Bool) : (setHaveFlag hit s).events = s.events := by
      cases hit <;> rfl
    unfold haveSharedBindWith
    split
    · exact flagged _
    · split
      · exact flagged _
      · rfl
  have directed (s : IngressState) : (direct tables s).events = s.events := by
    unfold direct
    split
    · split
      · exact (redirected _).trans ((looked _).trans ((fixed _).trans (translated _)))
      · exact bound s
    · rfl
  have spread (s : IngressState) : (ecmpGroup02 tables s).events = s.events := by
    unfold ecmpGroup02
    split
    · dsimp only
      split <;> rfl
    · rfl
  have bridged (s : IngressState) : (encapMetaData02 s).events = s.events := by
    unfold encapMetaData02
    dsimp only
    split <;> rfl
  rw [apply, bridged, spread, directed]
  exact classify_extends tables fresh s

theorem pass_events (tables : Tables) (around : Surroundings) (port : BitVec 9) (frame : Bits) :
    ∀ event ∈ (pass tables around port frame).events, event.Of .p02Ingress false := by
  rw [pass, ingressPass]
  split
  · exact fun _ member => absurd member List.not_mem_nil
  · exact (apply_extends tables around.fresh _).of_nil

end P02Ingress

namespace P13Egress

/-- The meter of the bandwidths is the only table here. -/
theorem apply_extends (tables : Tables) (fresh : Headers) (s : EgressState) :
    Extends .p13Egress false s.events (apply tables fresh s).events := by
  have decapped (s : EgressState) : (decapMetaDataI2E13 s).events = s.events := by
    unfold decapMetaDataI2E13
    split <;> rfl
  have encapped (s : EgressState) : (encap fresh s).events = s.events := by
    have opened : (encapOuter fresh s).1.events = s.events := by
      unfold encapOuter
      split <;> rfl
    unfold encap
    split
    · exact opened
    · rfl
  have looked (s : EgressState) : (eipInLookup tables s).events = s.events := by
    have entered (entry : Option EipInBwId) : (eipInEntry entry s).events = s.events := by
      cases entry <;> rfl
    unfold eipInLookup
    split
    · exact entered _
    · split
      · exact entered _
      · rfl
  have redirected (s : EgressState) : (modifyJdVxlanIn tables s).events = s.events := by
    have selected (s : EgressState) : (selectRedirectIpIn tables s).events = s.events := by
      unfold selectRedirectIpIn
      split <;> rfl
    unfold modifyJdVxlanIn
    split
    · exact selected _
    · rfl
    · rfl
  have metered (s : EgressState) : Extends .p13Egress false s.events (eipInMeter tables s).events := by
    unfold eipInMeter
    split
    · dsimp only
      split <;> exact .note _ (.of_site .eipInMeter _ rfl _)
    · exact .refl _
  unfold apply
  split
  · exact .refl _
  · dsimp only
    have arrived : (eipInRedirect tables (encap fresh (decapMetaDataI2E13 s))).events = s.events :=
      (redirected _).trans ((looked _).trans ((encapped _).trans (decapped s)))
    rw [← arrived]
    split
    · exact metered _
    · exact .refl _

theorem pass_events (tables : Tables) (around : Surroundings) (port : BitVec 9) (packet : Bits) :
    ∀ event ∈ (pass tables around port packet).events, event.Of .p13Egress false := by
  rw [pass, egressPass]
  split
  · exact fun _ member => absurd member List.not_mem_nil
  · exact (apply_extends tables around.fresh _).of_nil

end P13Egress

namespace P13Ingress

theorem eipInSharedMeter_extends (tables : Tables) (s : IngressState) :
    Extends .p13Ingress false s.events (eipInSharedMeter tables s).events := by
  have metered (s : IngressState) : Extends .p13Ingress false s.events (sharedBwRatelimit tables s).events := by
    unfold sharedBwRatelimit
    dsimp only
    split <;> exact .note _ (.of_site .eipInSharedMeter _ rfl _)
  have counted (s : IngressState) : Extends .p13Ingress false s.events (sharedBwStats s).events := by
    unfold sharedBwStats
    split
    · exact .note _ (.of_site .inSharedValid _ rfl _)
    · exact .note _ (.of_site .inSharedDrop _ rfl _)
  have limited (s : IngressState) : Extends .p13Ingress false s.events (ratelimitDrop tables s).events := by
    unfold ratelimitDrop
    dsimp only
    split <;> exact .note _ (.of_site .ratelimitDrop _ rfl _)
  unfold eipInSharedMeter
  split
  · exact ((metered s).trans (counted _)).trans (limited _)
  · exact limited s

theorem vmLocationMapping_extends (tables : Tables) (s : IngressState) :
    Extends .p13Ingress false s.events (vmLocationMapping tables s).events := by
  have located (s : IngressState) : (vmLocMapping tables s).events = s.events := by
    unfold vmLocMapping
    split <;> rfl
  have located6 (s : IngressState) : (ipv6VmLocMapping tables s).events = s.events := by
    unfold ipv6VmLocMapping
    split <;> rfl
  have mapped : (if s.hdr.innerIpv4.valid then
      { vmLocMapping tables s with
        hdr.innerIpv4.fields.dstAddr := (vmLocMapping tables s).metadata.tunnel.fipDip }
    else if s.hdr.innerIpv6.valid then ipv6VmLocMapping tables s else s).events = s.events := by
    split
    · exact located s
    · split
      · exact located6 s
      · rfl
  have counted (s : IngressState) : Extends .p13Ingress false s.events
      (if s.hdr.bgMd.fields.needDrop = 1 then s.note .vmHostDrop 1 else s).events := by
    split
    · exact .note _ (.of_site .vmHostDrop _ rfl _)
    · exact .refl _
  rw [← mapped]
  exact counted _

theorem nexthopProcess_extends (tables : Tables) (s : IngressState) :
    Extends .p13Ingress false s.events (nexthopProcess tables s).events := by
  have spread (s : IngressState) : (routeEcmp tables s).events = s.events := by
    unfold routeEcmp
    split <;> rfl
  rw [nexthopProcess, ← spread]
  unfold routeNexthop
  split
  · exact .refl _
  · split
    · exact .note _ (.of_site .nexthopDrop _ rfl _)
    · exact .refl _

theorem eipInEgressPktStats_extends (s : IngressState) :
    Extends .p13Ingress false s.events (eipInEgressPktStats s).events := by
  unfold eipInEgressPktStats
  dsimp only
  split
  · split
    · split
      · exact .note _ (.of_site .eipInEgress _ rfl _)
      · exact .note _ (.of_site .eipInDrop _ rfl _)
    · split
      · split
        · exact .note _ (.of_site .eip6InEgress _ rfl _)
        · exact .note _ (.of_site .eip6InDrop _ rfl _)
      · exact .refl _
  · exact .refl _

theorem apply_extends (tables : Tables) (s : IngressState) :
    Extends .p13Ingress false s.events (apply tables s).events := by
  have decapped (s : IngressState) : (decapMetaData13 s).events = s.events := by
    unfold decapMetaData13
    split <;> rfl
  have hashed (s : IngressState) : (computeIpHashes tables s).events = s.events := by
    unfold computeIpHashes
    split <;> rfl
  have translated (s : IngressState) : (fipIpDnat tables s).events = s.events := by
    unfold fipIpDnat
    split <;> rfl
  have balanced (s : IngressState) : (azSelector tables s).events = s.events := by
    unfold azSelector
    split
    · split <;> rfl
    · rfl
  have located (s : IngressState) : Extends .p13Ingress false s.events (locate tables s).events := by
    have metered := eipInSharedMeter_extends tables s
    have mapped := vmLocationMapping_extends tables
      (fipIpDnat tables (computeIpHashes tables (eipInSharedMeter tables s)))
    have routed := nexthopProcess_extends tables (azSelector tables (vmLocationMapping tables
      (fipIpDnat tables (computeIpHashes tables (eipInSharedMeter tables s)))))
    rw [translated, hashed] at mapped
    rw [balanced] at routed
    exact ((metered.trans mapped).trans routed).trans (eipInEgressPktStats_extends _)
  unfold apply
  dsimp only
  rw [← decapped]
  split
  · exact located { decapMetaData13 s with ucastEgressPort := (decapMetaData13 s).hdr.bgMd.fields.igrPort }
  · exact .refl _

theorem pass_events (tables : Tables) (around : Surroundings) (port : BitVec 9) (packet : Bits) :
    ∀ event ∈ (pass tables around port packet).events, event.Of .p13Ingress false := by
  rw [pass, ingressPass]
  split
  · exact fun _ member => absurd member List.not_mem_nil
  · exact (apply_extends tables _).of_nil

end P13Ingress

namespace P02Egress

theorem internetInProcess_extends (tables : Tables) (s : EgressState) :
    Extends .p02Egress false s.events (internetInProcess tables s).events := by
  have inner (s : EgressState) : (tunnelInnerRewrite tables s).events = s.events := by
    unfold tunnelInnerRewrite
    split <;> rfl
  have dst (s : EgressState) : Extends .p02Egress false s.events (tunnelDstRewrite tables s).events := by
    unfold tunnelDstRewrite
    split
    · exact .refl _
    · split
      · exact .note _ (.of_site .dstipDrop _ rfl _)
      · exact .refl _
  have src (s : EgressState) : (tunnelSrcRewrite tables s).events = s.events := by
    unfold tunnelSrcRewrite
    split <;> rfl
  have vxlan (s : EgressState) : (rewriteVxlanProcess s).events = s.events := by
    unfold rewriteVxlanProcess
    split <;> rfl
  have opened (s : EgressState) : (if s.hdr.vxlan.valid then
      { rewriteVxlanProcess s with hdr.vxlan.fields.vni := (rewriteVxlanProcess s).hdr.bgMd.fields.lkpVni }
    else s).events = s.events := by
    split
    · exact vxlan s
    · rfl
  unfold internetInProcess
  dsimp only
  rw [src, ← opened s, ← inner]
  exact dst _

/-- The outbound tables come one after the other. -/
theorem internetOut_extends (tables : Tables) (s : EgressState) :
    Extends .p02Egress true s.events
      (internetOutProcess (eipOutEgressPktStats (eipOutSharedMeter tables (eipOutMeter tables s)))).events := by
  have own {site : Site} (key : Nat) (here : site.gress = .p02Egress) :
      (⟨site, key, site.adjust⟩ : Event).Of .p02Egress true := ⟨here, rfl, fun _ => rfl⟩
  have metered (s : EgressState) : Extends .p02Egress true s.events (eipOutMeter tables s).events := by
    unfold eipOutMeter
    split
    · dsimp only
      split <;> exact .note _ (@own .eipOutMeter _ rfl)
    · exact .refl _
  have limited (s : EgressState) : Extends .p02Egress true s.events (sharedBwRatelimit tables s).events := by
    unfold sharedBwRatelimit
    dsimp only
    split <;> exact .note _ (@own .eipOutSharedMeter _ rfl)
  have valued (s : EgressState) : Extends .p02Egress true s.events (sharedBwStats s).events := by
    unfold sharedBwStats
    split
    · exact .note _ (@own .outSharedValid _ rfl)
    · exact .note _ (@own .outSharedDrop _ rfl)
  have shared (s : EgressState) : Extends .p02Egress true s.events (eipOutSharedMeter tables s).events := by
    unfold eipOutSharedMeter
    split
    · exact (limited s).trans (valued _)
    · exact .refl _
  have counted (s : EgressState) : Extends .p02Egress true s.events (eipOutEgressPktStats s).events := by
    unfold eipOutEgressPktStats
    dsimp only
    split
    · split
      · exact .note _ (@own .eipOutEgress _ rfl)
      · exact .note _ (@own .eipOutDrop _ rfl)
    · split
      · split
        · exact .note _ (@own .eip6OutEgress _ rfl)
        · exact .note _ (@own .eip6OutDrop _ rfl)
      · exact .refl _
  have decapped (s : EgressState) : (internetOutProcess s).events = s.events := by
    unfold internetOutProcess
    split <;> rfl
  rw [decapped]
  exact ((metered s).trans (shared _)).trans (counted _)

/-- The outbound tables are applied to packets that did not come from the internet. -/
def outward (s : EgressState) : Bool := s.hdr.bgMd.fields.igrTunnelType != typeIngressInternetIn

theorem processGwEgress_extends (tables : Tables) (s : EgressState) :
    Extends .p02Egress (outward s) s.events (processGwEgress tables s).events := by
  unfold processGwEgress
  split
  · rename_i inbound
    rw [outward, inbound]
    exact internetInProcess_extends tables s
  · rename_i outbound
    rw [outward, bne_iff_ne.mpr outbound]
    exact internetOut_extends tables s

theorem deliver_extends (tables : Tables) (s : EgressState) :
    Extends .p02Egress (outward s) s.events (deliver tables s).events := by
  have checked (outbound : Bool) (s : EgressState) :
      Extends .p02Egress outbound s.events (egressSystemAcl tables s).events := by
    unfold egressSystemAcl
    split
    · dsimp only
      split <;> exact .note _ (.of_site .egressSystemAcl _ rfl _)
    · exact .refl _
  have counted (outbound : Bool) (s : EgressState) :
      Extends .p02Egress outbound s.events (egressPortStats s).events := by
    unfold egressPortStats
    split
    · exact .note _ (.of_site .egressPort _ rfl _)
    · exact .refl _
  have addressed (s : EgressState) :
      (if s.hdr.bgMd.fields.matchOrDl then rewriteOuterMac tables s else s).events = s.events := by
    unfold rewriteOuterMac
    split
    · split <;> rfl
    · rfl
  have processed : Extends .p02Egress (outward s) s.events (if s.hdr.bgMd.fields.tunnelDirectSend = matchPacket
      then processGwEgress tables s else s).events := by
    split
    · exact processGwEgress_extends tables s
    · exact .refl _
  have left := (processed.trans (checked _ _)).trans (counted _ _)
  rw [← addressed (egressPortStats _)] at left
  exact left

theorem apply_extends (tables : Tables) (fresh : Headers) (s : EgressState) :
    Extends .p02Egress (outward s) s.events (apply tables fresh s).events := by
  have decapped (s : EgressState) : (decapMetaDataI2E02 s).events = s.events ∧
      outward (decapMetaDataI2E02 s) = outward s := by
    unfold decapMetaDataI2E02
    split <;> exact ⟨rfl, rfl⟩
  have restored : (restore fresh s).events = s.events ∧ outward (restore fresh s) = outward s := by
    unfold restore
    split
    · split
      · exact decapped _
      · exact decapped s
    · exact ⟨rfl, rfl⟩
  have mirrored (s : EgressState) : (processMirror tables fresh s).events = s.events := by
    have cloned (s : EgressState) : (cloneToCpu fresh s).events = s.events := rfl
    unfold processMirror
    dsimp only
    split
    · split <;> rfl
    · split <;> rfl
  have delivered := deliver_extends tables (restore fresh s)
  rw [restored.1, restored.2] at delivered
  have treated : Extends .p02Egress (outward s) s.events
      (if (restore fresh s).metadata.mirror.flag ≠ 0 then processMirror tables fresh (restore fresh s)
        else deliver tables (restore fresh s)).events := by
    split
    · rw [mirrored, restored.1]
      exact .refl _
    · exact delivered
  have closed (s : EgressState) :
      (if s.hdr.bgMd.valid then { s with hdr.bgMd := s.hdr.bgMd.setInvalid } else s).events = s.events := by
    split <;> rfl
  obtain ⟨between, shape, own⟩ := treated
  exact ⟨between, (closed _).trans shape, own⟩

/-- The pass of an accepted packet -/
theorem pass_events {tables : Tables} {around : Surroundings} {port : BitVec 9} {packet : Bits}
    {parsed : ParserState} (accepted : P02EgressParser.parse around.containers packet = some parsed) :
    ∀ event ∈ (pass tables around port packet).events,
      event.Of .p02Egress (outward (egressStart around port parsed)) := by
  rw [pass, egressPass, accepted]
  exact (apply_extends tables around.fresh _).of_nil

end P02Egress

end IgwP4.Dataplane
