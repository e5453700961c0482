/-
This file splits the last pipe at its ACL and shows what each side of it leaves unchanged.
-/

import IgwP4.Proof.Dataplane.Deparsers
import IgwP4.Proof.Setup.AclTable

namespace IgwP4.Dataplane

/-- No control before the ACL changes these parts. -/
structure EgressState.Keeps (s t : EgressState) : Prop where
  egressPort : t.egressPort = s.egressPort
  dropCtl : t.dropCtl = s.dropCtl
  mirror : t.metadata.mirror = s.metadata.mirror

theorem EgressState.Keeps.trans {s t u : EgressState} (first : s.Keeps t) (second : t.Keeps u) :
    s.Keeps u :=
  ⟨second.egressPort.trans first.egressPort, second.dropCtl.trans first.dropCtl,
    second.mirror.trans first.mirror⟩

/-- A rewriting table puts both addresses in place, or neither. -/
def Ethernet.readdress (ethernet : Ethernet) : Option MacPair → Ethernet
  | some macs => { ethernet with srcAddr := macs.smac, dstAddr := macs.dmac }
  | none => ethernet

@[simp] theorem Ethernet.readdress_etherType (ethernet : Ethernet) (macs : Option MacPair) :
    (ethernet.readdress macs).etherType = ethernet.etherType := by
  cases macs <;> rfl

namespace P02Egress
open Packet

theorem restore_keeps (fresh : Headers) (s : EgressState) : s.Keeps (restore fresh s) := by
  have decapped (s : EgressState) : s.Keeps (decapMetaDataI2E02 s) := by
    unfold decapMetaDataI2E02
    split <;> exact ⟨rfl, rfl, rfl⟩
  unfold restore
  split
  · split
    · exact ⟨(decapped _).egressPort, (decapped _).dropCtl, (decapped _).mirror⟩
    · exact decapped _
  · exact ⟨rfl, rfl, rfl⟩

theorem internetInProcess_keeps (tables : Tables) (s : EgressState) :
    s.Keeps (internetInProcess tables s) := by
  have inner (s : EgressState) : s.Keeps (tunnelInnerRewrite tables s) := by
    unfold tunnelInnerRewrite
    split <;> exact ⟨rfl, rfl, rfl⟩
  have dst (s : EgressState) : s.Keeps (tunnelDstRewrite tables s) := by
    unfold tunnelDstRewrite
    split
    · exact ⟨rfl, rfl, rfl⟩
    · split <;> exact ⟨rfl, rfl, rfl⟩
  have src (s : EgressState) : s.Keeps (tunnelSrcRewrite tables s) := by
    unfold tunnelSrcRewrite
    split <;> exact ⟨rfl, rfl, rfl⟩
  have vxlan (s : EgressState) : s.Keeps (rewriteVxlanProcess s) := by
    unfold rewriteVxlanProcess
    split <;> exact ⟨rfl, rfl, rfl⟩
  rw [internetInProcess]
  refine .trans ?_ (((inner _).trans (dst _)).trans (src _))
  split
  · exact (vxlan s).trans ⟨rfl, rfl, rfl⟩
  · exact ⟨rfl, rfl, rfl⟩

theorem internetOutProcess_keeps (s : EgressState) : s.Keeps (internetOutProcess s) := by
  unfold internetOutProcess
  split <;> exact ⟨rfl, rfl, rfl⟩

theorem eipOutMeter_keeps (tables : Tables) (s : EgressState) : s.Keeps (eipOutMeter tables s) := by
  unfold eipOutMeter
  split
  · dsimp only
    split <;> exact ⟨rfl, rfl, rfl⟩
  · exact ⟨rfl, rfl, rfl⟩

theorem eipOutSharedMeter_keeps (tables : Tables) (s : EgressState) :
    s.Keeps (eipOutSharedMeter tables s) := by
  unfold eipOutSharedMeter
  split
  · unfold sharedBwRatelimit
    dsimp only
    split <;> exact ⟨rfl, rfl, rfl⟩
  · exact ⟨rfl, rfl, rfl⟩

theorem eipOutEgressPktStats_keeps (s : EgressState) : s.Keeps (eipOutEgressPktStats s) := by
  unfold eipOutEgressPktStats
  dsimp only
  split
  · split <;> exact ⟨rfl, rfl, rfl⟩
  · split
    · split <;> exact ⟨rfl, rfl, rfl⟩
    · exact ⟨rfl, rfl, rfl⟩

theorem processGwEgress_keeps (tables : Tables) (s : EgressState) :
    s.Keeps (processGwEgress tables s) := by
  unfold processGwEgress
  split
  · exact internetInProcess_keeps tables s
  · exact (((eipOutMeter_keeps tables s).trans (eipOutSharedMeter_keeps tables _)).trans
      (eipOutEgressPktStats_keeps _)).trans (internetOutProcess_keeps _)

/-- The ACL sees this state of a packet that is no mirror copy. -/
def reached (tables : Tables) (fresh : Headers) (s : EgressState) : EgressState :=
  let s := restore fresh s
  if s.hdr.bgMd.fields.tunnelDirectSend = matchPacket then processGwEgress tables s else s

theorem reached_keeps (tables : Tables) (fresh : Headers) (s : EgressState) :
    s.Keeps (reached tables fresh s) := by
  unfold reached
  dsimp only
  split
  · exact (restore_keeps fresh s).trans (processGwEgress_keeps tables _)
  · exact restore_keeps fresh s

/-- The outer addresses, where the packet is not one of the host -/
def addressed (tables : Tables) (s : EgressState) : EgressState :=
  if s.hdr.bgMd.fields.matchOrDl then rewriteOuterMac tables s else s

/-- The bridge header goes at the end. -/
def unbridged (s : EgressState) : EgressState :=
  if s.hdr.bgMd.valid then { s with hdr.bgMd := s.hdr.bgMd.setInvalid } else s

/-- These controls follow the ACL. -/
def leave (tables : Tables) (s : EgressState) : EgressState :=
  unbridged (addressed tables (egressPortStats s))

theorem apply_eq (tables : Tables) (fresh : Headers) (s : EgressState)
    (original : s.metadata.mirror.flag = 0) :
    apply tables fresh s = leave tables (egressSystemAcl tables (reached tables fresh s)) := by
  have same : (restore fresh s).metadata.mirror.flag = 0 := by
    rw [(restore_keeps fresh s).mirror, original]
  have opened : apply tables fresh s = unbridged
      (if (restore fresh s).metadata.mirror.flag ≠ 0 then processMirror tables fresh (restore fresh s)
        else deliver tables (restore fresh s)) := rfl
  rw [opened, if_neg (not_not.mpr same)]
  rfl

/-- The packet that leaves depends on the headers, the port and the checksum flag alone. -/
def emission (tables : Tables) (s : EgressState) (rest : Bits) : Delivery :=
  ⟨s.egressPort, deparse (leave tables s) ++ rest, s.hdr.bgMd.fields.tunnelDirectSend⟩

/-- The ACL changes what happens to the packet and nothing in it. -/
theorem egressSystemAcl_eq (tables : Tables) (s : EgressState) :
    ∃ dropCtl mirrorType events sessionId mirror,
      egressSystemAcl tables s = { s with
        dropCtl, mirrorType, events
        metadata.tunnel.sessionId := sessionId, metadata.mirror := mirror } ∧
      (s.dropCtl = 0 → dropped dropCtl =
        decide (s.egressPort ≠ cpuPort ∧ (tables.egressSystemAcl (egressAclKey s)).drops = true)) := by
  unfold egressSystemAcl
  split
  · rename_i outside
    dsimp only
    split
    all_goals
      rename_i found
      rw [found]
      refine ⟨_, _, _, _, _, rfl, ?_⟩
      intro clear
      have outside' : ¬ s.egressPort = 320#9 := outside
      simp [outside', EgressAclAction.drops, dropped, EgressState.note, clear]
  · rename_i inside
    refine ⟨_, _, _, _, _, rfl, ?_⟩
    intro clear
    rw [clear, decide_eq_false (fun h => inside h.1)]
    decide

theorem egressPortStats_eq (s : EgressState) :
    ∃ events, egressPortStats s = { s with events := events } := by
  unfold egressPortStats
  split <;> exact ⟨_, rfl⟩

/-- The headers that the controls behind the ACL leave -/
def outgoing (tables : Tables) (port : BitVec 9) (hdr : Headers) : Headers :=
  { hdr with
    bgMd := hdr.bgMd.setInvalid
    ethernet.fields :=
      if hdr.bgMd.fields.matchOrDl then hdr.ethernet.fields.readdress (tables.tunnelMacRewrite port)
      else hdr.ethernet.fields }

theorem leave_eq (tables : Tables) (s : EgressState) :
    ∃ events, leave tables s = { s with hdr := outgoing tables s.egressPort s.hdr, events := events } := by
  have closed (t : EgressState) : unbridged t = { t with hdr.bgMd := t.hdr.bgMd.setInvalid } := by
    unfold unbridged
    split
    · rfl
    · rename_i off
      have same : t.hdr.bgMd.setInvalid = t.hdr.bgMd := by
        generalize t.hdr.bgMd = bgMd at off
        obtain ⟨_ | _, fields⟩ := bgMd
        · rfl
        · exact absurd rfl off
      rw [same]
  obtain ⟨events, counted⟩ := egressPortStats_eq s
  refine ⟨events, ?_⟩
  rw [leave, counted, closed, outgoing, addressed, rewriteOuterMac]
  split
  · dsimp only
    cases tables.tunnelMacRewrite s.egressPort <;> rfl
  · rfl

/-- What leaves depends on the headers and on the checksum flag alone. -/
theorem deparse_congr {s t : EgressState} (hdr : s.hdr = t.hdr)
    (flag : s.metadata.tunnel.innerIpv4ChecksumEn = t.metadata.tunnel.innerIpv4ChecksumEn) :
    deparse s = deparse t := by
  rw [deparse, deparse, checksums, checksums, hdr, flag]

theorem pass_value {tables : Tables} {around : Surroundings} {port : BitVec 9} {packet : Bits}
    {parsed : ParserState} (accepted : P02EgressParser.parse around.containers packet = some parsed)
    (original : parsed.metadata.mirror.flag = 0) {s : EgressState}
    (arrived : reached tables around.fresh (egressStart around port parsed) = s) :
    (pass tables around port packet).value =
      if port ≠ cpuPort ∧ (tables.egressSystemAcl (egressAclKey s)).drops = true then none
      else some (emission tables s parsed.pkt) := by
  subst arrived
  have kept := reached_keeps tables around.fresh (egressStart around port parsed)
  generalize applied : reached tables around.fresh (egressStart around port parsed) = s at kept
  obtain ⟨dropCtl, mirrorType, events, sessionId, mirror, checked, drops⟩ := egressSystemAcl_eq tables s
  obtain ⟨_, left⟩ := leave_eq tables (egressSystemAcl tables s)
  obtain ⟨_, plain⟩ := leave_eq tables s
  have outside : s.egressPort = port := kept.egressPort
  have same : deparse (leave tables (egressSystemAcl tables s)) = deparse (leave tables s) := by
    rw [left, plain, checked]
    exact deparse_congr rfl rfl
  have direct : (leave tables (egressSystemAcl tables s)).hdr.bgMd.fields.tunnelDirectSend =
      s.hdr.bgMd.fields.tunnelDirectSend := by
    rw [left, checked]
    rfl
  have bit : (leave tables (egressSystemAcl tables s)).dropCtl = dropCtl := by
    rw [left, checked]
  rw [pass, egressPass, accepted]
  dsimp only
  rw [apply_eq tables around.fresh (egressStart around port parsed) original, applied, same, direct, bit,
    drops kept.dropCtl, emission, outside]
  simp only [decide_eq_true_eq]

end P02Egress

end IgwP4.Dataplane
