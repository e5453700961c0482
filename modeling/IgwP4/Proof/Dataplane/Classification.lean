/-
This file shows that the classification of every accepted frame equals its specification.
-/

import IgwP4.Construction.Dataplane.Pipes
import IgwP4.Proof.Dataplane.ParserFrames
import IgwP4.Proof.Setup.IgwIpTypeTable

namespace IgwP4.Dataplane
open Packet Setup

/-- The first parser takes a VXLAN packet for a redirected one when flag and version agree. -/
def isJd (hdr : Headers) : Bool := p02IngressDialect.jd hdr.vxlan.fields

/-- The first parser validates only these combinations of headers. -/
inductive WellShaped (hdr : Headers) (vxlanType : BitVec 2) : Prop where
  | noIp (ipv4 : hdr.ipv4.valid = false) (ipv6 : hdr.ipv6.valid = false)
      (vxlan : hdr.vxlan.valid = false) (innerIpv4 : hdr.innerIpv4.valid = false)
      (innerIpv6 : hdr.innerIpv6.valid = false)
  | direct6 (ipv4 : hdr.ipv4.valid = false) (ipv6 : hdr.ipv6.valid = true)
      (vxlan : hdr.vxlan.valid = false) (innerIpv4 : hdr.innerIpv4.valid = false)
      (innerIpv6 : hdr.innerIpv6.valid = false)
  | plain4 (ipv4 : hdr.ipv4.valid = true) (ipv6 : hdr.ipv6.valid = false)
      (vxlan : hdr.vxlan.valid = false) (innerIpv4 : hdr.innerIpv4.valid = false)
      (innerIpv6 : hdr.innerIpv6.valid = false)
  | overlay (ipv4 : hdr.ipv4.valid = true) (ipv6 : hdr.ipv6.valid = false)
      (vxlan : hdr.vxlan.valid = true)
      (families : hdr.innerIpv4.valid = false ∨ hdr.innerIpv6.valid = false)
      (type : vxlanType = Dialect.vxlanType (isJd hdr))

theorem Outer.wellShaped (outer : Outer) (s : ParserState) (ipv4 : s.hdr.ipv4.valid = true)
    (ipv6 : s.hdr.ipv6.valid = false) (vxlan : s.hdr.vxlan.valid = false)
    (inner4 : s.hdr.innerIpv4.valid = false) (inner6 : s.hdr.innerIpv6.valid = false) :
    WellShaped (outer.place p02IngressDialect s).hdr
      (outer.place p02IngressDialect s).metadata.tunnel.vxlanType := by
  cases outer with
  | unread rest => exact .plain4 ipv4 ipv6 vxlan inner4 inner6
  | icmp h rest => exact .plain4 ipv4 ipv6 vxlan inner4 inner6
  | tcp h rest => exact .plain4 ipv4 ipv6 vxlan inner4 inner6
  | udp h rest => exact .plain4 ipv4 ipv6 vxlan inner4 inner6
  | overlay o =>
      obtain ⟨udp, vxlan, ethernet, inner⟩ := o
      rcases inner with rest | ⟨ip, words, transport, rest⟩ | ⟨ip, words, transport, rest⟩
      · exact .overlay ipv4 ipv6 rfl (.inl inner4) rfl
      · cases transport <;> exact .overlay ipv4 ipv6 rfl (.inr inner6) rfl
      · cases transport <;> exact .overlay ipv4 ipv6 rfl (.inl inner4) rfl

theorem Frame.wellShaped (frame : Frame) (containers : Headers) :
    WellShaped (frame.state containers).hdr (frame.state containers).metadata.tunnel.vxlanType := by
  cases frame with
  | other ethernet rest => exact .noIp rfl rfl rfl rfl rfl
  | ipv4 ethernet ip outer => exact outer.wellShaped _ rfl rfl rfl rfl rfl
  | ipv6 ethernet ip transport rest => cases transport <;> exact .direct6 rfl rfl rfl rfl rfl
  | cpuOther ethernet fabric cpu rest => exact .noIp rfl rfl rfl rfl rfl
  | cpuIpv4 ethernet fabric cpu ip outer => exact outer.wellShaped _ rfl rfl rfl rfl rfl

/-- Every header stack of the first parser is well shaped. -/
theorem P02IngressParser.parse_wellShaped {containers : Headers} {bits : Bits} {parsed : ParserState}
    (accepted : P02IngressParser.parse containers bits = some parsed) :
    WellShaped parsed.hdr parsed.metadata.tunnel.vxlanType := by
  obtain ⟨frame, _, _, rfl⟩ := (P02IngressParser.parse_eq_some_iff containers bits parsed).mp accepted
  exact frame.wellShaped containers

/-- The first parser leaves the bridge header off and the rate-limit metadata at zero. -/
theorem P02IngressParser.parse_initial {containers : Headers} {bits : Bits} {parsed : ParserState}
    (accepted : P02IngressParser.parse containers bits = some parsed) :
    parsed.hdr.bgMd.valid = false ∧ parsed.metadata.ratelimit = {} := by
  obtain ⟨frame, _, _, rfl⟩ := (P02IngressParser.parse_eq_some_iff containers bits parsed).mp accepted
  cases frame with
  | other ethernet rest => exact ⟨rfl, rfl⟩
  | ipv4 ethernet ip outer =>
      have kept := outer.place_keeps p02IngressDialect
      exact ⟨congrArg Header.valid (kept _).bgMd, (kept _).ratelimit⟩
  | ipv6 ethernet ip transport rest => cases transport <;> exact ⟨rfl, rfl⟩
  | cpuOther ethernet fabric cpu rest => exact ⟨rfl, rfl⟩
  | cpuIpv4 ethernet fabric cpu ip outer =>
      have kept := outer.place_keeps p02IngressDialect
      exact ⟨congrArg Header.valid (kept _).bgMd, (kept _).ratelimit⟩

/-- Redirected packets pick their pipe by the inner address of the direction. -/
def innerInbound (hdr : Headers) : BitVec 3 :=
  if hdr.innerIpv4.valid then inboundPipeline hdr.innerIpv4.fields.dstAddr
  else inboundPipeline hdr.innerIpv6.fields.dstAddr

def innerOutbound (hdr : Headers) : BitVec 3 :=
  if hdr.innerIpv4.valid then egrPipeline2 else outboundPipeline hdr.innerIpv6.fields.srcAddr

/-- The specification of the classification for a frame with an outer IP header -/
def classification (cfg : SwitchConfig) (hdr : Headers) : IgwIpTypeAction :=
  if hdr.ipv6.valid then
    if hdr.ipv6.fields.dstAddr.extractLsb' 120 8 = 0xff then .needDrop
    else .ipFromInternetInHit (inboundPipeline hdr.ipv6.fields.dstAddr)
  else if hdr.vxlan.valid = true ∧ (hdr.innerIpv4.valid = true ∨ hdr.innerIpv6.valid = true) then
    if wantsOut cfg (isJd hdr) hdr.vxlan.fields.tof hdr.ipv4.fields.dstAddr then
      if isJd hdr then .ipFromInternetOutDlHit (innerOutbound hdr)
      else .ipFromInternetOutHit (innerOutbound hdr)
    else if wantsIn cfg (isJd hdr) hdr.vxlan.fields.tof hdr.ipv4.fields.dstAddr then
      .ipFromInternetInDlHit (innerInbound hdr)
    else .ipFromInternetInHit (inboundPipeline hdr.ipv4.fields.dstAddr)
  else .ipFromInternetInHit (inboundPipeline hdr.ipv4.fields.dstAddr)

/-- The key keeps the lowest bit of the inner IPv6 addresses. -/
theorem inboundPipeline_setWidth (address : BitVec 128) :
    inboundPipeline (address.setWidth 2) = inboundPipeline address := by
  simp only [inboundPipeline, BitVec.getLsbD_setWidth, Nat.zero_lt_succ, decide_true, Bool.true_and]

theorem outboundPipeline_setWidth (address : BitVec 128) :
    outboundPipeline (address.setWidth 2) = outboundPipeline address := by
  simp only [outboundPipeline, BitVec.getLsbD_setWidth, Nat.zero_lt_succ, decide_true, Bool.true_and]

theorem innerInbound_of_v4 {hdr : Headers} (on : hdr.innerIpv4.valid = true) :
    innerInbound hdr = inboundPipeline hdr.innerIpv4.fields.dstAddr := if_pos on

theorem innerOutbound_of_v4 {hdr : Headers} (on : hdr.innerIpv4.valid = true) :
    innerOutbound hdr = egrPipeline2 := if_pos on

theorem innerInbound_of_v6 {hdr : Headers} (off : hdr.innerIpv4.valid = false) :
    innerInbound hdr = inboundPipeline (hdr.innerIpv6.fields.dstAddr.setWidth 2) := by
  rw [innerInbound, if_neg (by rw [off]; decide), inboundPipeline_setWidth]

theorem innerOutbound_of_v6 {hdr : Headers} (off : hdr.innerIpv4.valid = false) :
    innerOutbound hdr = outboundPipeline (hdr.innerIpv6.fields.srcAddr.setWidth 2) := by
  rw [innerOutbound, if_neg (by rw [off]; decide), outboundPipeline_setWidth]

/-- The table decides a well-shaped header stack as the specification says. -/
theorem igwIpTypeTable_decides (cfg : SwitchConfig) (s : IngressState)
    (shape : WellShaped s.hdr s.metadata.tunnel.vxlanType)
    (outer : s.hdr.ipv4.valid = true ∨ s.hdr.ipv6.valid = true) :
    (igwIpTypeTable cfg).Decides (P02Ingress.igwIpTypeKey s) (classification cfg s.hdr) := by
  rcases shape with ⟨ipv4, ipv6, _, _, _⟩ | ⟨ipv4, ipv6, vxlan, inner4, inner6⟩ |
    ⟨ipv4, ipv6, vxlan, inner4, inner6⟩ | ⟨ipv4, ipv6, vxlan, families, type⟩
  · rw [ipv4, ipv6] at outer
    simp at outer
  · have decided := decides_direct6 cfg (P02Ingress.igwIpTypeKey s)
      (congrArg BitVec.ofBool ipv4) (congrArg BitVec.ofBool ipv6)
    rw [if_neg not_false] at decided
    rw [classification, if_pos ipv6]
    exact decided
  · have decided := decides_plain4 cfg (P02Ingress.igwIpTypeKey s)
      (congrArg BitVec.ofBool ipv4) (congrArg BitVec.ofBool ipv6)
      (.inl (congrArg BitVec.ofBool vxlan))
    rw [if_neg not_false, if_neg not_false] at decided
    rw [classification, if_neg (by rw [ipv6]; decide), if_neg (by rw [vxlan]; simp)]
    exact decided
  · have v4 : (P02Ingress.igwIpTypeKey s).ipv4IsValid = 1 := congrArg BitVec.ofBool ipv4
    have v6 : (P02Ingress.igwIpTypeKey s).ipv6IsValid = 0 := congrArg BitVec.ofBool ipv6
    have vx : (P02Ingress.igwIpTypeKey s).vxlanIsValid = 1 := congrArg BitVec.ofBool vxlan
    rw [classification, if_neg (by rw [ipv6]; decide)]
    cases inner4 : s.hdr.innerIpv4.valid with
    | false =>
        have off4 : (P02Ingress.igwIpTypeKey s).innerIpv4IsValid = 0 := congrArg BitVec.ofBool inner4
        cases inner6 : s.hdr.innerIpv6.valid with
        | false =>
            have off6 : (P02Ingress.igwIpTypeKey s).innerIpv6IsValid = 0 :=
              congrArg BitVec.ofBool inner6
            have decided := decides_plain4 cfg _ v4 v6 (.inr ⟨off4, off6⟩)
            rw [if_neg not_false, if_neg not_false] at decided
            rw [if_neg (by simp)]
            exact decided
        | true =>
            have on6 : (P02Ingress.igwIpTypeKey s).innerIpv6IsValid = 1 :=
              congrArg BitVec.ofBool inner6
            have decided := decides_innerV6 cfg _ (isJd s.hdr) v4 v6 vx off4 on6 type
            rw [if_pos ⟨vxlan, .inr rfl⟩, innerOutbound_of_v6 inner4, innerInbound_of_v6 inner4]
            exact decided
    | true =>
        have on4 : (P02Ingress.igwIpTypeKey s).innerIpv4IsValid = 1 := congrArg BitVec.ofBool inner4
        have inner6 : s.hdr.innerIpv6.valid = false := by
          rcases families with off | off
          · rw [inner4] at off
            contradiction
          · exact off
        have off6 : (P02Ingress.igwIpTypeKey s).innerIpv6IsValid = 0 := congrArg BitVec.ofBool inner6
        have decided := decides_innerV4 cfg _ (isJd s.hdr) v4 v6 vx on4 off6 type
        rw [if_pos ⟨vxlan, .inl rfl⟩, innerOutbound_of_v4 inner4, innerInbound_of_v4 inner4]
        exact decided

/-- No control before the classifier changes its key. -/
theorem igwIpTypeKey_unchanged (tables : Tables) (fresh : Headers) (s : IngressState) :
    P02Ingress.igwIpTypeKey (P02Ingress.ingressPortStats
      (P02Ingress.processLocal tables fresh (P02Ingress.decapMetaData02 fresh s))) =
      P02Ingress.igwIpTypeKey s := by
  have decap : P02Ingress.igwIpTypeKey (P02Ingress.decapMetaData02 fresh s) =
      P02Ingress.igwIpTypeKey s := by
    unfold P02Ingress.decapMetaData02
    split <;> rfl
  rw [← decap]
  generalize P02Ingress.decapMetaData02 fresh s = r
  unfold P02Ingress.processLocal
  split <;> rfl

/--
The classifier never falls to its default action on a frame with an outer IP header, all its
winning entries agree, and they take the action of the specification.
-/
theorem igwIpType_classifies (cfg : SwitchConfig) (tables : Tables) (around : Surroundings)
    (port : BitVec 9) (bits : Bits) (parsed : ParserState)
    (accepted : P02IngressParser.parse around.containers bits = some parsed)
    (outer : parsed.hdr.ipv4.valid = true ∨ parsed.hdr.ipv6.valid = true) :
    let key := P02Ingress.igwIpTypeKey (P02Ingress.ingressPortStats
      (P02Ingress.processLocal tables around.fresh
        (P02Ingress.decapMetaData02 around.fresh (ingressStart around port parsed))))
    (∃ entry, (igwIpTypeTable cfg).Wins key entry) ∧
      (∀ entry, (igwIpTypeTable cfg).Wins key entry →
        entry.action = classification cfg parsed.hdr) ∧
      (igwIpTypeTable cfg).lookup key = some (classification cfg parsed.hdr) := by
  intro key
  have unchanged : key = P02Ingress.igwIpTypeKey (ingressStart around port parsed) :=
    igwIpTypeKey_unchanged tables around.fresh (ingressStart around port parsed)
  rw [unchanged]
  have decided := igwIpTypeTable_decides cfg (ingressStart around port parsed)
    (P02IngressParser.parse_wellShaped accepted) outer
  exact ⟨decided.some_wins, decided.winners_agree, decided.lookup⟩

/-- The action that the installed entries give for a frame on port 0 -/
def installedAction (cfg : SwitchConfig) (frame : Frame) : Option IgwIpTypeAction :=
  (igwIpTypeTable cfg).lookup (P02Ingress.igwIpTypeKey (P02Ingress.ingressPortStats
    (P02Ingress.processLocal .empty default
      (P02Ingress.decapMetaData02 default (ingressStart default 0 (frame.state default))))))

def vxlanFrame (dstAddr : BitVec 32) (vxlan : Vxlan) : Frame :=
  .ipv4 ⟨0, 0, etherTypeIpv4⟩ { (default : Ipv4) with version := 4, ihl := 5, protocol := ipProtocolsUdp, dstAddr }
    (.overlay
      { udp := { (default : Udp) with dstPort := udpPortVxlan }
        vxlan
        ethernet := ⟨0, 0, etherTypeIpv4⟩
        inner := .v4 { (default : Ipv4) with version := 4, ihl := 5, dstAddr := 1 } ⟨[], .unread, []⟩ })

/-- IPv6 from the internet, a packet of a host and two redirected packets -/
theorem igwIpType_classifies_forms :
    let cfg : SwitchConfig := ⟨0x0a000001, 0x0a000002, 0, 0x0a000003, 0x0a000100, 24⟩
    let ipv6 (dstAddr : BitVec 128) : Frame :=
      .ipv6 ⟨0, 0, etherTypeIpv6⟩ { (default : Ipv6) with dstAddr } .unread []
    let redirected (tof : BitVec 4) : Vxlan := { (default : Vxlan) with flags := 0x0c, version := 1, tof }
    installedAction cfg (ipv6 2) = some (.ipFromInternetInHit egrPipeline3) ∧
      installedAction cfg (ipv6 (0xff02 <<< 112)) = some .needDrop ∧
      installedAction cfg (vxlanFrame 0x0a000002 { (default : Vxlan) with flags := 0x08 }) =
        some (.ipFromInternetOutHit egrPipeline2) ∧
      installedAction cfg (vxlanFrame 0x0a000002 (redirected tofAzIn)) =
        some (.ipFromInternetInDlHit egrPipeline1) ∧
      installedAction cfg (vxlanFrame 0x0a000107 (redirected tofEipOut)) =
        some (.ipFromInternetOutDlHit egrPipeline2) := by
  intro cfg ipv6 redirected
  have installed (frame : Frame) (fits : frame.Fits)
      (outer : (frame.state default).hdr.ipv4.valid = true ∨ (frame.state default).hdr.ipv6.valid = true) :
      installedAction cfg frame = some (classification cfg (frame.state default).hdr) :=
    (igwIpType_classifies cfg .empty default 0 frame.bits _
      ((P02IngressParser.parse_eq_some_iff default frame.bits _).mpr ⟨frame, fits, rfl, rfl⟩) outer).2.2
  have ipv6Fits (dstAddr : BitVec 128) : (ipv6 dstAddr).Fits := ⟨rfl, by simp only [Transport.Fits]; decide⟩
  have vxlanFits (dstAddr : BitVec 32) (vxlan : Vxlan) : (vxlanFrame dstAddr vxlan).Fits := by
    have reads : p02IngressDialect.readsTransport = true := rfl
    refine ⟨rfl, ⟨rfl, rfl, rfl⟩, rfl, rfl, rfl, ?_⟩
    rw [if_pos reads, Tail.FitsV4, if_neg (by decide)]
    exact ⟨rfl, fun udp => absurd udp.1 (by decide)⟩
  refine ⟨(installed _ (ipv6Fits _) (.inr rfl)).trans ?_, (installed _ (ipv6Fits _) (.inr rfl)).trans ?_,
    (installed _ (vxlanFits _ _) (.inl rfl)).trans ?_, (installed _ (vxlanFits _ _) (.inl rfl)).trans ?_,
    (installed _ (vxlanFits _ _) (.inl rfl)).trans ?_⟩ <;> decide

end IgwP4.Dataplane
