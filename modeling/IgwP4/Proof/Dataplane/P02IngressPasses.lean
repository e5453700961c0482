/-
This file gives the packets that the first pipe sends for the frames that it has classified.
-/

import IgwP4.Proof.Dataplane.P02IngressControls
import IgwP4.Proof.Dataplane.Redirections

namespace IgwP4.Dataplane
open Packet

/-- The first parser keeps the Ethernet header of every frame. -/
theorem Frame.state_ethernet (frame : Frame) (containers : Headers) :
    (frame.state containers).hdr.ethernet = ⟨true, frame.ethernet⟩ := by
  cases frame with
  | other ethernet rest => rfl
  | ipv4 ethernet ip outer => exact (outer.place_keeps p02IngressDialect _).ethernet
  | ipv6 ethernet ip transport rest => cases transport <;> rfl
  | cpuOther ethernet fabric cpu rest => rfl
  | cpuIpv4 ethernet fabric cpu ip outer => exact (outer.place_keeps p02IngressDialect _).ethernet

/-- Without its Ethernet header a frame goes out behind its bridge header. -/
theorem Frame.emit_bridged {frame : Frame} (fits : frame.Fits) (containers : Headers)
    (bgMd : BridgeMetadata) :
    ({ (frame.state containers).hdr with
      bgMd := ⟨true, bgMd⟩
      ethernet := (frame.state containers).hdr.ethernet.setInvalid } : Headers).emit ++
        (frame.state containers).pkt = BridgeMetadata.codec.encode bgMd ++ frame.body := by
  have accepted := (P02IngressParser.parse_eq_some_iff containers frame.bits _).mpr ⟨frame, fits, rfl, rfl⟩
  have whole := P02IngressParser.emit_parse accepted
  rw [Headers.emit_append, Header.emit_of_invalid _ _ (P02IngressParser.parse_initial accepted).1,
    frame.state_ethernet, Header.emit_valid, List.nil_append, Frame.bits] at whole
  have body := (Ethernet.codec.encode_append_inj.mp whole).2
  rw [Headers.emit_append]
  exact congrArg (BridgeMetadata.codec.encode bgMd ++ ·) body

/-- The treatment of a packet by the marks of the classifier -/
structure Treatment where
  igrTunnelType : BitVec 3
  dlPkt : BitVec 1
  egrPipeline : BitVec 3

namespace P02Ingress

/-- The classifier marks an unpunted packet so. -/
structure Treated (tables : Tables) (fresh : Headers) (s : IngressState) (m : Treatment) : Prop where
  shape : WellShaped s.hdr s.metadata.tunnel.vxlanType
  unbridged : s.hdr.bgMd.valid = false
  unpunted : ¬ Punted tables fresh s
  hits : (tables.igwIpType (igwIpTypeKey s)).bind marks = some (m.igrTunnelType, m.dlPkt, m.egrPipeline)

/-- The bridge header that an unpunted packet has behind the ingress ACL -/
def classifiedBridge (fresh : Headers) (s : IngressState) (m : Treatment) : BridgeMetadata :=
  { opened fresh s with igrTunnelType := m.igrTunnelType, dlPkt := m.dlPkt }

/-- Behind the ingress ACL the packet has its bridge header and its own headers. -/
theorem Treated.classify {tables : Tables} {fresh : Headers} {s : IngressState} {m : Treatment}
    (treated : Treated tables fresh s m) :
    Initialised (opened fresh s) ∧ ∃ (dropCtl mirrorType : BitVec 3) (sessionId : BitVec 10)
      (mirror : MirrorMetadata) (events : List Event),
      classify tables fresh s = { s with
        hdr := { s.hdr with bgMd := ⟨true, classifiedBridge fresh s m⟩ }
        metadata := { s.metadata with
          tunnel := { s.metadata.tunnel with sessionId := sessionId }
          mirror := mirror
          l3 := { looked s with egrPipeline := m.egrPipeline } }
        dropCtl := dropCtl
        mirrorType := mirrorType
        events := events } ∧ (dropCtl = s.dropCtl ∨ dropCtl = 1) := by
  obtain ⟨action, found, hit⟩ := Option.bind_eq_some_iff.mp treated.hits
  obtain ⟨reached, assigned⟩ := classify_eq tables fresh s treated.shape treated.unbridged treated.unpunted
    found hit
  obtain ⟨dropCtl, mirrorType, sessionId, mirror, events, checked, drops⟩ := ingressSystemAcl_effect tables
    (marked fresh m.igrTunnelType m.dlPkt m.egrPipeline s)
  exact ⟨assigned, dropCtl, mirrorType, sessionId, mirror, events, reached.trans checked, drops⟩

/-- The last control bridges a packet that goes on through the pipes. -/
def bridged (port : BitVec 9) (etherType : BitVec 16) (bgMd : BridgeMetadata) : BridgeMetadata :=
  { bgMd with
    igrPort := port
    proto := pktBridge
    outerEthernetType := etherType
    outerEthernetInvalid := 1 }

theorem bridged_bridges (port : BitVec 9) (etherType : BitVec 16) (bgMd : BridgeMetadata) :
    (bridged port etherType bgMd).Bridges etherType := ⟨rfl, rfl, rfl⟩

theorem encapMetaData02_eq (s : IngressState) (treated : s.hdr.bgMd.fields.matchOrDl) :
    encapMetaData02 s = { s with
      hdr.bgMd.fields := bridged s.ingressPort s.hdr.ethernet.fields.etherType s.hdr.bgMd.fields
      hdr.ethernet := s.hdr.ethernet.setInvalid } := by
  rw [encapMetaData02]
  exact if_pos treated

/-- The selector gives the port, and without a member the bridge header does. -/
theorem ecmpGroup02_eq (tables : Tables) (s : IngressState) (treated : s.hdr.bgMd.fields.matchOrDl) :
    ecmpGroup02 tables s = { s with
      ucastEgressPort := (tables.ecmpGroup02 s.metadata.l3.egrPipeline s.metadata.ratelimit.haveSharedBd
        s.flowKey).getD s.hdr.bgMd.fields.igrPort } := by
  rw [ecmpGroup02, if_pos treated]
  dsimp only [IngressState.flowKey]
  cases tables.ecmpGroup02 s.metadata.l3.egrPipeline s.metadata.ratelimit.haveSharedBd
    ⟨s.metadata.l3.lkpSip, s.metadata.l3.lkpL4Sport, s.metadata.l3.lkpDip, s.metadata.l3.lkpL4Dport,
      s.metadata.l3.lkpIpProto⟩ <;> rfl

theorem haveSharedBindWith_flag (tables : Tables) (s : IngressState) :
    ∃ haveSharedBd, haveSharedBindWith tables s =
      { s with metadata.ratelimit.haveSharedBd := haveSharedBd } := by
  have flagged (hit : Bool) : ∃ haveSharedBd, setHaveFlag hit s =
      { s with metadata.ratelimit.haveSharedBd := haveSharedBd } := by
    cases hit <;> exact ⟨_, rfl⟩
  unfold haveSharedBindWith
  split
  · exact flagged _
  · split
    · exact flagged _
    · exact ⟨_, rfl⟩

/-- An inbound packet keeps its headers and goes to the port of the selector. -/
theorem Treated.apply_inbound {tables : Tables} {fresh : Headers} {s : IngressState} {m : Treatment}
    (treated : Treated tables fresh s m) (inbound : m.igrTunnelType = typeIngressInternetIn) :
    Initialised (opened fresh s) ∧ ∃ (metadata : CommonMetadata) (dropCtl mirrorType : BitVec 3)
      (events : List Event) (haveSharedBd : BitVec 1) (flow : FlowKey),
      apply tables fresh s = { s with
        hdr := { s.hdr with
          bgMd := ⟨true, bridged s.ingressPort s.hdr.ethernet.fields.etherType (classifiedBridge fresh s m)⟩
          ethernet := s.hdr.ethernet.setInvalid }
        metadata := metadata
        ucastEgressPort :=
          (tables.ecmpGroup02 m.egrPipeline haveSharedBd flow).getD (opened fresh s).igrPort
        dropCtl := dropCtl
        mirrorType := mirrorType
        events := events } ∧ (dropCtl = s.dropCtl ∨ dropCtl = 1) := by
  obtain ⟨assigned, dropCtl, mirrorType, sessionId, mirror, events, reached, drops⟩ := treated.classify
  refine ⟨assigned, ?_⟩
  have matched : (classifiedBridge fresh s m).tunnelDirectSend = matchPacket := assigned.tunnelDirectSend
  let r : IngressState := { s with
    hdr := { s.hdr with bgMd := ⟨true, classifiedBridge fresh s m⟩ }
    metadata := { s.metadata with
      tunnel := { s.metadata.tunnel with sessionId := sessionId }
      mirror := mirror
      l3 := { looked s with egrPipeline := m.egrPipeline } }
    dropCtl := dropCtl
    mirrorType := mirrorType
    events := events }
  have classified : P02Ingress.classify tables fresh s = r := reached
  have entered : direct tables r = haveSharedBindWith tables r := by
    have first : r.hdr.bgMd.fields.tunnelDirectSend = matchPacket := matched
    have second : ¬ r.hdr.bgMd.fields.igrTunnelType = typeIngressInternetOut := by
      change ¬ m.igrTunnelType = typeIngressInternetOut
      rw [inbound]
      decide
    rw [direct, if_pos first, if_neg second]
  obtain ⟨haveSharedBd, flagged⟩ := haveSharedBindWith_flag tables r
  let shared : IngressState := { r with metadata.ratelimit.haveSharedBd := haveSharedBd }
  have allowed : shared.hdr.bgMd.fields.matchOrDl := .inl matched
  have grouped := ecmpGroup02_eq tables shared allowed
  have onward := encapMetaData02_eq (ecmpGroup02 tables shared) (by rw [grouped]; exact allowed)
  refine ⟨shared.metadata, dropCtl, mirrorType, events, haveSharedBd, shared.flowKey, ?_, drops⟩
  rw [apply, classified, entered, flagged]
  refine onward.trans ?_
  rw [grouped]
  rfl

/-! Outbound tunnel packets -/

/-- The redirection entry of the address of an outbound packet -/
def outboundEntry (tables : Tables) : Parcel → Option EipOutBwId
  | .v4 ip _ => tables.eipOutRedirect ip.srcAddr
  | .v6 ip _ => tables.eip6OutRedirect ip.srcAddr

/-- The entry fills the bandwidth ids of the bridge header. -/
def release : Option EipOutBwId → BridgeMetadata → BridgeMetadata
  | some data, bgMd => { bgMd with
      eipOrBwid := data.bandwidthId, sharedBandwidthId := data.sharedBandwidthId }
  | none, bgMd => { bgMd with sharedBandwidthId := 0 }

theorem fipInnerIpSnat_bears (tables : Tables) (s : IngressState) {pkt : Bits} {t : TunnelPacket}
    (bears : s.hdr.Bears pkt t) :
    ∃ hdr : Headers, fipInnerIpSnat tables s = { s with hdr := hdr } ∧ hdr.Bears pkt (t.snat tables) ∧
      hdr.bgMd = s.hdr.bgMd ∧ hdr.ethernet = s.hdr.ethernet ∧ hdr.fabric = s.hdr.fabric ∧
      hdr.cpu = s.hdr.cpu := by
  obtain ⟨ip, udp, vxlan, ethernet, parcel⟩ := t
  obtain ⟨hasIp, ipv6, hasUdp, tcp, icmp, hasVxlan, hasEthernet, inner⟩ := bears
  obtain rfl : s.hdr.vxlan.fields = vxlan := congrArg Header.fields hasVxlan
  cases parcel with
  | v4 header payload =>
      obtain ⟨inner4, inner6, rest⟩ := inner
      obtain rfl : s.hdr.innerIpv4.fields = header := congrArg Header.fields inner4
      have on : s.hdr.innerIpv4.valid = true := congrArg Header.valid inner4
      have found : fipInnerIpSnat tables s = { s with
          hdr.innerIpv4.fields.srcAddr :=
            snatSource tables s.hdr.vxlan.fields.vni s.hdr.innerIpv4.fields.srcAddr } := by
        rw [fipInnerIpSnat, if_pos on, snatSource]
        cases tables.fipInnerIpSnat s.hdr.vxlan.fields.vni s.hdr.innerIpv4.fields.srcAddr <;> rfl
      refine ⟨_, found, ⟨hasIp, ipv6, hasUdp, tcp, icmp, hasVxlan, hasEthernet, ?_, inner6, rest⟩,
        rfl, rfl, rfl, rfl⟩
      exact congrArg (Header.mk · _) on
  | v6 header payload =>
      have missed : fipInnerIpSnat tables s = s := by
        rw [fipInnerIpSnat, if_neg (by rw [inner.1]; decide)]
      exact ⟨_, missed, ⟨hasIp, ipv6, hasUdp, tcp, icmp, hasVxlan, hasEthernet, inner⟩, rfl, rfl, rfl, rfl⟩

theorem pipeLineFix_flag (tables : Tables) (s : IngressState) :
    ∃ egrPipeline, pipeLineFix tables s = { s with metadata.l3.egrPipeline := egrPipeline } := by
  unfold pipeLineFix
  split <;> exact ⟨_, rfl⟩

/-- The entry fills the flags that the redirection asks. -/
def outboundLimits : Option EipOutBwId → RatelimitMetadata
  | some data => { ({} : RatelimitMetadata) with
      withinCluster := data.withinCluster
      betweenCluster := data.betweenCluster
      haveSharedBd := data.haveSharedBd }
  | none => {}

theorem eipOutLookup_eq (tables : Tables) (s : IngressState) {pkt : Bits} {parcel : Parcel}
    (bears : s.hdr.BearsParcel pkt parcel) (clear : s.metadata.ratelimit = {}) :
    eipOutLookup tables s = { s with
      hdr.bgMd.fields := release (outboundEntry tables parcel) s.hdr.bgMd.fields
      metadata.ratelimit := outboundLimits (outboundEntry tables parcel) } := by
  have entered (entry : Option EipOutBwId) : eipOutEntry entry s = { s with
      hdr.bgMd.fields := release entry s.hdr.bgMd.fields
      metadata.ratelimit := outboundLimits entry } := by
    obtain ⟨hdr, ⟨tunnel, l3, mirror, ratelimit⟩, ingressPort, stamp, egressPort, dropCtl, mirrorType, events⟩ := s
    obtain rfl : ratelimit = {} := clear
    cases entry <;> rfl
  rw [eipOutLookup]
  cases parcel with
  | v4 ip payload =>
      obtain ⟨inner4, _⟩ := bears
      obtain rfl : s.hdr.innerIpv4.fields = ip := congrArg Header.fields inner4
      rw [if_pos (congrArg Header.valid inner4)]
      exact entered _
  | v6 ip payload =>
      obtain ⟨inner4, inner6, _⟩ := bears
      obtain rfl : s.hdr.innerIpv6.fields = ip := congrArg Header.fields inner6
      rw [if_neg (by rw [inner4]; decide), if_pos (congrArg Header.valid inner6)]
      exact entered _

/-- The bridge header of an outbound packet behind the redirection -/
def released (tables : Tables) (t : TunnelPacket) (redirected : Bool) (bgMd : BridgeMetadata) :
    BridgeMetadata :=
  { release (outboundEntry tables t.parcel) bgMd with
    tunnelDirectSend := if redirected then dlPacket else bgMd.tunnelDirectSend }

end P02Ingress

/-- The redirection that the tables choose for an outbound tunnel packet -/
def TunnelPacket.redirectOut (tables : Tables) (bgMd : BridgeMetadata) (t : TunnelPacket) : Option TunnelPacket :=
  let entry := P02Ingress.outboundEntry tables t.parcel
  t.redirect (.outbound tables) (P02Ingress.outboundLimits entry).betweenCluster
    (P02Ingress.outboundLimits entry).withinCluster
    (hashIndex (P02Ingress.release entry bgMd).eipOrBwid (P02Ingress.release entry bgMd).sharedBandwidthId)

/-- A redirection is one of the two rewrites. -/
theorem TunnelPacket.redirectOut_cases (tables : Tables) (bgMd : BridgeMetadata) (t : TunnelPacket) :
    t.redirectOut tables bgMd = none ∨
      ∃ index action, t.redirectOut tables bgMd = some (t.rewrite (.outbound tables) index action) := by
  unfold TunnelPacket.redirectOut TunnelPacket.redirect
  dsimp only
  generalize (TunnelPacket.Redirection.outbound tables).action _ = action
  cases action with
  | none => exact .inl rfl
  | some action => exact .inr ⟨_, action, rfl⟩

namespace P02Ingress

/-- An outbound packet leaves with its translated source, redirected or not. -/
theorem Treated.apply_outbound {tables : Tables} {fresh : Headers} {s : IngressState} {m : Treatment}
    (treated : Treated tables fresh s m) (outbound : m.igrTunnelType = typeIngressInternetOut)
    (clear : s.metadata.ratelimit = {}) {pkt : Bits} {t : TunnelPacket} (bears : s.hdr.Bears pkt t) :
    let found := (t.snat tables).redirectOut tables (classifiedBridge fresh s m)
    Initialised (opened fresh s) ∧ ∃ (hdr : Headers) (metadata : CommonMetadata)
      (dropCtl mirrorType : BitVec 3) (events : List Event) (port : BitVec 9),
      apply tables fresh s = { s with
        hdr := hdr
        metadata := metadata
        ucastEgressPort := port
        dropCtl := dropCtl
        mirrorType := mirrorType
        events := events } ∧
      (dropCtl = s.dropCtl ∨ dropCtl = 1) ∧
      hdr.Bears pkt (found.getD (t.snat tables)) ∧
      hdr.bgMd = ⟨true, bridged s.ingressPort s.hdr.ethernet.fields.etherType
        (released tables (t.snat tables) found.isSome (classifiedBridge fresh s m))⟩ ∧
      hdr.ethernet.valid = false ∧ hdr.fabric = s.hdr.fabric ∧ hdr.cpu = s.hdr.cpu := by
  obtain ⟨assigned, dropCtl, mirrorType, sessionId, mirror, events, reached, drops⟩ := treated.classify
  refine ⟨assigned, ?_⟩
  have matched : (classifiedBridge fresh s m).tunnelDirectSend = matchPacket := assigned.tunnelDirectSend
  let r : IngressState := { s with
    hdr := { s.hdr with bgMd := ⟨true, classifiedBridge fresh s m⟩ }
    metadata := { s.metadata with
      tunnel := { s.metadata.tunnel with sessionId := sessionId }
      mirror := mirror
      l3 := { looked s with egrPipeline := m.egrPipeline } }
    dropCtl := dropCtl
    mirrorType := mirrorType
    events := events }
  have classified : P02Ingress.classify tables fresh s = r := reached
  have entered : direct tables r =
      eipOutRedirect tables (pipeLineFix tables (fipInnerIpSnat tables r)) := by
    have first : r.hdr.bgMd.fields.tunnelDirectSend = matchPacket := matched
    have second : r.hdr.bgMd.fields.igrTunnelType = typeIngressInternetOut := outbound
    rw [direct, if_pos first, if_pos second]
  obtain ⟨hdr, translated, bears, bridge, ethernet, fabric, cpu⟩ := fipInnerIpSnat_bears tables r
    (bears.outside _ _ _ _)
  let q : IngressState := { r with hdr := hdr }
  have moved : fipInnerIpSnat tables r = q := translated
  have before : hdr.bgMd = ⟨true, classifiedBridge fresh s m⟩ := bridge
  obtain ⟨egrPipeline, fixed⟩ := pipeLineFix_flag tables q
  have looked := eipOutLookup_eq tables { q with metadata.l3.egrPipeline := egrPipeline } bears.parcel clear
  let u : IngressState := { q with
    hdr.bgMd.fields := release (outboundEntry tables (t.snat tables).parcel) hdr.bgMd.fields
    metadata.l3.egrPipeline := egrPipeline
    metadata.ratelimit := outboundLimits (outboundEntry tables (t.snat tables).parcel) }
  have onward : direct tables r = modifyJdVxlanOut tables u := by
    rw [entered, moved, fixed, eipOutRedirect, looked]
  obtain ⟨hdr', modified, rewrites⟩ := modifyJdVxlanOut_rewrites tables u (bears.outside _ _ _ _)
  have chosen : (t.snat tables).redirect (.outbound tables) u.metadata.ratelimit.betweenCluster
      u.metadata.ratelimit.withinCluster
      (hashIndex u.hdr.bgMd.fields.eipOrBwid u.hdr.bgMd.fields.sharedBandwidthId) =
        (t.snat tables).redirectOut tables (classifiedBridge fresh s m) := by
    dsimp only [u, q]
    rw [before]
    rfl
  rw [chosen] at rewrites
  obtain ⟨bears', bridge', ethernet', fabric', cpu'⟩ := rewrites
  generalize (t.snat tables).redirectOut tables (classifiedBridge fresh s m) = found at bears' bridge' ⊢
  let v : IngressState := { u with hdr := hdr' }
  have leaves : modifyJdVxlanOut tables u = v := modified
  have after : hdr'.bgMd =
      ⟨true, released tables (t.snat tables) found.isSome (classifiedBridge fresh s m)⟩ := by
    have direct : ∀ entry, (release entry (classifiedBridge fresh s m)).tunnelDirectSend =
        (classifiedBridge fresh s m).tunnelDirectSend := by
      intro entry
      cases entry <;> rfl
    rw [bridge']
    dsimp only [u, q]
    rw [before, direct]
    rfl
  have allowed : v.hdr.bgMd.fields.matchOrDl := by
    change hdr'.bgMd.fields.matchOrDl
    rw [after]
    cases found with
    | none => exact .inl matched
    | some redirected => exact .inr rfl
  have grouped := ecmpGroup02_eq tables v allowed
  have last := encapMetaData02_eq (ecmpGroup02 tables v) (by rw [grouped]; exact allowed)
  let port := (tables.ecmpGroup02 v.metadata.l3.egrPipeline v.metadata.ratelimit.haveSharedBd
    v.flowKey).getD v.hdr.bgMd.fields.igrPort
  refine ⟨{ hdr' with
      bgMd.fields := bridged s.ingressPort hdr'.ethernet.fields.etherType hdr'.bgMd.fields
      ethernet := hdr'.ethernet.setInvalid }, v.metadata, dropCtl, mirrorType, events, port, ?_, drops,
    bears'.outside _ _ _ _, ?_, rfl, fabric'.trans fabric, cpu'.trans cpu⟩
  · rw [apply, classified, onward, leaves]
    refine last.trans ?_
    rw [grouped]
  · have same : hdr'.ethernet = s.hdr.ethernet := ethernet'.trans ethernet
    dsimp only
    rw [after, same]

end P02Ingress

end IgwP4.Dataplane
