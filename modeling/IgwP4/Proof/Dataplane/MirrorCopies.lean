/-
This file follows the copies that the ACLs ask for to the interface that shows them on the host.
-/

import IgwP4.Construction.Dataplane.MirrorCopies
import IgwP4.Proof.Dataplane.Decapsulations
import IgwP4.Proof.Dataplane.HostExchanges

namespace IgwP4.Dataplane
open Packet Setup

/-! The pass of a copy -/

theorem MirrorMetadata.lookahead (hdr : Headers) (metadata : CommonMetadata) (mirror : MirrorMetadata) (rest : Bits) :
    ParserState.lookahead ⟨hdr, metadata, codec.encode mirror ++ rest⟩ = some mirror.proto := by
  have front : ∃ behind, codec.encode mirror = (Codec.word 8).encode mirror.proto ++ behind := ⟨_, rfl⟩
  obtain ⟨behind, shape⟩ := front
  rw [ParserState.lookahead, shape, List.append_assoc, Codec.extract_encode]
  rfl

/-- The protocol of a mirror header -/
def MirrorMetadata.Copies (mirror : MirrorMetadata) : Prop := mirror.proto = pktMirrMdIg ∨ mirror.proto = pktMirrMdEg

namespace P02EgressParser

/-- The state behind a mirror header -/
def copied (containers : Headers) (mirror : MirrorMetadata) (frame : Bits) : ParserState :=
  { ParserState.start containers frame with metadata.mirror := mirror }

theorem copied_front (containers : Headers) (mirror : MirrorMetadata) (frame : Bits) :
    (copied containers mirror frame).Front :=
  ⟨rfl, rfl, rfl, containers.blank_unparsed⟩

theorem parse_copied (containers : Headers) {mirror : MirrorMetadata} (copies : mirror.Copies) (frame : Bits) :
    parse containers (MirrorMetadata.codec.encode mirror ++ frame) =
      parseEthernet (copied containers mirror frame) := by
  have metadata : parseMirrorMetadata (ParserState.start containers (MirrorMetadata.codec.encode mirror ++ frame)) =
      parseEthernet (copied containers mirror frame) := by
    rw [parseMirrorMetadata, ParserState.start]
    dsimp only
    rw [Codec.extract_encode]
    rfl
  have proto := MirrorMetadata.lookahead containers.unparsed {} mirror frame
  rw [parse, parseHeaderCheck, metadata, ParserState.start, proto, Option.bind_eq_bind, Option.bind_some]
  rcases copies with ingress | egress
  · rw [if_pos ingress]
  · rw [egress, if_neg (by decide), if_pos rfl]

/-- The parser reads a frame without CPU headers up to its outer IP header. -/
theorem parseEthernet_plain {s r : ParserState} (front : s.Front) {ethernet : Ethernet} {rest : Bits}
    (shape : s.pkt = Ethernet.codec.encode ethernet ++ rest) (other : ethernet.etherType ≠ etherTypeBfn)
    (found : parseEthernet s = some r) :
    r.hdr.ethernet = ⟨true, ethernet⟩ ∧ r.hdr.fabric.valid = false ∧ r.hdr.cpu.valid = false := by
  simp only [parseEthernet, Option.bind_eq_bind, Option.bind_eq_some_iff, ParserState.extract_eq_some_iff] at found
  obtain ⟨_, ⟨ethernet', rest', shape', rfl⟩, found⟩ := found
  obtain ⟨rfl, rfl⟩ := Ethernet.codec.encode_append_inj.mp (shape.symm.trans shape')
  split at found
  · rw [parseIpv4_eq] at found
    obtain ⟨ip, outer, _, _, rfl⟩ := (p02EgressDialect.ipv4_eq_some_iff _ r).mp found
    have kept := outer.place_keeps p02EgressDialect
    exact ⟨(kept _).ethernet, (congrArg Header.valid (kept _).fabric).trans front.fabric,
      (congrArg Header.valid (kept _).cpu).trans front.cpu⟩
  · obtain rfl := Option.some.inj found
    exact ⟨rfl, front.fabric, front.cpu⟩

end P02EgressParser

/-- The copy shows the reason, the port and the time in the addresses of its Ethernet header. -/
def MirrorMetadata.shown (mirror : MirrorMetadata) (ethernet : Ethernet) : Ethernet where
  dstAddr := (mirror.res ++ ethernet.dstAddr.extractLsb' 33 7 ++ mirror.port ++
    ethernet.dstAddr.extractLsb' 0 24).setWidth 48
  srcAddr := mirror.timestamp
  etherType := ethernet.etherType

namespace P02Egress

/-- The CPU headers in front of a copy -/
def mirrorCpu (fresh : Headers) (etherType : BitVec 16) : Cpu :=
  { fresh.cpu.fields with egressQueue := 0, txBypass := 0, reserved := 0, ingressPort := mirrorDevPort, etherType }

def mirrorFabric : Fabric := ⟨0, 0, 0, 0, 0⟩

/-- The meter of the copies drops the red ones. -/
def mirrorAdmits (tables : Tables) : Bool := (tables.mirrorRl 1).getD 0 != mirrorRed

/-- A packet without a bridge header goes out as it stands, with the checksum of its IPv4 header. -/
theorem deparse_unbridged {s : EgressState} (unbridged : s.hdr.bgMd.valid = false)
    (unflagged : s.metadata.tunnel.innerIpv4ChecksumEn = false) (pkt : Bits) :
    deparse s ++ pkt = s.hdr.ethernet.emit Ethernet.codec ++ (s.hdr.fabric.emit Fabric.codec ++
      (s.hdr.cpu.emit Cpu.codec ++ s.hdr.emitChecked pkt)) := by
  have noBridge := Header.emit_of_invalid BridgeMetadata.codec _ unbridged
  rw [deparse, checksums, unflagged]
  dsimp only
  rw [if_neg Bool.false_ne_true, Headers.emitChecked]
  by_cases on : s.hdr.ipv4.valid = true
  · rw [if_pos on, if_pos on, Headers.emit_append, ← Headers.emitIp_update on pkt]
    dsimp only
    rw [noBridge, List.nil_append]
  · rw [if_neg on, if_neg on, Headers.emit_append, noBridge, List.nil_append]

/-- The last pipe sends a copy behind CPU headers with the port of the copies, unless its meter drops it. -/
theorem pass_copied {tables : Tables} (mirrors : Mirrors tables) (around : Surroundings) (port : BitVec 9)
    {mirror : MirrorMetadata} (copies : mirror.Copies) (flag : mirror.flag = 1) {ethernet : Ethernet}
    (other : ethernet.etherType ≠ etherTypeBfn) {rest : Bits}
    (reads : P02EgressParser.Reads (Ethernet.codec.encode ethernet ++ rest)) :
    ∃ directSend, (pass tables around port (MirrorMetadata.codec.encode mirror ++
        (Ethernet.codec.encode ethernet ++ rest))).value =
      if mirrorAdmits tables then
        some ⟨port, recompute (Ethernet.codec.encode { mirror.shown ethernet with etherType := etherTypeBfn } ++
          (Fabric.codec.encode mirrorFabric ++
            (Cpu.codec.encode (mirrorCpu around.fresh ethernet.etherType) ++ rest))), directSend⟩
      else none := by
  let frame := Ethernet.codec.encode ethernet ++ rest
  let start := P02EgressParser.copied around.containers mirror frame
  obtain ⟨parsed, found⟩ := Option.isSome_iff_exists.mp ((P02EgressParser.parseEthernet_isSome start).mpr reads)
  have accepted := (P02EgressParser.parse_copied around.containers copies frame).trans found
  have front := P02EgressParser.copied_front around.containers mirror frame
  have beside := P02EgressParser.parseEthernet_beside found
  have written := P02EgressParser.parseEthernet_rewritten front found
  obtain ⟨framed, noFabric, noCpu⟩ := P02EgressParser.parseEthernet_plain front rfl other found
  let s := egressStart around port parsed
  have unbridged : s.hdr.bgMd.valid = false := congrArg Header.valid beside.bgMd
  have flagged : s.metadata.mirror.flag = 1 := (congrArg MirrorMetadata.flag beside.mirror).trans flag
  have unflagged : s.metadata.tunnel.innerIpv4ChecksumEn = false := beside.innerIpv4ChecksumEn
  have processed : processMirror tables around.fresh s =
      if mirrorAdmits tables then cloneToCpu around.fresh s else { cloneToCpu around.fresh s with dropCtl := 1 } := by
    have hit : mirrorCopytocpuInit 1 = true := rfl
    rw [processMirror, mirrors.mirror, mirrors.mirrorDrop, flagged, hit]
    dsimp only
    rw [if_pos rfl, mirrorAdmits, bne]
    change (if ((tables.mirrorRl s.metadata.mirror.flag).getD 0 == mirrorRed) = true then _ else _) = _
    rw [flagged]
    cases (tables.mirrorRl 1).getD 0 == mirrorRed <;> rfl
  have applied : apply tables around.fresh s = processMirror tables around.fresh s := by
    have closed : ¬ s.hdr.bgMd.valid = true := Bool.eq_false_iff.mp unbridged
    have entered : restore around.fresh s = s := if_neg closed
    have marked : s.metadata.mirror.flag ≠ 0 := by
      rw [flagged]
      decide
    rw [apply, entered]
    dsimp only
    rw [if_pos marked, processed]
    refine if_neg ?_
    cases mirrorAdmits tables <;> exact closed
  let clone := cloneToCpu around.fresh s
  have outer : clone.hdr.ethernet = ⟨true, { mirror.shown ethernet with etherType := etherTypeBfn }⟩ := by
    have own : s.metadata.mirror = mirror := beside.mirror
    change (⟨s.hdr.ethernet.valid, { s.metadata.mirror.shown s.hdr.ethernet.fields with
      etherType := etherTypeBfn }⟩ : Header Ethernet) = _
    rw [own]
    change (⟨parsed.hdr.ethernet.valid, { mirror.shown parsed.hdr.ethernet.fields with
      etherType := etherTypeBfn }⟩ : Header Ethernet) = _
    rw [framed]
  have inFabric : clone.hdr.fabric = ⟨true, mirrorFabric⟩ := congrArg (Header.mk · _) (Header.setValid_valid _ _)
  have inCpu : clone.hdr.cpu = ⟨true, mirrorCpu around.fresh ethernet.etherType⟩ := by
    have fresh := s.hdr.cpu.setValid_of_invalid around.fresh.cpu.fields noCpu
    change ({ s.hdr.cpu.setValid around.fresh.cpu.fields with fields := {
      (s.hdr.cpu.setValid around.fresh.cpu.fields).fields with
        egressQueue := 0, txBypass := 0, reserved := 0, ingressPort := mirrorDevPort,
        etherType := parsed.hdr.ethernet.fields.etherType } } : Header Cpu) = _
    rw [fresh, framed]
    rfl
  have behind : clone.hdr.emitChecked parsed.pkt =
      if ethernet.etherType = etherTypeIpv4 then recomputeIpv4 rest else rest := by
    change parsed.hdr.emitChecked parsed.pkt = _
    have noHeaders := written
    rw [P02EgressParser.rewritten, framed, Header.emit_valid, Header.emit_of_invalid _ _ noFabric,
      Header.emit_of_invalid _ _ noCpu, List.nil_append, List.nil_append] at noHeaders
    exact (Ethernet.codec.encode_append_inj.mp (noHeaders.trans (recompute_unwrapped other rest))).2
  have sent : deparse clone ++ parsed.pkt =
      recompute (Ethernet.codec.encode { mirror.shown ethernet with etherType := etherTypeBfn } ++
        (Fabric.codec.encode mirrorFabric ++
          (Cpu.codec.encode (mirrorCpu around.fresh ethernet.etherType) ++ rest))) := by
    have bare : clone.hdr.bgMd.valid = false := unbridged
    have unmarked : clone.metadata.tunnel.innerIpv4ChecksumEn = false := unflagged
    rw [deparse_unbridged bare unmarked, outer, inFabric, inCpu, behind, recompute_wrapped]
    rfl
  refine ⟨clone.hdr.bgMd.fields.tunnelDirectSend, ?_⟩
  rw [pass, egressPass, accepted]
  change (if dropped (apply tables around.fresh s).dropCtl = true then _ else _) = _
  rw [applied, processed, ← sent]
  cases mirrorAdmits tables with
  | true => exact if_neg (show ¬ dropped 0 = true by decide)
  | false => exact if_pos (show dropped 1 = true by decide)

/-- Only a frame that the parser reads is copied. -/
theorem reads_of_copied {tables : Tables} {around : Surroundings} {port : BitVec 9} {mirror : MirrorMetadata}
    (copies : mirror.Copies) {frame : Bits} {delivery : Delivery}
    (sent : (pass tables around port (MirrorMetadata.codec.encode mirror ++ frame)).value = some delivery) :
    P02EgressParser.Reads frame := by
  refine (P02EgressParser.parseEthernet_isSome (P02EgressParser.copied around.containers mirror frame)).mp ?_
  rw [← P02EgressParser.parse_copied around.containers copies frame]
  cases accepted : P02EgressParser.parse around.containers (MirrorMetadata.codec.encode mirror ++ frame) with
  | none =>
      rw [pass, egressPass, accepted] at sent
      contradiction
  | some parsed => rfl

end P02Egress

/-! The requests of the ACLs -/

/-- The header that an ACL puts in front of a copy -/
def MirrorMetadata.of (proto res : BitVec 8) (port : BitVec 9) (timestamp : BitVec 48) : MirrorMetadata :=
  { proto, flag := 1, port, res, timestamp }

namespace P02IngressParser

theorem parse_mirror {containers : Headers} {bits : Bits} {parsed : ParserState}
    (accepted : parse containers bits = some parsed) : parsed.metadata.mirror = {} := by
  obtain ⟨frame, _, _, rfl⟩ := (parse_eq_some_iff _ _ _).mp accepted
  cases frame with
  | other ethernet rest => rfl
  | ipv4 ethernet ip outer => exact (outer.place_keeps p02IngressDialect _).mirror
  | ipv6 ethernet ip transport rest => cases transport <;> rfl
  | cpuOther ethernet fabric cpu rest => rfl
  | cpuIpv4 ethernet fabric cpu ip outer => exact (outer.place_keeps p02IngressDialect _).mirror

end P02IngressParser

/-- What decides over a copy, beside the tables -/
def IngressState.request (s : IngressState) : BitVec 3 × MirrorMetadata × BitVec 9 × BitVec 48 :=
  (s.mirrorType, s.metadata.mirror, s.ingressPort, s.globalTstamp)

namespace P02Ingress

theorem decapMetaData02_request (fresh : Headers) (s : IngressState) :
    (decapMetaData02 fresh s).request = s.request := by
  unfold decapMetaData02
  split <;> rfl

theorem processLocal_request (tables : Tables) (fresh : Headers) (s : IngressState) :
    (processLocal tables fresh s).request = s.request := by
  unfold processLocal
  split <;> rfl

theorem igwIpType_request (tables : Tables) (s : IngressState) : (igwIpType tables s).request = s.request := by
  unfold igwIpType
  split <;> rfl

theorem eipOutRedirect_request (tables : Tables) (s : IngressState) :
    (eipOutRedirect tables s).request = s.request := by
  have entered (entry : Option EipOutBwId) (s : IngressState) : (eipOutEntry entry s).request = s.request := by
    cases entry <;> rfl
  have looked (s : IngressState) : (eipOutLookup tables s).request = s.request := by
    unfold eipOutLookup
    split
    · exact entered _ s
    · split
      · exact entered _ s
      · rfl
  have selected (s : IngressState) : (selectRedirectIpOut tables s).request = s.request := by
    unfold selectRedirectIpOut
    split <;> rfl
  rw [eipOutRedirect, ← looked s, modifyJdVxlanOut]
  split
  · exact selected _
  · rfl
  · rfl

theorem direct_request (tables : Tables) (s : IngressState) : (direct tables s).request = s.request := by
  have snat (s : IngressState) : (fipInnerIpSnat tables s).request = s.request := by
    unfold fipInnerIpSnat
    split
    · split <;> rfl
    · rfl
  have fixed (s : IngressState) : (pipeLineFix tables s).request = s.request := by
    unfold pipeLineFix
    split <;> rfl
  have flagged (hit : Bool) (s : IngressState) : (setHaveFlag hit s).request = s.request := by
    cases hit <;> rfl
  have shared (s : IngressState) : (haveSharedBindWith tables s).request = s.request := by
    unfold haveSharedBindWith
    split
    · exact flagged _ s
    · split
      · exact flagged _ s
      · rfl
  unfold direct
  split
  · split
    · rw [eipOutRedirect_request, fixed, snat]
    · exact shared s
  · rfl

theorem encapMetaData02_request (s : IngressState) : (encapMetaData02 s).request = s.request := by
  unfold encapMetaData02
  dsimp only
  split <;> rfl

theorem ecmpGroup02_request (tables : Tables) (s : IngressState) : (ecmpGroup02 tables s).request = s.request := by
  unfold ecmpGroup02
  split
  · dsimp only
    split <;> rfl
  · rfl

theorem ingressSystemAcl_request (tables : Tables) {s : IngressState} {port : BitVec 9} {time : BitVec 48}
    (quiet : s.request = (0, {}, port, time)) :
    (ingressSystemAcl tables s).request = (0, {}, port, time) ∨
      (ingressSystemAcl tables s).request =
        (mirrorTypeI2E, .of pktMirrMdIg mirrorInput port time, port, time) := by
  have copied (sid : BitVec 10) : (copyIngressToSid sid s).request =
      (mirrorTypeI2E, .of pktMirrMdIg mirrorInput port time, port, time) := by
    obtain ⟨_, mirror, rfl, rfl⟩ : _ ∧ s.metadata.mirror = {} ∧ s.ingressPort = port ∧ s.globalTstamp = time := by
      simpa [IngressState.request] using quiet
    rw [IngressState.request, copyIngressToSid, mirror]
    rfl
  unfold ingressSystemAcl
  split
  · dsimp only
    split
    · exact .inr (copied _)
    · exact .inr (copied _)
    · exact .inl quiet
    · exact .inl quiet
  · exact .inl quiet

/-- A copy that the ingress ACL asks for has the port and the time of the arrival. -/
theorem emitMirror_ingress {tables : Tables} {around : Surroundings} {port : BitVec 9} {bits : Bits}
    {parsed : ParserState} (accepted : P02IngressParser.parse around.containers bits = some parsed)
    {session : BitVec 10} {mirror : MirrorMetadata}
    (emitted : emitMirror (apply tables around.fresh (ingressStart around port parsed)) = some (session, mirror)) :
    mirror = .of pktMirrMdIg mirrorInput port around.globalTstamp := by
  have clean := P02IngressParser.parse_mirror accepted
  let noted := ingressPortStats (processLocal tables around.fresh (decapMetaData02 around.fresh
    (ingressStart around port parsed)))
  let typed := if noted.hdr.bgMd.fields.tunnelDirectSend = matchPacket then igwIpType tables noted else noted
  have begun : noted.request = (0, {}, port, around.globalTstamp) := by
    change (processLocal tables around.fresh (decapMetaData02 around.fresh _)).request = _
    rw [processLocal_request, decapMetaData02_request, IngressState.request, ingressStart, clean]
  have quiet : typed.request = (0, {}, port, around.globalTstamp) := by
    rw [← begun]
    change (if _ then _ else _ : IngressState).request = _
    split
    · exact igwIpType_request tables noted
    · rfl
  have left : (apply tables around.fresh (ingressStart around port parsed)).request =
      (ingressSystemAcl tables typed).request := by
    rw [apply, encapMetaData02_request, ecmpGroup02_request, direct_request]
    rfl
  generalize apply tables around.fresh (ingressStart around port parsed) = s at emitted left
  unfold emitMirror at emitted
  split at emitted
  · rename_i type
    obtain ⟨_, rfl⟩ := Prod.mk.inj (Option.some.inj emitted)
    rcases ingressSystemAcl_request tables quiet with silent | copied
    · have none : (0 : BitVec 3) = mirrorTypeI2E := (congrArg Prod.fst (left.trans silent)).symm.trans type
      exact absurd none (by decide)
    · exact congrArg (fun request => request.2.1) (left.trans copied)
  · contradiction

end P02Ingress

/-- What decides over a copy, beside the tables -/
def EgressState.request (s : EgressState) : BitVec 3 × MirrorMetadata × BitVec 9 × BitVec 48 :=
  (s.mirrorType, s.metadata.mirror, s.egressPort, s.globalTstamp)

namespace P02EgressParser

theorem parseCpu_beside {s r : ParserState} (found : parseCpu s = some r) : Beside s r := by
  simp only [parseCpu, extractCpu, Option.bind_eq_bind, Option.bind_eq_some_iff,
    ParserState.extract_eq_some_iff] at found
  obtain ⟨_, ⟨_, ⟨fabric, _, _, rfl⟩, cpu, behind, _, rfl⟩, found⟩ := found
  split at found
  · obtain ⟨bgMd, mirror, flag⟩ := parseIpv4_beside found
    exact ⟨bgMd, mirror, flag⟩
  · rw [← Option.some.inj found]
    exact ⟨rfl, rfl, rfl⟩

/-- The parser takes no mirror header from a bridged packet. -/
theorem parse_mirror {containers : Headers} {bgMd : BridgeMetadata} (proto : bgMd.proto = pktBridge) {rest : Bits}
    {parsed : ParserState} (accepted : parse containers (BridgeMetadata.codec.encode bgMd ++ rest) = some parsed) :
    parsed.metadata.mirror = {} := by
  have bridge := ParserState.lookahead_bridge containers.unparsed {} bgMd rest
  rw [parse, parseHeaderCheck, ParserState.start, bridge, Option.bind_eq_bind, Option.bind_some, proto,
    if_neg (by decide), if_neg (by decide), if_pos rfl, parseBridgeHeader, ParserState.extract_encode] at accepted
  change (if _ then parseIpv4 (.bridged containers bgMd rest) else if _ then parseCpu (.bridged containers bgMd rest)
    else if _ then parseEthernet (.bridged containers bgMd rest) else some (.bridged containers bgMd rest)) =
      some parsed at accepted
  split at accepted
  · exact (parseIpv4_beside accepted).mirror
  split at accepted
  · exact (parseCpu_beside accepted).mirror
  split at accepted
  · exact (parseEthernet_beside accepted).mirror
  · rw [← Option.some.inj accepted]
    rfl

end P02EgressParser

namespace P02Egress

theorem restore_request (fresh : Headers) (s : EgressState) : (restore fresh s).request = s.request := by
  have decapped (s : EgressState) : (decapMetaDataI2E02 s).request = s.request := by
    unfold decapMetaDataI2E02
    split <;> rfl
  unfold restore
  split
  · split
    · exact decapped _
    · exact decapped _
  · rfl

theorem internetInProcess_request (tables : Tables) (s : EgressState) :
    (internetInProcess tables s).request = s.request := by
  have inner (s : EgressState) : (tunnelInnerRewrite tables s).request = s.request := by
    unfold tunnelInnerRewrite
    split <;> rfl
  have dst (s : EgressState) : (tunnelDstRewrite tables s).request = s.request := by
    unfold tunnelDstRewrite
    split
    · rfl
    · split <;> rfl
  have src (s : EgressState) : (tunnelSrcRewrite tables s).request = s.request := by
    unfold tunnelSrcRewrite
    split <;> rfl
  have vxlan (s : EgressState) : (rewriteVxlanProcess s).request = s.request := by
    unfold rewriteVxlanProcess
    split <;> rfl
  rw [internetInProcess, src, dst, inner]
  split
  · exact vxlan s
  · rfl

theorem internetOutProcess_request (s : EgressState) : (internetOutProcess s).request = s.request := by
  unfold internetOutProcess
  split <;> rfl

theorem reached_request (tables : Tables) (fresh : Headers) (s : EgressState) :
    (reached tables fresh s).request = s.request := by
  have metered (s : EgressState) : (eipOutMeter tables s).request = s.request := by
    unfold eipOutMeter
    split
    · dsimp only
      split <;> rfl
    · rfl
  have shared (s : EgressState) : (eipOutSharedMeter tables s).request = s.request := by
    obtain ⟨_, _, same, _⟩ := eipOutSharedMeter_eq tables s
    rw [same]
    rfl
  have counted (s : EgressState) : (eipOutEgressPktStats s).request = s.request := by
    obtain ⟨_, same, _⟩ := eipOutEgressPktStats_eq s
    rw [same]
    rfl
  have processed (s : EgressState) : (processGwEgress tables s).request = s.request := by
    unfold processGwEgress
    split
    · exact internetInProcess_request tables s
    · rw [internetOutProcess_request, counted, shared, metered]
  rw [reached, ← restore_request fresh s]
  split
  · exact processed _
  · rfl

theorem egressSystemAcl_request (tables : Tables) {s : EgressState} {port : BitVec 9} {time : BitVec 48}
    (quiet : s.request = (0, {}, port, time)) :
    (egressSystemAcl tables s).request = (0, {}, port, time) ∨
      (egressSystemAcl tables s).request =
        (mirrorTypeE2E, .of pktMirrMdEg mirrorOutput port time, port, time) := by
  have copied (sid : BitVec 10) : (copyEgressToSid sid s).request =
      (mirrorTypeE2E, .of pktMirrMdEg mirrorOutput port time, port, time) := by
    obtain ⟨_, mirror, rfl, rfl⟩ : _ ∧ s.metadata.mirror = {} ∧ s.egressPort = port ∧ s.globalTstamp = time := by
      simpa [EgressState.request] using quiet
    rw [EgressState.request, copyEgressToSid, mirror]
    rfl
  unfold egressSystemAcl
  split
  · dsimp only
    split
    · exact .inr (copied _)
    · exact .inr (copied _)
    · exact .inl quiet
    · exact .inr (copied _)
    · exact .inl quiet
  · exact .inl quiet

/-- A copy that the egress ACL asks for has the port and the time of the departure. -/
theorem emitMirror_egress {tables : Tables} {around : Surroundings} {port : BitVec 9} {bgMd : BridgeMetadata}
    (proto : bgMd.proto = pktBridge) {rest : Bits} {parsed : ParserState}
    (accepted : P02EgressParser.parse around.containers (BridgeMetadata.codec.encode bgMd ++ rest) = some parsed)
    {session : BitVec 10} {mirror : MirrorMetadata}
    (emitted : emitMirror (apply tables around.fresh (egressStart around port parsed)) = some (session, mirror)) :
    mirror = .of pktMirrMdEg mirrorOutput port around.globalTstamp := by
  have clean := P02EgressParser.parse_mirror proto accepted
  have original : (egressStart around port parsed).metadata.mirror.flag = 0 := by
    rw [egressStart, clean]
  have quiet : (reached tables around.fresh (egressStart around port parsed)).request =
      (0, {}, port, around.globalTstamp) := by
    rw [reached_request, EgressState.request, egressStart, clean]
  have left : (apply tables around.fresh (egressStart around port parsed)).request =
      (egressSystemAcl tables (reached tables around.fresh (egressStart around port parsed))).request := by
    rw [apply_eq tables around.fresh _ original]
    obtain ⟨_, same⟩ := leave_eq tables (egressSystemAcl tables (reached tables around.fresh
      (egressStart around port parsed)))
    rw [same]
    rfl
  generalize apply tables around.fresh (egressStart around port parsed) = s at emitted left
  unfold emitMirror at emitted
  split at emitted
  · rename_i type
    obtain ⟨_, rfl⟩ := Prod.mk.inj (Option.some.inj emitted)
    rcases egressSystemAcl_request tables quiet with silent | copied
    · have none : (0 : BitVec 3) = mirrorTypeE2E := (congrArg Prod.fst (left.trans silent)).symm.trans type
      exact absurd none (by decide)
    · exact congrArg (fun request => request.2.1) (left.trans copied)
  · contradiction

end P02Egress

/-! The interface of the copies -/

/-- One of the ACLs has asked for a copy of a packet with this mirror header, for this reason. -/
inductive Requested (tables : Tables) (around : Surroundings) (port : BitVec 9) (mirror : MirrorMetadata) :
    BitVec 8 → Prop
  | ingress {bits : Bits} {parsed : ParserState} {session : BitVec 10}
      (accepted : P02IngressParser.parse around.containers bits = some parsed)
      (emitted : P02Ingress.emitMirror (P02Ingress.apply tables around.fresh (ingressStart around port parsed)) =
        some (session, mirror)) : Requested tables around port mirror mirrorInput
  | egress {bgMd : BridgeMetadata} {rest : Bits} {parsed : ParserState} {session : BitVec 10}
      (proto : bgMd.proto = pktBridge)
      (accepted : P02EgressParser.parse around.containers (BridgeMetadata.codec.encode bgMd ++ rest) = some parsed)
      (emitted : P02Egress.emitMirror (P02Egress.apply tables around.fresh (egressStart around port parsed)) =
        some (session, mirror)) : Requested tables around port mirror mirrorOutput

namespace Requested

variable {tables : Tables} {around : Surroundings} {port : BitVec 9} {mirror : MirrorMetadata} {reason : BitVec 8}

theorem header (requested : Requested tables around port mirror reason) :
    mirror.Copies ∧ mirror.flag = 1 ∧ mirror.res = reason ∧ mirror.port = port ∧
      mirror.timestamp = around.globalTstamp := by
  cases requested with
  | ingress accepted emitted =>
      rw [P02Ingress.emitMirror_ingress accepted emitted]
      exact ⟨.inl rfl, rfl, rfl, rfl, rfl⟩
  | egress proto accepted emitted =>
      rw [P02Egress.emitMirror_egress proto accepted emitted]
      exact ⟨.inr rfl, rfl, rfl, rfl, rfl⟩

/--
A copy that an ACL asks for arrives unless the frame ends inside a header or the meter of the copies is red. It
reaches the interface of the copies and no other one, and shows the reason, the port and the time there.
-/
theorem dumps (requested : Requested tables around port mirror reason) (mirrors : Mirrors tables)
    (copying : Surroundings) (mirrorPort : BitVec 9) {ethernet : Ethernet} (other : ethernet.etherType ≠ etherTypeBfn)
    (rest : Bits) :
    ((P02Egress.pass tables copying mirrorPort
        (MirrorMetadata.codec.encode mirror ++ (Ethernet.codec.encode ethernet ++ rest))).value.isSome = true ↔
      P02EgressParser.Reads (Ethernet.codec.encode ethernet ++ rest) ∧ P02Egress.mirrorAdmits tables = true) ∧
    ∀ delivery, (P02Egress.pass tables copying mirrorPort
        (MirrorMetadata.codec.encode mirror ++ (Ethernet.codec.encode ethernet ++ rest))).value = some delivery →
      delivery.port = mirrorPort ∧
      (∀ handle, (mirrorHostifRxFilter handle).Matches delivery.packet) ∧
      (∀ devPort handle, (hostifRxFilter devPort handle).Matches delivery.packet → devPort = mirrorHostifDevPort) ∧
      ∃ shown : Ethernet, shown.etherType = ethernet.etherType ∧ shown.srcAddr = around.globalTstamp ∧
        shown.dstAddr.extractLsb' 40 8 = reason ∧ shown.dstAddr.extractLsb' 24 9 = port ∧
        ∀ handle, handle ≠ 0 → (mirrorHostifRxFilter handle).received delivery.packet =
          recompute (Ethernet.codec.encode shown ++ rest) := by
  obtain ⟨copies, flag, rfl, rfl, time⟩ := requested.header
  constructor
  · constructor
    · intro arrives
      obtain ⟨delivery, sent⟩ := Option.isSome_iff_exists.mp arrives
      have reads := P02Egress.reads_of_copied copies sent
      obtain ⟨_, value⟩ := P02Egress.pass_copied mirrors copying mirrorPort copies flag other reads
      rw [value] at arrives
      refine ⟨reads, ?_⟩
      split at arrives
      · assumption
      · contradiction
    · rintro ⟨reads, admits⟩
      obtain ⟨_, value⟩ := P02Egress.pass_copied mirrors copying mirrorPort copies flag other reads
      rw [value, if_pos admits]
      rfl
  · intro delivery sent
    have reads := P02Egress.reads_of_copied copies sent
    obtain ⟨directSend, value⟩ := P02Egress.pass_copied mirrors copying mirrorPort copies flag other reads
    rw [value] at sent
    split at sent
    · obtain rfl := Option.some.inj sent
      dsimp only
      rw [recompute_wrapped]
      refine ⟨rfl, fun handle => ?_, fun devPort handle matched => ?_, mirror.shown ethernet, rfl, time, ?_, ?_, ?_⟩
      · exact (matches_iff _ _ _ _ _ _).mpr rfl
      · exact (matches_iff _ _ _ _ _ _).mp matched
      · rw [MirrorMetadata.shown, BitVec.setWidth_eq]
        simp (disch := omega) only [BitVec.extractLsb'_append_eq_of_le, Nat.reduceSub, BitVec.extractLsb'_eq_self]
      · rw [MirrorMetadata.shown, BitVec.setWidth_eq]
        simp (disch := omega) only [BitVec.extractLsb'_append_eq_of_le, BitVec.extractLsb'_append_eq_of_add_le,
          Nat.reduceSub, BitVec.extractLsb'_eq_self]
      · intro handle given
        have mutation : (mirrorHostifRxFilter handle).pktMutation =
            [.strip etherTypeOffset switchPacketHeaderSize] := if_pos given
        have same : (mirror.shown ethernet).etherType ≠ etherTypeBfn := other
        rw [RxFilter.received, mutation, List.foldl_cons, List.foldl_nil, stripped_bits, recompute_unwrapped same]
        rfl
    · contradiction

end Requested

/-- The ingress ACL copies every packet to the CPU. -/
def copyingTables : Tables :=
  { Tables.empty with
    ingressSystemAcl := fun _ => .copyIngressToCpu
    mirror := mirrorCopytocpuInit
    mirrorDrop := mirrorDropInit }

def copiedHeader : MirrorMetadata := .of pktMirrMdIg mirrorInput 5 77

def copiedFrame : Ethernet := ⟨1, 2, 0x0806⟩

theorem copied_requested : Requested copyingTables { (default : Surroundings) with globalTstamp := 77 } 5 copiedHeader
    mirrorInput := by
  let around : Surroundings := { (default : Surroundings) with globalTstamp := 77 }
  let frame := Ethernet.codec.encode copiedFrame
  have run : ((P02IngressParser.parse around.containers frame).bind fun parsed =>
      P02Ingress.emitMirror (P02Ingress.apply copyingTables around.fresh (ingressStart around 5 parsed))) =
        some (cpuMirrorSessionId, copiedHeader) := by
    decide +kernel
  obtain ⟨parsed, accepted, emitted⟩ := Option.bind_eq_some_iff.mp run
  exact .ingress accepted emitted

/-- The copy shows its port and the time of its arrival on the host. -/
theorem dumps_copied : ∃ delivery, (P02Egress.pass copyingTables default cpuPort
      (MirrorMetadata.codec.encode copiedHeader ++ (Ethernet.codec.encode copiedFrame ++ []))).value = some delivery ∧
    (mirrorHostifRxFilter 1).Matches delivery.packet ∧
    ∃ shown : Ethernet, shown.etherType = 0x0806 ∧ shown.srcAddr = 77 ∧ shown.dstAddr.extractLsb' 24 9 = 5 ∧
      (mirrorHostifRxFilter 1).received delivery.packet = recompute (Ethernet.codec.encode shown ++ []) := by
  have other : copiedFrame.etherType ≠ etherTypeBfn := by decide
  obtain ⟨arrives, shows⟩ := copied_requested.dumps ⟨rfl, rfl⟩ default cpuPort other []
  have reads : P02EgressParser.Reads (Ethernet.codec.encode copiedFrame ++ []) :=
    ⟨copiedFrame, [], rfl, fun ipv4 => absurd ipv4 (by decide), fun bfn => absurd bfn other⟩
  obtain ⟨delivery, sent⟩ := Option.isSome_iff_exists.mp (arrives.mpr ⟨reads, rfl⟩)
  obtain ⟨_, own, _, shown, type, time, _, port, received⟩ := shows delivery sent
  exact ⟨delivery, sent, own 1, shown, type, time, port, received 1 (by decide)⟩

end IgwP4.Dataplane
