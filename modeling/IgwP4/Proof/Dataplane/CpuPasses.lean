/-
This file gives the passes of the packets that go to the CPU or come from it.
-/

import IgwP4.Proof.Dataplane.CpuFrames
import IgwP4.Proof.Dataplane.P02IngressPasses
import IgwP4.Proof.Dataplane.PuntedFrames
import IgwP4.Proof.Dataplane.SkippedPackets

namespace IgwP4.Dataplane
open Packet Setup

/-! What the first parser reads -/

namespace P02IngressParser

/-- A CPU frame is read with both of its CPU headers. -/
theorem parse_cpu {containers : Headers} {ethernet : Ethernet} {fabric : Fabric} {cpu : Cpu} {rest : Bits}
    {r : ParserState} (bfn : ethernet.etherType = etherTypeBfn)
    (accepted : parse containers (Ethernet.codec.encode ethernet ++
      (Fabric.codec.encode fabric ++ (Cpu.codec.encode cpu ++ rest))) = some r) :
    r.hdr.ethernet = ⟨true, ethernet⟩ ∧ r.hdr.fabric = ⟨true, fabric⟩ ∧ r.hdr.cpu = ⟨true, cpu⟩ ∧
      r.hdr.emitIp r.pkt = rest := by
  have whole := emit_parse accepted
  have unbridged := (parse_initial accepted).1
  obtain ⟨frame, fits, shape, rfl⟩ := (parse_eq_some_iff _ _ _).mp accepted
  have framed := frame.state_ethernet containers
  obtain ⟨rfl, body⟩ := Ethernet.codec.encode_append_inj.mp shape
  have read : ∃ fabric' cpu', (frame.state containers).hdr.fabric = ⟨true, fabric'⟩ ∧
      (frame.state containers).hdr.cpu = ⟨true, cpu'⟩ := by
    cases frame with
    | other ethernet rest => exact absurd bfn fits.2.2
    | ipv4 ethernet ip outer => exact absurd (bfn.symm.trans fits.1) (by decide)
    | ipv6 ethernet ip transport rest => exact absurd (bfn.symm.trans fits.1) (by decide)
    | cpuOther ethernet fabric cpu rest => exact ⟨fabric, cpu, rfl, rfl⟩
    | cpuIpv4 ethernet fabric cpu ip outer =>
        have kept := outer.place_keeps p02IngressDialect
        exact ⟨fabric, cpu, (kept _).fabric, (kept _).cpu⟩
  obtain ⟨fabric', cpu', hasFabric, hasCpu⟩ := read
  rw [Headers.emit_append, Header.emit_of_invalid _ _ unbridged, framed, hasFabric, hasCpu, Header.emit_valid,
    Header.emit_valid, Header.emit_valid, List.nil_append] at whole
  obtain ⟨_, behind⟩ := Ethernet.codec.encode_append_inj.mp whole
  obtain ⟨rfl, inside⟩ := Fabric.codec.encode_append_inj.mp behind
  obtain ⟨rfl, last⟩ := Cpu.codec.encode_append_inj.mp inside
  exact ⟨framed, hasFabric, hasCpu, last⟩

/-- Another frame is read without CPU headers. -/
theorem parse_uncpu {containers : Headers} {bits : Bits} {r : ParserState}
    (accepted : parse containers bits = some r) (other : r.hdr.ethernet.fields.etherType ≠ etherTypeBfn) :
    r.hdr.ethernet.valid = true ∧ r.hdr.fabric.valid = false ∧ r.hdr.cpu.valid = false ∧
      bits = Ethernet.codec.encode r.hdr.ethernet.fields ++ r.hdr.emitIp r.pkt := by
  have whole := emit_parse accepted
  have unbridged := (parse_initial accepted).1
  obtain ⟨frame, fits, rfl, rfl⟩ := (parse_eq_some_iff _ _ _).mp accepted
  have framed := frame.state_ethernet containers
  rw [framed] at other ⊢
  have off : (frame.state containers).hdr.fabric.valid = false ∧ (frame.state containers).hdr.cpu.valid = false := by
    cases frame with
    | other ethernet rest => exact ⟨rfl, rfl⟩
    | ipv4 ethernet ip outer =>
        have kept := outer.place_keeps p02IngressDialect
        exact ⟨congrArg Header.valid (kept _).fabric, congrArg Header.valid (kept _).cpu⟩
    | ipv6 ethernet ip transport rest => cases transport <;> exact ⟨rfl, rfl⟩
    | cpuOther ethernet fabric cpu rest => exact absurd fits.1 other
    | cpuIpv4 ethernet fabric cpu ip outer => exact absurd fits.1 other
  rw [Headers.emit_uncpu off.1 off.2, Header.emit_of_invalid _ _ unbridged, framed, Header.emit_valid] at whole
  exact ⟨rfl, off.1, off.2, whole.symm⟩

end P02IngressParser

/-! The first pass -/

namespace P02Ingress

/-- The first control does not assign the colour. -/
theorem opened_meterPacketColor (fresh : Headers) (s : IngressState)
    (shape : WellShaped s.hdr s.metadata.tunnel.vxlanType) (unbridged : s.hdr.bgMd.valid = false) :
    (opened fresh s).meterPacketColor = fresh.bgMd.fields.meterPacketColor := by
  have first := s.hdr.bgMd.setValid_of_invalid fresh.bgMd.fields unbridged
  unfold opened decapMetaData02
  rcases shape with ⟨ipv4, ipv6, _, inner4, inner6⟩ | ⟨ipv4, ipv6, _, inner4, inner6⟩ |
    ⟨ipv4, ipv6, _, inner4, inner6⟩ | ⟨ipv4, ipv6, _, families, _⟩
  · rw [ipv4, ipv6, inner4, inner6]
    dsimp only [igDecapMd02Nop, igInitBridge]
    rw [first]
  · rw [ipv4, ipv6, inner4, inner6]
    dsimp only [igDecapMd02V6, igDecapMd02Direct, igInitBridge]
    rw [first]
  · rw [ipv4, ipv6, inner4, inner6]
    dsimp only [igDecapMd02V4, igDecapMd02Direct, igInitBridge]
    rw [first]
  · rw [ipv4, ipv6]
    cases inner4 : s.hdr.innerIpv4.valid <;> cases inner6 : s.hdr.innerIpv6.valid
    · dsimp only [igDecapMd02V4, igDecapMd02Direct, igInitBridge]
      rw [first]
    · dsimp only [igDecapMd02OverlayV6, igDecapMd02Overlay, igInitBridge]
      rw [first]
    · dsimp only [igDecapMd02OverlayV4, igDecapMd02Overlay, igInitBridge]
      rw [first]
    · rw [inner4, inner6] at families
      simp at families

/-- The bridge header of a packet that skips the treatment -/
def skippedBridge (s : IngressState) : BridgeMetadata :=
  { s.hdr.bgMd.fields with
    igrPort := s.ingressPort, proto := pktBridge, outerEthernetType := s.hdr.ethernet.fields.etherType }

/-- The ingress ACL drops a frame that does not come from the CPU port. -/
def AclDrops (tables : Tables) (around : Surroundings) (port : BitVec 9) (frame : Bits) : Prop :=
  port ≠ cpuPort ∧ ∃ parsed, P02IngressParser.parse around.containers frame = some parsed ∧
    tables.ingressSystemAcl (ingressAclKey (decapMetaData02 around.fresh (ingressStart around port parsed))) =
      .systemAclDropPacket

theorem not_aclDrops_of_admits {cfg : SwitchConfig} {hostifs : List Hostif} {tables : Tables}
    (installed : Admits cfg hostifs tables) (around : Surroundings) (port : BitVec 9) (frame : Bits) :
    ¬ AclDrops tables around port frame := by
  rintro ⟨-, parsed, -, drops⟩
  rw [installed.ingressSystemAcl] at drops
  contradiction

/-- The ingress ACL changes neither the headers nor the ports. -/
theorem ingressSystemAcl_keeps (tables : Tables) (s : IngressState) :
    (ingressSystemAcl tables s).hdr = s.hdr ∧ (ingressSystemAcl tables s).ucastEgressPort = s.ucastEgressPort ∧
      (ingressSystemAcl tables s).ingressPort = s.ingressPort := by
  unfold ingressSystemAcl
  split
  · dsimp only
    split <;> exact ⟨rfl, rfl, rfl⟩
  · exact ⟨rfl, rfl, rfl⟩

/-- It drops what its entry says, unless the packet comes from the CPU port. -/
theorem ingressSystemAcl_dropCtl (tables : Tables) (s : IngressState) :
    (ingressSystemAcl tables s).dropCtl =
      if s.ingressPort ≠ cpuPort ∧ tables.ingressSystemAcl (ingressAclKey s) = .systemAclDropPacket then 1
      else s.dropCtl := by
  unfold ingressSystemAcl
  by_cases host : s.ingressPort = cpuPort
  · rw [if_neg (not_not.mpr host), if_neg fun both => both.1 host]
  · rw [if_pos host]
    dsimp only
    split <;> rename_i entry
    · rw [if_neg (by rw [entry]; exact fun both => nomatch both.2)]
      rfl
    · rw [if_neg (by rw [entry]; exact fun both => nomatch both.2)]
      rfl
    · rw [if_pos ⟨host, entry⟩]
      rfl
    · rw [if_neg (by rw [entry]; exact fun both => nomatch both.2)]
      rfl

/-- Behind the punt table a skipped packet only meets the ingress ACL and gets its bridge header. -/
theorem apply_skipped {tables : Tables} {fresh : Headers} {s q : IngressState}
    (processed : processLocal tables fresh (decapMetaData02 fresh s) = q)
    (skips : q.hdr.bgMd.fields.tunnelDirectSend = skipPacket) :
    (apply tables fresh s).hdr = { q.hdr with bgMd.fields := skippedBridge q } ∧
      (apply tables fresh s).dropCtl = (ingressSystemAcl tables q).dropCtl ∧
      (apply tables fresh s).ucastEgressPort = q.ucastEgressPort := by
  obtain ⟨hdr, egressPort, ingressPort⟩ := ingressSystemAcl_keeps tables (ingressPortStats q)
  have dropCtl : (ingressSystemAcl tables (ingressPortStats q)).dropCtl = (ingressSystemAcl tables q).dropCtl := by
    rw [ingressSystemAcl_dropCtl, ingressSystemAcl_dropCtl]
    rfl
  have unmatched : ¬ (ingressPortStats q).hdr.bgMd.fields.tunnelDirectSend = matchPacket := by
    change ¬ q.hdr.bgMd.fields.tunnelDirectSend = matchPacket
    rw [skips]
    decide
  have classified : classify tables fresh s = ingressSystemAcl tables (ingressPortStats q) := by
    rw [classify, processed]
    exact congrArg (ingressSystemAcl tables) (if_neg unmatched)
  generalize ingressSystemAcl tables (ingressPortStats q) = r at hdr dropCtl egressPort ingressPort classified
  have bridge : r.hdr.bgMd = q.hdr.bgMd := congrArg Headers.bgMd hdr
  have untreated : ¬ r.hdr.bgMd.fields.matchOrDl := by
    rw [BridgeMetadata.matchOrDl, bridge, skips]
    decide
  have straight : direct tables r = r := if_neg fun matched => untreated (.inl matched)
  have ungrouped : ecmpGroup02 tables r = r := if_neg untreated
  have bridged : encapMetaData02 r = { r with hdr.bgMd.fields := skippedBridge r } := if_neg untreated
  rw [apply, classified, straight, ungrouped, bridged, skippedBridge, ingressPort, hdr]
  exact ⟨rfl, dropCtl, egressPort⟩

/-- The first pipe sends a skipped packet behind its bridge header. -/
theorem pass_skipped {tables : Tables} {around : Surroundings} {port : BitVec 9} {bits : Bits} {parsed : ParserState}
    (accepted : P02IngressParser.parse around.containers bits = some parsed) {q : IngressState}
    (processed : processLocal tables around.fresh (decapMetaData02 around.fresh (ingressStart around port parsed)) = q)
    (skips : q.hdr.bgMd.fields.tunnelDirectSend = skipPacket) (bridged : q.hdr.bgMd.valid = true)
    (kept : (ingressSystemAcl tables q).dropCtl = 0) :
    (pass tables around port bits).value = some (q.ucastEgressPort,
      BridgeMetadata.codec.encode (skippedBridge q) ++ (q.hdr.ethernet.emit Ethernet.codec ++
        (q.hdr.fabric.emit Fabric.codec ++ (q.hdr.cpu.emit Cpu.codec ++ q.hdr.emitIp parsed.pkt)))) := by
  obtain ⟨hdr, dropCtl, egressPort⟩ := apply_skipped processed skips
  rw [pass_of_parsed accepted]
  dsimp only
  rw [dropCtl, kept, if_neg (by decide), deparse, hdr, egressPort, Headers.emit_append]
  have bridge : ({ q.hdr.bgMd with fields := skippedBridge q } : Header BridgeMetadata).emit BridgeMetadata.codec =
      BridgeMetadata.codec.encode (skippedBridge q) := if_pos bridged
  dsimp only
  rw [bridge]
  rfl

/-- A packet of the host leaves the first pipe without its CPU headers, for the port that they name. -/
theorem pass_received {tables : Tables} {around : Surroundings} {ethernet : Ethernet} {fabric : Fabric} {cpu : Cpu}
    {rest : Bits} {parsed : ParserState}
    (bfn : ethernet.etherType = etherTypeBfn)
    (accepted : P02IngressParser.parse around.containers (Ethernet.codec.encode ethernet ++
      (Fabric.codec.encode fabric ++ (Cpu.codec.encode cpu ++ rest))) = some parsed)
    (received : ∀ key : ProcessProtocolKey, key.ingressPort = cpuPort → key.etherType = etherTypeBfn →
      tables.processProtocolPacket key = some .receiveFromCpuNos) :
    ∃ bgMd, P02EgressParser.Keeps bgMd ∧ bgMd.tunnelDirectSend = skipPacket ∧ bgMd.needDrop = 0 ∧
      bgMd.meterPacketColor = around.fresh.bgMd.fields.meterPacketColor ∧
      (pass tables around cpuPort (Ethernet.codec.encode ethernet ++
        (Fabric.codec.encode fabric ++ (Cpu.codec.encode cpu ++ rest)))).value =
          some (fabric.dstPortOrGroup.setWidth 9, BridgeMetadata.codec.encode bgMd ++
            (Ethernet.codec.encode { ethernet with etherType := cpu.etherType } ++ rest)) := by
  obtain ⟨framed, hasFabric, hasCpu, behind⟩ := P02IngressParser.parse_cpu bfn accepted
  let s := ingressStart around cpuPort parsed
  have shape : WellShaped s.hdr s.metadata.tunnel.vxlanType := P02IngressParser.parse_wellShaped accepted
  have unbridged : s.hdr.bgMd.valid = false := (P02IngressParser.parse_initial accepted).1
  obtain ⟨decapped, initialised⟩ := decapMetaData02_eq around.fresh s shape unbridged
  have found : tables.processProtocolPacket (processProtocolKey (decapMetaData02 around.fresh s)) =
      some .receiveFromCpuNos := by
    apply received
    · rw [decapped]
      rfl
    · rw [decapped]
      exact (congrArg (fun h : Header Ethernet => h.fields.etherType) framed).trans bfn
  let q := receiveFromCpuNos ((decapMetaData02 around.fresh s).note .processProtocolPacket 0)
  have processed : processLocal tables around.fresh (decapMetaData02 around.fresh s) = q := by
    rw [processLocal, found]
  have bridge : q.hdr.bgMd = ⟨true, { opened around.fresh s with tunnelDirectSend := skipPacket }⟩ := by
    change { (decapMetaData02 around.fresh s).hdr.bgMd with fields.tunnelDirectSend := skipPacket } = _
    rw [decapped]
  have host : q.ingressPort = cpuPort := by
    change (decapMetaData02 around.fresh s).ingressPort = _
    rw [decapped]
    rfl
  have fields := congrArg Header.fields bridge
  have kept : (ingressSystemAcl tables q).dropCtl = 0 := by
    rw [ingressSystemAcl_dropCtl, if_neg fun both => both.1 host]
    exact congrArg IngressState.dropCtl decapped
  have sent := pass_skipped accepted processed (by rw [fields]) (congrArg Header.valid bridge) kept
  refine ⟨skippedBridge q, ⟨rfl, ?_⟩, ?_, ?_, ?_, ?_⟩
  · change q.hdr.bgMd.fields.outerEthernetInvalid = 0
    rw [fields]
    exact initialised.outerEthernetInvalid
  · change q.hdr.bgMd.fields.tunnelDirectSend = skipPacket
    rw [fields]
  · change q.hdr.bgMd.fields.needDrop = 0
    rw [fields]
    exact initialised.needDrop
  · change q.hdr.bgMd.fields.meterPacketColor = _
    rw [fields]
    exact opened_meterPacketColor around.fresh s shape unbridged
  · have port : q.ucastEgressPort = fabric.dstPortOrGroup.setWidth 9 := by
      change (decapMetaData02 around.fresh s).hdr.fabric.fields.dstPortOrGroup.setWidth 9 = _
      rw [decapped]
      exact congrArg (fun h : Header Fabric => h.fields.dstPortOrGroup.setWidth 9) hasFabric
    have outer : q.hdr.ethernet = ⟨true, { ethernet with etherType := cpu.etherType }⟩ := by
      change { (decapMetaData02 around.fresh s).hdr.ethernet with
        fields.etherType := (decapMetaData02 around.fresh s).hdr.cpu.fields.etherType } = _
      rw [decapped]
      change { parsed.hdr.ethernet with fields.etherType := parsed.hdr.cpu.fields.etherType } = _
      rw [framed, hasCpu]
    have inner : q.hdr.emitIp parsed.pkt = rest := by
      rw [← behind]
      change (decapMetaData02 around.fresh s).hdr.emitIp parsed.pkt = _
      rw [decapped]
      rfl
    rw [sent, port, outer, inner]
    rfl

/-- A punted packet leaves the first pipe behind CPU headers with its port and its EtherType. -/
theorem pass_punted {tables : Tables} {around : Surroundings} {port : BitVec 9} {bits : Bits} {parsed : ParserState}
    (undropped : ¬ AclDrops tables around port bits)
    (accepted : P02IngressParser.parse around.containers bits = some parsed)
    (other : parsed.hdr.ethernet.fields.etherType ≠ etherTypeBfn) {egressPort : BitVec 9}
    (punted : puntAction tables around port bits = some (.copyToCpuNos egressPort)) :
    ∃ bgMd fabric cpu rest, P02EgressParser.Keeps bgMd ∧ bgMd.tunnelDirectSend = skipPacket ∧
      bits = Ethernet.codec.encode parsed.hdr.ethernet.fields ++ rest ∧ cpu.ingressPort = port.setWidth 16 ∧
      cpu.etherType = parsed.hdr.ethernet.fields.etherType ∧
      (pass tables around port bits).value = some (egressPort, BridgeMetadata.codec.encode bgMd ++
        (Ethernet.codec.encode { parsed.hdr.ethernet.fields with etherType := etherTypeBfn } ++
          (Fabric.codec.encode fabric ++ (Cpu.codec.encode cpu ++ rest)))) := by
  obtain ⟨framed, noFabric, noCpu, whole⟩ := P02IngressParser.parse_uncpu accepted other
  let s := ingressStart around port parsed
  have shape : WellShaped s.hdr s.metadata.tunnel.vxlanType := P02IngressParser.parse_wellShaped accepted
  have unbridged : s.hdr.bgMd.valid = false := (P02IngressParser.parse_initial accepted).1
  obtain ⟨decapped, initialised⟩ := decapMetaData02_eq around.fresh s shape unbridged
  have found : tables.processProtocolPacket (processProtocolKey (decapMetaData02 around.fresh s)) =
      some (.copyToCpuNos egressPort) := by
    rw [puntAction, accepted, Option.bind_some] at punted
    exact punted
  let q := copyToCpuNos around.fresh egressPort ((decapMetaData02 around.fresh s).note .processProtocolPacket 0)
  have processed : processLocal tables around.fresh (decapMetaData02 around.fresh s) = q := by
    rw [processLocal, found]
  have bridge : q.hdr.bgMd = ⟨true, { opened around.fresh s with tunnelDirectSend := skipPacket }⟩ := by
    change { (decapMetaData02 around.fresh s).hdr.bgMd with fields.tunnelDirectSend := skipPacket } = _
    rw [decapped]
  have fields := congrArg Header.fields bridge
  have kept : (ingressSystemAcl tables q).dropCtl = 0 := by
    have arrived : q.ingressPort = port := congrArg IngressState.ingressPort decapped
    rw [ingressSystemAcl_dropCtl, arrived, if_neg fun both => undropped ⟨both.1, parsed, accepted, both.2⟩]
    exact congrArg IngressState.dropCtl decapped
  have sent := pass_skipped accepted processed (by rw [fields]) (congrArg Header.valid bridge) kept
  have outer : q.hdr.ethernet = ⟨true, { parsed.hdr.ethernet.fields with etherType := etherTypeBfn }⟩ := by
    change { (decapMetaData02 around.fresh s).hdr.ethernet with fields.etherType := etherTypeBfn } = _
    rw [decapped]
    exact congrArg (Header.mk · _) framed
  have onFabric : q.hdr.fabric.valid = true := Header.setValid_valid _ _
  have onCpu : q.hdr.cpu.valid = true := Header.setValid_valid _ _
  refine ⟨skippedBridge q, q.hdr.fabric.fields, q.hdr.cpu.fields, parsed.hdr.emitIp parsed.pkt, ⟨rfl, ?_⟩, ?_, whole,
    ?_, ?_, ?_⟩
  · change q.hdr.bgMd.fields.outerEthernetInvalid = 0
    rw [fields]
    exact initialised.outerEthernetInvalid
  · change q.hdr.bgMd.fields.tunnelDirectSend = skipPacket
    rw [fields]
  · change (decapMetaData02 around.fresh s).ingressPort.setWidth 16 = _
    rw [decapped]
    rfl
  · change (decapMetaData02 around.fresh s).hdr.ethernet.fields.etherType = _
    rw [decapped]
    rfl
  · have inner : q.hdr.emitIp parsed.pkt = parsed.hdr.emitIp parsed.pkt := by
      change (decapMetaData02 around.fresh s).hdr.emitIp parsed.pkt = _
      rw [decapped]
      rfl
    rw [sent, outer, inner, Header.emit, Header.emit, Header.emit, if_pos onFabric, if_pos onCpu]
    rfl

/-- A punted packet that the ingress ACL drops is lost. -/
theorem pass_dropped {tables : Tables} {around : Surroundings} {port : BitVec 9} {bits : Bits} {egressPort : BitVec 9}
    (punted : puntAction tables around port bits = some (.copyToCpuNos egressPort))
    (drops : AclDrops tables around port bits) : (pass tables around port bits).value = none := by
  obtain ⟨outside, parsed, accepted, entry⟩ := drops
  rw [puntAction, accepted, Option.bind_some] at punted
  obtain ⟨decapped, -⟩ := decapMetaData02_eq around.fresh (ingressStart around port parsed)
    (P02IngressParser.parse_wellShaped accepted) (P02IngressParser.parse_initial accepted).1
  let d := decapMetaData02 around.fresh (ingressStart around port parsed)
  let q := copyToCpuNos around.fresh egressPort (d.note .processProtocolPacket 0)
  have processed : processLocal tables around.fresh d = q := by
    rw [processLocal, punted]
  have arrived : q.ingressPort = port := congrArg IngressState.ingressPort decapped
  have lost : (ingressSystemAcl tables q).dropCtl = 1 := by
    rw [ingressSystemAcl_dropCtl, arrived]
    exact if_pos ⟨outside, entry⟩
  rw [pass_of_parsed accepted]
  dsimp only
  rw [(apply_skipped processed rfl).2.1, lost]
  rfl

end P02Ingress

end IgwP4.Dataplane
