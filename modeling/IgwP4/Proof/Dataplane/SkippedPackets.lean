/-
This file shows what the last pipe sends for a packet that skips the treatment of the gateway.
-/

import IgwP4.Proof.Dataplane.HeaderChecksums
import IgwP4.Proof.Dataplane.P02EgressPasses

namespace IgwP4.Dataplane
open Packet

/-! A checksum computed anew -/

/-- The IPv4 header at the front gets its checksum. -/
def recomputeIpv4 (bits : Bits) : Bits :=
  match Ipv4.codec.extract bits with
  | none => bits
  | some (ip, behind) => Ipv4.codec.encode ip.update ++ behind

/-- An IPv4 header behind the CPU header gets its checksum. -/
def recomputeCpu (bits : Bits) : Bits :=
  match Fabric.codec.extract bits with
  | none => bits
  | some (fabric, behind) =>
      match Cpu.codec.extract behind with
      | none => bits
      | some (cpu, rest) => Fabric.codec.encode fabric ++ (Cpu.codec.encode cpu ++
          if cpu.etherType = etherTypeIpv4 then recomputeIpv4 rest else rest)

/-- The frame with the checksum of its IPv4 header computed anew -/
def recompute (frame : Bits) : Bits :=
  match Ethernet.codec.extract frame with
  | none => frame
  | some (ethernet, rest) => Ethernet.codec.encode ethernet ++
      if ethernet.etherType = etherTypeIpv4 then recomputeIpv4 rest
      else if ethernet.etherType = etherTypeBfn then recomputeCpu rest else rest

theorem recomputeIpv4_encode (ip : Ipv4) (behind : Bits) :
    recomputeIpv4 (Ipv4.codec.encode ip ++ behind) = Ipv4.codec.encode ip.update ++ behind := by
  rw [recomputeIpv4, Codec.extract_encode]

theorem recomputeCpu_encode (fabric : Fabric) (cpu : Cpu) (rest : Bits) :
    recomputeCpu (Fabric.codec.encode fabric ++ (Cpu.codec.encode cpu ++ rest)) =
      Fabric.codec.encode fabric ++ (Cpu.codec.encode cpu ++
        if cpu.etherType = etherTypeIpv4 then recomputeIpv4 rest else rest) := by
  rw [recomputeCpu, Codec.extract_encode]
  dsimp only
  rw [Codec.extract_encode]

theorem recompute_encode (ethernet : Ethernet) (rest : Bits) :
    recompute (Ethernet.codec.encode ethernet ++ rest) = Ethernet.codec.encode ethernet ++
      if ethernet.etherType = etherTypeIpv4 then recomputeIpv4 rest
      else if ethernet.etherType = etherTypeBfn then recomputeCpu rest else rest := by
  rw [recompute, Codec.extract_encode]

namespace Headers

/-- The part of the emission from the outer IP header on, with the checksum of an IPv4 header -/
def emitChecked (hdr : Headers) (pkt : Bits) : Bits :=
  if hdr.ipv4.valid then recomputeIpv4 (hdr.emitIp pkt) else hdr.emitIp pkt

/-- The last deparser computes the checksum where the header stands. -/
theorem emitIp_update {hdr : Headers} (on : hdr.ipv4.valid = true) (pkt : Bits) :
    ({ hdr with ipv4.fields := hdr.ipv4.fields.update } : Headers).emitIp pkt = recomputeIpv4 (hdr.emitIp pkt) := by
  have before : hdr.ipv4.emit Ipv4.codec = Ipv4.codec.encode hdr.ipv4.fields := if_pos on
  have after : ({ hdr.ipv4 with fields := hdr.ipv4.fields.update } : Header Ipv4).emit Ipv4.codec =
      Ipv4.codec.encode hdr.ipv4.fields.update := if_pos on
  rw [emitIp, emitIp, emitOuter, emitOuter, before]
  dsimp only
  rw [after]
  simp only [List.append_assoc]
  exact (recomputeIpv4_encode _ _).symm

end Headers

/-! The parser of the last pipe -/

namespace P02EgressParser

/-- What the last deparser writes for a state behind the bridge header -/
def rewritten (s : ParserState) : Bits :=
  s.hdr.ethernet.emit Ethernet.codec ++ (s.hdr.fabric.emit Fabric.codec ++
    (s.hdr.cpu.emit Cpu.codec ++ s.hdr.emitChecked s.pkt))

/-- The outer IPv4 states read this packet. -/
def ReadsIpv4 (bits : Bits) : Prop :=
  ∃ ip, ∃ outer : Outer, outer.Fits p02EgressDialect ip ∧ bits = Ipv4.codec.encode ip ++ outer.bits

/-- The state of the CPU headers reads this packet. -/
def ReadsCpu (bits : Bits) : Prop :=
  ∃ fabric cpu rest, bits = Fabric.codec.encode fabric ++ (Cpu.codec.encode cpu ++ rest) ∧
    (cpu.etherType = etherTypeIpv4 → ReadsIpv4 rest)

/-- The frame does not end inside a header that the parser reads. -/
def Reads (frame : Bits) : Prop :=
  ∃ ethernet rest, frame = Ethernet.codec.encode ethernet ++ rest ∧
    (ethernet.etherType = etherTypeIpv4 → ReadsIpv4 rest) ∧ (ethernet.etherType = etherTypeBfn → ReadsCpu rest)

theorem parseIpv4_rewritten {s r : ParserState} (blank : s.hdr.Blank) (found : parseIpv4 s = some r) :
    rewritten r = s.hdr.ethernet.emit Ethernet.codec ++ (s.hdr.fabric.emit Fabric.codec ++
      (s.hdr.cpu.emit Cpu.codec ++ recomputeIpv4 s.pkt)) := by
  rw [parseIpv4_eq] at found
  obtain ⟨ip, outer, fits, shape, rfl⟩ := (p02EgressDialect.ipv4_eq_some_iff s r).mp found
  let t : ParserState := { s with hdr.ipv4 := ⟨true, ip⟩, metadata.l3.lkpOuterIpProto := ip.protocol }
  have kept := outer.place_keeps p02EgressDialect t
  have whole := outer.emitIp_place p02EgressDialect t fits { blank with } rfl
  have on : (outer.place p02EgressDialect t).hdr.ipv4.valid = true := congrArg Header.valid kept.ipv4
  change rewritten (outer.place p02EgressDialect t) = _
  rw [rewritten, Headers.emitChecked, if_pos on, whole, kept.ethernet, kept.fabric, kept.cpu, shape]

theorem parseCpu_rewritten {s r : ParserState} (front : s.Front) (found : parseCpu s = some r) :
    rewritten r = s.hdr.ethernet.emit Ethernet.codec ++ recomputeCpu s.pkt := by
  simp only [parseCpu, extractCpu, Option.bind_eq_bind, Option.bind_eq_some_iff,
    ParserState.extract_eq_some_iff] at found
  obtain ⟨_, ⟨_, ⟨fabric, middle, shape, rfl⟩, cpu, rest, inside, rfl⟩, found⟩ := found
  change middle = _ at inside
  subst inside
  rw [shape, recomputeCpu_encode]
  have blank : ({ s.hdr with fabric := ⟨true, fabric⟩, cpu := ⟨true, cpu⟩ } : Headers).Blank :=
    { front.blank with }
  split at found
  · rename_i ipv4
    change cpu.etherType = etherTypeIpv4 at ipv4
    rw [parseIpv4_rewritten blank found, if_pos ipv4]
    rfl
  · rename_i other
    change ¬ cpu.etherType = etherTypeIpv4 at other
    rw [← Option.some.inj found, rewritten, Headers.emitChecked, if_neg (Bool.eq_false_iff.mp front.ipv4),
      Headers.emitIp_blank blank front.ipv4, if_neg other]
    rfl

/-- What the last deparser writes is the frame with the checksum of its IPv4 header. -/
theorem parseEthernet_rewritten {s r : ParserState} (front : s.Front) (found : parseEthernet s = some r) :
    rewritten r = recompute s.pkt := by
  simp only [parseEthernet, Option.bind_eq_bind, Option.bind_eq_some_iff,
    ParserState.extract_eq_some_iff] at found
  obtain ⟨_, ⟨ethernet, rest, shape, rfl⟩, found⟩ := found
  have after : ParserState.Front { s with hdr.ethernet := ⟨true, ethernet⟩, pkt := rest } :=
    ⟨front.fabric, front.cpu, front.ipv4, { front.blank with }⟩
  have noFabric := Header.emit_of_invalid Fabric.codec _ front.fabric
  have noCpu := Header.emit_of_invalid Cpu.codec _ front.cpu
  rw [shape, recompute_encode]
  split at found
  · rename_i ipv4
    change ethernet.etherType = etherTypeIpv4 at ipv4
    rw [parseIpv4_rewritten after.blank found, if_pos ipv4]
    dsimp only
    rw [noFabric, noCpu]
    rfl
  · rename_i notIpv4
    change ¬ ethernet.etherType = etherTypeIpv4 at notIpv4
    rw [if_neg notIpv4]
    split at found
    · rename_i bfn
      change ethernet.etherType = etherTypeBfn at bfn
      rw [parseCpu_rewritten after found, if_pos bfn]
      rfl
    · rename_i other
      change ¬ ethernet.etherType = etherTypeBfn at other
      rw [← Option.some.inj found, rewritten, Headers.emitChecked, if_neg (Bool.eq_false_iff.mp front.ipv4),
        Headers.emitIp_blank after.blank front.ipv4, if_neg other]
      dsimp only
      rw [noFabric, noCpu]
      rfl

/-- The Ethernet state and those behind it leave the bridge header and the marks of the packet. -/
structure Beside (s r : ParserState) : Prop where
  bgMd : r.hdr.bgMd = s.hdr.bgMd
  mirror : r.metadata.mirror = s.metadata.mirror
  innerIpv4ChecksumEn : r.metadata.tunnel.innerIpv4ChecksumEn = s.metadata.tunnel.innerIpv4ChecksumEn

theorem parseIpv4_beside {s r : ParserState} (found : parseIpv4 s = some r) : Beside s r := by
  rw [parseIpv4_eq] at found
  obtain ⟨ip, outer, _, _, rfl⟩ := (p02EgressDialect.ipv4_eq_some_iff s r).mp found
  have kept := outer.place_keeps p02EgressDialect { s with
    hdr.ipv4 := ⟨true, ip⟩, metadata.l3.lkpOuterIpProto := ip.protocol }
  exact ⟨kept.bgMd, kept.mirror, kept.innerIpv4ChecksumEn⟩

theorem parseEthernet_beside {s r : ParserState} (found : parseEthernet s = some r) : Beside s r := by
  simp only [parseEthernet, Option.bind_eq_bind, Option.bind_eq_some_iff, ParserState.extract_eq_some_iff] at found
  obtain ⟨_, ⟨ethernet, rest, _, rfl⟩, found⟩ := found
  split at found
  · obtain ⟨bgMd, mirror, flag⟩ := parseIpv4_beside found
    exact ⟨bgMd, mirror, flag⟩
  split at found
  · simp only [parseCpu, extractCpu, Option.bind_eq_bind, Option.bind_eq_some_iff,
      ParserState.extract_eq_some_iff] at found
    obtain ⟨_, ⟨_, ⟨fabric, _, _, rfl⟩, cpu, behind, _, rfl⟩, found⟩ := found
    split at found
    · obtain ⟨bgMd, mirror, flag⟩ := parseIpv4_beside found
      exact ⟨bgMd, mirror, flag⟩
    · rw [← Option.some.inj found]
      exact ⟨rfl, rfl, rfl⟩
  · rw [← Option.some.inj found]
    exact ⟨rfl, rfl, rfl⟩

theorem parseIpv4_isSome (s : ParserState) : (parseIpv4 s).isSome = true ↔ ReadsIpv4 s.pkt := by
  rw [parseIpv4_eq, Option.isSome_iff_exists]
  constructor
  · rintro ⟨r, found⟩
    obtain ⟨ip, outer, fits, shape, _⟩ := (p02EgressDialect.ipv4_eq_some_iff s r).mp found
    exact ⟨ip, outer, fits, shape⟩
  · rintro ⟨ip, outer, fits, shape⟩
    exact ⟨_, (p02EgressDialect.ipv4_eq_some_iff s _).mpr ⟨ip, outer, fits, shape, rfl⟩⟩

theorem parseCpu_isSome (s : ParserState) : (parseCpu s).isSome = true ↔ ReadsCpu s.pkt := by
  rw [Option.isSome_iff_exists]
  simp only [parseCpu, extractCpu, Option.bind_eq_bind, Option.bind_eq_some_iff,
    ParserState.extract_eq_some_iff]
  constructor
  · rintro ⟨r, _, ⟨_, ⟨fabric, middle, shape, rfl⟩, cpu, rest, inside, rfl⟩, found⟩
    refine ⟨fabric, cpu, rest, shape.trans (congrArg (Fabric.codec.encode fabric ++ ·) inside), fun ipv4 => ?_⟩
    rw [if_pos (show cpu.etherType = etherTypeIpv4 from ipv4)] at found
    exact (parseIpv4_isSome _).mp (Option.isSome_iff_exists.mpr ⟨r, found⟩)
  · rintro ⟨fabric, cpu, rest, shape, reads⟩
    let t : ParserState := { s with hdr.fabric := ⟨true, fabric⟩, hdr.cpu := ⟨true, cpu⟩, pkt := rest }
    have accepted : ∃ r, (if cpu.etherType = etherTypeIpv4 then parseIpv4 t else some t) = some r := by
      split
      · rename_i ipv4
        exact Option.isSome_iff_exists.mp ((parseIpv4_isSome t).mpr (reads ipv4))
      · exact ⟨t, rfl⟩
    obtain ⟨r, found⟩ := accepted
    exact ⟨r, t, ⟨_, ⟨fabric, _, shape, rfl⟩, cpu, rest, rfl, rfl⟩, found⟩

/-- The parser accepts exactly the frames that do not end inside a header it reads. -/
theorem parseEthernet_isSome (s : ParserState) : (parseEthernet s).isSome = true ↔ Reads s.pkt := by
  rw [Option.isSome_iff_exists]
  simp only [parseEthernet, Option.bind_eq_bind, Option.bind_eq_some_iff, ParserState.extract_eq_some_iff]
  constructor
  · rintro ⟨r, _, ⟨ethernet, rest, shape, rfl⟩, found⟩
    have accepted := Option.isSome_iff_exists.mpr ⟨r, found⟩
    refine ⟨ethernet, rest, shape, fun ipv4 => ?_, fun bfn => ?_⟩
    · rw [if_pos (show ethernet.etherType = etherTypeIpv4 from ipv4)] at accepted
      exact (parseIpv4_isSome _).mp accepted
    · rw [if_neg (show ¬ ethernet.etherType = etherTypeIpv4 by rw [bfn]; decide),
        if_pos (show ethernet.etherType = etherTypeBfn from bfn)] at accepted
      exact (parseCpu_isSome _).mp accepted
  · rintro ⟨ethernet, rest, shape, ipv4Reads, cpuReads⟩
    let t : ParserState := { s with hdr.ethernet := ⟨true, ethernet⟩, pkt := rest }
    have accepted : ∃ r, (if ethernet.etherType = etherTypeIpv4 then parseIpv4 t
        else if ethernet.etherType = etherTypeBfn then parseCpu t else some t) = some r := by
      split
      · rename_i ipv4
        exact Option.isSome_iff_exists.mp ((parseIpv4_isSome t).mpr (ipv4Reads ipv4))
      split
      · rename_i bfn
        exact Option.isSome_iff_exists.mp ((parseCpu_isSome t).mpr (cpuReads bfn))
      · exact ⟨t, rfl⟩
    obtain ⟨r, found⟩ := accepted
    exact ⟨r, t, ⟨ethernet, rest, shape, rfl⟩, found⟩

/-- A bridge header that keeps the Ethernet header of its packet -/
structure Keeps (bgMd : BridgeMetadata) : Prop where
  proto : bgMd.proto = pktBridge
  outerEthernetInvalid : bgMd.outerEthernetInvalid = 0

theorem parse_kept (containers : Headers) {bgMd : BridgeMetadata} (keeps : Keeps bgMd) (frame : Bits) :
    parse containers (BridgeMetadata.codec.encode bgMd ++ frame) =
      parseEthernet (.bridged containers bgMd frame) := by
  have bridge := ParserState.lookahead_bridge containers.unparsed {} bgMd frame
  have invalid : ∀ etherType : BitVec 16,
      ¬ (bgMd.outerEthernetType = etherType ∧ bgMd.outerEthernetInvalid = 1) := by
    rintro etherType ⟨-, invalid⟩
    rw [keeps.outerEthernetInvalid] at invalid
    exact absurd invalid (by decide)
  rw [parse, parseHeaderCheck, ParserState.start, bridge, Option.bind_eq_bind, Option.bind_some, keeps.proto,
    if_neg (by decide), if_neg (by decide), if_pos rfl, parseBridgeHeader, ParserState.extract_encode]
  change (if _ then _ else if _ then _ else if _ then _ else _) = _
  rw [if_neg (invalid _), if_neg (invalid _), if_pos keeps.outerEthernetInvalid]
  rfl

end P02EgressParser

/-! The last pass -/

namespace P02Egress

/-- A packet that skips the treatment stands before the ACL as it came. -/
theorem reached_skipped (tables : Tables) (fresh : Headers) {s : EgressState}
    (skips : s.hdr.bgMd.fields.tunnelDirectSend = skipPacket) (kept : s.hdr.bgMd.fields.outerEthernetInvalid = 0) :
    (reached tables fresh s).hdr = s.hdr ∧ (reached tables fresh s).egressPort = s.egressPort ∧
      (reached tables fresh s).metadata.tunnel = s.metadata.tunnel := by
  have restored : (restore fresh s).hdr = s.hdr ∧ (restore fresh s).egressPort = s.egressPort ∧
      (restore fresh s).metadata.tunnel = s.metadata.tunnel := by
    unfold restore
    split
    · rw [if_neg (by rw [kept]; decide)]
      unfold decapMetaDataI2E02
      split <;> exact ⟨rfl, rfl, rfl⟩
    · exact ⟨rfl, rfl, rfl⟩
  rw [reached, if_neg (by rw [restored.1, skips]; decide)]
  exact restored

/-- A packet without new addresses goes out as it stands, with the checksum of its IPv4 header. -/
theorem deparse_leave (tables : Tables) {s : EgressState} (untreated : ¬ s.hdr.bgMd.fields.matchOrDl)
    (unflagged : s.metadata.tunnel.innerIpv4ChecksumEn = false) (pkt : Bits) :
    deparse (leave tables s) ++ pkt = s.hdr.ethernet.emit Ethernet.codec ++ (s.hdr.fabric.emit Fabric.codec ++
      (s.hdr.cpu.emit Cpu.codec ++ s.hdr.emitChecked pkt)) := by
  obtain ⟨events, left⟩ := leave_eq tables s
  have sent : (leave tables s).hdr = { s.hdr with bgMd := s.hdr.bgMd.setInvalid } := by
    rw [left]
    dsimp only [outgoing]
    rw [if_neg untreated]
  have flag : (leave tables s).metadata.tunnel.innerIpv4ChecksumEn = false := by
    rw [left]
    exact unflagged
  rw [deparse, checksums, sent, flag]
  dsimp only
  rw [if_neg Bool.false_ne_true, Headers.emitChecked]
  by_cases on : s.hdr.ipv4.valid = true
  · rw [if_pos on, if_pos on, Headers.emit_append, ← Headers.emitIp_update on pkt]
    rfl
  · rw [if_neg on, if_neg on, Headers.emit_append]
    rfl

/-- The last pipe sends a skipped packet with the checksum of its IPv4 header, unless the ACL drops it. -/
theorem pass_skipped (tables : Tables) (around : Surroundings) (port : BitVec 9) {bgMd : BridgeMetadata}
    (keeps : P02EgressParser.Keeps bgMd) (skips : bgMd.tunnelDirectSend = skipPacket) {frame : Bits}
    (reads : P02EgressParser.Reads frame)
    (admits : port = cpuPort ∨ ∀ key : EgressAclKey, key.meterPacketColor = bgMd.meterPacketColor →
      key.needDrop = bgMd.needDrop → (tables.egressSystemAcl key).drops = false) :
    (pass tables around port (BridgeMetadata.codec.encode bgMd ++ frame)).value =
      some ⟨port, recompute frame, skipPacket⟩ := by
  have bridged := P02EgressParser.parse_kept around.containers keeps frame
  obtain ⟨parsed, found⟩ := Option.isSome_iff_exists.mp
    ((P02EgressParser.parseEthernet_isSome (.bridged around.containers bgMd frame)).mpr reads)
  have beside := P02EgressParser.parseEthernet_beside found
  have written := P02EgressParser.parseEthernet_rewritten (ParserState.front_bridged _ _ _) found
  have fields : parsed.hdr.bgMd.fields = bgMd := congrArg Header.fields beside.bgMd
  obtain ⟨hdr, outside, tunnel⟩ := reached_skipped tables around.fresh (s := egressStart around port parsed)
    (by rw [← fields] at skips; exact skips) (by rw [← fields] at keeps; exact keeps.outerEthernetInvalid)
  rw [pass_value (bridged.trans found) (congrArg MirrorMetadata.flag beside.mirror) rfl]
  generalize reached tables around.fresh (egressStart around port parsed) = s at hdr outside tunnel
  change s.hdr = parsed.hdr at hdr
  change s.egressPort = port at outside
  have passes : ¬ (port ≠ cpuPort ∧ (tables.egressSystemAcl (egressAclKey s)).drops = true) := by
    rintro ⟨other, drops⟩
    have kept := (admits.resolve_left other) (egressAclKey s) (by rw [← fields, ← hdr]; rfl)
      (by rw [← fields, ← hdr]; rfl)
    rw [kept] at drops
    exact absurd drops Bool.false_ne_true
  have direct : ¬ parsed.hdr.bgMd.fields.matchOrDl := by
    rw [fields, BridgeMetadata.matchOrDl, skips]
    decide
  have unflagged : s.metadata.tunnel.innerIpv4ChecksumEn = false := by
    rw [tunnel]
    exact beside.innerIpv4ChecksumEn
  rw [if_neg passes, emission, hdr, outside, fields, skips]
  have sent : deparse (leave tables s) ++ parsed.pkt = recompute frame := by
    rw [deparse_leave tables (by rw [hdr]; exact direct) unflagged, hdr]
    exact written
  rw [sent]

/-- Only a frame that the parser reads leaves the last pipe. -/
theorem reads_of_pass {tables : Tables} {around : Surroundings} {port : BitVec 9} {bgMd : BridgeMetadata}
    (keeps : P02EgressParser.Keeps bgMd) {frame : Bits} {delivery : Delivery}
    (sent : (pass tables around port (BridgeMetadata.codec.encode bgMd ++ frame)).value = some delivery) :
    P02EgressParser.Reads frame := by
  refine (P02EgressParser.parseEthernet_isSome (.bridged around.containers bgMd frame)).mp ?_
  rw [← P02EgressParser.parse_kept around.containers keeps frame]
  cases accepted : P02EgressParser.parse around.containers (BridgeMetadata.codec.encode bgMd ++ frame) with
  | none =>
      rw [pass, egressPass, accepted] at sent
      contradiction
  | some parsed => rfl

end P02Egress

end IgwP4.Dataplane
