/-
This file shows that every deparser writes back what the parser of its pipe has read.
-/

import IgwP4.Proof.Dataplane.TunnelPackets

namespace IgwP4.Dataplane
open Packet

namespace Headers

theorem emitIp_blank {hdr : Headers} (blank : hdr.Blank) (ipv4 : hdr.ipv4.valid = false) (pkt : Bits) :
    hdr.emitIp pkt = pkt :=
  (emitIp_plain hdr pkt blank.innerIpv4 blank.innerOptionWords blank.innerIpv6 blank.innerTcp
    blank.innerUdp (Header.emit_of_invalid _ _ ipv4) (Header.emit_of_invalid _ _ blank.ipv6)
    (Header.emit_of_invalid _ _ blank.udp) (Header.emit_of_invalid _ _ blank.tcp)
    (Header.emit_of_invalid _ _ blank.icmp) (Header.emit_of_invalid _ _ blank.vxlan)
    (Header.emit_of_invalid _ _ blank.innerEthernet)).trans rfl

/-- Only the headers before the outer IP header are valid. -/
theorem emit_blank (hdr : Headers) (blank : hdr.Blank) (ipv4 : hdr.ipv4.valid = false) (pkt : Bits) :
    hdr.emit ++ pkt = hdr.bgMd.emit BridgeMetadata.codec ++ (hdr.ethernet.emit Ethernet.codec ++
      (hdr.fabric.emit Fabric.codec ++ (hdr.cpu.emit Cpu.codec ++ pkt))) := by
  rw [emit_append, emitIp_blank blank ipv4]

end Headers

/-- The headers before the outer IPv4 header stay, and what is read behind it goes out again. -/
theorem Outer.emit_place (d : Dialect) {ip : Ipv4} (outer : Outer) (s : ParserState)
    (fits : outer.Fits d ip) (blank : s.hdr.Blank) (ipv4 : s.hdr.ipv4 = ⟨true, ip⟩) :
    (outer.place d s).hdr.emit ++ (outer.place d s).pkt = s.hdr.bgMd.emit BridgeMetadata.codec ++
      (s.hdr.ethernet.emit Ethernet.codec ++ (s.hdr.fabric.emit Fabric.codec ++
        (s.hdr.cpu.emit Cpu.codec ++ (Ipv4.codec.encode ip ++ outer.bits)))) := by
  have kept := outer.place_keeps d s
  rw [Headers.emit_append, outer.emitIp_place d s fits blank ipv4, kept.bgMd, kept.ethernet, kept.fabric,
    kept.cpu]

/-- The chain behind an outer IPv4 header loses nothing and invents nothing. -/
theorem Dialect.ipv4_lossless (d : Dialect) {s r : ParserState} (blank : s.hdr.Blank)
    (ipv4 : s.hdr.ipv4.valid = false) (found : d.ipv4 s = some r) :
    r.hdr.emit ++ r.pkt = s.hdr.emit ++ s.pkt := by
  obtain ⟨ip, outer, fits, shape, rfl⟩ := (d.ipv4_eq_some_iff s r).mp found
  refine (outer.emit_place d { s with
    hdr.ipv4 := ⟨true, ip⟩, metadata.l3.lkpOuterIpProto := ip.protocol } fits { blank with } rfl).trans ?_
  rw [Headers.emit_blank s.hdr blank ipv4, shape]

/-- The transport header behind an outer IPv6 header goes out again. -/
theorem Transport.emit_placeOuter {ip : Ipv6} (transport : Transport) (s : ParserState)
    (ipv4 : s.hdr.ipv4.valid = false) (ipv6 : s.hdr.ipv6 = ⟨true, ip⟩)
    (blank : ({ s.hdr with ipv6 := s.hdr.ipv6.setInvalid } : Headers).Blank) :
    (transport.placeOuter s).hdr.emit ++ (transport.placeOuter s).pkt =
      s.hdr.bgMd.emit BridgeMetadata.codec ++ (s.hdr.ethernet.emit Ethernet.codec ++
        (s.hdr.fabric.emit Fabric.codec ++ (s.hdr.cpu.emit Cpu.codec ++
          (Ipv6.codec.encode ip ++ (transport.encode ++ s.pkt))))) := by
  have off {A : Type} (codec : Codec A) (header : Header A) := Header.emit_of_invalid codec header
  have emitted : s.hdr.ipv6.emit Ipv6.codec = Ipv6.codec.encode ip := by rw [ipv6, Header.emit_valid]
  rw [Headers.emit_append]
  cases transport with
  | unread =>
      rw [Headers.emitIp_plain (Transport.unread.placeOuter s).hdr (Transport.unread.placeOuter s).pkt
        blank.innerIpv4 blank.innerOptionWords blank.innerIpv6 blank.innerTcp blank.innerUdp (off _ _ ipv4) emitted
        (off _ _ blank.udp) (off _ _ blank.tcp) (off _ _ blank.icmp) (off _ _ blank.vxlan)
        (off _ _ blank.innerEthernet)]
      rfl
  | tcp h =>
      rw [Headers.emitIp_plain ((Transport.tcp h).placeOuter s).hdr ((Transport.tcp h).placeOuter s).pkt
        blank.innerIpv4 blank.innerOptionWords blank.innerIpv6 blank.innerTcp blank.innerUdp (off _ _ ipv4) emitted
        (off _ _ blank.udp) (Header.emit_valid _ h) (off _ _ blank.icmp) (off _ _ blank.vxlan)
        (off _ _ blank.innerEthernet)]
      rfl
  | udp h =>
      rw [Headers.emitIp_plain ((Transport.udp h).placeOuter s).hdr ((Transport.udp h).placeOuter s).pkt
        blank.innerIpv4 blank.innerOptionWords blank.innerIpv6 blank.innerTcp blank.innerUdp (off _ _ ipv4) emitted
        (Header.emit_valid _ h) (off _ _ blank.tcp) (off _ _ blank.icmp) (off _ _ blank.vxlan)
        (off _ _ blank.innerEthernet)]
      rfl

/-! The four pipes -/

/-- The first pipe writes back every frame that its parser accepts. -/
theorem P02IngressParser.emit_parse {containers : Headers} {bits : Bits} {r : ParserState}
    (accepted : P02IngressParser.parse containers bits = some r) : r.hdr.emit ++ r.pkt = bits := by
  obtain ⟨frame, fits, rfl, rfl⟩ := (P02IngressParser.parse_eq_some_iff containers bits r).mp accepted
  have blank := containers.blank_unparsed
  cases frame with
  | other ethernet rest =>
      exact (Headers.emit_blank ((Frame.other ethernet rest).state containers).hdr { blank with } rfl
        rest).trans rfl
  | ipv4 ethernet ip outer =>
      exact (outer.emit_place p02IngressDialect _ fits.2 { blank with } rfl).trans rfl
  | ipv6 ethernet ip transport rest =>
      exact (transport.emit_placeOuter _ rfl rfl { blank with }).trans rfl
  | cpuOther ethernet fabric cpu rest =>
      exact (Headers.emit_blank ((Frame.cpuOther ethernet fabric cpu rest).state containers).hdr
        { blank with } rfl rest).trans rfl
  | cpuIpv4 ethernet fabric cpu ip outer =>
      exact (outer.emit_place p02IngressDialect _ fits.2.2 { blank with } rfl).trans rfl

/-- The state in which a later parser leaves the bridge header -/
def ParserState.bridged (containers : Headers) (bgMd : BridgeMetadata) (rest : Bits) : ParserState :=
  ⟨{ containers.unparsed with bgMd := ⟨true, bgMd⟩ }, {}, rest⟩

/-- The first byte of a bridge header names it. -/
theorem ParserState.lookahead_bridge (hdr : Headers) (metadata : CommonMetadata) (bgMd : BridgeMetadata)
    (rest : Bits) :
    ParserState.lookahead ⟨hdr, metadata, BridgeMetadata.codec.encode bgMd ++ rest⟩ = some bgMd.proto := by
  have front : ∃ behind, BridgeMetadata.codec.encode bgMd = (Codec.word 8).encode bgMd.proto ++ behind :=
    ⟨_, rfl⟩
  obtain ⟨behind, shape⟩ := front
  rw [ParserState.lookahead, shape, List.append_assoc, Codec.extract_encode]
  rfl

/-- No header is valid but the bridge header and the Ethernet header. -/
structure ParserState.Front (s : ParserState) : Prop where
  fabric : s.hdr.fabric.valid = false
  cpu : s.hdr.cpu.valid = false
  ipv4 : s.hdr.ipv4.valid = false
  blank : s.hdr.Blank

/-- The two states write back the same bits. -/
def ParserState.Alike (s r : ParserState) : Prop := r.hdr.emit ++ r.pkt = s.hdr.emit ++ s.pkt

theorem ParserState.front_bridged (containers : Headers) (bgMd : BridgeMetadata) (rest : Bits) :
    (ParserState.bridged containers bgMd rest).Front :=
  ⟨rfl, rfl, rfl, by exact { containers.blank_unparsed with }⟩

theorem extractEthernet_lossless {s r : ParserState} (front : s.Front) (ethernet : s.hdr.ethernet.valid = false)
    (found : (s.extract Ethernet.codec fun hdr ethernet => { hdr with ethernet }) = some r) :
    r.Front ∧ s.Alike r := by
  obtain ⟨fields, rest, shape, rfl⟩ := (ParserState.extract_eq_some_iff _ _ _ _).mp found
  have after : ParserState.Front { s with hdr.ethernet := ⟨true, fields⟩, pkt := rest } :=
    ⟨front.fabric, front.cpu, front.ipv4, { front.blank with }⟩
  refine ⟨after, ?_⟩
  have fabric := Header.emit_of_invalid Fabric.codec _ front.fabric
  have cpu := Header.emit_of_invalid Cpu.codec _ front.cpu
  rw [ParserState.Alike, Headers.emit_blank _ after.blank after.ipv4,
    Headers.emit_blank _ front.blank front.ipv4, shape, Header.emit_of_invalid _ _ ethernet, fabric, cpu]
  rfl

theorem extractCpu_lossless {s r : ParserState} (front : s.Front) (found : extractCpu s = some r) :
    r.hdr.Blank ∧ r.hdr.ipv4.valid = false ∧ s.Alike r := by
  simp only [extractCpu, Option.bind_eq_bind, Option.bind_eq_some_iff, ParserState.extract_eq_some_iff] at found
  obtain ⟨_, ⟨fabric, middle, shape, rfl⟩, cpu, rest, inside, rfl⟩ := found
  change middle = _ at inside
  subst inside
  have after : ({ s.hdr with fabric := ⟨true, fabric⟩, cpu := ⟨true, cpu⟩ } : Headers).Blank :=
    { front.blank with }
  refine ⟨after, front.ipv4, ?_⟩
  have noFabric := Header.emit_of_invalid Fabric.codec _ front.fabric
  have noCpu := Header.emit_of_invalid Cpu.codec _ front.cpu
  rw [ParserState.Alike, Headers.emit_blank _ front.blank front.ipv4, shape, noFabric, noCpu]
  exact (Headers.emit_blank _ after front.ipv4 rest).trans rfl

/-- The outer IPv6 states of the two parsers that have them are the same. -/
theorem P02IngressParser.parseIpv6_lossless {s r : ParserState} (front : s.Front)
    (found : P02IngressParser.parseIpv6 s = some r) : s.Alike r := by
  obtain ⟨ip, transport, rest, _, shape, rfl⟩ := (P02IngressParser.parseIpv6_eq_some_iff s r).mp found
  refine (transport.emit_placeOuter { s with
    hdr.ipv6 := ⟨true, ip⟩, metadata.l3.lkpOuterIpProto := ip.nextHdr, pkt := rest } front.ipv4 rfl
    { front.blank with ipv6 := rfl }).trans ?_
  rw [Headers.emit_blank _ front.blank front.ipv4, shape]

/-- A packet that starts with no bridge header starts with no header for the later parsers. -/
theorem emit_start (containers : Headers) (bits : Bits) :
    (ParserState.start containers bits).hdr.emit ++ bits = bits :=
  (Headers.emit_blank containers.unparsed containers.blank_unparsed rfl bits).trans rfl

/-- Mirror copies start with a mirror header, which belongs to no header of the deparsers. -/
def NonMirror (bits : Bits) : Prop :=
  ∀ proto rest, (Codec.word 8).extract bits = some (proto, rest) →
    proto ≠ pktMirrMdIg ∧ proto ≠ pktMirrMdEg

theorem NonMirror.lookahead {bits : Bits} (plain : NonMirror bits) {containers : Headers}
    {proto : BitVec 8} (found : (ParserState.start containers bits).lookahead = some proto) :
    proto ≠ pktMirrMdIg ∧ proto ≠ pktMirrMdEg := by
  obtain ⟨⟨first, rest⟩, read, rfl⟩ := Option.map_eq_some_iff.mp found
  exact plain first rest read

namespace P13EgressParser

theorem parseEthernet_lossless {s r : ParserState} (front : s.Front)
    (ethernet : s.hdr.ethernet.valid = false) (found : parseEthernet s = some r) : s.Alike r := by
  simp only [parseEthernet, Option.bind_eq_bind, Option.bind_eq_some_iff] at found
  obtain ⟨middle, extracted, found⟩ := found
  obtain ⟨after, alike⟩ := extractEthernet_lossless front ethernet extracted
  split at found
  · rw [parseIpv4_eq] at found
    exact (Dialect.ipv4_lossless _ after.blank after.ipv4 found).trans alike
  · obtain rfl := Option.some.inj found
    exact alike

theorem parseBridgeHeader_lossless {containers : Headers} {bits : Bits} {r : ParserState}
    (found : parseBridgeHeader (.start containers bits) = some r) : r.hdr.emit ++ r.pkt = bits := by
  simp only [parseBridgeHeader, Option.bind_eq_bind, Option.bind_eq_some_iff,
    ParserState.extract_eq_some_iff] at found
  obtain ⟨_, ⟨bgMd, rest, shape, rfl⟩, found⟩ := found
  have front := ParserState.front_bridged containers bgMd rest
  have first : (ParserState.bridged containers bgMd rest).hdr.emit ++ rest = bits := by
    rw [Headers.emit_blank _ front.blank front.ipv4]
    exact shape.symm
  change (if _ then parseIpv4 (.bridged containers bgMd rest) else if _ then
    parseIpv4V2 (.bridged containers bgMd rest) else if _ then P02IngressParser.parseIpv6
      (.bridged containers bgMd rest) else if _ then parseEthernet (.bridged containers bgMd rest) else
        some (.bridged containers bgMd rest)) = some r at found
  rw [parseIpv4_eq, parseIpv4V2_eq] at found
  split at found
  · exact (Dialect.ipv4_lossless _ front.blank front.ipv4 found).trans first
  split at found
  · exact (Dialect.ipv4_lossless _ front.blank front.ipv4 found).trans first
  split at found
  · exact (P02IngressParser.parseIpv6_lossless front found).trans first
  split at found
  · exact (parseEthernet_lossless front rfl found).trans first
  · obtain rfl := Option.some.inj found
    exact first

/-- The egress of the internal pipes writes back what its parser accepts. -/
theorem emit_parse {containers : Headers} {bits : Bits} (plain : NonMirror bits) {r : ParserState}
    (accepted : parse containers bits = some r) : r.hdr.emit ++ r.pkt = bits := by
  simp only [parse, parseHeaderCheck, Option.bind_eq_bind, Option.bind_eq_some_iff] at accepted
  obtain ⟨proto, read, found⟩ := accepted
  obtain ⟨notIngress, notEgress⟩ := plain.lookahead read
  rw [if_neg notIngress, if_neg notEgress] at found
  split at found
  · exact parseBridgeHeader_lossless found
  · obtain rfl := Option.some.inj found
    exact emit_start containers bits

end P13EgressParser

namespace P13IngressParser

theorem parseEthernet_lossless {s r : ParserState} (front : s.Front)
    (ethernet : s.hdr.ethernet.valid = false) (found : parseEthernet s = some r) : s.Alike r := by
  simp only [parseEthernet, Option.bind_eq_bind, Option.bind_eq_some_iff] at found
  obtain ⟨middle, extracted, found⟩ := found
  obtain ⟨after, alike⟩ := extractEthernet_lossless front ethernet extracted
  split at found
  · rw [parseIpv4_eq] at found
    exact (Dialect.ipv4_lossless _ after.blank after.ipv4 found).trans alike
  · obtain rfl := Option.some.inj found
    exact alike

/-- The ingress of the internal pipes writes back what its parser accepts. -/
theorem emit_parse {containers : Headers} {bits : Bits} {r : ParserState}
    (accepted : parse containers bits = some r) : r.hdr.emit ++ r.pkt = bits := by
  simp only [parse, parseHeaderCheck, Option.bind_eq_bind, Option.bind_eq_some_iff] at accepted
  obtain ⟨proto, read, found⟩ := accepted
  split at found
  · simp only [parseBridgeHeader, Option.bind_eq_bind, Option.bind_eq_some_iff,
      ParserState.extract_eq_some_iff] at found
    obtain ⟨_, ⟨bgMd, rest, shape, rfl⟩, found⟩ := found
    have front := ParserState.front_bridged containers bgMd rest
    have first : (ParserState.bridged containers bgMd rest).hdr.emit ++ rest = bits := by
      rw [Headers.emit_blank _ front.blank front.ipv4]
      exact shape.symm
    change (if _ then parseIpv4 (.bridged containers bgMd rest) else if _ then
      parseEthernet (.bridged containers bgMd rest) else some (.bridged containers bgMd rest)) =
        some r at found
    rw [parseIpv4_eq] at found
    split at found
    · exact (Dialect.ipv4_lossless _ front.blank front.ipv4 found).trans first
    split at found
    · exact (parseEthernet_lossless front rfl found).trans first
    · obtain rfl := Option.some.inj found
      exact first
  · obtain rfl := Option.some.inj found
    exact emit_start containers bits

end P13IngressParser

namespace P02EgressParser

theorem parseCpu_lossless {s r : ParserState} (front : s.Front) (found : parseCpu s = some r) :
    s.Alike r := by
  simp only [parseCpu, Option.bind_eq_bind, Option.bind_eq_some_iff] at found
  obtain ⟨middle, extracted, found⟩ := found
  obtain ⟨blank, ipv4, alike⟩ := extractCpu_lossless front extracted
  split at found
  · rw [parseIpv4_eq] at found
    exact (Dialect.ipv4_lossless _ blank ipv4 found).trans alike
  · obtain rfl := Option.some.inj found
    exact alike

theorem parseEthernet_lossless {s r : ParserState} (front : s.Front)
    (ethernet : s.hdr.ethernet.valid = false) (found : parseEthernet s = some r) : s.Alike r := by
  simp only [parseEthernet, Option.bind_eq_bind, Option.bind_eq_some_iff] at found
  obtain ⟨middle, extracted, found⟩ := found
  obtain ⟨after, alike⟩ := extractEthernet_lossless front ethernet extracted
  split at found
  · rw [parseIpv4_eq] at found
    exact (Dialect.ipv4_lossless _ after.blank after.ipv4 found).trans alike
  split at found
  · exact (parseCpu_lossless after found).trans alike
  · obtain rfl := Option.some.inj found
    exact alike

/-- The egress of the external pipes writes back what its parser accepts. -/
theorem emit_parse {containers : Headers} {bits : Bits} (plain : NonMirror bits) {r : ParserState}
    (accepted : parse containers bits = some r) : r.hdr.emit ++ r.pkt = bits := by
  simp only [parse, parseHeaderCheck, Option.bind_eq_bind, Option.bind_eq_some_iff] at accepted
  obtain ⟨proto, read, found⟩ := accepted
  obtain ⟨notIngress, notEgress⟩ := plain.lookahead read
  rw [if_neg notIngress, if_neg notEgress] at found
  split at found
  · simp only [parseBridgeHeader, Option.bind_eq_bind, Option.bind_eq_some_iff,
      ParserState.extract_eq_some_iff] at found
    obtain ⟨_, ⟨bgMd, rest, shape, rfl⟩, found⟩ := found
    have front := ParserState.front_bridged containers bgMd rest
    have first : (ParserState.bridged containers bgMd rest).hdr.emit ++ rest = bits := by
      rw [Headers.emit_blank _ front.blank front.ipv4]
      exact shape.symm
    change (if _ then parseIpv4 (.bridged containers bgMd rest) else if _ then
      parseCpu (.bridged containers bgMd rest) else if _ then
        parseEthernet (.bridged containers bgMd rest) else some (.bridged containers bgMd rest)) =
        some r at found
    rw [parseIpv4_eq] at found
    split at found
    · exact (Dialect.ipv4_lossless _ front.blank front.ipv4 found).trans first
    split at found
    · exact (parseCpu_lossless front found).trans first
    split at found
    · exact (parseEthernet_lossless front rfl found).trans first
    · obtain rfl := Option.some.inj found
      exact first
  · obtain rfl := Option.some.inj found
    exact emit_start containers bits

end P02EgressParser

end IgwP4.Dataplane
