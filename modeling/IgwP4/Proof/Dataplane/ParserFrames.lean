/-
This file gives the frames that each of the four parsers accepts and the state it reaches on them.
-/

import IgwP4.Proof.Dataplane.ParserDialects

namespace IgwP4.Dataplane
open Packet

/-- The test of the other three parsers for a redirected packet -/
def jdFlag (vxlan : Vxlan) : Bool := vxlan.flags.getLsbD 2

def p02IngressDialect : Dialect where
  readsIcmp := true
  readsVxlan := true
  jd vxlan := jdFlag vxlan && vxlan.version == 1
  readsStdIpv6 := true
  readsTransport := true

def p13EgressDialect : Dialect where
  readsIcmp := false
  readsVxlan := true
  jd := jdFlag
  readsStdIpv6 := false
  readsTransport := false

/-- The states of the second version stop at the outer transport header. -/
def p13EgressV2Dialect : Dialect := { p13EgressDialect with readsVxlan := false }

def p13IngressDialect : Dialect where
  readsIcmp := true
  readsVxlan := true
  jd := jdFlag
  readsStdIpv6 := true
  readsTransport := true

def p02EgressDialect : Dialect where
  readsIcmp := false
  readsVxlan := true
  jd := jdFlag
  readsStdIpv6 := true
  readsTransport := false

/-- A test of the source chooses between the two inner Ethernet states. -/
theorem selectJd_eq {A : Type} (test : Prop) [Decidable test] (flag : Bool) (f : Bool → A)
    (agree : test ↔ flag = true) : (if test then f true else f false) = f flag := by
  cases flag
  · rw [if_neg (fun h => absurd (agree.mp h) (by decide))]
  · rw [if_pos (agree.mpr rfl)]

theorem P02IngressParser.parseStdVxlan_eq :
    P02IngressParser.parseStdVxlan = p02IngressDialect.stdVxlan := by
  funext s
  apply congrArg (Option.bind _)
  funext r
  refine selectJd_eq _ _ (fun jd => p02IngressDialect.innerEthernet jd r) ?_
  simp [p02IngressDialect, jdFlag]

theorem P13EgressParser.parseStdVxlan_eq :
    P13EgressParser.parseStdVxlan = p13EgressDialect.stdVxlan := by
  funext s
  apply congrArg (Option.bind _)
  funext r
  exact selectJd_eq _ _ (fun jd => p13EgressDialect.innerEthernet jd r) Iff.rfl

theorem P13IngressParser.parseStdVxlan_eq :
    P13IngressParser.parseStdVxlan = p13IngressDialect.stdVxlan := by
  funext s
  apply congrArg (Option.bind _)
  funext r
  exact selectJd_eq _ _ (fun jd => p13IngressDialect.innerEthernet jd r) Iff.rfl

theorem P02EgressParser.parseStdVxlan_eq :
    P02EgressParser.parseStdVxlan = p02EgressDialect.stdVxlan := by
  funext s
  apply congrArg (Option.bind _)
  funext r
  exact selectJd_eq _ _ (fun jd => p02EgressDialect.innerEthernet jd r) Iff.rfl

theorem P02IngressParser.parseIpv4_eq : P02IngressParser.parseIpv4 = p02IngressDialect.ipv4 := by
  funext s
  simp only [P02IngressParser.parseIpv4, P02IngressParser.parseIpv4NoOptions,
    P02IngressParser.parseUdp, P02IngressParser.parseStdVxlan_eq, Dialect.ipv4,
    Dialect.ipv4NoOptions, Dialect.udp, show p02IngressDialect.readsIcmp = true from rfl,
    show p02IngressDialect.readsVxlan = true from rfl, true_and]

theorem P13EgressParser.parseIpv4_eq : P13EgressParser.parseIpv4 = p13EgressDialect.ipv4 := by
  funext s
  simp only [P13EgressParser.parseIpv4, P13EgressParser.parseIpv4NoOptions,
    P13EgressParser.parseUdp, P13EgressParser.parseStdVxlan_eq, Dialect.ipv4,
    Dialect.ipv4NoOptions, Dialect.udp, show p13EgressDialect.readsIcmp = false from rfl,
    show p13EgressDialect.readsVxlan = true from rfl, true_and, Bool.false_eq_true, false_and,
    if_false]

theorem P13EgressParser.parseIpv4V2_eq :
    P13EgressParser.parseIpv4V2 = p13EgressV2Dialect.ipv4 := by
  funext s
  simp only [P13EgressParser.parseIpv4V2, P13EgressParser.parseIpv4NoOptionsV2,
    P13EgressParser.parseUdpV2, Dialect.ipv4, Dialect.ipv4NoOptions, Dialect.udp,
    show p13EgressV2Dialect.readsIcmp = false from rfl,
    show p13EgressV2Dialect.readsVxlan = false from rfl, Bool.false_eq_true, false_and, if_false]
  cases extractIpv4 s with
  | none => rfl
  | some r =>
      dsimp only [Option.bind_eq_bind, Option.bind_some]
      congr 3
      cases extractUdp r <;> rfl

theorem P13IngressParser.parseIpv4_eq : P13IngressParser.parseIpv4 = p13IngressDialect.ipv4 := by
  funext s
  simp only [P13IngressParser.parseIpv4, P13IngressParser.parseIpv4NoOptions,
    P13IngressParser.parseUdp, P13IngressParser.parseStdVxlan_eq, Dialect.ipv4,
    Dialect.ipv4NoOptions, Dialect.udp, show p13IngressDialect.readsIcmp = true from rfl,
    show p13IngressDialect.readsVxlan = true from rfl, true_and]

theorem P02EgressParser.parseIpv4_eq : P02EgressParser.parseIpv4 = p02EgressDialect.ipv4 := by
  funext s
  simp only [P02EgressParser.parseIpv4, P02EgressParser.parseIpv4NoOptions,
    P02EgressParser.parseUdp, P02EgressParser.parseStdVxlan_eq, Dialect.ipv4,
    Dialect.ipv4NoOptions, Dialect.udp, show p02EgressDialect.readsIcmp = false from rfl,
    show p02EgressDialect.readsVxlan = true from rfl, true_and, Bool.false_eq_true, false_and,
    if_false]

/-! The frames of the first parser -/

/-- The outer IPv6 states read a transport header without looking further. -/
def Transport.placeOuter : Transport → ParserState → ParserState
  | .unread, s => s
  | .tcp h, s => { s.outerPorts h.srcPort h.dstPort with hdr.tcp := ⟨true, h⟩ }
  | .udp h, s => { s.outerPorts h.srcPort h.dstPort with hdr.udp := ⟨true, h⟩ }

/-- The first parser distinguishes these frames. -/
inductive Frame where
  | other (ethernet : Ethernet) (rest : Bits)
  | ipv4 (ethernet : Ethernet) (ip : Ipv4) (outer : Outer)
  | ipv6 (ethernet : Ethernet) (ip : Ipv6) (transport : Transport) (rest : Bits)
  | cpuOther (ethernet : Ethernet) (fabric : Fabric) (cpu : Cpu) (rest : Bits)
  | cpuIpv4 (ethernet : Ethernet) (fabric : Fabric) (cpu : Cpu) (ip : Ipv4) (outer : Outer)

namespace Frame

/-- Everything behind the Ethernet header -/
def body : Frame → Bits
  | .other _ rest => rest
  | .ipv4 _ ip outer => Ipv4.codec.encode ip ++ outer.bits
  | .ipv6 _ ip transport rest => Ipv6.codec.encode ip ++ (transport.encode ++ rest)
  | .cpuOther _ fabric cpu rest => Fabric.codec.encode fabric ++ (Cpu.codec.encode cpu ++ rest)
  | .cpuIpv4 _ fabric cpu ip outer =>
      Fabric.codec.encode fabric ++ (Cpu.codec.encode cpu ++ (Ipv4.codec.encode ip ++ outer.bits))

def ethernet : Frame → Ethernet
  | .other ethernet _ => ethernet
  | .ipv4 ethernet _ _ => ethernet
  | .ipv6 ethernet _ _ _ => ethernet
  | .cpuOther ethernet _ _ _ => ethernet
  | .cpuIpv4 ethernet _ _ _ _ => ethernet

def bits (frame : Frame) : Bits := Ethernet.codec.encode frame.ethernet ++ frame.body

def Fits : Frame → Prop
  | .other ethernet _ => ethernet.etherType ≠ etherTypeIpv4 ∧ ethernet.etherType ≠ etherTypeIpv6 ∧
      ethernet.etherType ≠ etherTypeBfn
  | .ipv4 ethernet ip outer => ethernet.etherType = etherTypeIpv4 ∧ outer.Fits p02IngressDialect ip
  | .ipv6 ethernet ip transport _ => ethernet.etherType = etherTypeIpv6 ∧
      transport.Fits ip.nextHdr True
  | .cpuOther ethernet _ cpu _ => ethernet.etherType = etherTypeBfn ∧ cpu.etherType ≠ etherTypeIpv4
  | .cpuIpv4 ethernet _ cpu ip outer => ethernet.etherType = etherTypeBfn ∧
      cpu.etherType = etherTypeIpv4 ∧ outer.Fits p02IngressDialect ip

/-- A frame with an IP EtherType carries an IP packet behind its Ethernet header. -/
theorem ip_cases {frame : Frame} (fits : frame.Fits)
    (etherType : frame.ethernet.etherType = etherTypeIpv4 ∨ frame.ethernet.etherType = etherTypeIpv6) :
    (∃ ethernet ip outer, frame = .ipv4 ethernet ip outer) ∨
      ∃ ethernet ip transport rest, frame = .ipv6 ethernet ip transport rest := by
  cases frame with
  | ipv4 ethernet ip outer => exact .inl ⟨_, _, _, rfl⟩
  | ipv6 ethernet ip transport rest => exact .inr ⟨_, _, _, _, rfl⟩
  | other ethernet rest => exact absurd etherType (not_or.mpr ⟨fits.1, fits.2.1⟩)
  | cpuOther ethernet fabric cpu rest =>
      change ethernet.etherType = _ ∨ ethernet.etherType = _ at etherType
      rw [fits.1] at etherType
      exact absurd etherType (by decide)
  | cpuIpv4 ethernet fabric cpu ip outer =>
      change ethernet.etherType = _ ∨ ethernet.etherType = _ at etherType
      rw [fits.1] at etherType
      exact absurd etherType (by decide)

/-- The parser reaches this state on a frame that fits. -/
def place : Frame → ParserState → ParserState
  | .other ethernet rest, s => { s with hdr.ethernet := ⟨true, ethernet⟩, pkt := rest }
  | .ipv4 ethernet ip outer, s => outer.place p02IngressDialect { s with
      hdr.ethernet := ⟨true, ethernet⟩
      hdr.ipv4 := ⟨true, ip⟩
      metadata.l3.lkpOuterIpProto := ip.protocol }
  | .ipv6 ethernet ip transport rest, s => transport.placeOuter { s with
      hdr.ethernet := ⟨true, ethernet⟩
      hdr.ipv6 := ⟨true, ip⟩
      metadata.l3.lkpOuterIpProto := ip.nextHdr
      pkt := rest }
  | .cpuOther ethernet fabric cpu rest, s => { s with
      hdr.ethernet := ⟨true, ethernet⟩
      hdr.fabric := ⟨true, fabric⟩
      hdr.cpu := ⟨true, cpu⟩
      pkt := rest }
  | .cpuIpv4 ethernet fabric cpu ip outer, s => outer.place p02IngressDialect { s with
      hdr.ethernet := ⟨true, ethernet⟩
      hdr.fabric := ⟨true, fabric⟩
      hdr.cpu := ⟨true, cpu⟩
      hdr.ipv4 := ⟨true, ip⟩
      metadata.l3.lkpOuterIpProto := ip.protocol }

def state (frame : Frame) (containers : Headers) : ParserState :=
  frame.place (.start containers frame.bits)

end Frame

theorem P02IngressParser.parseIpv6_eq_some_iff (s t : ParserState) :
    P02IngressParser.parseIpv6 s = some t ↔ ∃ ip, ∃ transport : Transport, ∃ rest,
      transport.Fits ip.nextHdr True ∧
      s.pkt = Ipv6.codec.encode ip ++ (transport.encode ++ rest) ∧
      t = transport.placeOuter { s with
        hdr.ipv6 := ⟨true, ip⟩, metadata.l3.lkpOuterIpProto := ip.nextHdr, pkt := rest } := by
  simp only [P02IngressParser.parseIpv6, P02IngressParser.parseUdp6, extractIpv6,
    Option.bind_eq_bind, Option.bind_eq_some_iff, ParserState.extract_eq_some_iff]
  constructor
  · rintro ⟨_, ⟨_, ⟨ip, rest, shape, rfl⟩, recorded⟩, found⟩
    obtain rfl := Option.some.inj recorded
    split at found
    · rename_i isTcp
      obtain ⟨h, after, inside, rfl⟩ := (parseTcp_eq_some_iff _ _).mp found
      change rest = _ at inside
      exact ⟨ip, .tcp h, after, ⟨isTcp, trivial⟩, by rw [shape, inside]; rfl, rfl⟩
    · rename_i notTcp
      split at found
      · rename_i isUdp
        obtain ⟨h, after, inside, rfl⟩ := (extractUdp_eq_some_iff _ _).mp found
        change rest = _ at inside
        exact ⟨ip, .udp h, after, ⟨isUdp, trivial⟩, by rw [shape, inside]; rfl, rfl⟩
      · rename_i notUdp
        refine ⟨ip, .unread, rest, ?_, shape, (Option.some.inj found).symm⟩
        rintro ⟨isTcp | isUdp, _⟩
        · exact notTcp isTcp
        · exact notUdp isUdp
  · rintro ⟨ip, transport, rest, fits, shape, rfl⟩
    refine ⟨_, ⟨_, ⟨ip, _, shape, rfl⟩, rfl⟩, ?_⟩
    dsimp only
    cases transport with
    | unread =>
        rw [if_neg (fun h => fits ⟨.inl h, trivial⟩), if_neg (fun h => fits ⟨.inr h, trivial⟩)]
        rfl
    | tcp h =>
        rw [if_pos fits.1]
        exact (parseTcp_eq_some_iff _ _).mpr ⟨h, rest, rfl, rfl⟩
    | udp h =>
        rw [if_neg (by rw [fits.1]; decide), if_pos fits.1]
        exact (extractUdp_eq_some_iff _ _).mpr ⟨h, rest, rfl, rfl⟩

theorem P02IngressParser.parseCpu_eq_some_iff (s t : ParserState) :
    P02IngressParser.parseCpu s = some t ↔ ∃ fabric cpu,
      (cpu.etherType ≠ etherTypeIpv4 ∧ ∃ rest,
        s.pkt = Fabric.codec.encode fabric ++ (Cpu.codec.encode cpu ++ rest) ∧
        t = { s with hdr.fabric := ⟨true, fabric⟩, hdr.cpu := ⟨true, cpu⟩, pkt := rest }) ∨
      (cpu.etherType = etherTypeIpv4 ∧ ∃ ip, ∃ outer : Outer, outer.Fits p02IngressDialect ip ∧
        s.pkt = Fabric.codec.encode fabric ++
          (Cpu.codec.encode cpu ++ (Ipv4.codec.encode ip ++ outer.bits)) ∧
        t = outer.place p02IngressDialect { s with
          hdr.fabric := ⟨true, fabric⟩
          hdr.cpu := ⟨true, cpu⟩
          hdr.ipv4 := ⟨true, ip⟩
          metadata.l3.lkpOuterIpProto := ip.protocol }) := by
  simp only [P02IngressParser.parseCpu, P02IngressParser.parseIpv4_eq, extractCpu,
    Option.bind_eq_bind, Option.bind_eq_some_iff, ParserState.extract_eq_some_iff]
  constructor
  · rintro ⟨_, ⟨_, ⟨fabric, middle, shape, rfl⟩, cpu, rest, inside, rfl⟩, found⟩
    change middle = _ at inside
    subst inside
    refine ⟨fabric, cpu, ?_⟩
    split at found
    · rename_i isIpv4
      obtain ⟨ip, outer, fits, behind, rfl⟩ := (Dialect.ipv4_eq_some_iff _ _ _).mp found
      change rest = _ at behind
      exact .inr ⟨isIpv4, ip, outer, fits, by rw [shape, behind], outer.place_pkt _ _ _ _ _⟩
    · rename_i notIpv4
      exact .inl ⟨notIpv4, rest, shape, (Option.some.inj found).symm⟩
  · rintro ⟨fabric, cpu, ⟨notIpv4, rest, shape, rfl⟩ | ⟨isIpv4, ip, outer, fits, shape, rfl⟩⟩
    · refine ⟨_, ⟨_, ⟨fabric, _, shape, rfl⟩, cpu, rest, rfl, rfl⟩, ?_⟩
      rw [if_neg notIpv4]
    · refine ⟨_, ⟨_, ⟨fabric, _, shape, rfl⟩, cpu, _, rfl, rfl⟩, ?_⟩
      rw [if_pos isIpv4]
      exact (Dialect.ipv4_eq_some_iff _ _ _).mpr
        ⟨ip, outer, fits, rfl, outer.place_pkt _ _ _ _ _⟩

/-- The first parser accepts exactly the frames that fit and reaches their state. -/
theorem P02IngressParser.parse_eq_some_iff (containers : Headers) (bits : Bits) (s : ParserState) :
    P02IngressParser.parse containers bits = some s ↔
      ∃ frame : Frame, frame.Fits ∧ bits = frame.bits ∧ s = frame.state containers := by
  simp only [P02IngressParser.parse, P02IngressParser.parseEthernet, P02IngressParser.parseIpv4_eq,
    Option.bind_eq_bind, Option.bind_eq_some_iff, ParserState.extract_eq_some_iff]
  constructor
  · rintro ⟨_, ⟨ethernet, rest, shape, rfl⟩, found⟩
    change bits = _ at shape
    subst shape
    split at found
    · rename_i isIpv4
      obtain ⟨ip, outer, fits, inside, rfl⟩ := (Dialect.ipv4_eq_some_iff _ _ _).mp found
      change rest = _ at inside
      exact ⟨.ipv4 ethernet ip outer, ⟨isIpv4, fits⟩, by rw [inside]; rfl,
        outer.place_pkt _ _ _ _ _⟩
    · rename_i notIpv4
      split at found
      · rename_i isIpv6
        obtain ⟨ip, transport, after, fits, inside, rfl⟩ :=
          (P02IngressParser.parseIpv6_eq_some_iff _ _).mp found
        change rest = _ at inside
        exact ⟨.ipv6 ethernet ip transport after, ⟨isIpv6, fits⟩, by rw [inside]; rfl, rfl⟩
      · rename_i notIpv6
        split at found
        · rename_i isBfn
          obtain ⟨fabric, cpu, ⟨notInner, after, inside, rfl⟩ |
            ⟨isInner, ip, outer, fits, inside, rfl⟩⟩ :=
            (P02IngressParser.parseCpu_eq_some_iff _ _).mp found
          · change rest = _ at inside
            exact ⟨.cpuOther ethernet fabric cpu after, ⟨isBfn, notInner⟩, by rw [inside]; rfl, rfl⟩
          · change rest = _ at inside
            exact ⟨.cpuIpv4 ethernet fabric cpu ip outer, ⟨isBfn, isInner, fits⟩,
              by rw [inside]; rfl, outer.place_pkt _ _ _ _ _⟩
        · rename_i notBfn
          exact ⟨.other ethernet rest, ⟨notIpv4, notIpv6, notBfn⟩, rfl,
            (Option.some.inj found).symm⟩
  · rintro ⟨frame, fits, rfl, rfl⟩
    cases frame with
    | other ethernet rest =>
        refine ⟨_, ⟨ethernet, _, rfl, rfl⟩, ?_⟩
        rw [if_neg (show ethernet.etherType ≠ _ from fits.1),
          if_neg (show ethernet.etherType ≠ _ from fits.2.1),
          if_neg (show ethernet.etherType ≠ _ from fits.2.2)]
        rfl
    | ipv4 ethernet ip outer =>
        refine ⟨_, ⟨ethernet, _, rfl, rfl⟩, ?_⟩
        rw [if_pos (show ethernet.etherType = _ from fits.1)]
        exact (Dialect.ipv4_eq_some_iff _ _ _).mpr
          ⟨ip, outer, fits.2, rfl, outer.place_pkt _ _ _ _ _⟩
    | ipv6 ethernet ip transport rest =>
        refine ⟨_, ⟨ethernet, _, rfl, rfl⟩, ?_⟩
        rw [if_neg (show ethernet.etherType ≠ _ by rw [fits.1]; decide),
          if_pos (show ethernet.etherType = _ from fits.1)]
        exact (P02IngressParser.parseIpv6_eq_some_iff _ _).mpr
          ⟨ip, transport, rest, fits.2, rfl, rfl⟩
    | cpuOther ethernet fabric cpu rest =>
        refine ⟨_, ⟨ethernet, _, rfl, rfl⟩, ?_⟩
        rw [if_neg (show ethernet.etherType ≠ _ by rw [fits.1]; decide),
          if_neg (show ethernet.etherType ≠ _ by rw [fits.1]; decide),
          if_pos (show ethernet.etherType = _ from fits.1)]
        exact (P02IngressParser.parseCpu_eq_some_iff _ _).mpr
          ⟨fabric, cpu, .inl ⟨fits.2, rest, rfl, rfl⟩⟩
    | cpuIpv4 ethernet fabric cpu ip outer =>
        refine ⟨_, ⟨ethernet, _, rfl, rfl⟩, ?_⟩
        rw [if_neg (show ethernet.etherType ≠ _ by rw [fits.1]; decide),
          if_neg (show ethernet.etherType ≠ _ by rw [fits.1]; decide),
          if_pos (show ethernet.etherType = _ from fits.1)]
        exact (P02IngressParser.parseCpu_eq_some_iff _ _).mpr
          ⟨fabric, cpu, .inr ⟨fits.2.1, ip, outer, fits.2.2, rfl, outer.place_pkt _ _ _ _ _⟩⟩

end IgwP4.Dataplane
