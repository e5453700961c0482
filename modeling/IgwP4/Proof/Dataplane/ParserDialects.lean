/-
This file gives the one chain of states behind the outer IPv4 header that the four parsers vary.
-/

import IgwP4.Proof.Dataplane.ParserViews

namespace IgwP4.Dataplane
open Packet

/-- The parsers differ in these choices below an outer IPv4 header. -/
structure Dialect where
  readsIcmp : Bool
  readsVxlan : Bool
  jd : Vxlan → Bool
  readsStdIpv6 : Bool
  readsTransport : Bool

/-- What a parser reads behind the inner Ethernet header -/
inductive Inner where
  | unread (rest : Bits)
  | v4 (ip : Ipv4) (tail : Tail)
  | v6 (ip : Ipv6) (tail : Tail)

namespace Inner

def bits : Inner → Bits
  | .unread rest => rest
  | .v4 ip tail => Ipv4.codec.encode ip ++ tail.bits
  | .v6 ip tail => Ipv6.codec.encode ip ++ tail.bits

def place : Inner → ParserState → ParserState
  | .unread rest, s => { s with pkt := rest }
  | .v4 ip tail, s => tail.place { s with
      hdr.innerIpv4 := ⟨true, ip⟩, metadata.l3.lkpIpProto := ip.protocol }
  | .v6 ip tail, s => tail.place { s with
      hdr.innerIpv6 := ⟨true, ip⟩, metadata.l3.lkpIpProto := ip.nextHdr }

/-- What was unread before does not matter, since the inner packet names the rest. -/
theorem place_pkt (inner : Inner) (hdr : Headers) (metadata : CommonMetadata) (before after : Bits) :
    inner.place ⟨hdr, metadata, before⟩ = inner.place ⟨hdr, metadata, after⟩ := by
  cases inner with
  | unread rest => rfl
  | v4 ip tail => rfl
  | v6 ip tail => rfl

/-- The EtherType and the kind of tunnel decide how far a dialect reads. -/
def Fits (d : Dialect) (jd : Bool) (etherType : BitVec 16) : Inner → Prop
  | .unread _ => etherType ≠ etherTypeIpv4 ∧
      ¬ (etherType = etherTypeIpv6 ∧ (jd || d.readsStdIpv6) = true)
  | .v4 ip tail => etherType = etherTypeIpv4 ∧
      (if d.readsTransport then tail.FitsV4 ip else tail.Bare)
  | .v6 ip tail => etherType = etherTypeIpv6 ∧ (jd || d.readsStdIpv6) = true ∧
      (if d.readsTransport then tail.FitsV6 ip else tail.Bare)

end Inner

/-- A VXLAN packet behind its outer IPv4 header -/
structure Overlay where
  udp : Udp
  vxlan : Vxlan
  ethernet : Ethernet
  inner : Inner

/-- What a parser reads behind the outer IPv4 header -/
inductive Outer where
  | unread (rest : Bits)
  | icmp (icmp : Icmp) (rest : Bits)
  | tcp (tcp : Tcp) (rest : Bits)
  | udp (udp : Udp) (rest : Bits)
  | overlay (overlay : Overlay)

def Overlay.bits (o : Overlay) : Bits :=
  Udp.codec.encode o.udp ++ (Vxlan.codec.encode o.vxlan ++
    (Ethernet.codec.encode o.ethernet ++ o.inner.bits))

def Outer.bits : Outer → Bits
  | .unread rest => rest
  | .icmp h rest => Icmp.codec.encode h ++ rest
  | .tcp h rest => Tcp.codec.encode h ++ rest
  | .udp h rest => Udp.codec.encode h ++ rest
  | .overlay o => o.bits

/-- The outer ports are recorded whenever an outer transport header is read. -/
def ParserState.outerPorts (s : ParserState) (sport dport : BitVec 16) : ParserState :=
  { s with metadata.l3 := { s.metadata.l3 with lkpOuterL4Sport := sport, lkpOuterL4Dport := dport } }

namespace Dialect

variable (d : Dialect)

def vxlanType (jd : Bool) : BitVec 2 := if jd then vxlanTypeJd else vxlanTypeStd

def innerIpv4 : ParserState → Option ParserState :=
  if d.readsTransport then parseInnerIpv4 else parseInnerIpv4Egress

def innerIpv6 : ParserState → Option ParserState :=
  if d.readsTransport then parseInnerIpv6 else parseInnerIpv6Egress

def innerEthernet (jd : Bool) : ParserState → Option ParserState :=
  innerEthernetState (vxlanType jd) d.innerIpv4 (if jd || d.readsStdIpv6 then d.innerIpv6 else some)

def stdVxlan (s : ParserState) : Option ParserState := do
  let s ← s.extract Vxlan.codec fun hdr vxlan => { hdr with vxlan }
  d.innerEthernet (d.jd s.hdr.vxlan.fields) s

def udp (s : ParserState) : Option ParserState := do
  let s ← extractUdp s
  if d.readsVxlan = true ∧ s.hdr.udp.fields.dstPort = udpPortVxlan then d.stdVxlan s else some s

def ipv4NoOptions (s : ParserState) : Option ParserState :=
  if d.readsIcmp = true ∧ s.hdr.ipv4.fields.selects ipProtocolsIcmp then parseIcmp s
  else if s.hdr.ipv4.fields.selects ipProtocolsTcp then parseTcp s
  else if s.hdr.ipv4.fields.selects ipProtocolsUdp then d.udp s
  else some s

def ipv4 (s : ParserState) : Option ParserState := do
  let s ← extractIpv4 s
  if s.hdr.ipv4.fields.ihl = 5 then d.ipv4NoOptions s else some s

end Dialect

/-- The tunnel type is recorded before the inner packet is read. -/
def Overlay.place (d : Dialect) (o : Overlay) (s : ParserState) : ParserState :=
  o.inner.place { s.outerPorts o.udp.srcPort o.udp.dstPort with
    hdr.udp := ⟨true, o.udp⟩
    hdr.vxlan := ⟨true, o.vxlan⟩
    hdr.innerEthernet := ⟨true, o.ethernet⟩
    metadata.tunnel.vxlanType := Dialect.vxlanType (d.jd o.vxlan) }

namespace Outer

def place (d : Dialect) : Outer → ParserState → ParserState
  | .unread rest, s => { s with pkt := rest }
  | .icmp h rest, s => { s.outerPorts 0 0 with hdr.icmp := ⟨true, h⟩, pkt := rest }
  | .tcp h rest, s => { s.outerPorts h.srcPort h.dstPort with hdr.tcp := ⟨true, h⟩, pkt := rest }
  | .udp h rest, s => { s.outerPorts h.srcPort h.dstPort with hdr.udp := ⟨true, h⟩, pkt := rest }
  | .overlay o, s => o.place d s

/-- What was unread before does not matter, since the outer packet names the rest. -/
theorem place_pkt (d : Dialect) (outer : Outer) (hdr : Headers) (metadata : CommonMetadata)
    (before after : Bits) :
    outer.place d ⟨hdr, metadata, before⟩ = outer.place d ⟨hdr, metadata, after⟩ := by
  cases outer with
  | unread rest => rfl
  | icmp h rest => rfl
  | tcp h rest => rfl
  | udp h rest => rfl
  | overlay o => exact o.inner.place_pkt _ _ _ _

/-- The states behind an outer IP header leave these parts as they are. -/
structure Keeps (s t : ParserState) : Prop where
  bgMd : t.hdr.bgMd = s.hdr.bgMd
  ethernet : t.hdr.ethernet = s.hdr.ethernet
  fabric : t.hdr.fabric = s.hdr.fabric
  cpu : t.hdr.cpu = s.hdr.cpu
  ipv4 : t.hdr.ipv4 = s.hdr.ipv4
  ipv6 : t.hdr.ipv6 = s.hdr.ipv6
  ratelimit : t.metadata.ratelimit = s.metadata.ratelimit
  mirror : t.metadata.mirror = s.metadata.mirror
  innerIpv4ChecksumEn : t.metadata.tunnel.innerIpv4ChecksumEn = s.metadata.tunnel.innerIpv4ChecksumEn

theorem place_keeps (d : Dialect) (outer : Outer) (s : ParserState) : Keeps s (outer.place d s) := by
  cases outer with
  | overlay o =>
      obtain ⟨udp, vxlan, ethernet, inner⟩ := o
      rcases inner with rest | ⟨ip, words, transport, rest⟩ | ⟨ip, words, transport, rest⟩
      · exact ⟨rfl, rfl, rfl, rfl, rfl, rfl, rfl, rfl, rfl⟩
      · cases transport <;> exact ⟨rfl, rfl, rfl, rfl, rfl, rfl, rfl, rfl, rfl⟩
      · cases transport <;> exact ⟨rfl, rfl, rfl, rfl, rfl, rfl, rfl, rfl, rfl⟩
  | _ => exact ⟨rfl, rfl, rfl, rfl, rfl, rfl, rfl, rfl, rfl⟩

/-- The outer header decides which transport header a dialect reads. -/
def Fits (d : Dialect) (ip : Ipv4) : Outer → Prop
  | .unread _ => ¬ (d.readsIcmp = true ∧ ip.selects ipProtocolsIcmp) ∧
      ¬ ip.selects ipProtocolsTcp ∧ ¬ ip.selects ipProtocolsUdp
  | .icmp _ _ => d.readsIcmp = true ∧ ip.selects ipProtocolsIcmp
  | .tcp _ _ => ip.selects ipProtocolsTcp
  | .udp h _ => ip.selects ipProtocolsUdp ∧ ¬ (d.readsVxlan = true ∧ h.dstPort = udpPortVxlan)
  | .overlay o => ip.selects ipProtocolsUdp ∧ d.readsVxlan = true ∧
      o.udp.dstPort = udpPortVxlan ∧ o.inner.Fits d (d.jd o.vxlan) o.ethernet.etherType

end Outer

/-! The specification of each state of the chain -/

theorem parseInnerIpv4Egress_eq_some_iff (s t : ParserState) :
    parseInnerIpv4Egress s = some t ↔ ∃ ip, ∃ tail : Tail, tail.Bare ∧
      s.pkt = Ipv4.codec.encode ip ++ tail.bits ∧ t = Inner.place (.v4 ip tail) s := by
  simp only [parseInnerIpv4Egress, Option.bind_eq_bind, Option.bind_eq_some_iff,
    ParserState.extract_eq_some_iff]
  constructor
  · rintro ⟨_, ⟨ip, rest, shape, rfl⟩, found⟩
    refine ⟨ip, ⟨[], .unread, rest⟩, ⟨rfl, rfl⟩, shape, ?_⟩
    rw [← Option.some.inj found]
    simp only [Inner.place, Tail.place, Transport.place, List.append_nil]
  · rintro ⟨ip, ⟨words, transport, rest⟩, ⟨none, unread⟩, shape, rfl⟩
    obtain rfl : words = [] := none
    obtain rfl : transport = .unread := unread
    refine ⟨_, ⟨ip, rest, shape, rfl⟩, ?_⟩
    simp only [Inner.place, Tail.place, Transport.place, List.append_nil]

theorem parseInnerIpv6Egress_eq_some_iff (s t : ParserState) :
    parseInnerIpv6Egress s = some t ↔ ∃ ip, ∃ tail : Tail, tail.Bare ∧
      s.pkt = Ipv6.codec.encode ip ++ tail.bits ∧ t = Inner.place (.v6 ip tail) s := by
  simp only [parseInnerIpv6Egress, Option.bind_eq_bind, Option.bind_eq_some_iff,
    ParserState.extract_eq_some_iff]
  constructor
  · rintro ⟨_, ⟨ip, rest, shape, rfl⟩, found⟩
    refine ⟨ip, ⟨[], .unread, rest⟩, ⟨rfl, rfl⟩, shape, ?_⟩
    rw [← Option.some.inj found]
    simp only [Inner.place, Tail.place, Transport.place, List.append_nil]
  · rintro ⟨ip, ⟨words, transport, rest⟩, ⟨none, unread⟩, shape, rfl⟩
    obtain rfl : words = [] := none
    obtain rfl : transport = .unread := unread
    refine ⟨_, ⟨ip, rest, shape, rfl⟩, ?_⟩
    simp only [Inner.place, Tail.place, Transport.place, List.append_nil]

namespace Dialect

variable (d : Dialect)

theorem innerIpv4_eq_some_iff (s t : ParserState) :
    d.innerIpv4 s = some t ↔ ∃ ip, ∃ tail : Tail,
      (if d.readsTransport then tail.FitsV4 ip else tail.Bare) ∧
      s.pkt = Ipv4.codec.encode ip ++ tail.bits ∧ t = Inner.place (.v4 ip tail) s := by
  cases reads : d.readsTransport
  · simpa [innerIpv4, reads] using parseInnerIpv4Egress_eq_some_iff s t
  · simp only [innerIpv4, reads, if_true]
    exact parseInnerIpv4_eq_some_iff s t

theorem innerIpv6_eq_some_iff (s t : ParserState) :
    d.innerIpv6 s = some t ↔ ∃ ip, ∃ tail : Tail,
      (if d.readsTransport then tail.FitsV6 ip else tail.Bare) ∧
      s.pkt = Ipv6.codec.encode ip ++ tail.bits ∧ t = Inner.place (.v6 ip tail) s := by
  cases reads : d.readsTransport
  · simpa [innerIpv6, reads] using parseInnerIpv6Egress_eq_some_iff s t
  · simp only [innerIpv6, reads, if_true]
    exact parseInnerIpv6_eq_some_iff s t

/-- The inner Ethernet state reads the inner packet that fits the EtherType. -/
theorem innerEthernet_eq_some_iff (jd : Bool) (s t : ParserState) :
    d.innerEthernet jd s = some t ↔ ∃ ethernet, ∃ inner : Inner,
      inner.Fits d jd ethernet.etherType ∧
      s.pkt = Ethernet.codec.encode ethernet ++ inner.bits ∧
      t = inner.place { s with
        hdr.innerEthernet := ⟨true, ethernet⟩, metadata.tunnel.vxlanType := vxlanType jd } := by
  simp only [innerEthernet, innerEthernetState, Option.bind_eq_bind, Option.bind_eq_some_iff,
    ParserState.extract_eq_some_iff]
  constructor
  · rintro ⟨_, ⟨ethernet, rest, shape, rfl⟩, found⟩
    split at found
    · rename_i isV4
      obtain ⟨ip, tail, fits, inside, rfl⟩ := (d.innerIpv4_eq_some_iff _ _).mp found
      change rest = _ at inside
      exact ⟨ethernet, .v4 ip tail, ⟨isV4, fits⟩, by rw [shape, inside]; rfl, rfl⟩
    · rename_i notV4
      split at found
      · rename_i isV6
        split at found
        · rename_i follows
          obtain ⟨ip, tail, fits, inside, rfl⟩ := (d.innerIpv6_eq_some_iff _ _).mp found
          change rest = _ at inside
          exact ⟨ethernet, .v6 ip tail, ⟨isV6, follows, fits⟩, by rw [shape, inside]; rfl, rfl⟩
        · rename_i stops
          exact ⟨ethernet, .unread rest, ⟨notV4, fun h => stops h.2⟩, shape,
            (Option.some.inj found).symm⟩
      · rename_i notV6
        exact ⟨ethernet, .unread rest, ⟨notV4, fun h => notV6 h.1⟩, shape,
          (Option.some.inj found).symm⟩
  · rintro ⟨ethernet, inner, fits, shape, rfl⟩
    refine ⟨_, ⟨ethernet, inner.bits, shape, rfl⟩, ?_⟩
    dsimp only
    cases inner with
    | unread rest =>
        rw [if_neg fits.1]
        split
        · rename_i isV6
          rw [if_neg (fun follows => fits.2 ⟨isV6, follows⟩)]
          rfl
        · rfl
    | v4 ip tail =>
        rw [if_pos fits.1]
        exact (d.innerIpv4_eq_some_iff _ _).mpr ⟨ip, tail, fits.2, rfl, rfl⟩
    | v6 ip tail =>
        rw [if_neg (by rw [fits.1]; decide), if_pos fits.1, if_pos fits.2.1]
        exact (d.innerIpv6_eq_some_iff _ _).mpr ⟨ip, tail, fits.2.2, rfl, rfl⟩

theorem stdVxlan_eq_some_iff (s t : ParserState) :
    d.stdVxlan s = some t ↔ ∃ vxlan ethernet, ∃ inner : Inner,
      inner.Fits d (d.jd vxlan) ethernet.etherType ∧
      s.pkt = Vxlan.codec.encode vxlan ++ (Ethernet.codec.encode ethernet ++ inner.bits) ∧
      t = inner.place { s with
        hdr.vxlan := ⟨true, vxlan⟩
        hdr.innerEthernet := ⟨true, ethernet⟩
        metadata.tunnel.vxlanType := vxlanType (d.jd vxlan) } := by
  simp only [stdVxlan, Option.bind_eq_bind, Option.bind_eq_some_iff,
    ParserState.extract_eq_some_iff, innerEthernet_eq_some_iff]
  constructor
  · rintro ⟨_, ⟨vxlan, rest, shape, rfl⟩, ethernet, inner, fits, inside, rfl⟩
    change rest = _ at inside
    exact ⟨vxlan, ethernet, inner, fits, by rw [shape, inside], inner.place_pkt _ _ _ _⟩
  · rintro ⟨vxlan, ethernet, inner, fits, shape, rfl⟩
    exact ⟨_, ⟨vxlan, _, shape, rfl⟩, ethernet, inner, fits, rfl, inner.place_pkt _ _ _ _⟩

end Dialect

theorem extractUdp_eq_some_iff (s t : ParserState) :
    extractUdp s = some t ↔ ∃ h rest, s.pkt = Udp.codec.encode h ++ rest ∧
      t = { s.outerPorts h.srcPort h.dstPort with hdr.udp := ⟨true, h⟩, pkt := rest } := by
  simp only [extractUdp, Option.bind_eq_bind, Option.bind_eq_some_iff,
    ParserState.extract_eq_some_iff]
  constructor
  · rintro ⟨_, ⟨h, rest, shape, rfl⟩, found⟩
    exact ⟨h, rest, shape, (Option.some.inj found).symm⟩
  · rintro ⟨h, rest, shape, rfl⟩
    exact ⟨_, ⟨h, rest, shape, rfl⟩, rfl⟩

theorem parseTcp_eq_some_iff (s t : ParserState) :
    parseTcp s = some t ↔ ∃ h rest, s.pkt = Tcp.codec.encode h ++ rest ∧
      t = { s.outerPorts h.srcPort h.dstPort with hdr.tcp := ⟨true, h⟩, pkt := rest } := by
  simp only [parseTcp, Option.bind_eq_bind, Option.bind_eq_some_iff,
    ParserState.extract_eq_some_iff]
  constructor
  · rintro ⟨_, ⟨h, rest, shape, rfl⟩, found⟩
    exact ⟨h, rest, shape, (Option.some.inj found).symm⟩
  · rintro ⟨h, rest, shape, rfl⟩
    exact ⟨_, ⟨h, rest, shape, rfl⟩, rfl⟩

theorem parseIcmp_eq_some_iff (s t : ParserState) :
    parseIcmp s = some t ↔ ∃ h rest, s.pkt = Icmp.codec.encode h ++ rest ∧
      t = { s.outerPorts 0 0 with hdr.icmp := ⟨true, h⟩, pkt := rest } := by
  simp only [parseIcmp, Option.bind_eq_bind, Option.bind_eq_some_iff,
    ParserState.extract_eq_some_iff]
  constructor
  · rintro ⟨_, ⟨h, rest, shape, rfl⟩, found⟩
    exact ⟨h, rest, shape, (Option.some.inj found).symm⟩
  · rintro ⟨h, rest, shape, rfl⟩
    exact ⟨_, ⟨h, rest, shape, rfl⟩, rfl⟩

theorem Ipv4.selects_inj {ip : Ipv4} {first second : BitVec 8} (left : ip.selects first)
    (right : ip.selects second) : first = second :=
  left.1.symm.trans right.1

namespace Dialect

variable (d : Dialect)

/-- UDP is read on its own, or as the start of an overlay. -/
theorem udp_eq_some_iff (s t : ParserState) :
    d.udp s = some t ↔
      (∃ h rest, ¬ (d.readsVxlan = true ∧ h.dstPort = udpPortVxlan) ∧
        s.pkt = Udp.codec.encode h ++ rest ∧ t = Outer.place d (.udp h rest) s) ∨
      (∃ o : Overlay, d.readsVxlan = true ∧ o.udp.dstPort = udpPortVxlan ∧
        o.inner.Fits d (d.jd o.vxlan) o.ethernet.etherType ∧ s.pkt = o.bits ∧ t = o.place d s) := by
  simp only [udp, Option.bind_eq_bind, Option.bind_eq_some_iff, extractUdp_eq_some_iff]
  constructor
  · rintro ⟨_, ⟨h, rest, shape, rfl⟩, found⟩
    split at found
    · rename_i reads
      obtain ⟨vxlan, ethernet, inner, fits, inside, rfl⟩ := (d.stdVxlan_eq_some_iff _ _).mp found
      change rest = _ at inside
      exact .inr ⟨⟨h, vxlan, ethernet, inner⟩, reads.1, reads.2, fits, by rw [shape, inside]; rfl,
        inner.place_pkt _ _ _ _⟩
    · rename_i stops
      exact .inl ⟨h, rest, stops, shape, (Option.some.inj found).symm⟩
  · rintro (⟨h, rest, stops, shape, rfl⟩ | ⟨o, reads, port, fits, shape, rfl⟩)
    · refine ⟨_, ⟨h, rest, shape, rfl⟩, ?_⟩
      rw [if_neg stops]
      rfl
    · refine ⟨_, ⟨o.udp, _, shape, rfl⟩, ?_⟩
      rw [if_pos ⟨reads, port⟩]
      exact (d.stdVxlan_eq_some_iff _ _).mpr
        ⟨o.vxlan, o.ethernet, o.inner, fits, rfl, o.inner.place_pkt _ _ _ _⟩

theorem ipv4NoOptions_eq_some_iff (s t : ParserState) :
    d.ipv4NoOptions s = some t ↔ ∃ outer : Outer, outer.Fits d s.hdr.ipv4.fields ∧
      s.pkt = outer.bits ∧ t = outer.place d s := by
  unfold ipv4NoOptions
  constructor
  · intro found
    split at found
    · rename_i isIcmp
      obtain ⟨h, rest, shape, rfl⟩ := (parseIcmp_eq_some_iff _ _).mp found
      exact ⟨.icmp h rest, isIcmp, shape, rfl⟩
    · rename_i notIcmp
      split at found
      · rename_i isTcp
        obtain ⟨h, rest, shape, rfl⟩ := (parseTcp_eq_some_iff _ _).mp found
        exact ⟨.tcp h rest, isTcp, shape, rfl⟩
      · rename_i notTcp
        split at found
        · rename_i isUdp
          rcases (d.udp_eq_some_iff _ _).mp found with
            ⟨h, rest, stops, shape, rfl⟩ | ⟨o, reads, port, fits, shape, rfl⟩
          · exact ⟨.udp h rest, ⟨isUdp, stops⟩, shape, rfl⟩
          · exact ⟨.overlay o, ⟨isUdp, reads, port, fits⟩, shape, rfl⟩
        · rename_i notUdp
          exact ⟨.unread s.pkt, ⟨notIcmp, notTcp, notUdp⟩, rfl, (Option.some.inj found).symm⟩
  · rintro ⟨outer, fits, shape, rfl⟩
    cases outer with
    | unread rest =>
        rw [if_neg fits.1, if_neg fits.2.1, if_neg fits.2.2]
        change s.pkt = rest at shape
        rw [← shape]
        rfl
    | icmp h rest =>
        rw [if_pos (show d.readsIcmp = true ∧ _ from fits)]
        exact (parseIcmp_eq_some_iff _ _).mpr ⟨h, rest, shape, rfl⟩
    | tcp h rest =>
        change s.hdr.ipv4.fields.selects ipProtocolsTcp at fits
        rw [if_neg (fun other => absurd (Ipv4.selects_inj other.2 fits) (by decide)), if_pos fits]
        exact (parseTcp_eq_some_iff _ _).mpr ⟨h, rest, shape, rfl⟩
    | udp h rest =>
        rw [if_neg (fun other => absurd (Ipv4.selects_inj other.2 fits.1) (by decide)),
          if_neg (fun other => absurd (Ipv4.selects_inj other fits.1) (by decide)), if_pos fits.1]
        exact (d.udp_eq_some_iff _ _).mpr (.inl ⟨h, rest, fits.2, shape, rfl⟩)
    | overlay o =>
        rw [if_neg (fun other => absurd (Ipv4.selects_inj other.2 fits.1) (by decide)),
          if_neg (fun other => absurd (Ipv4.selects_inj other fits.1) (by decide)), if_pos fits.1]
        exact (d.udp_eq_some_iff _ _).mpr (.inr ⟨o, fits.2.1, fits.2.2.1, fits.2.2.2, shape, rfl⟩)

/-- The outer IPv4 state records the protocol and reads what fits the header. -/
theorem ipv4_eq_some_iff (s t : ParserState) :
    d.ipv4 s = some t ↔ ∃ ip, ∃ outer : Outer, outer.Fits d ip ∧
      s.pkt = Ipv4.codec.encode ip ++ outer.bits ∧
      t = outer.place d { s with
        hdr.ipv4 := ⟨true, ip⟩, metadata.l3.lkpOuterIpProto := ip.protocol } := by
  simp only [ipv4, extractIpv4, Option.bind_eq_bind, Option.bind_eq_some_iff,
    ParserState.extract_eq_some_iff]
  constructor
  · rintro ⟨_, ⟨_, ⟨ip, rest, shape, rfl⟩, recorded⟩, found⟩
    obtain rfl := Option.some.inj recorded
    split at found
    · obtain ⟨outer, fits, inside, rfl⟩ := (d.ipv4NoOptions_eq_some_iff _ _).mp found
      change rest = _ at inside
      exact ⟨ip, outer, fits, by rw [shape, inside], outer.place_pkt d _ _ _ _⟩
    · rename_i options
      refine ⟨ip, .unread rest, ?_, shape, (Option.some.inj found).symm⟩
      exact ⟨fun h => options h.2.2.1, fun h => options h.2.1, fun h => options h.2.1⟩
  · rintro ⟨ip, outer, fits, shape, rfl⟩
    refine ⟨_, ⟨_, ⟨ip, outer.bits, shape, rfl⟩, rfl⟩, ?_⟩
    split
    · exact (d.ipv4NoOptions_eq_some_iff _ _).mpr
        ⟨outer, fits, rfl, outer.place_pkt d _ _ _ _⟩
    · rename_i options
      have stops (protocol : BitVec 8) : ¬ ip.selects protocol := fun h => options h.2.1
      cases outer with
      | unread rest => rfl
      | icmp h rest => exact absurd fits.2 (stops _)
      | tcp h rest => exact absurd fits (stops _)
      | udp h rest => exact absurd fits.1 (stops _)
      | overlay o => exact absurd fits.1 (stops _)

end Dialect

end IgwP4.Dataplane
