/-
This file gives the tunnel packets that travel between the pipes and between the gateways.
-/

import IgwP4.Construction.Dataplane.Pipes
import IgwP4.Proof.Dataplane.ParserFrames

namespace IgwP4.Dataplane
open Packet

/-- An IP packet, up to its IP header -/
inductive Parcel where
  | v4 (ip : Ipv4) (payload : Bits)
  | v6 (ip : Ipv6) (payload : Bits)

namespace Parcel

def bits : Parcel → Bits
  | .v4 ip payload => Ipv4.codec.encode ip ++ payload
  | .v6 ip payload => Ipv6.codec.encode ip ++ payload

def etherType : Parcel → BitVec 16
  | .v4 _ _ => etherTypeIpv4
  | .v6 _ _ => etherTypeIpv6

def isV4 : Parcel → Bool
  | .v4 _ _ => true
  | .v6 _ _ => false

/-- The bits of one family determine the parcel. -/
theorem bits_inj {first second : Parcel} (family : first.etherType = second.etherType)
    (same : first.bits = second.bits) : first = second := by
  cases first with
  | v4 ip payload =>
      cases second with
      | v4 ip' payload' =>
          obtain ⟨rfl, rfl⟩ := Ipv4.codec.encode_append_inj.mp same
          rfl
      | v6 ip' payload' => exact absurd family (by simp [etherType])
  | v6 ip payload =>
      cases second with
      | v4 ip' payload' => exact absurd family (by simp [etherType])
      | v6 ip' payload' =>
          obtain ⟨rfl, rfl⟩ := Ipv6.codec.encode_append_inj.mp same
          rfl

end Parcel

/-- A VXLAN packet with an inner IP packet -/
structure TunnelPacket where
  ip : Ipv4
  udp : Udp
  vxlan : Vxlan
  ethernet : Ethernet
  parcel : Parcel

namespace TunnelPacket

def bits (t : TunnelPacket) : Bits :=
  Ipv4.codec.encode t.ip ++ (Udp.codec.encode t.udp ++ (Vxlan.codec.encode t.vxlan ++
    (Ethernet.codec.encode t.ethernet ++ t.parcel.bits)))

/-- The parsers follow such a packet down to the inner IP header. -/
structure Tunnels (t : TunnelPacket) : Prop where
  selects : t.ip.selects ipProtocolsUdp
  port : t.udp.dstPort = udpPortVxlan
  type : t.ethernet.etherType = t.parcel.etherType

end TunnelPacket

/-- A small tunnel packet of the standard form -/
def smallTunnel : TunnelPacket where
  ip := { (default : Ipv4) with version := 4, ihl := 5, protocol := ipProtocolsUdp }
  udp := { (default : Udp) with dstPort := udpPortVxlan }
  vxlan := { (default : Vxlan) with flags := 0x08 }
  ethernet := ⟨0, 0, etherTypeIpv4⟩
  parcel := .v4 { (default : Ipv4) with version := 4, ihl := 5 } []

theorem smallTunnel_tunnels : smallTunnel.Tunnels :=
  ⟨⟨rfl, rfl, rfl⟩, rfl, rfl⟩

namespace Headers

/-- The inner headers and the unread bits are the parcel. -/
def BearsParcel (hdr : Headers) (pkt : Bits) : Parcel → Prop
  | .v4 ip payload => hdr.innerIpv4 = ⟨true, ip⟩ ∧ hdr.innerIpv6.valid = false ∧
      payload = emitOptions hdr.innerOptionWords ++ (hdr.innerTcp.emit Tcp.codec ++
        (hdr.innerUdp.emit Udp.codec ++ pkt))
  | .v6 ip payload => hdr.innerIpv4.valid = false ∧ hdr.innerIpv6 = ⟨true, ip⟩ ∧
      hdr.innerOptionWords = [] ∧
      payload = hdr.innerTcp.emit Tcp.codec ++ (hdr.innerUdp.emit Udp.codec ++ pkt)

/-- The headers from the outer IP header on and the unread bits are the tunnel packet. -/
structure Bears (hdr : Headers) (pkt : Bits) (t : TunnelPacket) : Prop where
  ipv4 : hdr.ipv4 = ⟨true, t.ip⟩
  ipv6 : hdr.ipv6.valid = false
  udp : hdr.udp = ⟨true, t.udp⟩
  tcp : hdr.tcp.valid = false
  icmp : hdr.icmp.valid = false
  vxlan : hdr.vxlan = ⟨true, t.vxlan⟩
  innerEthernet : hdr.innerEthernet = ⟨true, t.ethernet⟩
  parcel : hdr.BearsParcel pkt t.parcel

/-- This part of the emission and of the unread bits starts at the outer IP header. -/
def emitIp (hdr : Headers) (pkt : Bits) : Bits := hdr.emitOuter ++ (hdr.emitInner ++ pkt)

theorem emit_append (hdr : Headers) (pkt : Bits) :
    hdr.emit ++ pkt = hdr.bgMd.emit BridgeMetadata.codec ++ (hdr.ethernet.emit Ethernet.codec ++
      (hdr.fabric.emit Fabric.codec ++ (hdr.cpu.emit Cpu.codec ++ hdr.emitIp pkt))) := by
  rw [Headers.emit, emitIp]
  simp only [List.append_assoc]

/-- Without CPU headers the Ethernet header stands before the outer IP header. -/
theorem emit_uncpu {hdr : Headers} (fabric : hdr.fabric.valid = false) (cpu : hdr.cpu.valid = false)
    (pkt : Bits) : hdr.emit ++ pkt = hdr.bgMd.emit BridgeMetadata.codec ++
      (hdr.ethernet.emit Ethernet.codec ++ hdr.emitIp pkt) := by
  rw [emit_append, Header.emit_of_invalid _ _ fabric, Header.emit_of_invalid _ _ cpu]
  rfl

theorem BearsParcel.emit {hdr : Headers} {pkt : Bits} {parcel : Parcel}
    (bears : hdr.BearsParcel pkt parcel) : hdr.emitInner ++ pkt = parcel.bits := by
  cases parcel with
  | v4 ip payload =>
      obtain ⟨inner4, inner6, rfl⟩ := bears
      rw [emitInner, inner4, Header.emit_of_invalid _ _ inner6, Parcel.bits, Header.emit_valid]
      rw [List.append_nil]
      simp only [List.append_assoc]
  | v6 ip payload =>
      obtain ⟨inner4, inner6, none, rfl⟩ := bears
      rw [emitInner, inner6, none, Header.emit_of_invalid _ _ inner4, Parcel.bits, Header.emit_valid]
      rw [emitOptions, List.flatMap_nil, List.append_nil, List.nil_append]
      simp only [List.append_assoc]

/-- The deparser writes the tunnel packet. -/
theorem Bears.emitIp {hdr : Headers} {pkt : Bits} {t : TunnelPacket} (bears : hdr.Bears pkt t) :
    hdr.emitIp pkt = t.bits := by
  rw [Headers.emitIp, emitOuter, bears.ipv4, bears.udp, bears.vxlan, bears.innerEthernet,
    Header.emit_of_invalid _ _ bears.ipv6, Header.emit_of_invalid _ _ bears.tcp,
    Header.emit_of_invalid _ _ bears.icmp, TunnelPacket.bits, bears.parcel.emit]
  simp only [Header.emit_valid, List.append_nil]
  simp only [List.append_assoc]

/-- No header behind the outer IPv4 header is valid yet. -/
structure Blank (hdr : Headers) : Prop where
  ipv6 : hdr.ipv6.valid = false
  udp : hdr.udp.valid = false
  tcp : hdr.tcp.valid = false
  icmp : hdr.icmp.valid = false
  vxlan : hdr.vxlan.valid = false
  innerEthernet : hdr.innerEthernet.valid = false
  innerIpv4 : hdr.innerIpv4.valid = false
  innerOptionWords : hdr.innerOptionWords = []
  innerIpv6 : hdr.innerIpv6.valid = false
  innerTcp : hdr.innerTcp.valid = false
  innerUdp : hdr.innerUdp.valid = false

theorem blank_unparsed (containers : Headers) : containers.unparsed.Blank :=
  ⟨rfl, rfl, rfl, rfl, rfl, rfl, rfl, rfl, rfl, rfl, rfl⟩

/-- Without an inner IP header the deparser stops behind the inner Ethernet header. -/
theorem emitIp_plain (hdr : Headers) (pkt : Bits) {ipv4 ipv6 udp tcp icmp vxlan ethernet : Bits}
    (innerIpv4 : hdr.innerIpv4.valid = false)
    (innerOptionWords : hdr.innerOptionWords = []) (innerIpv6 : hdr.innerIpv6.valid = false)
    (innerTcp : hdr.innerTcp.valid = false) (innerUdp : hdr.innerUdp.valid = false)
    (hasIpv4 : hdr.ipv4.emit Ipv4.codec = ipv4) (hasIpv6 : hdr.ipv6.emit Ipv6.codec = ipv6)
    (hasUdp : hdr.udp.emit Udp.codec = udp) (hasTcp : hdr.tcp.emit Tcp.codec = tcp)
    (hasIcmp : hdr.icmp.emit Icmp.codec = icmp) (hasVxlan : hdr.vxlan.emit Vxlan.codec = vxlan)
    (hasEthernet : hdr.innerEthernet.emit Ethernet.codec = ethernet) :
    hdr.emitIp pkt = ipv4 ++ (ipv6 ++ (udp ++ (tcp ++ (icmp ++ (vxlan ++ (ethernet ++ pkt)))))) := by
  have inner : hdr.emitInner = [] := by
    rw [Headers.emitInner, Header.emit_of_invalid _ _ innerIpv4, innerOptionWords,
      Header.emit_of_invalid _ _ innerIpv6, Header.emit_of_invalid _ _ innerTcp,
      Header.emit_of_invalid _ _ innerUdp]
    rfl
  rw [emitIp, Headers.emitOuter, inner, hasIpv4, hasIpv6, hasUdp, hasTcp, hasIcmp, hasVxlan, hasEthernet,
    List.nil_append]
  simp only [List.append_assoc]

end Headers

/-- The parcel that a parser reads -/
def Inner.parcel : Inner → Option Parcel
  | .unread _ => none
  | .v4 ip tail => some (.v4 ip tail.bits)
  | .v6 ip tail => some (.v6 ip tail.bits)

theorem Inner.bits_of_parcel {inner : Inner} {parcel : Parcel} (carried : inner.parcel = some parcel) :
    inner.bits = parcel.bits := by
  cases inner with
  | unread rest => contradiction
  | v4 ip tail =>
      obtain rfl := Option.some.inj carried
      rfl
  | v6 ip tail =>
      obtain rfl := Option.some.inj carried
      rfl

/-- A parser reads no option words behind an inner IPv6 header. -/
theorem Inner.words_of_v6 {d : Dialect} {jd : Bool} {etherType : BitVec 16} {ip : Ipv6} {tail : Tail}
    (fits : Inner.Fits d jd etherType (.v6 ip tail)) : tail.words = [] := by
  obtain ⟨_, _, fits⟩ := fits
  split at fits
  · exact fits.1
  · exact fits.1

/-- The inner transport header and the unread bits follow one another. -/
theorem Transport.place_emit (transport : Transport) (s : ParserState) (tcp : s.hdr.innerTcp.valid = false)
    (udp : s.hdr.innerUdp.valid = false) :
    (transport.place s).hdr.innerTcp.emit Tcp.codec ++
      ((transport.place s).hdr.innerUdp.emit Udp.codec ++ (transport.place s).pkt) =
        transport.encode ++ s.pkt := by
  have noTcp := Header.emit_of_invalid Tcp.codec _ tcp
  have noUdp := Header.emit_of_invalid Udp.codec _ udp
  cases transport with
  | unread =>
      change s.hdr.innerTcp.emit _ ++ (s.hdr.innerUdp.emit _ ++ s.pkt) = _
      rw [noTcp, noUdp, Transport.encode, List.nil_append]
  | tcp h =>
      change Header.emit Tcp.codec ⟨true, h⟩ ++ (s.hdr.innerUdp.emit _ ++ s.pkt) = _
      rw [noUdp, Header.emit_valid, Transport.encode, List.nil_append]
  | udp h =>
      change s.hdr.innerTcp.emit _ ++ (Header.emit Udp.codec ⟨true, h⟩ ++ s.pkt) = _
      rw [noTcp, Header.emit_valid, Transport.encode, List.nil_append]

/-- The inner headers behind an overlay bear its parcel. -/
theorem Inner.place_bearsParcel {d : Dialect} {jd : Bool} {etherType : BitVec 16} (inner : Inner)
    (s : ParserState) (innerIpv4 : s.hdr.innerIpv4.valid = false)
    (innerOptionWords : s.hdr.innerOptionWords = []) (innerIpv6 : s.hdr.innerIpv6.valid = false)
    (innerTcp : s.hdr.innerTcp.valid = false) (innerUdp : s.hdr.innerUdp.valid = false)
    {parcel : Parcel} (carried : inner.parcel = some parcel) (fits : inner.Fits d jd etherType) :
    (inner.place s).hdr.BearsParcel (inner.place s).pkt parcel := by
  cases inner with
  | unread rest => contradiction
  | v4 ip tail =>
      obtain ⟨words, transport, rest⟩ := tail
      obtain rfl := Option.some.inj carried
      have emitted := transport.place_emit { s with
        hdr.innerIpv4 := ⟨true, ip⟩
        hdr.innerOptionWords := s.hdr.innerOptionWords ++ words
        metadata.l3.lkpIpProto := ip.protocol
        pkt := rest } innerTcp innerUdp
      refine ⟨?_, ?_, ?_⟩
      · cases transport <;> rfl
      · cases transport <;> exact innerIpv6
      · have read : ((Inner.v4 ip ⟨words, transport, rest⟩).place s).hdr.innerOptionWords =
            s.hdr.innerOptionWords ++ words := by
          cases transport <;> rfl
        rw [read, innerOptionWords, List.nil_append]
        exact congrArg (Headers.emitOptions words ++ ·) emitted.symm
  | v6 ip tail =>
      obtain rfl := Option.some.inj carried
      have none := words_of_v6 fits
      obtain ⟨words, transport, rest⟩ := tail
      obtain rfl : words = [] := none
      have emitted := transport.place_emit { s with
        hdr.innerIpv6 := ⟨true, ip⟩
        hdr.innerOptionWords := s.hdr.innerOptionWords ++ []
        metadata.l3.lkpIpProto := ip.nextHdr
        pkt := rest } innerTcp innerUdp
      refine ⟨?_, ?_, ?_, ?_⟩
      · cases transport <;> exact innerIpv4
      · cases transport <;> rfl
      · have read : ((Inner.v6 ip ⟨[], transport, rest⟩).place s).hdr.innerOptionWords =
            s.hdr.innerOptionWords ++ [] := by
          cases transport <;> rfl
        rw [read, List.append_nil, innerOptionWords]
      · exact emitted.symm

/-- The headers behind an overlay bear its packet. -/
theorem Overlay.place_bears (d : Dialect) (o : Overlay) (s : ParserState) (blank : s.hdr.Blank)
    {ip : Ipv4} (outer : s.hdr.ipv4 = ⟨true, ip⟩) {parcel : Parcel}
    (carried : o.inner.parcel = some parcel) {jd : Bool} (fits : o.inner.Fits d jd o.ethernet.etherType) :
    (o.place d s).hdr.Bears (o.place d s).pkt ⟨ip, o.udp, o.vxlan, o.ethernet, parcel⟩ := by
  obtain ⟨udp, vxlan, ethernet, inner⟩ := o
  have kept := (Outer.overlay ⟨udp, vxlan, ethernet, inner⟩).place_keeps d s
  have placed := inner.place_bearsParcel { s.outerPorts udp.srcPort udp.dstPort with
    hdr.udp := ⟨true, udp⟩
    hdr.vxlan := ⟨true, vxlan⟩
    hdr.innerEthernet := ⟨true, ethernet⟩
    metadata.tunnel.vxlanType := Dialect.vxlanType (d.jd vxlan) } blank.innerIpv4 blank.innerOptionWords
    blank.innerIpv6 blank.innerTcp blank.innerUdp carried fits
  refine ⟨kept.ipv4.trans outer, ?_, ?_, ?_, ?_, ?_, ?_, placed⟩
  · exact (congrArg Header.valid kept.ipv6).trans blank.ipv6
  all_goals
    rcases inner with rest | ⟨ip, words, transport, rest⟩ | ⟨ip, words, transport, rest⟩
    · contradiction
    all_goals cases transport <;> first | rfl | exact blank.tcp | exact blank.icmp

/-- What a parser has read behind an outer IPv4 header goes out again. -/
theorem Outer.emitIp_place (d : Dialect) {ip : Ipv4} (outer : Outer) (s : ParserState)
    (fits : outer.Fits d ip) (blank : s.hdr.Blank) (ipv4 : s.hdr.ipv4 = ⟨true, ip⟩) :
    (outer.place d s).hdr.emitIp (outer.place d s).pkt = Ipv4.codec.encode ip ++ outer.bits := by
  have off {A : Type} (codec : Codec A) (header : Header A) := Header.emit_of_invalid codec header
  have emitted : s.hdr.ipv4.emit Ipv4.codec = Ipv4.codec.encode ip := by rw [ipv4, Header.emit_valid]
  cases outer with
  | unread rest =>
      exact (Headers.emitIp_plain ((Outer.unread rest).place d s).hdr rest blank.innerIpv4
        blank.innerOptionWords blank.innerIpv6 blank.innerTcp blank.innerUdp emitted (off _ _ blank.ipv6) (off _ _ blank.udp) (off _ _ blank.tcp)
        (off _ _ blank.icmp) (off _ _ blank.vxlan) (off _ _ blank.innerEthernet)).trans rfl
  | icmp h rest =>
      exact (Headers.emitIp_plain ((Outer.icmp h rest).place d s).hdr rest blank.innerIpv4
        blank.innerOptionWords blank.innerIpv6 blank.innerTcp blank.innerUdp emitted (off _ _ blank.ipv6) (off _ _ blank.udp) (off _ _ blank.tcp)
        (Header.emit_valid _ h) (off _ _ blank.vxlan) (off _ _ blank.innerEthernet)).trans rfl
  | tcp h rest =>
      exact (Headers.emitIp_plain ((Outer.tcp h rest).place d s).hdr rest blank.innerIpv4
        blank.innerOptionWords blank.innerIpv6 blank.innerTcp blank.innerUdp emitted (off _ _ blank.ipv6) (off _ _ blank.udp) (Header.emit_valid _ h)
        (off _ _ blank.icmp) (off _ _ blank.vxlan) (off _ _ blank.innerEthernet)).trans rfl
  | udp h rest =>
      exact (Headers.emitIp_plain ((Outer.udp h rest).place d s).hdr rest blank.innerIpv4
        blank.innerOptionWords blank.innerIpv6 blank.innerTcp blank.innerUdp emitted (off _ _ blank.ipv6) (Header.emit_valid _ h) (off _ _ blank.tcp)
        (off _ _ blank.icmp) (off _ _ blank.vxlan) (off _ _ blank.innerEthernet)).trans rfl
  | overlay o =>
      have bearing (parcel : Parcel) (carried : o.inner.parcel = some parcel) :
          (o.place d s).hdr.emitIp (o.place d s).pkt = Ipv4.codec.encode ip ++ o.bits := by
        rw [Overlay.bits, Inner.bits_of_parcel carried]
        exact (o.place_bears d s blank ipv4 carried fits.2.2.2).emitIp
      obtain ⟨udp, vxlan, inner, rest | ⟨ip', tail⟩ | ⟨ip', tail⟩⟩ := o
      · exact (Headers.emitIp_plain (Overlay.place d ⟨udp, vxlan, inner, .unread rest⟩ s).hdr rest
          blank.innerIpv4 blank.innerOptionWords blank.innerIpv6 blank.innerTcp blank.innerUdp emitted (off _ _ blank.ipv6) (Header.emit_valid _ udp) (off _ _ blank.tcp)
          (off _ _ blank.icmp) (Header.emit_valid _ vxlan) (Header.emit_valid _ inner)).trans rfl
      · exact bearing (.v4 ip' tail.bits) rfl
      · exact bearing (.v6 ip' tail.bits) rfl

/-! The parsers on a tunnel packet -/

namespace Dialect

variable (d : Dialect)

/-- The dialect reads the inner IP header of the tunnel packet. -/
def Reads (t : TunnelPacket) : Prop := t.parcel.isV4 = true ∨ (d.jd t.vxlan || d.readsStdIpv6) = true

/-- A dialect that follows VXLAN reads a tunnel packet down to its parcel. -/
theorem reads_tunnel {t : TunnelPacket} (tunnels : t.Tunnels) (follows : d.readsVxlan = true)
    (reads : d.Reads t) {ip : Ipv4} {outer : Outer}
    (fits : outer.Fits d ip) (same : Ipv4.codec.encode ip ++ outer.bits = t.bits) :
    ∃ inner : Inner, ip = t.ip ∧ outer = .overlay ⟨t.udp, t.vxlan, t.ethernet, inner⟩ ∧
      inner.parcel = some t.parcel ∧ inner.Fits d (d.jd t.vxlan) t.ethernet.etherType := by
  obtain ⟨rfl, behind⟩ := Ipv4.codec.encode_append_inj.mp same
  cases outer with
  | unread rest => exact absurd tunnels.selects fits.2.2
  | icmp h rest => exact absurd (Ipv4.selects_inj fits.2 tunnels.selects) (by decide)
  | tcp h rest => exact absurd (Ipv4.selects_inj fits tunnels.selects) (by decide)
  | udp h rest =>
      obtain ⟨rfl, _⟩ := Udp.codec.encode_append_inj.mp behind
      exact absurd ⟨follows, tunnels.port⟩ fits.2
  | overlay o =>
      obtain ⟨udp, vxlan, ethernet, inner⟩ := o
      obtain ⟨rfl, behind⟩ := Udp.codec.encode_append_inj.mp behind
      obtain ⟨rfl, behind⟩ := Vxlan.codec.encode_append_inj.mp behind
      obtain ⟨rfl, behind⟩ := Ethernet.codec.encode_append_inj.mp behind
      have inside := fits.2.2.2
      refine ⟨inner, rfl, rfl, ?_, inside⟩
      have type := tunnels.type
      unfold Reads at reads
      generalize t.parcel = parcel at type behind reads
      cases inner with
      | unread rest =>
          obtain ⟨notV4, notV6⟩ := inside
          cases parcel with
          | v4 ip payload => exact absurd type notV4
          | v6 ip payload => exact absurd ⟨type, reads.resolve_left Bool.false_ne_true⟩ notV6
      | v4 ip tail =>
          exact congrArg some (Parcel.bits_inj (inside.1.symm.trans type) behind)
      | v6 ip tail =>
          exact congrArg some (Parcel.bits_inj (inside.1.symm.trans type) behind)

/-- A parser that accepts a tunnel packet bears it. -/
theorem ipv4_tunnel {t : TunnelPacket} (tunnels : t.Tunnels) (follows : d.readsVxlan = true)
    (reads : d.Reads t) {s r : ParserState} (stands : s.pkt = t.bits)
    (found : d.ipv4 s = some r) :
    ∃ inner : Inner, inner.parcel = some t.parcel ∧
      inner.Fits d (d.jd t.vxlan) t.ethernet.etherType ∧
      r = Overlay.place d ⟨t.udp, t.vxlan, t.ethernet, inner⟩ { s with
        hdr.ipv4 := ⟨true, t.ip⟩, metadata.l3.lkpOuterIpProto := t.ip.protocol } := by
  obtain ⟨ip, outer, fits, shape, rfl⟩ := (d.ipv4_eq_some_iff s r).mp found
  obtain ⟨inner, rfl, rfl, carried, inside⟩ :=
    d.reads_tunnel tunnels follows reads fits (shape.symm.trans stands)
  exact ⟨inner, carried, inside, rfl⟩

end Dialect

end IgwP4.Dataplane
