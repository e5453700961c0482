/-
This file shows which tunnel packets the second internal parser accepts and what it reads of them.
-/

import IgwP4.Proof.Dataplane.BridgedPackets

namespace IgwP4.Dataplane
open Packet

/-- What a later control sees of a header -/
def Header.view {A : Type} (header : Header A) : Option A :=
  if header.valid then some header.fields else none

@[simp] theorem Header.view_valid {A : Type} (fields : A) : Header.view ⟨true, fields⟩ = some fields := rfl

theorem Header.view_of_invalid {A : Type} {header : Header A} (off : header.valid = false) :
    header.view = none := by
  rw [view, if_neg (by rw [off]; decide)]

namespace Transport

def tcpHeader : Transport → Option Tcp
  | .tcp h => some h
  | _ => none

def udpHeader : Transport → Option Udp
  | .udp h => some h
  | _ => none

end Transport

namespace Parcel

/-- The payload is what the IP header announces, up to the transport header. -/
def Ends (tail : Tail) : Parcel → Prop
  | .v4 ip payload => tail.FitsV4 ip ∧ payload = tail.bits
  | .v6 ip payload => tail.FitsV6 ip ∧ payload = tail.bits

/-- The packet holds the option words and the transport header that its IP header announces. -/
def Whole (parcel : Parcel) : Prop := ∃ tail, parcel.Ends tail

/-- A parser of the ingress reads a parcel so. -/
def inner (tail : Tail) : Parcel → Inner
  | .v4 ip _ => .v4 ip tail
  | .v6 ip _ => .v6 ip tail

theorem inner_bits {parcel : Parcel} {tail : Tail} (ends : parcel.Ends tail) :
    (parcel.inner tail).bits = parcel.bits := by
  cases parcel <;> exact congrArg (_ ++ ·) ends.2.symm

theorem inner_fits {parcel : Parcel} {tail : Tail} (ends : parcel.Ends tail) (jd : Bool) :
    (parcel.inner tail).Fits p13IngressDialect jd parcel.etherType := by
  cases parcel with
  | v4 ip payload => exact ⟨rfl, ends.1⟩
  | v6 ip payload => exact ⟨rfl, Bool.or_true _, ends.1⟩

/-- Every reading of a parcel by a parser of the ingress is of this form. -/
theorem ends_of_fits {d : Dialect} (reads : d.readsTransport = true) {jd : Bool} {etherType : BitVec 16}
    {inner : Inner} {parcel : Parcel} (carried : inner.parcel = some parcel)
    (fits : inner.Fits d jd etherType) : ∃ tail, parcel.Ends tail ∧ inner = parcel.inner tail := by
  cases inner with
  | unread rest => contradiction
  | v4 ip tail =>
      obtain rfl := Option.some.inj carried
      have inside := fits.2
      rw [if_pos reads] at inside
      exact ⟨tail, ⟨inside, rfl⟩, rfl⟩
  | v6 ip tail =>
      obtain rfl := Option.some.inj carried
      have inside := fits.2.2
      rw [if_pos reads] at inside
      exact ⟨tail, ⟨inside, rfl⟩, rfl⟩

end Parcel

/-- The inner headers behind the inner IP header are those of the tail. -/
structure ParserState.Reads (s : ParserState) (tail : Tail) : Prop where
  words : s.hdr.innerOptionWords = tail.words
  tcp : s.hdr.innerTcp.view = tail.transport.tcpHeader
  udp : s.hdr.innerUdp.view = tail.transport.udpHeader
  rest : s.pkt = tail.rest

theorem Parcel.place_reads (parcel : Parcel) (tail : Tail) (s : ParserState)
    (words : s.hdr.innerOptionWords = []) (tcp : s.hdr.innerTcp.valid = false)
    (udp : s.hdr.innerUdp.valid = false) : ((parcel.inner tail).place s).Reads tail := by
  have noTcp := Header.view_of_invalid tcp
  have noUdp := Header.view_of_invalid udp
  obtain ⟨options, transport, rest⟩ := tail
  have appended : s.hdr.innerOptionWords ++ options = options := by rw [words, List.nil_append]
  cases parcel with
  | v4 ip payload =>
      cases transport with
      | unread => exact ⟨appended, noTcp, noUdp, rfl⟩
      | tcp h => exact ⟨appended, rfl, noUdp, rfl⟩
      | udp h => exact ⟨appended, noTcp, rfl, rfl⟩
  | v6 ip payload =>
      cases transport with
      | unread => exact ⟨appended, noTcp, noUdp, rfl⟩
      | tcp h => exact ⟨appended, rfl, noUdp, rfl⟩
      | udp h => exact ⟨appended, noTcp, rfl, rfl⟩

namespace P13IngressParser

/-- The state in which the parser leaves a whole tunnel packet -/
def tunnelState (containers : Headers) (bgMd : BridgeMetadata) (t : TunnelPacket) (tail : Tail) : ParserState :=
  Overlay.place p13IngressDialect ⟨t.udp, t.vxlan, t.ethernet, t.parcel.inner tail⟩
    { ParserState.bridged containers bgMd t.bits with
      hdr.ipv4 := ⟨true, t.ip⟩, metadata.l3.lkpOuterIpProto := t.ip.protocol }

/-- The parser accepts exactly the bridged tunnel packets whose parcel is whole. -/
theorem parse_tunnel (containers : Headers) {bgMd : BridgeMetadata} {t : TunnelPacket}
    (bridges : bgMd.Bridges etherTypeIpv4) (tunnels : t.Tunnels) (r : ParserState) :
    parse containers (BridgeMetadata.codec.encode bgMd ++ t.bits) = some r ↔
      ∃ tail, t.parcel.Ends tail ∧ r = tunnelState containers bgMd t tail := by
  have reads : p13IngressDialect.Reads t := .inr (Bool.or_true _)
  rw [parse_bridged containers t.bits bridges]
  constructor
  · intro found
    obtain ⟨inner, carried, fits, rfl⟩ := p13IngressDialect.ipv4_tunnel tunnels rfl reads rfl found
    obtain ⟨tail, ends, rfl⟩ := Parcel.ends_of_fits rfl carried fits
    exact ⟨tail, ends, rfl⟩
  · rintro ⟨tail, ends, rfl⟩
    refine (p13IngressDialect.ipv4_eq_some_iff _ _).mpr
      ⟨t.ip, .overlay ⟨t.udp, t.vxlan, t.ethernet, t.parcel.inner tail⟩, ⟨tunnels.selects, rfl, tunnels.port, ?_⟩,
        ?_, rfl⟩
    · rw [tunnels.type]
      exact Parcel.inner_fits ends _
    · change t.bits = _
      rw [TunnelPacket.bits, Outer.bits, Overlay.bits, Parcel.inner_bits ends]

theorem tunnelState_reads (containers : Headers) (bgMd : BridgeMetadata) (t : TunnelPacket) (tail : Tail) :
    (tunnelState containers bgMd t tail).Reads tail :=
  t.parcel.place_reads tail _ rfl rfl rfl

theorem tunnelState_carries (containers : Headers) {bgMd : BridgeMetadata} {t : TunnelPacket} {tail : Tail}
    (bridges : bgMd.Bridges etherTypeIpv4) (tunnels : t.Tunnels) (ends : t.parcel.Ends tail) :
    (tunnelState containers bgMd t tail).Carries bgMd t := by
  have accepted := (parse_tunnel containers bridges tunnels _).mpr ⟨tail, ends, rfl⟩
  rw [parse_bridged containers t.bits bridges] at accepted
  exact p13IngressDialect.ipv4_carries tunnels rfl (.inr (Bool.or_true _)) accepted

end P13IngressParser

end IgwP4.Dataplane
