/-
This file shows for which translated packets the checksum of the transport header stays correct.
-/

import IgwP4.Proof.Dataplane.ByteAccounting
import IgwP4.Proof.Dataplane.Decapsulations
import IgwP4.Proof.Dataplane.TimeToLive
import IgwP4.Proof.Dataplane.UdpChecksums

namespace IgwP4.Dataplane
open Packet Checksum Setup

/-! The checksum of a TCP segment or a UDP datagram -/

/-- The bits behind the options of the header -/
def Ipv4.segment (ip : Ipv4) (payload : Bits) : Bits := payload.drop (32 * (ip.ihl.toNat - 5))

def Ipv4.segmentLength (ip : Ipv4) : Word := BitVec.ofNat 16 (ip.totalLen.toNat - 4 * ip.ihl.toNat)

/-- The words of the pseudo header that a translation changes -/
def Ipv4.addressWords (ip : Ipv4) : List Word := halves ip.srcAddr ++ halves ip.dstAddr

/-- The checksum is correct over the pseudo header and the bytes of this length. -/
def SegmentCorrect (ip : Ipv4) (length : Word) (segment : Bits) : Prop :=
  ∃ words, coveredWords length.toNat segment = some words ∧
    verifies (ip.addressWords ++ (protocolWord ip :: length :: words))

/-- A TCP checksum is correct, and a UDP checksum is correct or zero. -/
inductive TransportSound (ip : Ipv4) (payload : Bits) : Prop
  | tcp (protocol : ip.protocol = ipProtocolsTcp) (long : 20 ≤ ip.segmentLength.toNat)
      (correct : SegmentCorrect ip ip.segmentLength (ip.segment payload))
  | udp (protocol : ip.protocol = ipProtocolsUdp) (header : Udp) (behind : Bits)
      (shape : ip.segment payload = Udp.codec.encode header ++ behind)
      (correct : header.checksum = 0 ∨ 8 ≤ header.length.toNat ∧
        SegmentCorrect ip header.length (ip.segment payload))

/-- A UDP datagram without a checksum -/
def Unchecked (ip : Ipv4) (payload : Bits) : Prop :=
  ip.protocol = ipProtocolsUdp ∧
    ∃ header behind, ip.segment payload = Udp.codec.encode header ++ behind ∧ header.checksum = 0

/-- Other addresses leave a correct checksum correct when their words have the same sum. -/
theorem segmentCorrect_iff {ip ip' : Ipv4} {length : Word} {segment : Bits} (correct : SegmentCorrect ip length segment)
    (protocol : ip'.protocol = ip.protocol) (filled : ip.protocol ≠ 0) :
    SegmentCorrect ip' length segment ↔ total ip'.addressWords % 65535 = total ip.addressWords % 65535 := by
  obtain ⟨words, covered, verified⟩ := correct
  have same : protocolWord ip' = protocolWord ip := by
    rw [protocolWord, protocolWord, protocol]
  have positive : 0 < (protocolWord ip).toNat := by
    have value : (protocolWord ip).toNat = ip.protocol.toNat := by
      rw [protocolWord, BitVec.toNat_append]
      simp
    rw [value]
    exact Nat.pos_of_ne_zero fun zero => filled (BitVec.eq_of_toNat_eq zero)
  have verified : 0 < total (ip.addressWords ++ (protocolWord ip :: length :: words)) ∧
      total (ip.addressWords ++ (protocolWord ip :: length :: words)) % 65535 = 0 := (verifies_iff _).mp verified
  have found : SegmentCorrect ip' length segment ↔
      0 < total (ip'.addressWords ++ (protocolWord ip :: length :: words)) ∧
        total (ip'.addressWords ++ (protocolWord ip :: length :: words)) % 65535 = 0 := by
    rw [SegmentCorrect, covered, same]
    constructor
    · rintro ⟨_, same, verified⟩
      obtain rfl := Option.some.inj same
      exact (verifies_iff _).mp verified
    · exact fun sum => ⟨words, rfl, (verifies_iff _).mpr sum⟩
  rw [found]
  simp only [total_append, total_cons] at verified ⊢
  omega

/-- A header with one of its addresses translated -/
structure Ipv4.Translated (inbound : Bool) (before after : Ipv4) : Prop where
  ihl : after.ihl = before.ihl
  totalLen : after.totalLen = before.totalLen
  protocol : after.protocol = before.protocol
  other : if inbound then after.srcAddr = before.srcAddr else after.dstAddr = before.dstAddr

/-- Without a change of the transport header only the sum of the addresses decides. -/
theorem transportSound_iff {inbound : Bool} {before after : Ipv4} (translated : Ipv4.Translated inbound before after)
    {payload : Bits} (sound : TransportSound before payload) : TransportSound after payload ↔
      Unchecked before payload ∨ total after.addressWords % 65535 = total before.addressWords % 65535 := by
  obtain ⟨ihl, totalLen, protocol, _⟩ := translated
  have place : after.segment payload = before.segment payload := by
    rw [Ipv4.segment, Ipv4.segment, ihl]
  have length : after.segmentLength = before.segmentLength := by
    rw [Ipv4.segmentLength, Ipv4.segmentLength, ihl, totalLen]
  cases sound with
  | tcp tcp long correct =>
      have filled : before.protocol ≠ 0 := by
        rw [tcp]
        decide
      have checked : ¬ Unchecked before payload := by
        rintro ⟨udp, _⟩
        exact absurd (tcp.symm.trans udp) (by decide)
      have iff := segmentCorrect_iff correct protocol filled
      constructor
      · intro sound
        cases sound with
        | tcp _ _ correct' =>
            rw [length, place] at correct'
            exact .inr (iff.mp correct')
        | udp udp => exact absurd ((protocol.trans tcp).symm.trans udp) (by decide)
      · intro balanced
        refine .tcp (protocol.trans tcp) (length ▸ long) ?_
        rw [length, place]
        exact iff.mpr (balanced.resolve_left checked)
  | udp udp header behind shape correct =>
      have filled : before.protocol ≠ 0 := by
        rw [udp]
        decide
      have shape' : after.segment payload = Udp.codec.encode header ++ behind := place.trans shape
      by_cases absent : header.checksum = 0
      · exact iff_of_true (.udp (protocol.trans udp) header behind shape' (.inl absent))
          (.inl ⟨udp, header, behind, shape, absent⟩)
      · obtain ⟨long, correct⟩ := correct.resolve_left absent
        have only {header' : Udp} {behind' : Bits}
            (also : before.segment payload = Udp.codec.encode header' ++ behind') : header' = header :=
          (Udp.codec.encode_append_inj.mp (also.symm.trans shape)).1
        have checked : ¬ Unchecked before payload := by
          rintro ⟨_, header', behind', also, zero⟩
          exact absent (only also ▸ zero)
        have iff := segmentCorrect_iff correct protocol filled
        constructor
        · intro sound
          cases sound with
          | tcp tcp => exact absurd ((protocol.trans udp).symm.trans tcp) (by decide)
          | udp _ header' behind' shape'' correct' =>
              obtain rfl := only (place.symm.trans shape'')
              rw [place] at correct'
              exact .inr (iff.mp (correct'.resolve_left absent).2)
        · intro balanced
          refine .udp (protocol.trans udp) header behind shape' (.inr ⟨long, ?_⟩)
          rw [place]
          exact iff.mpr (balanced.resolve_left checked)

/-! The packets that the gateway emits -/

/-- The IP packet behind the Ethernet header of a frame -/
def plainParcel (packet : Bits) : Option Parcel := do
  let (ethernet, rest) ← Ethernet.codec.extract packet
  if ethernet.etherType = etherTypeIpv4 then do
    let (ip, payload) ← Ipv4.codec.extract rest
    some (.v4 ip payload)
  else if ethernet.etherType = etherTypeIpv6 then do
    let (ip, payload) ← Ipv6.codec.extract rest
    some (.v6 ip payload)
  else none

theorem plainParcel_frame {ethernet : Ethernet} {parcel : Parcel} (family : ethernet.etherType = parcel.etherType) :
    plainParcel (Ethernet.codec.encode ethernet ++ parcel.bits) = some parcel := by
  rw [plainParcel, Codec.extract_encode]
  simp only [Option.bind_eq_bind, Option.bind_some]
  rw [family]
  cases parcel with
  | v4 ip payload =>
      rw [Parcel.bits, Codec.extract_encode]
      rfl
  | v6 ip payload =>
      rw [Parcel.bits, Codec.extract_encode]
      rfl

/-- The IPv4 packet of an address, on a visit of which the gateway emits it -/
structure TranslatedVisit where
  passage : Passage
  form : Form
  known : passage.form = some form
  ip : Ipv4
  payload : Bits
  carried : passage.parcel form = some (.v4 ip payload)
  delivery : Delivery
  sent : passage.visit.value = some delivery

namespace TranslatedVisit

variable (v : TranslatedVisit)

/-- The emitted packet of the address, which only an outbound packet for the Internet carries without a tunnel -/
def emitted : Option Parcel :=
  if v.form.inbound = false ∧ v.delivery.directSend = matchPacket then plainParcel v.delivery.packet
  else innerParcel v.delivery.packet

/-- The visit changes no bit behind the header and at most the address of its direction in the pseudo header. -/
theorem emits : ∃ after, v.emitted = some (.v4 after v.payload) ∧ Ipv4.Translated v.form.inbound v.ip after := by
  obtain ⟨passage, form, known, ip, payload, carried, delivery, sent⟩ := v
  have inward {t : TunnelPacket} (inbound : form.inbound = true) (entering : passage.entering = some t)
      (type : t.ethernet.etherType = t.parcel.etherType) {before : Ipv4} (holds : t.parcel = .v4 before payload)
      (same : Ipv4.Translated true ip before) : ∃ after, innerParcel delivery.packet = some (.v4 after payload) ∧
        Ipv4.Translated true ip after := by
    obtain ⟨own, ⟨t', chosen, _, ethernet, packet⟩ | ⟨_, _, bridge, ethernet, packet⟩⟩ :=
      Passage.inbound_outcome known inbound entering sent
    · have kept : t'.parcel = t.parcel ∧ t'.ethernet = t.ethernet := by
        obtain ⟨action, _, rfl⟩ := Option.map_eq_some_iff.mp chosen
        cases action <;> exact ⟨rfl, rfl⟩
      have framed : (t'.stamp false).ethernet.etherType = (t'.stamp false).parcel.etherType := by
        change t'.ethernet.etherType = t'.parcel.etherType
        rw [kept.1, kept.2, type]
      refine ⟨before, ?_, same⟩
      rw [packet, innerParcel_tunnel ethernet framed]
      exact congrArg some (kept.1.trans holds)
    · obtain ⟨types, _, _⟩ := t.deliver_ttl passage.tables bridge t.parcel.isV4
      rw [packet, innerParcel_tunnel ethernet (types type)]
      rw [holds]
      exact ⟨_, rfl, ⟨same.ihl, same.totalLen, same.protocol, same.other⟩⟩
  have outward {t : TunnelPacket} (outbound : form.inbound = false) (held : passage.frame.tunnel = some t)
      (holds : t.parcel = .v4 ip payload) : ∃ after,
        (if delivery.directSend = matchPacket then plainParcel delivery.packet else innerParcel delivery.packet) =
          some (.v4 after payload) ∧ Ipv4.Translated false ip after := by
    obtain ⟨_, _, tunnels, _⟩ := passage.frame.tunnel_bears passage.fits default held
    obtain ⟨own, ⟨t', chosen, redirected, ethernet, packet⟩ | ⟨_, matched⟩⟩ :=
      Passage.outbound_outcome known outbound held sent
    · have kept : t'.parcel = (t.snat passage.tables).parcel ∧ t'.ethernet = t.ethernet := by
        obtain ⟨action, _, rfl⟩ := Option.map_eq_some_iff.mp chosen
        cases action <;> exact ⟨rfl, rfl⟩
      have framed : (t'.stamp false).ethernet.etherType = (t'.stamp false).parcel.etherType := by
        change t'.ethernet.etherType = t'.parcel.etherType
        rw [kept.1, kept.2]
        exact (tunnels.snat passage.tables).type
      have parcel : (t'.stamp false).parcel = (t.snat passage.tables).parcel := kept.1
      rw [if_neg (by rw [redirected]; decide), packet, innerParcel_tunnel ethernet framed, parcel, TunnelPacket.snat,
        holds]
      exact ⟨_, rfl, ⟨rfl, rfl, rfl, rfl⟩⟩
    · obtain ⟨ethernet, family, packet⟩ := Passage.outbound_stripped known outbound held sent matched
      have framed : ethernet.etherType = (t.snat passage.tables).parcel.update.etherType := by
        rw [family]
        cases (t.snat passage.tables).parcel <;> rfl
      rw [if_pos matched, packet, plainParcel_frame framed, TunnelPacket.snat, holds]
      exact ⟨_, rfl, ⟨rfl, rfl, rfl, rfl⟩⟩
  cases form with
  | direct =>
      obtain ⟨parcel, held, _, entering⟩ := Passage.entering_direct known
      obtain rfl := Option.some.inj (held.symm.trans carried)
      exact inward rfl entering (wrap_tunnels _ _).type rfl ⟨rfl, rfl, rfl, rfl⟩
  | redirectedIn =>
      obtain ⟨t, held, holds⟩ := Option.map_eq_some_iff.mp carried
      obtain ⟨_, _, tunnels, _⟩ := passage.frame.tunnel_bears passage.fits default held
      have entering : passage.entering = some t := by
        rw [Passage.entering, known]
        exact held
      exact inward rfl entering tunnels.type holds ⟨rfl, rfl, rfl, rfl⟩
  | firstHop =>
      obtain ⟨t, held, holds⟩ := Option.map_eq_some_iff.mp carried
      obtain ⟨after, emitted, translated⟩ := outward rfl held holds
      exact ⟨after, (by simpa [TranslatedVisit.emitted, Form.inbound] using emitted), translated⟩
  | redirectedOut =>
      obtain ⟨t, held, holds⟩ := Option.map_eq_some_iff.mp carried
      obtain ⟨after, emitted, translated⟩ := outward rfl held holds
      exact ⟨after, (by simpa [TranslatedVisit.emitted, Form.inbound] using emitted), translated⟩

/-- A transport checksum that came correct leaves correct when the translation keeps the sum of the addresses. -/
theorem sound_iff : ∃ after, v.emitted = some (.v4 after v.payload) ∧
    Ipv4.Translated v.form.inbound v.ip after ∧ (TransportSound v.ip v.payload →
      (TransportSound after v.payload ↔
        Unchecked v.ip v.payload ∨ total after.addressWords % 65535 = total v.ip.addressWords % 65535)) := by
  obtain ⟨after, emitted, translated⟩ := v.emits
  exact ⟨after, emitted, translated, transportSound_iff translated⟩

end TranslatedVisit

/-- A UDP datagram without data, with a correct checksum -/
def datagramHeader : Ipv4 := { plainHeader with protocol := ipProtocolsUdp, totalLen := 28 }

def datagram : Udp := ⟨1, 2, 8, 0xebd8⟩

def datagramFrame : Frame := .ipv4 ⟨1, 2, etherTypeIpv4⟩ datagramHeader (.udp datagram [])

theorem datagramFrame_fits : datagramFrame.Fits :=
  ⟨rfl, ⟨rfl, rfl, rfl⟩, fun tunnel => absurd tunnel.2 (by decide)⟩

theorem datagram_sound : TransportSound datagramHeader (Udp.codec.encode datagram ++ []) := by
  refine .udp rfl datagram [] rfl (.inr ⟨by decide, [1, 2, 8, 0xebd8], ?_, ?_⟩)
  · decide +kernel
  · decide +kernel

/-- The datagram goes to an address with this translation. -/
def datagramPassage (translation : Option (BitVec 32)) : Passage :=
  smallPassage { locatedTables with fipDnat := fun _ => translation } (fun _ => rfl) datagramFrame
    datagramFrame_fits (.inl rfl)

/-- The translation of its destination spoils the checksum of the datagram. -/
theorem not_transportSound_datagram : ∃ v : TranslatedVisit, v.passage = datagramPassage (some 0x0a000009) ∧
    v.ip.fragOffset = 0 ∧ v.ip.flags = 0 ∧ TransportSound v.ip v.payload ∧
    ∃ after, v.emitted = some (.v4 after v.payload) ∧ ¬ TransportSound after v.payload := by
  have direct : (datagramPassage (some 0x0a000009)).form = some .direct := by decide +kernel
  have run : (((datagramPassage (some 0x0a000009)).visit.value.bind fun delivery =>
      innerParcel delivery.packet).bind Parcel.ipv4).map (fun after => total after.addressWords % 65535) =
        some 5130 := by decide +kernel
  obtain ⟨changed, header, sum⟩ := Option.map_eq_some_iff.mp run
  obtain ⟨parcel, inner, header⟩ := Option.bind_eq_some_iff.mp header
  obtain ⟨delivery, sent, inner⟩ := Option.bind_eq_some_iff.mp inner
  let v : TranslatedVisit :=
    ⟨_, .direct, direct, datagramHeader, Udp.codec.encode datagram ++ [], rfl, delivery, sent⟩
  obtain ⟨after, emitted, translated⟩ := v.emits
  refine ⟨v, rfl, rfl, rfl, datagram_sound, after, emitted, fun sound => ?_⟩
  have same : parcel = .v4 after (Udp.codec.encode datagram ++ []) :=
    Option.some.inj (inner.symm.trans emitted)
  rw [same] at header
  obtain rfl := Option.some.inj header
  rcases (transportSound_iff translated datagram_sound).mp sound with ⟨_, header, behind, shape, zero⟩ | balanced
  · obtain ⟨rfl, _⟩ := Udp.codec.encode_append_inj.mp shape
    exact absurd zero (by decide)
  · have before : total datagramHeader.addressWords % 65535 = 5123 := by decide
    exact absurd (sum.symm.trans (balanced.trans before)) (by decide)

end IgwP4.Dataplane
