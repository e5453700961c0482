/-
This file shows that a direct packet comes back from the encapsulation with its own headers.
-/

import IgwP4.Proof.Dataplane.InboundPasses
import IgwP4.Proof.Dataplane.P02IngressPasses
import IgwP4.Proof.Dataplane.WholePackets

namespace IgwP4.Dataplane
open Packet

/-- An inbound frame with an IP EtherType that the classifier does not take for a redirected one -/
structure DirectArrival where
  tables : Tables
  around : VisitSurroundings
  port : BitVec 9
  bits : Bits
  parsed : ParserState
  treatment : Treatment
  accepted : P02IngressParser.parse around.p02Ingress.containers bits = some parsed
  treated : P02Ingress.Treated tables around.p02Ingress.fresh (ingressStart around.p02Ingress port parsed)
    treatment
  inbound : treatment.igrTunnelType = typeIngressInternetIn
  direct : treatment.dlPkt = 0
  etherType : parsed.hdr.ethernet.fields.etherType = etherTypeIpv4 ∨
    parsed.hdr.ethernet.fields.etherType = etherTypeIpv6

namespace DirectArrival

/-- The first pipe sends this packet to an internal pipe. -/
def sent (a : DirectArrival) : Bits :=
  P02Ingress.deparse (P02Ingress.apply a.tables a.around.p02Ingress.fresh
    (ingressStart a.around.p02Ingress a.port a.parsed)) ++ a.parsed.pkt

/-- The internal pipe has read the packet and looked up its addresses. -/
def entering (a : DirectArrival) (internalPort : BitVec 9) (entered : ParserState) : EgressState :=
  P13Egress.decapMetaDataI2E13 (egressStart a.around.p13Egress internalPort entered)

/-- The internal pipe sends this packet back to itself. -/
def looped (a : DirectArrival) (internalPort : BitVec 9) (entered : ParserState) : Bits :=
  P13Egress.deparse (P13Egress.apply a.tables a.around.p13Egress.fresh
    (egressStart a.around.p13Egress internalPort entered)) ++ entered.pkt

/-- One entry of `encap_outer` is hit, and the packet stands unchanged behind the inner Ethernet header. -/
structure Encapsulates (a : DirectArrival) (internalPort : BitVec 9) (entered : ParserState)
    (bgMd : BridgeMetadata) (t : TunnelPacket) (parcel : Parcel) : Prop where
  frame : a.bits = Ethernet.codec.encode a.parsed.hdr.ethernet.fields ++ parcel.bits
  family : parcel.etherType = a.parsed.hdr.ethernet.fields.etherType
  read : P13EgressParser.parse a.around.p13Egress.containers a.sent = some entered
  once : P13Egress.encapOuterEntries.count (P13Egress.encapOuterKey (a.entering internalPort entered).hdr) = 1
  sent : a.looped internalPort entered = BridgeMetadata.codec.encode bgMd ++ t.bits
  ethernet : t.ethernet.etherType = parcel.etherType
  parcel : t.parcel = parcel.uncheck a.around.p13Egress.fresh.innerIpv4.fields

/-- The second internal parser finds the fields of the original packet in the inner headers. -/
structure Returns (a : DirectArrival) (packet : Bits) (parcel : Parcel) (tail : Tail) (r : ParserState) :
    Prop where
  accepted : P13IngressParser.parse a.around.p13Ingress.containers packet = some r
  ends : parcel.Ends tail
  inner : r.hdr.BearsParcel r.pkt (parcel.uncheck a.around.p13Egress.fresh.innerIpv4.fields)
  reads : r.Reads tail

/-- The encapsulation of the packet is read back. -/
def RoundTrips (a : DirectArrival) (internalPort : BitVec 9) : Prop :=
  ∃ entered bgMd t parcel tail r, a.Encapsulates internalPort entered bgMd t parcel ∧
    a.Returns (a.looped internalPort entered) parcel tail r

end DirectArrival

namespace Parcel

/-- The checksum does not take part in the reading of a packet. -/
theorem uncheck_ends (contents : Ipv4) (parcel : Parcel) (tail : Tail) :
    (parcel.uncheck contents).Ends tail ↔ parcel.Ends tail := by
  cases parcel <;> exact Iff.rfl

theorem uncheck_whole (contents : Ipv4) (parcel : Parcel) : (parcel.uncheck contents).Whole ↔ parcel.Whole := by
  simp only [Whole, uncheck_ends]

end Parcel

/-- Without options in its outer IPv4 header the first parser has read the packet whole. -/
theorem Frame.whole_of_fits {frame : Frame} (fits : frame.Fits) {parcel : Parcel}
    (carried : frame.parcel = some parcel) :
    parcel.Whole ∨ ∃ ip payload, parcel = .v4 ip payload ∧ 5 < ip.ihl.toNat := by
  cases frame with
  | ipv6 ethernet ip transport rest =>
      obtain rfl := Option.some.inj carried
      exact .inl ⟨⟨[], transport, rest⟩, ⟨rfl, fits.2⟩, rfl⟩
  | ipv4 ethernet ip outer =>
      obtain rfl := Option.some.inj carried
      have fits := fits.2
      rcases Nat.lt_trichotomy ip.ihl.toNat 5 with short | five | long
      · refine .inl ⟨⟨[], .unread, outer.bits⟩, ⟨?_, rfl⟩⟩
        rw [Tail.FitsV4, if_pos short]
        exact ⟨rfl, rfl⟩
      · have length : ip.ihl = 5 := BitVec.eq_of_toNat_eq five
        have read (transport : Transport) (rest : Bits) (bits : outer.bits = transport.encode ++ rest)
            (reads : transport.Fits ip.protocol (ip.fragOffset = 0)) : (Parcel.v4 ip outer.bits).Whole := by
          refine ⟨⟨[], transport, rest⟩, ⟨?_, bits⟩⟩
          rw [Tail.FitsV4, if_neg (by omega)]
          exact ⟨by rw [five]; rfl, reads⟩
        have selected (protocol : BitVec 8) (fields : ip.protocol = protocol ∧ ip.fragOffset = 0) :
            ip.selects protocol := ⟨fields.1, length, fields.2⟩
        refine .inl ?_
        cases outer with
        | unread rest =>
            refine read .unread rest rfl ?_
            rintro ⟨tcp | udp, first⟩
            · exact fits.2.1 (selected _ ⟨tcp, first⟩)
            · exact fits.2.2 (selected _ ⟨udp, first⟩)
        | icmp h rest =>
            refine read .unread (Icmp.codec.encode h ++ rest) rfl ?_
            rintro ⟨tcp | udp, _⟩
            · exact absurd (fits.2.1.symm.trans tcp) (by decide)
            · exact absurd (fits.2.1.symm.trans udp) (by decide)
        | tcp h rest => exact read (.tcp h) rest rfl ⟨fits.1, fits.2.2⟩
        | udp h rest => exact read (.udp h) rest rfl ⟨fits.1.1, fits.1.2.2⟩
        | overlay o => exact read (.udp o.udp) _ rfl ⟨fits.1.1, fits.1.2.2⟩
      · exact .inr ⟨ip, outer.bits, rfl, long⟩
  | _ => contradiction

namespace DirectArrival

variable (a : DirectArrival)

/-- The frame of an arrival has an IP packet behind its Ethernet header. -/
theorem exists_frame : ∃ frame : Frame, ∃ parcel, frame.Fits ∧ a.bits = frame.bits ∧
    a.parsed = frame.state a.around.p02Ingress.containers ∧ frame.parcel = some parcel ∧
    parcel.etherType = a.parsed.hdr.ethernet.fields.etherType := by
  obtain ⟨frame, fits, bits, parsed⟩ := (P02IngressParser.parse_eq_some_iff _ _ _).mp a.accepted
  have ethernet : a.parsed.hdr.ethernet.fields = frame.ethernet := by
    rw [parsed, frame.state_ethernet]
  have etherType := a.etherType
  rw [ethernet] at etherType ⊢
  obtain ⟨parcel, carried, family⟩ := Frame.exists_parcel fits etherType
  exact ⟨frame, parcel, fits, bits, parsed, carried, family⟩

/-- Every direct packet is encapsulated, redirected or not. -/
theorem encapsulates (internalPort : BitVec 9) : ∃ entered bgMd t parcel,
    a.Encapsulates internalPort entered bgMd t parcel ∧ bgMd.Bridges etherTypeIpv4 ∧ t.Tunnels ∧
      (parcel.Whole ∨ ∃ ip payload, parcel = .v4 ip payload ∧ 5 < ip.ihl.toNat) := by
  obtain ⟨frame, parcel, fits, bits, parsed, carried, family⟩ := a.exists_frame
  obtain ⟨assigned, metadata, dropCtl, mirrorType, events, haveSharedBd, flow, applied, _⟩ :=
    a.treated.apply_inbound a.inbound
  let bgMd := P02Ingress.bridged a.port a.parsed.hdr.ethernet.fields.etherType (P02Ingress.classifiedBridge
    a.around.p02Ingress.fresh (ingressStart a.around.p02Ingress a.port a.parsed) a.treatment)
  have sent : a.sent = BridgeMetadata.codec.encode bgMd ++ parcel.bits := by
    rw [DirectArrival.sent, applied, ← Frame.body_of_parcel carried, ← frame.emit_bridged fits]
    change ({ a.parsed.hdr with
      bgMd := ⟨true, bgMd⟩, ethernet := a.parsed.hdr.ethernet.setInvalid } : Headers).emit ++ a.parsed.pkt = _
    rw [parsed]
  have bridges : bgMd.Bridges parcel.etherType := by
    rw [family]
    exact P02Ingress.bridged_bridges _ _ _
  have matched : bgMd.tunnelDirectSend = matchPacket := assigned.tunnelDirectSend
  obtain ⟨entered, read, reads⟩ := P13EgressParser.parse_parcel a.around.p13Egress.containers fits carried
    bridges a.direct
  obtain ⟨holds, _⟩ := P13Egress.apply_direct a.tables a.around.p13Egress.fresh a.around.p13Egress
    internalPort reads a.direct matched
  obtain ⟨l3, looked⟩ := P13Egress.decapMetaDataI2E13_direct
    (egressStart a.around.p13Egress internalPort entered) reads.plain
  rw [bridges.outerEthernetType] at holds
  obtain ⟨ethernet, inner, tunnels⟩ := TunnelPacket.redirectIn_kept a.tables (P13Egress.enveloped bgMd parcel)
    (wrap a.around.p13Egress.fresh parcel.etherType parcel)
  refine ⟨entered, _, _, parcel, ⟨?_, family, ?_, ?_, holds.deparse, ?_, inner⟩, ?_, tunnels (wrap_tunnels _ _),
    Frame.whole_of_fits fits carried⟩
  · rw [bits, Frame.bits, Frame.body_of_parcel carried, parsed, frame.state_ethernet]
  · rw [sent, read]
  · rw [DirectArrival.entering, looked]
    change P13Egress.encapOuterEntries.count (P13Egress.encapOuterKey entered.hdr) = 1
    exact P13Egress.encapOuter_hits reads.plain
  · rw [ethernet]
    rfl
  · refine BridgeMetadata.police_bridges _ _ ?_
    cases parcel <;> exact ⟨bridges.proto, rfl, bridges.outerEthernetInvalid⟩

/-- What comes back is read whole, or not at all. -/
theorem returns {internalPort : BitVec 9} {entered : ParserState} {bgMd : BridgeMetadata} {t : TunnelPacket}
    {parcel : Parcel} (encapsulates : a.Encapsulates internalPort entered bgMd t parcel)
    (bridges : bgMd.Bridges etherTypeIpv4) (tunnels : t.Tunnels) (r : ParserState) :
    P13IngressParser.parse a.around.p13Ingress.containers (a.looped internalPort entered) = some r ↔
      ∃ tail, a.Returns (a.looped internalPort entered) parcel tail r := by
  constructor
  · intro accepted
    have found := accepted
    rw [encapsulates.sent] at found
    obtain ⟨tail, ends, rfl⟩ := (P13IngressParser.parse_tunnel _ bridges tunnels r).mp found
    have carries := P13IngressParser.tunnelState_carries a.around.p13Ingress.containers bridges tunnels ends
    have bears := carries.bears.parcel
    rw [encapsulates.parcel] at ends bears
    exact ⟨tail, accepted, (Parcel.uncheck_ends _ _ _).mp ends, bears,
      P13IngressParser.tunnelState_reads _ _ _ _⟩
  · rintro ⟨tail, back⟩
    exact back.accepted

/--
Every direct frame is encapsulated by one entry and stands unchanged behind the inner Ethernet header, and
the second internal parser reads it back with its own fields, redirected or not. Only a frame whose
outer IPv4 header announces more than the frame holds is rejected there.
-/
theorem round_trips (a : DirectArrival) (internalPort : BitVec 9) : ∃ entered bgMd t parcel,
    a.Encapsulates internalPort entered bgMd t parcel ∧
      (parcel.Whole ∨ ∃ ip payload, parcel = .v4 ip payload ∧ 5 < ip.ihl.toNat) ∧
      (parcel.Whole → ∃ tail r, a.Returns (a.looped internalPort entered) parcel tail r) ∧
      (¬ parcel.Whole →
        P13IngressParser.parse a.around.p13Ingress.containers (a.looped internalPort entered) = none) := by
  obtain ⟨entered, bgMd, t, parcel, encapsulates, bridges, tunnels, lengths⟩ := a.encapsulates internalPort
  refine ⟨entered, bgMd, t, parcel, encapsulates, lengths, ?_, ?_⟩
  · intro whole
    obtain ⟨tail, ends⟩ := (Parcel.uncheck_whole a.around.p13Egress.fresh.innerIpv4.fields parcel).mpr whole
    have accepted := (P13IngressParser.parse_tunnel a.around.p13Ingress.containers bridges tunnels _).mpr
      ⟨tail, (encapsulates.parcel ▸ ends : t.parcel.Ends tail), rfl⟩
    rw [← encapsulates.sent] at accepted
    obtain ⟨tail, back⟩ := (a.returns encapsulates bridges tunnels _).mp accepted
    exact ⟨tail, _, back⟩
  · intro partly
    rw [Option.eq_none_iff_forall_not_mem]
    intro r accepted
    obtain ⟨tail, back⟩ := (a.returns encapsulates bridges tunnels r).mp accepted
    exact partly ⟨tail, back.ends⟩

end DirectArrival

/-- An IPv4 packet of twenty bytes whose header announces sixty -/
def cutFrame : Frame :=
  .ipv4 ⟨0, 0, etherTypeIpv4⟩ { (default : Ipv4) with version := 4, ihl := 15, totalLen := 60 } (.unread [])

theorem cutFrame_fits : cutFrame.Fits :=
  ⟨rfl, fun h => absurd h.2.2.1 (by decide), fun h => absurd h.2.1 (by decide), fun h => absurd h.2.1 (by decide)⟩

def cutArrival : DirectArrival where
  tables := { Tables.empty with igwIpType := fun _ => some (.ipFromInternetInHit egrPipeline1) }
  around := default
  port := 0
  bits := cutFrame.bits
  parsed := cutFrame.state default
  treatment := ⟨typeIngressInternetIn, 0, egrPipeline1⟩
  accepted := (P02IngressParser.parse_eq_some_iff _ _ _).mpr ⟨cutFrame, cutFrame_fits, rfl, rfl⟩
  treated := ⟨cutFrame.wellShaped default, rfl, fun punted => punted rfl, rfl⟩
  inbound := rfl
  direct := rfl
  etherType := .inl rfl

/-- The packet is encapsulated and lost in the next parser. -/
theorem not_roundTrips_cut : (∃ entered,
    P13EgressParser.parse cutArrival.around.p13Egress.containers cutArrival.sent = some entered ∧
      P13IngressParser.parse cutArrival.around.p13Ingress.containers (cutArrival.looped 128 entered) = none) ∧
    ¬ cutArrival.RoundTrips 128 := by
  obtain ⟨entered, bgMd, t, parcel, encapsulates, bridges, tunnels, _⟩ := cutArrival.encapsulates 128
  have cut : parcel = .v4 { (default : Ipv4) with version := 4, ihl := 15, totalLen := 60 } [] := by
    have bits : cutFrame.bits = _ := encapsulates.frame
    exact (Parcel.bits_inj encapsulates.family (Ethernet.codec.encode_append_inj.mp bits.symm).2)
  have lost : P13IngressParser.parse cutArrival.around.p13Ingress.containers (cutArrival.looped 128 entered) =
      none := by
    rw [Option.eq_none_iff_forall_not_mem]
    intro r accepted
    obtain ⟨tail, back⟩ := (cutArrival.returns encapsulates bridges tunnels r).mp accepted
    obtain ⟨fits, payload⟩ := (cut ▸ back.ends : Parcel.Ends tail _)
    obtain ⟨words, transport, rest⟩ := tail
    have length : words.length = 10 := fits.1
    cases words with
    | nil => exact absurd length (by decide)
    | cons word words =>
        have size := congrArg List.length payload
        rw [Tail.bits, emitOptions_cons, List.append_assoc, List.length_append,
          OptionWord.codec.encode_length] at size
        have width : OptionWord.codec.width = 32 := rfl
        have empty : ([] : Bits).length = 0 := rfl
        omega
  refine ⟨⟨entered, encapsulates.read, lost⟩, ?_⟩
  rintro ⟨entered', bgMd', t', parcel', tail, r, again, back⟩
  obtain rfl : entered = entered' := Option.some.inj (encapsulates.read.symm.trans again.read)
  exact absurd (lost.symm.trans back.accepted) (Option.some_ne_none r).symm

end IgwP4.Dataplane
