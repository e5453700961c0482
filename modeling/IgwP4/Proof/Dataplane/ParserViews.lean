/-
This file describes as plain data what the parsers read, from the inside of a packet outwards.
-/

import IgwP4.Construction.Dataplane.Parsers
import Mathlib.Tactic.IntervalCases

namespace IgwP4.Dataplane
open Packet

/-- The inner transport header, when a parser reads one -/
inductive Transport where
  | unread
  | tcp (tcp : Tcp)
  | udp (udp : Udp)

namespace Transport

def encode : Transport → Bits
  | .unread => []
  | .tcp h => Tcp.codec.encode h
  | .udp h => Udp.codec.encode h

/-- A first fragment of TCP or UDP has its transport header read. -/
def Fits (protocol : BitVec 8) (first : Prop) : Transport → Prop
  | .unread => ¬ ((protocol = ipProtocolsTcp ∨ protocol = ipProtocolsUdp) ∧ first)
  | .tcp _ => protocol = ipProtocolsTcp ∧ first
  | .udp _ => protocol = ipProtocolsUdp ∧ first

def place : Transport → ParserState → ParserState
  | .unread, s => s
  | .tcp h, s => { s with
      hdr.innerTcp := ⟨true, h⟩
      metadata.l3 := { s.metadata.l3 with lkpL4Sport := h.srcPort, lkpL4Dport := h.dstPort } }
  | .udp h, s => { s with
      hdr.innerUdp := ⟨true, h⟩
      metadata.l3 := { s.metadata.l3 with lkpL4Sport := h.srcPort, lkpL4Dport := h.dstPort } }

end Transport

/-- Everything behind an inner IP header -/
structure Tail where
  words : List OptionWord
  transport : Transport
  rest : Bits

namespace Tail

def bits (tail : Tail) : Bits :=
  Headers.emitOptions tail.words ++ (tail.transport.encode ++ tail.rest)

/-- A header length below five words stops the parser at the inner IPv4 header. -/
def FitsV4 (tail : Tail) (ip : Ipv4) : Prop :=
  if ip.ihl.toNat < 5 then tail.words = [] ∧ tail.transport = .unread
  else tail.words.length = ip.ihl.toNat - 5 ∧
    tail.transport.Fits ip.protocol (ip.fragOffset = 0)

def FitsV6 (tail : Tail) (ip : Ipv6) : Prop :=
  tail.words = [] ∧ tail.transport.Fits ip.nextHdr True

/-- The egress parsers leave everything behind the inner IP header unread. -/
def Bare (tail : Tail) : Prop := tail.words = [] ∧ tail.transport = .unread

def place (tail : Tail) (s : ParserState) : ParserState :=
  tail.transport.place { s with
    hdr.innerOptionWords := s.hdr.innerOptionWords ++ tail.words
    pkt := tail.rest }

end Tail

theorem parseInnerTcp_eq_some_iff (s t : ParserState) :
    parseInnerTcp s = some t ↔ ∃ h rest, s.pkt = Tcp.codec.encode h ++ rest ∧
      t = Transport.place (.tcp h) { s with pkt := rest } := by
  simp only [parseInnerTcp, Option.bind_eq_bind, Option.bind_eq_some_iff,
    ParserState.extract_eq_some_iff]
  constructor
  · rintro ⟨_, ⟨h, rest, shape, rfl⟩, found⟩
    exact ⟨h, rest, shape, (Option.some.inj found).symm⟩
  · rintro ⟨h, rest, shape, rfl⟩
    exact ⟨_, ⟨h, rest, shape, rfl⟩, rfl⟩

theorem parseInnerUdp_eq_some_iff (s t : ParserState) :
    parseInnerUdp s = some t ↔ ∃ h rest, s.pkt = Udp.codec.encode h ++ rest ∧
      t = Transport.place (.udp h) { s with pkt := rest } := by
  simp only [parseInnerUdp, Option.bind_eq_bind, Option.bind_eq_some_iff,
    ParserState.extract_eq_some_iff]
  constructor
  · rintro ⟨_, ⟨h, rest, shape, rfl⟩, found⟩
    exact ⟨h, rest, shape, (Option.some.inj found).symm⟩
  · rintro ⟨h, rest, shape, rfl⟩
    exact ⟨_, ⟨h, rest, shape, rfl⟩, rfl⟩

/-- The selection on the inner protocol reads the transport header that fits. -/
theorem selectTransport_eq_some_iff (protocol : BitVec 8) (first : Prop) [Decidable first]
    (s t : ParserState) :
    (if protocol = ipProtocolsTcp ∧ first then parseInnerTcp s
      else if protocol = ipProtocolsUdp ∧ first then parseInnerUdp s else some s) = some t ↔
    ∃ transport : Transport, ∃ rest, transport.Fits protocol first ∧
      s.pkt = transport.encode ++ rest ∧ t = transport.place { s with pkt := rest } := by
  constructor
  · intro found
    split at found
    · rename_i isTcp
      obtain ⟨h, rest, shape, rfl⟩ := (parseInnerTcp_eq_some_iff s t).mp found
      exact ⟨.tcp h, rest, isTcp, shape, rfl⟩
    · rename_i notTcp
      split at found
      · rename_i isUdp
        obtain ⟨h, rest, shape, rfl⟩ := (parseInnerUdp_eq_some_iff s t).mp found
        exact ⟨.udp h, rest, isUdp, shape, rfl⟩
      · rename_i notUdp
        refine ⟨.unread, s.pkt, ?_, rfl, (Option.some.inj found).symm⟩
        rintro ⟨isTcp | isUdp, isFirst⟩
        · exact notTcp ⟨isTcp, isFirst⟩
        · exact notUdp ⟨isUdp, isFirst⟩
  · rintro ⟨transport, rest, fits, shape, rfl⟩
    cases transport with
    | unread =>
        change ¬ ((protocol = ipProtocolsTcp ∨ protocol = ipProtocolsUdp) ∧ first) at fits
        rw [if_neg (fun h => fits ⟨.inl h.1, h.2⟩), if_neg (fun h => fits ⟨.inr h.1, h.2⟩)]
        change s.pkt = rest at shape
        rw [← shape]
        rfl
    | tcp h =>
        rw [if_pos (show protocol = ipProtocolsTcp ∧ first from fits)]
        exact (parseInnerTcp_eq_some_iff s _).mpr ⟨h, rest, shape, rfl⟩
    | udp h =>
        have notTcp : ¬ (protocol = ipProtocolsTcp ∧ first) := by
          rintro ⟨isTcp, _⟩
          exact absurd (isTcp.symm.trans fits.1) (by decide)
        rw [if_neg notTcp, if_pos (show protocol = ipProtocolsUdp ∧ first from fits)]
        exact (parseInnerUdp_eq_some_iff s _).mpr ⟨h, rest, shape, rfl⟩

/-- IPv6 has no fragments to look at. -/
theorem selectWhole_eq_some_iff (protocol : BitVec 8) (s t : ParserState) :
    (if protocol = ipProtocolsTcp then parseInnerTcp s
      else if protocol = ipProtocolsUdp then parseInnerUdp s else some s) = some t ↔
    ∃ transport : Transport, ∃ rest, transport.Fits protocol True ∧
      s.pkt = transport.encode ++ rest ∧ t = transport.place { s with pkt := rest } := by
  rw [← selectTransport_eq_some_iff]
  simp only [and_true]

theorem emitOptions_cons (word : OptionWord) (words : List OptionWord) :
    Headers.emitOptions (word :: words) =
      OptionWord.codec.encode word ++ Headers.emitOptions words := rfl

/-- The option states read exactly their number of words. -/
theorem innerOptionsState_eq_some_iff (count : Nat) (s t : ParserState) :
    innerOptionsState count s = some t ↔ ∃ tail : Tail, tail.words.length = count ∧
      tail.transport.Fits s.hdr.innerIpv4.fields.protocol (s.hdr.innerIpv4.fields.fragOffset = 0) ∧
      s.pkt = tail.bits ∧ t = tail.place s := by
  induction count generalizing s with
  | zero =>
      change parseInnerIpv4NoInnerOptions s = some t ↔ _
      rw [parseInnerIpv4NoInnerOptions, selectTransport_eq_some_iff]
      constructor
      · rintro ⟨transport, rest, fits, shape, rfl⟩
        refine ⟨⟨[], transport, rest⟩, rfl, fits, shape, ?_⟩
        simp only [Tail.place, List.append_nil]
      · rintro ⟨⟨words, transport, rest⟩, none, fits, shape, rfl⟩
        obtain rfl := List.length_eq_zero_iff.mp none
        refine ⟨transport, rest, fits, shape, ?_⟩
        simp only [Tail.place, List.append_nil]
  | succ count ih =>
      rw [innerOptionsState]
      simp only [Option.bind_eq_bind, Option.bind_eq_some_iff, ParserState.extract_eq_some_iff, ih]
      constructor
      · rintro ⟨_, ⟨word, rest, shape, rfl⟩, ⟨words, transport, after⟩, length, fits, inside, rfl⟩
        refine ⟨⟨word :: words, transport, after⟩, congrArg (· + 1) length, fits, ?_, ?_⟩
        · change rest = _ at inside
          rw [shape, inside, Tail.bits, Tail.bits, emitOptions_cons, List.append_assoc]
        · simp only [Tail.place, List.append_assoc, List.singleton_append]
      · rintro ⟨⟨words, transport, after⟩, length, fits, shape, rfl⟩
        cases words with
        | nil => exact absurd length (by simp)
        | cons word words =>
            refine ⟨_, ⟨word, Tail.bits ⟨words, transport, after⟩, ?_, rfl⟩,
              ⟨words, transport, after⟩, Nat.succ.inj length, fits, rfl, ?_⟩
            · rw [shape, Tail.bits, Tail.bits, emitOptions_cons, List.append_assoc]
            · simp only [Tail.place, List.append_assoc, List.singleton_append]

/-- The selection on the header length enters the option state of that length. -/
theorem parseInnerIpv4_eq (s : ParserState) :
    parseInnerIpv4 s =
      (s.extract Ipv4.codec fun hdr innerIpv4 => { hdr with innerIpv4 }).bind fun r =>
        let r := { r with metadata.l3.lkpIpProto := r.hdr.innerIpv4.fields.protocol }
        if r.hdr.innerIpv4.fields.ihl.toNat < 5 then some r
        else innerOptionsState (r.hdr.innerIpv4.fields.ihl.toNat - 5) r := by
  unfold parseInnerIpv4
  apply congrArg (Option.bind _)
  funext r
  have bound := r.hdr.innerIpv4.fields.ihl.isLt
  dsimp only
  generalize r.hdr.innerIpv4.fields.ihl.toNat = length at bound
  interval_cases length <;> rfl

/-- The ingress state reads an inner IPv4 header and the tail that fits it. -/
theorem parseInnerIpv4_eq_some_iff (s t : ParserState) :
    parseInnerIpv4 s = some t ↔ ∃ ip, ∃ tail : Tail, tail.FitsV4 ip ∧
      s.pkt = Ipv4.codec.encode ip ++ tail.bits ∧
      t = tail.place { s with
        hdr.innerIpv4 := ⟨true, ip⟩, metadata.l3.lkpIpProto := ip.protocol } := by
  simp only [parseInnerIpv4_eq, Option.bind_eq_some_iff, ParserState.extract_eq_some_iff]
  constructor
  · rintro ⟨_, ⟨ip, rest, shape, rfl⟩, found⟩
    split at found
    · rename_i short
      refine ⟨ip, ⟨[], .unread, rest⟩, ?_, shape, ?_⟩
      · rw [Tail.FitsV4, if_pos short]
        exact ⟨rfl, rfl⟩
      · rw [← Option.some.inj found]
        simp only [Tail.place, Transport.place, List.append_nil]
    · rename_i long
      obtain ⟨tail, length, fits, inside, rfl⟩ := (innerOptionsState_eq_some_iff _ _ _).mp found
      refine ⟨ip, tail, ?_, ?_, rfl⟩
      · rw [Tail.FitsV4, if_neg long]
        exact ⟨length, fits⟩
      · change rest = tail.bits at inside
        rw [shape, inside]
  · rintro ⟨ip, tail, fits, shape, rfl⟩
    refine ⟨_, ⟨ip, tail.bits, shape, rfl⟩, ?_⟩
    rw [Tail.FitsV4] at fits
    split at fits
    · rename_i short
      obtain ⟨words, transport, rest⟩ := tail
      obtain ⟨rfl, rfl⟩ := fits
      rw [if_pos short]
      simp only [Tail.place, Transport.place, List.append_nil]
      rfl
    · rename_i long
      rw [if_neg long]
      exact (innerOptionsState_eq_some_iff _ _ _).mpr ⟨tail, fits.1, fits.2, rfl, rfl⟩

/-- The ingress state reads an inner IPv6 header and the transport that fits it. -/
theorem parseInnerIpv6_eq_some_iff (s t : ParserState) :
    parseInnerIpv6 s = some t ↔ ∃ ip, ∃ tail : Tail, tail.FitsV6 ip ∧
      s.pkt = Ipv6.codec.encode ip ++ tail.bits ∧
      t = tail.place { s with
        hdr.innerIpv6 := ⟨true, ip⟩, metadata.l3.lkpIpProto := ip.nextHdr } := by
  simp only [parseInnerIpv6, Option.bind_eq_bind, Option.bind_eq_some_iff,
    ParserState.extract_eq_some_iff, selectWhole_eq_some_iff]
  constructor
  · rintro ⟨_, ⟨ip, rest, shape, rfl⟩, transport, after, fits, inside, rfl⟩
    refine ⟨ip, ⟨[], transport, after⟩, ⟨rfl, fits⟩, ?_, ?_⟩
    · change rest = _ at inside
      rw [shape, inside]
      rfl
    · simp only [Tail.place, List.append_nil]
  · rintro ⟨ip, ⟨words, transport, rest⟩, ⟨none, fits⟩, shape, rfl⟩
    obtain rfl : words = [] := none
    refine ⟨_, ⟨ip, transport.encode ++ rest, shape, rfl⟩, transport, rest, fits, rfl, ?_⟩
    simp only [Tail.place, List.append_nil]

end IgwP4.Dataplane
