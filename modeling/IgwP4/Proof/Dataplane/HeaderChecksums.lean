/-
This file shows for which IPv4 headers the checksum that the last deparser computes is correct.
-/

import IgwP4.Construction.Packet.Words
import IgwP4.Proof.Dataplane.CpuFrames
import IgwP4.Proof.Dataplane.P02EgressControls

namespace IgwP4.Dataplane
open Packet Checksum

namespace Ipv4

/-- The ten words of the twenty bytes -/
def words (ip : Ipv4) : List Word :=
  ip.checksumWords.take 5 ++ ip.hdrChecksum :: ip.checksumWords.drop 5

/-- The words that the header at the front of a packet announces, when the packet holds them all -/
def announced (bits : Bits) : Option (List Word) := do
  let (ip, _) ← Ipv4.codec.extract bits
  readWords (2 * ip.ihl.toNat) bits

/-- The sum over all `ihl * 4` bytes of the header at the front is correct. -/
def Checked (bits : Bits) : Prop := ∃ words, announced bits = some words ∧ verifies words

instance (bits : Bits) : Decidable (Checked bits) :=
  match found : announced bits with
  | none => .isFalse fun ⟨_, held, _⟩ => absurd (found.symm.trans held) (Option.some_ne_none _).symm
  | some words => decidable_of_iff (verifies words)
      ⟨fun correct => ⟨words, found, correct⟩,
        fun ⟨_, same, correct⟩ => Option.some.inj (found.symm.trans same) ▸ correct⟩

/-- The words by which the announced header differs from the twenty bytes of the computation -/
def stray (ip : Ipv4) (rest : Bits) : Option (List Word) :=
  if 5 ≤ ip.ihl.toNat then readWords (2 * (ip.ihl.toNat - 5)) rest
  else if 3 ≤ ip.ihl.toNat then some (ip.checksumWords.drop (2 * ip.ihl.toNat - 1))
  else if 1 ≤ ip.ihl.toNat then some (ip.checksumWords.take (2 * ip.ihl.toNat))
  else none

/-- These words are there and do not change the sum. -/
def Covered (ip : Ipv4) (rest : Bits) : Prop := ∃ words, ip.stray rest = some words ∧ Clear words

/-- A header without options is covered. -/
theorem covered_plain {ip : Ipv4} (plain : ip.ihl = 5) (rest : Bits) : ip.Covered rest := by
  refine ⟨[], ?_, rfl⟩
  rw [stray, plain]
  rfl

/-- The encoding of a header is the encoding of its words. -/
theorem encode_words (ip : Ipv4) : Ipv4.codec.encode ip = emitWords ip.words := by
  have first : (Codec.word 16).encode (ip.version ++ ip.ihl ++ ip.dscp ++ ip.ecn) =
      (Codec.word 4).encode ip.version ++ (Codec.word 4).encode ip.ihl ++ (Codec.word 6).encode ip.dscp ++
        (Codec.word 2).encode ip.ecn :=
    (Codec.word_append (ip.version ++ ip.ihl ++ ip.dscp) ip.ecn).trans
      (congrArg (· ++ _) ((Codec.word_append (ip.version ++ ip.ihl) ip.dscp).trans
        (congrArg (· ++ _) (Codec.word_append ip.version ip.ihl))))
  have fragment : (Codec.word 16).encode (ip.flags ++ ip.fragOffset) =
      (Codec.word 3).encode ip.flags ++ (Codec.word 13).encode ip.fragOffset :=
    Codec.word_append ip.flags ip.fragOffset
  have hop : (Codec.word 16).encode (ip.ttl ++ ip.protocol) =
      (Codec.word 8).encode ip.ttl ++ (Codec.word 8).encode ip.protocol :=
    Codec.word_append ip.ttl ip.protocol
  have opened : emitWords ip.words =
      (Codec.word 16).encode (ip.version ++ ip.ihl ++ ip.dscp ++ ip.ecn) ++
        ((Codec.word 16).encode ip.totalLen ++ ((Codec.word 16).encode ip.identification ++
          ((Codec.word 16).encode (ip.flags ++ ip.fragOffset) ++
            ((Codec.word 16).encode (ip.ttl ++ ip.protocol) ++ ((Codec.word 16).encode ip.hdrChecksum ++
              ((Codec.word 16).encode (ip.srcAddr.extractLsb' 16 16) ++
                ((Codec.word 16).encode (ip.srcAddr.extractLsb' 0 16) ++
                  ((Codec.word 16).encode (ip.dstAddr.extractLsb' 16 16) ++
                    ((Codec.word 16).encode (ip.dstAddr.extractLsb' 0 16) ++ []))))))))) := rfl
  have coded : Ipv4.codec.encode ip =
      (Codec.word 4).encode ip.version ++ ((Codec.word 4).encode ip.ihl ++
        ((Codec.word 6).encode ip.dscp ++ ((Codec.word 2).encode ip.ecn ++
          ((Codec.word 16).encode ip.totalLen ++ ((Codec.word 16).encode ip.identification ++
            ((Codec.word 3).encode ip.flags ++ ((Codec.word 13).encode ip.fragOffset ++
              ((Codec.word 8).encode ip.ttl ++ ((Codec.word 8).encode ip.protocol ++
                ((Codec.word 16).encode ip.hdrChecksum ++ ((Codec.word 32).encode ip.srcAddr ++
                  (Codec.word 32).encode ip.dstAddr))))))))))) := rfl
  rw [coded, opened, first, fragment, hop, Codec.word_split, Codec.word_split, List.append_nil]
  simp only [List.append_assoc]

/-- The computation clears the ten words of the header. -/
theorem update_clear (ip : Ipv4) : Clear ip.update.words := by
  have moved : ip.update.words.Perm (checksum ip.checksumWords :: ip.checksumWords) :=
    List.perm_middle.trans (.of_eq rfl)
  exact (clear_perm moved).mpr (clear_checksum _)

/-- A length that is not zero leaves the first word of the header not zero. -/
theorem first_ne_zero {ip : Ipv4} (long : 1 ≤ ip.ihl.toNat) :
    ip.version ++ ip.ihl ++ ip.dscp ++ ip.ecn ≠ (0 : BitVec (4 + 4 + 6 + 2)) := by
  intro zero
  have none : ip.ihl = 0 := by
    apply BitVec.eq_of_getLsbD_eq
    intro index inside
    have bit := congrArg (fun word => BitVec.getLsbD word (index + 6 + 2)) zero
    change (ip.version ++ ip.ihl ++ ip.dscp ++ ip.ecn).getLsbD (index + 6 + 2) =
      (0 : BitVec (4 + 4 + 6 + 2)).getLsbD (index + 6 + 2) at bit
    rw [BitVec.getLsbD_append, BitVec.getLsbD_append, BitVec.getLsbD_append] at bit
    simpa [inside] using bit
  rw [none] at long
  exact absurd long (by decide)

/-- The words that an emitted header announces start with the words of the header. -/
theorem announced_encode (ip : Ipv4) (rest : Bits) :
    announced (Ipv4.codec.encode ip ++ rest) = readWords (2 * ip.ihl.toNat) (emitWords ip.words ++ rest) := by
  rw [announced, Codec.extract_encode, ← encode_words]
  rfl

/-- A header of at least twenty bytes is correct when its option words are covered. -/
theorem checked_long {ip : Ipv4} (long : 5 ≤ ip.ihl.toNat) (rest : Bits) :
    Checked (Ipv4.codec.encode ip.update ++ rest) ↔ ip.Covered rest := by
  have count : 2 * ip.update.ihl.toNat = ip.update.words.length + 2 * (ip.ihl.toNat - 5) := by
    change 2 * ip.ihl.toNat = 10 + 2 * (ip.ihl.toNat - 5)
    omega
  have sum (options : List Word) : verifies (ip.update.words ++ options) ↔ Clear options :=
    (verifies_iff_clear (List.mem_append_left _ List.mem_cons_self)
      (@first_ne_zero ip.update (Nat.le_trans (by decide) long))).trans (clear_append ip.update_clear _)
  rw [Checked, announced_encode, count, readWords_append, Covered, stray, if_pos long]
  constructor
  · rintro ⟨words, found, correct⟩
    obtain ⟨options, inside, rfl⟩ := Option.map_eq_some_iff.mp found
    exact ⟨options, inside, (sum options).mp correct⟩
  · rintro ⟨options, inside, clear⟩
    exact ⟨_, Option.map_eq_some_iff.mpr ⟨options, inside, rfl⟩, (sum options).mpr clear⟩

/-- A shorter header is correct when the words it does not share with the twenty bytes are covered. -/
theorem checked_short {ip : Ipv4} (short : ip.ihl.toNat < 5) (rest : Bits) :
    Checked (Ipv4.codec.encode ip.update ++ rest) ↔ ip.Covered rest := by
  have inside : 2 * ip.update.ihl.toNat ≤ ip.update.words.length := by
    change 2 * ip.ihl.toNat ≤ 10
    omega
  have same : 2 * ip.update.ihl.toNat = 2 * ip.ihl.toNat := rfl
  have front : Checked (Ipv4.codec.encode ip.update ++ rest) ↔
      verifies (ip.update.words.take (2 * ip.ihl.toNat)) := by
    rw [Checked, announced_encode, readWords_take _ _ inside, same]
    simp only [Option.some.injEq, exists_eq_left']
  rw [front, Covered, stray, if_neg (by omega)]
  obtain zero | positive := Nat.eq_zero_or_pos ip.ihl.toNat
  · rw [if_neg (by omega), if_neg (by omega), zero]
    simp [verifies, onesSum]
  · have first : ip.version ++ ip.ihl ++ ip.dscp ++ ip.ecn ∈ ip.update.words.take (2 * ip.ihl.toNat) := by
      obtain ⟨count, more⟩ : ∃ count, 2 * ip.ihl.toNat = count + 1 := ⟨2 * ip.ihl.toNat - 1, by omega⟩
      rw [more]
      exact List.mem_cons_self
    rw [verifies_iff_clear first (first_ne_zero positive)]
    have split := ip.update_clear
    rw [← List.take_append_drop (2 * ip.ihl.toNat) ip.update.words] at split
    have cases : ip.ihl.toNat = 1 ∨ ip.ihl.toNat = 2 ∨ ip.ihl.toNat = 3 ∨ ip.ihl.toNat = 4 := by omega
    rcases cases with length | length | length | length
    all_goals rw [length] at split ⊢
    · simp only [Nat.reduceLeDiff, if_false, if_true, Option.some.injEq, exists_eq_left']
      exact Iff.rfl
    · simp only [Nat.reduceLeDiff, if_false, if_true, Option.some.injEq, exists_eq_left']
      exact Iff.rfl
    · simp only [Nat.reduceLeDiff, if_true, Option.some.injEq, exists_eq_left']
      exact clear_split split
    · simp only [Nat.reduceLeDiff, if_true, Option.some.injEq, exists_eq_left']
      exact clear_split split

/-- The computed checksum is correct exactly when the twenty bytes can stand for the header. -/
theorem checked_update_iff (ip : Ipv4) (rest : Bits) :
    Checked (Ipv4.codec.encode ip.update ++ rest) ↔ ip.Covered rest := by
  obtain short | long := Nat.lt_or_ge ip.ihl.toNat 5
  · exact checked_short short rest
  · exact checked_long long rest

end Ipv4

/-- No header is written between the header of a longer form and the unread bits. -/
structure Headers.Stacked (hdr : Headers) : Prop where
  outer : hdr.ipv4.valid = true → hdr.ipv4.fields.ihl = 5 ∨ hdr.Blank
  innerOptionWords : hdr.innerOptionWords = []
  innerIpv6 : hdr.innerIpv4.valid = true → hdr.innerIpv6.valid = false
  innerTcp : hdr.innerTcp.valid = false
  innerUdp : hdr.innerUdp.valid = false

namespace Headers

theorem Blank.stacked {hdr : Headers} (blank : hdr.Blank) : hdr.Stacked :=
  ⟨fun _ => .inr blank, blank.innerOptionWords, fun _ => blank.innerIpv6, blank.innerTcp, blank.innerUdp⟩

/-- An outer header of another length stands directly before the unread bits. -/
theorem Stacked.emitIp {hdr : Headers} (stacked : hdr.Stacked) (on : hdr.ipv4.valid = true)
    (rest : Bits) (long : hdr.ipv4.fields.ihl ≠ 5) :
    hdr.emitIp rest = Ipv4.codec.encode hdr.ipv4.fields ++ rest := by
  have blank := (stacked.outer on).resolve_left long
  have whole : hdr.ipv4.emit Ipv4.codec = Ipv4.codec.encode hdr.ipv4.fields := if_pos on
  exact emitIp_plain hdr rest blank.innerIpv4 blank.innerOptionWords blank.innerIpv6 blank.innerTcp
    blank.innerUdp whole (Header.emit_of_invalid _ _ blank.ipv6) (Header.emit_of_invalid _ _ blank.udp)
    (Header.emit_of_invalid _ _ blank.tcp) (Header.emit_of_invalid _ _ blank.icmp)
    (Header.emit_of_invalid _ _ blank.vxlan) (Header.emit_of_invalid _ _ blank.innerEthernet)

/-- The outer header stands at the front of its part of the emission. -/
theorem emitIp_front {hdr : Headers} (on : hdr.ipv4.valid = true) (rest : Bits) :
    ∃ behind, hdr.emitIp rest = Ipv4.codec.encode hdr.ipv4.fields ++ behind := by
  have whole : hdr.ipv4.emit Ipv4.codec = Ipv4.codec.encode hdr.ipv4.fields := if_pos on
  rw [Headers.emitIp, emitOuter, whole]
  simp only [List.append_assoc]
  exact ⟨_, rfl⟩

/-- The inner header stands directly before the unread bits. -/
theorem Stacked.emitInner {hdr : Headers} (stacked : hdr.Stacked) (on : hdr.innerIpv4.valid = true)
    (rest : Bits) : hdr.emitInner ++ rest = Ipv4.codec.encode hdr.innerIpv4.fields ++ rest := by
  have whole : hdr.innerIpv4.emit Ipv4.codec = Ipv4.codec.encode hdr.innerIpv4.fields := if_pos on
  rw [Headers.emitInner, whole, stacked.innerOptionWords, Header.emit_of_invalid _ _ (stacked.innerIpv6 on),
    Header.emit_of_invalid _ _ stacked.innerTcp, Header.emit_of_invalid _ _ stacked.innerUdp]
  rw [emitOptions, List.flatMap_nil, List.append_nil, List.append_nil, List.append_nil, List.append_nil]

end Headers

/-- The chain behind the outer header keeps the headers stacked when it stops at the inner IP header. -/
theorem Dialect.ipv4_stacked (d : Dialect) (stops : d.readsTransport = false) {s r : ParserState}
    (blank : s.hdr.Blank) (found : d.ipv4 s = some r) : r.hdr.Stacked := by
  obtain ⟨ip, outer, fits, shape, rfl⟩ := (d.ipv4_eq_some_iff s r).mp found
  cases outer with
  | unread rest => exact ⟨fun _ => .inr { blank with }, blank.innerOptionWords, fun _ => blank.innerIpv6,
      blank.innerTcp, blank.innerUdp⟩
  | icmp h rest => exact ⟨fun _ => .inl fits.2.2.1, blank.innerOptionWords, fun _ => blank.innerIpv6,
      blank.innerTcp, blank.innerUdp⟩
  | tcp h rest => exact ⟨fun _ => .inl fits.2.1, blank.innerOptionWords, fun _ => blank.innerIpv6,
      blank.innerTcp, blank.innerUdp⟩
  | udp h rest => exact ⟨fun _ => .inl fits.1.2.1, blank.innerOptionWords, fun _ => blank.innerIpv6,
      blank.innerTcp, blank.innerUdp⟩
  | overlay o =>
      obtain ⟨udp, vxlan, ethernet, inner⟩ := o
      obtain ⟨selects, _, _, fits⟩ := fits
      cases inner with
      | unread rest => exact ⟨fun _ => .inl selects.2.1, blank.innerOptionWords, fun _ => blank.innerIpv6,
          blank.innerTcp, blank.innerUdp⟩
      | v4 inner tail =>
          have bare := fits.2
          rw [stops] at bare
          obtain ⟨words, transport, rest⟩ := tail
          obtain ⟨none, unread⟩ : words = [] ∧ transport = .unread := bare
          subst none unread
          exact ⟨fun _ => .inl selects.2.1, (List.append_nil _).trans blank.innerOptionWords,
            fun _ => blank.innerIpv6, blank.innerTcp, blank.innerUdp⟩
      | v6 inner tail =>
          have bare := fits.2.2
          rw [stops] at bare
          obtain ⟨words, transport, rest⟩ := tail
          obtain ⟨none, unread⟩ : words = [] ∧ transport = .unread := bare
          subst none unread
          exact ⟨fun _ => .inl selects.2.1, (List.append_nil _).trans blank.innerOptionWords,
            fun on => absurd (on.symm.trans blank.innerIpv4) (by decide), blank.innerTcp, blank.innerUdp⟩

/-- A parser state in which no header behind the Ethernet header and no checksum flag is set -/
structure ParserState.Unread (s : ParserState) : Prop where
  blank : s.hdr.Blank
  unflagged : s.metadata.tunnel.innerIpv4ChecksumEn = false

/-- The parser hands on stacked headers and no checksum flag. -/
structure ParserState.Stacked (s : ParserState) : Prop where
  hdr : s.hdr.Stacked
  unflagged : s.metadata.tunnel.innerIpv4ChecksumEn = false

theorem ParserState.Unread.stacked {s : ParserState} (unread : s.Unread) : s.Stacked :=
  ⟨unread.blank.stacked, unread.unflagged⟩

namespace P02EgressParser

theorem parseIpv4_stacked {s r : ParserState} (unread : s.Unread) (found : parseIpv4 s = some r) :
    r.Stacked := by
  rw [parseIpv4_eq] at found
  refine ⟨p02EgressDialect.ipv4_stacked rfl unread.blank found, ?_⟩
  obtain ⟨ip, outer, _, _, rfl⟩ := (p02EgressDialect.ipv4_eq_some_iff s r).mp found
  exact (outer.place_keeps p02EgressDialect _).innerIpv4ChecksumEn.trans unread.unflagged

theorem parseCpu_stacked {s r : ParserState} (unread : s.Unread) (found : parseCpu s = some r) :
    r.Stacked := by
  simp only [parseCpu, extractCpu, Option.bind_eq_bind, Option.bind_eq_some_iff,
    ParserState.extract_eq_some_iff] at found
  obtain ⟨_, ⟨_, ⟨fabric, rest, _, rfl⟩, cpu, behind, _, rfl⟩, found⟩ := found
  have after : ParserState.Unread
      ⟨{ s.hdr with fabric := ⟨true, fabric⟩, cpu := ⟨true, cpu⟩ }, s.metadata, behind⟩ :=
    ⟨{ unread.blank with }, unread.unflagged⟩
  split at found
  · exact parseIpv4_stacked after found
  · rw [← Option.some.inj found]
    exact after.stacked

theorem parseEthernet_stacked {s r : ParserState} (unread : s.Unread) (found : parseEthernet s = some r) :
    r.Stacked := by
  simp only [parseEthernet, Option.bind_eq_bind, Option.bind_eq_some_iff,
    ParserState.extract_eq_some_iff] at found
  obtain ⟨_, ⟨ethernet, rest, _, rfl⟩, found⟩ := found
  have after : ParserState.Unread ⟨{ s.hdr with ethernet := ⟨true, ethernet⟩ }, s.metadata, rest⟩ :=
    ⟨{ unread.blank with }, unread.unflagged⟩
  split at found
  · exact parseIpv4_stacked after found
  split at found
  · exact parseCpu_stacked after found
  · rw [← Option.some.inj found]
    exact after.stacked

theorem parseBridgeHeader_stacked {s r : ParserState} (unread : s.Unread)
    (found : parseBridgeHeader s = some r) : r.Stacked := by
  simp only [parseBridgeHeader, Option.bind_eq_bind, Option.bind_eq_some_iff,
    ParserState.extract_eq_some_iff] at found
  obtain ⟨_, ⟨bgMd, rest, _, rfl⟩, found⟩ := found
  have after : ParserState.Unread ⟨{ s.hdr with bgMd := ⟨true, bgMd⟩ }, s.metadata, rest⟩ :=
    ⟨{ unread.blank with }, unread.unflagged⟩
  split at found
  · exact parseIpv4_stacked after found
  split at found
  · exact parseCpu_stacked after found
  split at found
  · exact parseEthernet_stacked after found
  · rw [← Option.some.inj found]
    exact after.stacked

theorem parseMirrorMetadata_stacked {s r : ParserState} (unread : s.Unread)
    (found : parseMirrorMetadata s = some r) : r.Stacked := by
  simp only [parseMirrorMetadata, Option.bind_eq_bind, Option.bind_eq_some_iff] at found
  obtain ⟨⟨mirror, rest⟩, _, found⟩ := found
  have after : ParserState.Unread ⟨s.hdr, { s.metadata with mirror := mirror }, rest⟩ :=
    ⟨unread.blank, unread.unflagged⟩
  exact parseEthernet_stacked after found

/-- Every packet that this parser accepts has its headers stacked. -/
theorem parse_stacked {containers : Headers} {packet : Bits} {r : ParserState}
    (accepted : parse containers packet = some r) : r.Stacked := by
  have unread : (ParserState.start containers packet).Unread := ⟨containers.blank_unparsed, rfl⟩
  simp only [parse, parseHeaderCheck, Option.bind_eq_bind, Option.bind_eq_some_iff] at accepted
  obtain ⟨proto, _, found⟩ := accepted
  split at found
  · exact parseMirrorMetadata_stacked unread found
  split at found
  · exact parseMirrorMetadata_stacked unread found
  split at found
  · exact parseBridgeHeader_stacked unread found
  · rw [← Option.some.inj found]
    exact unread.stacked

end P02EgressParser

/-- The controls of the last pipe only take headers away, and flag the checksum of one that stays. -/
structure EgressState.Sheds (s t : EgressState) : Prop where
  ipv4 : t.hdr.ipv4.valid = true → s.hdr.ipv4.valid = true ∧ t.hdr.ipv4.fields.ihl = s.hdr.ipv4.fields.ihl
  blank : s.hdr.Blank → t.hdr.Blank
  innerIpv4 : t.hdr.innerIpv4.valid = s.hdr.innerIpv4.valid
  innerOptionWords : t.hdr.innerOptionWords = s.hdr.innerOptionWords
  innerIpv6 : t.hdr.innerIpv6.valid = s.hdr.innerIpv6.valid
  innerTcp : t.hdr.innerTcp.valid = s.hdr.innerTcp.valid
  innerUdp : t.hdr.innerUdp.valid = s.hdr.innerUdp.valid
  flag : t.metadata.tunnel.innerIpv4ChecksumEn = true →
    s.metadata.tunnel.innerIpv4ChecksumEn = true ∨ s.hdr.innerIpv4.valid = true

namespace EgressState.Sheds

theorem refl (s : EgressState) : s.Sheds s :=
  ⟨fun on => ⟨on, rfl⟩, id, rfl, rfl, rfl, rfl, rfl, .inl⟩

theorem trans {s t u : EgressState} (first : s.Sheds t) (second : t.Sheds u) : s.Sheds u where
  ipv4 on := by
    obtain ⟨middle, length⟩ := second.ipv4 on
    exact ⟨(first.ipv4 middle).1, length.trans (first.ipv4 middle).2⟩
  blank := second.blank ∘ first.blank
  innerIpv4 := second.innerIpv4.trans first.innerIpv4
  innerOptionWords := second.innerOptionWords.trans first.innerOptionWords
  innerIpv6 := second.innerIpv6.trans first.innerIpv6
  innerTcp := second.innerTcp.trans first.innerTcp
  innerUdp := second.innerUdp.trans first.innerUdp
  flag on := by
    rcases second.flag on with flagged | valid
    · exact first.flag flagged
    · exact .inr (first.innerIpv4 ▸ valid)

/-- A control that writes only to headers in front of the outer IP header sheds nothing. -/
theorem of_front {s t : EgressState} (bgMd : Header BridgeMetadata) (ethernet : Header Ethernet)
    (fabric : Header Fabric) (cpu : Header Cpu)
    (hdr : t.hdr = { s.hdr with bgMd := bgMd, ethernet := ethernet, fabric := fabric, cpu := cpu })
    (flag : t.metadata.tunnel.innerIpv4ChecksumEn = s.metadata.tunnel.innerIpv4ChecksumEn) : s.Sheds t := by
  obtain ⟨_, metadata, _, _, _, _, _⟩ := t
  subst hdr
  exact ⟨fun on => ⟨on, rfl⟩, fun blank => { blank with }, rfl, rfl, rfl, rfl, rfl, fun on => .inl (flag ▸ on)⟩

theorem stacked {s t : EgressState} (sheds : s.Sheds t) (stacked : s.hdr.Stacked) : t.hdr.Stacked where
  outer on := by
    obtain ⟨before, length⟩ := sheds.ipv4 on
    rw [length]
    exact (stacked.outer before).imp_right sheds.blank
  innerOptionWords := sheds.innerOptionWords.trans stacked.innerOptionWords
  innerIpv6 on := sheds.innerIpv6.trans (stacked.innerIpv6 (sheds.innerIpv4.symm.trans on))
  innerTcp := sheds.innerTcp.trans stacked.innerTcp
  innerUdp := sheds.innerUdp.trans stacked.innerUdp

end EgressState.Sheds

namespace P02Egress

theorem restore_sheds (fresh : Headers) (s : EgressState) : s.Sheds (restore fresh s) := by
  have decapped (s : EgressState) : s.Sheds (decapMetaDataI2E02 s) := by
    unfold decapMetaDataI2E02
    split <;> exact .of_front _ _ _ _ rfl rfl
  unfold restore
  split
  · split
    · refine .trans ?_ (decapped _)
      exact .of_front _ _ _ _ rfl rfl
    · exact decapped _
  · exact .refl s

theorem rewriteVxlanProcess_sheds (s : EgressState) : s.Sheds (rewriteVxlanProcess s) := by
  unfold rewriteVxlanProcess
  split
  · rename_i valid _
    exact ⟨fun on => ⟨on, rfl⟩, fun blank => { blank with }, rfl, rfl, rfl, rfl, rfl, fun _ => .inr valid⟩
  · exact ⟨fun on => ⟨on, rfl⟩, fun blank => { blank with }, rfl, rfl, rfl, rfl, rfl, .inl⟩
  · exact .refl s

theorem internetInProcess_sheds (tables : Tables) (s : EgressState) :
    s.Sheds (internetInProcess tables s) := by
  have inner (s : EgressState) : s.Sheds (tunnelInnerRewrite tables s) := by
    unfold tunnelInnerRewrite
    split
    · exact ⟨fun on => ⟨on, rfl⟩, fun blank => { blank with }, rfl, rfl, rfl, rfl, rfl, .inl⟩
    · exact .refl s
  have dst (s : EgressState) : s.Sheds (tunnelDstRewrite tables s) := by
    unfold tunnelDstRewrite
    split
    · exact ⟨fun on => ⟨on, rfl⟩, fun blank => { blank with }, rfl, rfl, rfl, rfl, rfl, .inl⟩
    · split
      · exact .of_front _ _ _ _ rfl rfl
      · exact .refl s
  have src (s : EgressState) : s.Sheds (tunnelSrcRewrite tables s) := by
    unfold tunnelSrcRewrite
    split
    · exact ⟨fun on => ⟨on, rfl⟩, fun blank => { blank with }, rfl, rfl, rfl, rfl, rfl, .inl⟩
    · exact .refl s
  have vni (s : EgressState) : s.Sheds { s with hdr.vxlan.fields.vni := s.hdr.bgMd.fields.lkpVni } :=
    ⟨fun on => ⟨on, rfl⟩, fun blank => { blank with }, rfl, rfl, rfl, rfl, rfl, .inl⟩
  rw [internetInProcess]
  refine .trans ?_ (((inner _).trans (dst _)).trans (src _))
  split
  · exact (rewriteVxlanProcess_sheds s).trans (vni _)
  · exact .refl s

theorem decapTunnel_sheds (s : EgressState) : s.Sheds (decapTunnel s) where
  ipv4 on := absurd on Bool.false_ne_true
  blank blank := { blank with
    udp := rfl
    vxlan := rfl
    innerEthernet := rfl }
  innerIpv4 := rfl
  innerOptionWords := rfl
  innerIpv6 := rfl
  innerTcp := rfl
  innerUdp := rfl
  flag := .inl

theorem internetOutProcess_sheds (s : EgressState) : s.Sheds (internetOutProcess s) := by
  have decapped := decapTunnel_sheds s
  unfold internetOutProcess
  split
  · rename_i valid _
    exact ⟨decapped.ipv4, fun blank => { decapped.blank blank with }, rfl, rfl, rfl, rfl, rfl,
      fun _ => .inr valid⟩
  · exact ⟨decapped.ipv4, fun blank => { decapped.blank blank with }, rfl, rfl, rfl, rfl, rfl, .inl⟩
  · exact .refl s

theorem meters_shed (tables : Tables) (s : EgressState) :
    s.Sheds (eipOutEgressPktStats (eipOutSharedMeter tables (eipOutMeter tables s))) := by
  have own (s : EgressState) : s.Sheds (eipOutMeter tables s) := by
    unfold eipOutMeter
    split
    · dsimp only
      split <;> exact .of_front _ _ _ _ rfl rfl
    · exact .refl s
  have shared (s : EgressState) : s.Sheds (eipOutSharedMeter tables s) := by
    unfold eipOutSharedMeter
    split
    · unfold sharedBwRatelimit
      dsimp only
      split <;> exact .of_front _ _ _ _ rfl rfl
    · exact .refl s
  have counted (s : EgressState) : s.Sheds (eipOutEgressPktStats s) := by
    unfold eipOutEgressPktStats
    dsimp only
    split
    · split <;> exact .of_front _ _ _ _ rfl rfl
    · split
      · split <;> exact .of_front _ _ _ _ rfl rfl
      · exact .refl s
  exact ((own s).trans (shared _)).trans (counted _)

theorem processMirror_sheds (tables : Tables) (fresh : Headers) (s : EgressState) :
    s.Sheds (processMirror tables fresh s) := by
  have dropping (s : EgressState) (dropCtl : BitVec 3) : s.Sheds { s with dropCtl := dropCtl } :=
    .of_front _ _ _ _ rfl rfl
  unfold processMirror
  dsimp only
  split
  · split
    · refine .trans ?_ (dropping (cloneToCpu fresh s) _)
      exact .of_front _ _ _ _ rfl rfl
    · exact .of_front _ _ _ _ rfl rfl
  · split
    · exact dropping _ _
    · exact .refl s

theorem deliver_sheds (tables : Tables) (s : EgressState) : s.Sheds (deliver tables s) := by
  have treated : s.Sheds
      (if s.hdr.bgMd.fields.tunnelDirectSend = matchPacket then processGwEgress tables s else s) := by
    split
    · unfold processGwEgress
      split
      · exact internetInProcess_sheds tables s
      · exact (meters_shed tables s).trans (internetOutProcess_sheds _)
    · exact .refl s
  have checked (s : EgressState) : s.Sheds (egressSystemAcl tables s) := by
    obtain ⟨_, _, _, _, _, same, _⟩ := egressSystemAcl_eq tables s
    rw [same]
    exact .of_front _ _ _ _ rfl rfl
  have counted (s : EgressState) : s.Sheds (egressPortStats s) := by
    obtain ⟨_, same⟩ := egressPortStats_eq s
    rw [same]
    exact .of_front _ _ _ _ rfl rfl
  have readdressed (s : EgressState) : s.Sheds (addressed tables s) := by
    unfold addressed rewriteOuterMac
    split
    · split
      · exact .of_front _ _ _ _ rfl rfl
      · exact .refl s
    · exact .refl s
  exact ((treated.trans (checked _)).trans (counted _)).trans (readdressed _)

/-- No packet gets a new IP header in the last pipe. -/
theorem apply_sheds (tables : Tables) (fresh : Headers) (s : EgressState) : s.Sheds (apply tables fresh s) := by
  have opened : apply tables fresh s = unbridged
      (if (restore fresh s).metadata.mirror.flag ≠ 0 then processMirror tables fresh (restore fresh s)
        else deliver tables (restore fresh s)) := rfl
  have closed (t : EgressState) : t.Sheds (unbridged t) := by
    unfold unbridged
    split
    · exact .of_front _ _ _ _ rfl rfl
    · exact .refl t
  rw [opened]
  refine .trans ?_ (closed _)
  split
  · exact (restore_sheds fresh s).trans (processMirror_sheds tables fresh _)
  · exact (restore_sheds fresh s).trans (deliver_sheds tables _)

/-- Every IPv4 header whose checksum is computed is emitted with a correct one. -/
structure ChecksumsCorrect (s : EgressState) (rest : Bits) : Prop where
  outer : s.hdr.ipv4.valid = true → Ipv4.Checked ((checksums s).emitIp rest)
  inner : s.metadata.tunnel.innerIpv4ChecksumEn = true → Ipv4.Checked ((checksums s).emitInner ++ rest)

/-- The outer header is emitted at its place with the checksum of its twenty bytes. -/
theorem checksums_outer {s : EgressState} (on : s.hdr.ipv4.valid = true) :
    (checksums s).ipv4 = ⟨true, s.hdr.ipv4.fields.update⟩ := by
  unfold checksums
  rw [if_pos on]
  split <;> exact congrArg (Header.mk · _) on

theorem checksums_inner {s : EgressState} (on : s.hdr.innerIpv4.valid = true)
    (flag : s.metadata.tunnel.innerIpv4ChecksumEn = true) :
    (checksums s).innerIpv4 = ⟨true, s.hdr.innerIpv4.fields.update⟩ := by
  unfold checksums
  rw [if_pos flag]
  dsimp only
  split <;> exact congrArg (Header.mk · _) on

/-- The checksums do not move any header. -/
theorem checksums_stacked {s : EgressState} (stacked : s.hdr.Stacked) : (checksums s).Stacked := by
  have sheds : s.Sheds { s with hdr := checksums s } := by
    unfold checksums
    dsimp only
    split
    all_goals
      split <;> exact ⟨fun on => ⟨on, rfl⟩, fun blank => { blank with }, rfl, rfl, rfl, rfl, rfl, .inl⟩
  exact sheds.stacked stacked

/-- A pass emits correct checksums exactly when the twenty bytes of each header can stand for it. -/
theorem checksums_correct_iff (tables : Tables) (around : Surroundings) (port : BitVec 9) {packet : Bits}
    {parsed : ParserState} (accepted : P02EgressParser.parse around.containers packet = some parsed) :
    let s := apply tables around.fresh (egressStart around port parsed)
    ChecksumsCorrect s parsed.pkt ↔
      (s.hdr.ipv4.valid = true → s.hdr.ipv4.fields.Covered parsed.pkt) ∧
      (s.metadata.tunnel.innerIpv4ChecksumEn = true → s.hdr.innerIpv4.fields.Covered parsed.pkt) := by
  have start := P02EgressParser.parse_stacked accepted
  have sheds := apply_sheds tables around.fresh (egressStart around port parsed)
  intro s
  change (egressStart around port parsed).Sheds s at sheds
  have stacked : s.hdr.Stacked := sheds.stacked start.hdr
  have shaped := checksums_stacked stacked
  have flagged (flag : s.metadata.tunnel.innerIpv4ChecksumEn = true) : s.hdr.innerIpv4.valid = true := by
    rcases sheds.flag flag with set | valid
    · exact absurd (set.symm.trans start.unflagged) (by decide)
    · exact sheds.innerIpv4.trans valid
  have outer (on : s.hdr.ipv4.valid = true) :
      Ipv4.Checked ((checksums s).emitIp parsed.pkt) ↔ s.hdr.ipv4.fields.Covered parsed.pkt := by
    have placed := checksums_outer on
    have valid : (checksums s).ipv4.valid = true := congrArg Header.valid placed
    have fields : (checksums s).ipv4.fields = s.hdr.ipv4.fields.update := congrArg Header.fields placed
    by_cases plain : s.hdr.ipv4.fields.ihl = 5
    · obtain ⟨behind, front⟩ := Headers.emitIp_front valid parsed.pkt
      rw [front, fields, Ipv4.checked_update_iff]
      exact iff_of_true (Ipv4.covered_plain plain _) (Ipv4.covered_plain plain _)
    · have long : (checksums s).ipv4.fields.ihl ≠ 5 := by
        rw [fields]
        exact plain
      rw [shaped.emitIp valid parsed.pkt long, fields, Ipv4.checked_update_iff]
  have inner (flag : s.metadata.tunnel.innerIpv4ChecksumEn = true) :
      Ipv4.Checked ((checksums s).emitInner ++ parsed.pkt) ↔ s.hdr.innerIpv4.fields.Covered parsed.pkt := by
    have placed := checksums_inner (flagged flag) flag
    rw [shaped.emitInner (congrArg Header.valid placed), congrArg Header.fields placed,
      Ipv4.checked_update_iff]
  constructor
  · intro correct
    exact ⟨fun on => (outer on).mp (correct.outer on), fun flag => (inner flag).mp (correct.inner flag)⟩
  · rintro ⟨first, second⟩
    exact ⟨fun on => (outer on).mpr (first on), fun flag => (inner flag).mpr (second flag)⟩

end P02Egress

/-- A header of the host with one option word and a correct checksum over its six words -/
def optionHeader : Ipv4 where
  version := 4
  ihl := 6
  dscp := 0
  ecn := 0
  totalLen := 24
  identification := 0
  flags := 0
  fragOffset := 0
  ttl := 64
  protocol := 89
  hdrChecksum := 0xd186
  srcAddr := 0x0a000001
  dstAddr := 0x0a000002

/-- The router alert option -/
def optionWord : OptionWord := 0x94040000

/-- The frame of the host as it reaches the last pipe -/
def optionPacket : Bits :=
  BridgeMetadata.codec.encode { (default : BridgeMetadata) with
      proto := pktBridge
      tunnelDirectSend := skipPacket } ++
    (Ethernet.codec.encode ⟨1, 2, etherTypeIpv4⟩ ++
      (Ipv4.codec.encode optionHeader ++ OptionWord.codec.encode optionWord))

/-- The checksum of this frame is computed over twenty of its twenty-four bytes. -/
theorem checksums_correct_iff_option : ∃ parsed,
    P02EgressParser.parse default optionPacket = some parsed ∧
      let s := P02Egress.apply .empty default (egressStart default 5 parsed)
      (P02Egress.ChecksumsCorrect s parsed.pkt ↔
        (s.hdr.ipv4.valid = true → s.hdr.ipv4.fields.Covered parsed.pkt) ∧
        (s.metadata.tunnel.innerIpv4ChecksumEn = true → s.hdr.innerIpv4.fields.Covered parsed.pkt)) := by
  have accepted : (P02EgressParser.parse default optionPacket).isSome = true := by decide +kernel
  obtain ⟨parsed, found⟩ := Option.isSome_iff_exists.mp accepted
  exact ⟨parsed, found, P02Egress.checksums_correct_iff .empty default 5 found⟩

/-- The host sends this frame out of port five. -/
def optionFrame : Bits :=
  Ethernet.codec.encode ⟨1, 2, etherTypeBfn⟩ ++
    (Fabric.codec.encode { (default : Fabric) with dstPortOrGroup := 5 } ++
      (Cpu.codec.encode { (default : Cpu) with etherType := etherTypeIpv4 } ++
        (Ipv4.codec.encode optionHeader ++ OptionWord.codec.encode optionWord)))

/-- The gateway sends the frame of the host with a wrong checksum. -/
theorem not_checked_option :
    Ipv4.Checked (Ipv4.codec.encode optionHeader ++ OptionWord.codec.encode optionWord) ∧
      ∃ sent, (visit (admittingTables ⟨0x0a000001, 0x0a000002, 0, 0x0a000003, 0x0a000100, 24⟩) default cpuPort
          optionFrame).value = some ⟨5, Ethernet.codec.encode ⟨1, 2, etherTypeIpv4⟩ ++ sent, skipPacket⟩ ∧
        ¬ Ipv4.Checked sent := by
  refine ⟨by decide +kernel,
    Ipv4.codec.encode optionHeader.update ++ OptionWord.codec.encode optionWord, by decide +kernel, ?_⟩
  decide +kernel


end IgwP4.Dataplane
