/-
This file shows for which redirected tunnel packets the outer UDP checksum stays correct.
-/

import IgwP4.Proof.Dataplane.HeaderChecksums
import IgwP4.Proof.Dataplane.Journeys

namespace IgwP4.Dataplane
open Packet Checksum Setup

/-- The two words of an address -/
def halves (value : BitVec 32) : List Word := [value.extractLsb' 16 16, value.extractLsb' 0 16]

/-! The words of a tunnel packet -/

def Udp.words (udp : Udp) : List Word := [udp.srcPort, udp.dstPort, udp.length, udp.checksum]

def Vxlan.words (vxlan : Vxlan) : List Word :=
  halves (vxlan.flags ++ vxlan.version ++ vxlan.reserved) ++ halves (vxlan.vni ++ vxlan.tof ++ vxlan.reserved2)

def Ethernet.words (ethernet : Ethernet) : List Word :=
  [ethernet.dstAddr.extractLsb' 32 16, ethernet.dstAddr.extractLsb' 16 16, ethernet.dstAddr.extractLsb' 0 16,
    ethernet.srcAddr.extractLsb' 32 16, ethernet.srcAddr.extractLsb' 16 16, ethernet.srcAddr.extractLsb' 0 16,
    ethernet.etherType]

theorem Udp.encode_words (udp : Udp) : Udp.codec.encode udp = emitWords udp.words := by
  have opened : emitWords udp.words = (Codec.word 16).encode udp.srcPort ++ ((Codec.word 16).encode udp.dstPort ++
      ((Codec.word 16).encode udp.length ++ ((Codec.word 16).encode udp.checksum ++ []))) := rfl
  rw [opened, List.append_nil]
  rfl

theorem Vxlan.encode_words (vxlan : Vxlan) : Vxlan.codec.encode vxlan = emitWords vxlan.words := by
  have front : (Codec.word 8).encode vxlan.flags ++ ((Codec.word 4).encode vxlan.version ++
      (Codec.word 20).encode vxlan.reserved) =
        (Codec.word 32).encode (vxlan.flags ++ vxlan.version ++ vxlan.reserved) := by
    have parts : (Codec.word 32).encode (vxlan.flags ++ vxlan.version ++ vxlan.reserved) = _ :=
      Codec.word_append (vxlan.flags ++ vxlan.version) vxlan.reserved
    rw [parts, Codec.word_append vxlan.flags vxlan.version, List.append_assoc]
  have back : (Codec.word 24).encode vxlan.vni ++ ((Codec.word 4).encode vxlan.tof ++
      (Codec.word 4).encode vxlan.reserved2) =
        (Codec.word 32).encode (vxlan.vni ++ vxlan.tof ++ vxlan.reserved2) := by
    have parts : (Codec.word 32).encode (vxlan.vni ++ vxlan.tof ++ vxlan.reserved2) = _ :=
      Codec.word_append (vxlan.vni ++ vxlan.tof) vxlan.reserved2
    rw [parts, Codec.word_append vxlan.vni vxlan.tof, List.append_assoc]
  have opened : emitWords vxlan.words =
      (Codec.word 32).encode (vxlan.flags ++ vxlan.version ++ vxlan.reserved) ++
        (Codec.word 32).encode (vxlan.vni ++ vxlan.tof ++ vxlan.reserved2) := by
    rw [Codec.word_split, Codec.word_split, List.append_assoc, Vxlan.words, emitWords]
    simp only [halves, List.cons_append, List.nil_append, List.flatMap_cons, List.flatMap_nil, List.append_nil]
  rw [opened, ← front, ← back, List.append_assoc, List.append_assoc]
  rfl

theorem Ethernet.encode_words (ethernet : Ethernet) :
    Ethernet.codec.encode ethernet = emitWords ethernet.words := by
  have parts (address : BitVec 48) : (Codec.word 48).encode address =
      (Codec.word 16).encode (address.extractLsb' 32 16) ++ ((Codec.word 16).encode (address.extractLsb' 16 16) ++
        (Codec.word 16).encode (address.extractLsb' 0 16)) := by
    have split : (Codec.word 48).encode address = _ := Codec.word_parts 16 32 address
    have lower (start : Nat) (inside : start + 16 ≤ 32) :
        (address.extractLsb' 0 32).extractLsb' start 16 = address.extractLsb' start 16 := by
      apply BitVec.eq_of_getLsbD_eq
      intro index small
      simp only [BitVec.getLsbD_extractLsb', Nat.zero_add, small, decide_true, Bool.true_and,
        show start + index < 32 by omega]
    rw [split, Codec.word_split, lower 16 (by decide), lower 0 (by decide)]
  have coded : Ethernet.codec.encode ethernet = (Codec.word 48).encode ethernet.dstAddr ++
      ((Codec.word 48).encode ethernet.srcAddr ++ (Codec.word 16).encode ethernet.etherType) := rfl
  rw [coded, parts, parts, Ethernet.words, emitWords]
  simp only [List.flatMap_cons, List.flatMap_nil, List.append_nil, List.append_assoc]

namespace Parcel

/-- The words of an IPv4 header, and none of an IPv6 header, which no control changes -/
def words : Parcel → List Word
  | .v4 ip _ => ip.words
  | .v6 _ _ => []

/-- What follows these words -/
def rest : Parcel → Bits
  | .v4 _ payload => payload
  | .v6 ip payload => Ipv6.codec.encode ip ++ payload

theorem bits_words (parcel : Parcel) : parcel.bits = emitWords parcel.words ++ parcel.rest := by
  cases parcel with
  | v4 ip payload => rw [bits, Ipv4.encode_words, words, rest]
  | v6 ip payload => rfl

end Parcel

namespace TunnelPacket

/-- The UDP datagram -/
def segment (t : TunnelPacket) : Bits :=
  Udp.codec.encode t.udp ++ (Vxlan.codec.encode t.vxlan ++ (Ethernet.codec.encode t.ethernet ++ t.parcel.bits))

def words (t : TunnelPacket) : List Word :=
  t.udp.words ++ (t.vxlan.words ++ (t.ethernet.words ++ t.parcel.words))

theorem words_length (t : TunnelPacket) : t.words.length = 15 + t.parcel.words.length := by
  rw [words, List.length_append, List.length_append, List.length_append]
  change 4 + (4 + (7 + t.parcel.words.length)) = _
  omega

theorem segment_words (t : TunnelPacket) : t.segment = emitWords t.words ++ t.parcel.rest := by
  rw [segment, words, Udp.encode_words, Vxlan.encode_words, Ethernet.encode_words, t.parcel.bits_words]
  simp only [emitWords, List.flatMap_append, List.append_assoc]

end TunnelPacket

/-! The checksum -/

/-- The protocol in a word of its own -/
def protocolWord (ip : Ipv4) : Word := (0 : BitVec 8) ++ ip.protocol

/-- The words that stand for the IP header, the addresses, the protocol and the length -/
def pseudoHeader (ip : Ipv4) (udp : Udp) : List Word :=
  halves ip.srcAddr ++ (halves ip.dstAddr ++ [protocolWord ip, udp.length])

/-- The checksum is correct over the pseudo header and the bytes of the announced length. -/
def UdpCorrect (ip : Ipv4) (udp : Udp) (segment : Bits) : Prop :=
  8 ≤ udp.length.toNat ∧
    ∃ words, coveredWords udp.length.toNat segment = some words ∧ verifies (pseudoHeader ip udp ++ words)

/-- The outer IPv4 header and the outer UDP header of a frame, with the datagram -/
def outerUdp (packet : Bits) : Option (Ipv4 × Udp × Bits) := do
  let (_, rest) ← Ethernet.codec.extract packet
  let (ip, segment) ← Ipv4.codec.extract rest
  let (udp, _) ← Udp.codec.extract segment
  some (ip, udp, segment)

/-- The outer UDP checksum of the frame is zero or correct. -/
def UdpSound (packet : Bits) : Prop :=
  ∃ ip udp segment, outerUdp packet = some (ip, udp, segment) ∧ (udp.checksum = 0 ∨ UdpCorrect ip udp segment)

theorem outerUdp_tunnel (ethernet : Ethernet) (t : TunnelPacket) :
    outerUdp (Ethernet.codec.encode ethernet ++ t.bits) = some (t.ip, t.udp, t.segment) := by
  rw [outerUdp, Codec.extract_encode, TunnelPacket.bits]
  simp only [Option.bind_eq_bind, Option.bind_some, Codec.extract_encode]
  rfl

theorem udpSound_tunnel (ethernet : Ethernet) (t : TunnelPacket) :
    UdpSound (Ethernet.codec.encode ethernet ++ t.bits) ↔
      t.udp.checksum = 0 ∨ UdpCorrect t.ip t.udp t.segment := by
  rw [UdpSound, outerUdp_tunnel]
  constructor
  · rintro ⟨ip, udp, segment, same, sound⟩
    obtain ⟨rfl, rest⟩ := Prod.mk.inj (Option.some.inj same)
    obtain ⟨rfl, rfl⟩ := Prod.mk.inj rest
    exact sound
  · exact fun sound => ⟨_, _, _, rfl, sound⟩

/-! The words at which the controls write -/

/-- The addresses, the source port, the VXLAN header and the inner source, as far as the length reaches -/
def exposedWords (length : Nat) (src dst : BitVec 32) (srcPort : Word) (vxlan : Vxlan) (inner : List Word) :
    List Word :=
  halves src ++ (halves dst ++ srcPort :: (cutWords (length - 8) vxlan.words ++ cutWords (length - 42) inner))

/-- The words of the inner source, which the translation reaches in IPv4 packets only -/
def Parcel.srcWords : Parcel → List Word
  | .v4 ip _ => halves ip.srcAddr
  | .v6 _ _ => []

namespace TunnelPacket

def exposed (t : TunnelPacket) : List Word :=
  exposedWords t.udp.length.toNat t.ip.srcAddr t.ip.dstAddr t.udp.srcPort t.vxlan t.parcel.srcWords

/-- The words of the inner packet that stay -/
def settledInner (count : Nat) : Parcel → List Word
  | .v4 ip _ => cutWords count (ip.words.take 6) ++ cutWords (count - 16) (halves ip.dstAddr)
  | .v6 _ _ => []

theorem total_inner (count : Nat) (parcel : Parcel) :
    total (cutWords count parcel.words) =
      total (cutWords (count - 12) parcel.srcWords) + total (settledInner count parcel) := by
  cases parcel with
  | v4 ip payload =>
      have parts : cutWords count ip.words = cutWords count (ip.words.take 6) ++
          (cutWords (count - 12) (halves ip.srcAddr) ++ cutWords (count - 16) (halves ip.dstAddr)) := by
        have whole : ip.words = ip.words.take 6 ++ (halves ip.srcAddr ++ halves ip.dstAddr) := rfl
        have back : count - 12 - 4 = count - 16 := by omega
        rw [← back]
        exact (congrArg (cutWords count) whole).trans ((cutWords_append _ _ _).trans
          (congrArg (cutWords count (ip.words.take 6) ++ ·) (cutWords_append _ _ _)))
      rw [Parcel.words, parts, Parcel.srcWords, settledInner]
      simp only [total_append]
      omega
  | v6 ip payload => simp [Parcel.words, Parcel.srcWords, settledInner]

/-- The other words under the checksum -/
def settled (t : TunnelPacket) : List Word :=
  [protocolWord t.ip, t.udp.length, t.udp.dstPort, t.udp.length, t.udp.checksum] ++
    (cutWords (t.udp.length.toNat - 16) t.ethernet.words ++ settledInner (t.udp.length.toNat - 30) t.parcel)

/-- The checksum covers the words of both kinds. -/
theorem total_covered (t : TunnelPacket) (long : 8 ≤ t.udp.length.toNat) :
    total (pseudoHeader t.ip t.udp ++ cutWords t.udp.length.toNat t.words) =
      total t.exposed + total t.settled := by
  have cut : cutWords t.udp.length.toNat t.words = t.udp.words ++ (cutWords (t.udp.length.toNat - 8) t.vxlan.words ++
      (cutWords (t.udp.length.toNat - 16) t.ethernet.words ++ cutWords (t.udp.length.toNat - 30) t.parcel.words)) := by
    have second : t.udp.length.toNat - 8 - 8 = t.udp.length.toNat - 16 := by omega
    have third : t.udp.length.toNat - 16 - 14 = t.udp.length.toNat - 30 := by omega
    rw [words, cutWords_append, cutWords_of_le t.udp.words _ long, cutWords_append, cutWords_append]
    change t.udp.words ++ (cutWords (t.udp.length.toNat - 8) _ ++ (cutWords (t.udp.length.toNat - 8 - 8) _ ++
      cutWords (t.udp.length.toNat - 8 - 8 - 14) _)) = _
    rw [second, third]
  have inner := total_inner (t.udp.length.toNat - 30) t.parcel
  have source : t.udp.length.toNat - 30 - 12 = t.udp.length.toNat - 42 := by omega
  rw [source] at inner
  rw [cut, pseudoHeader, exposed, exposedWords, settled, Udp.words]
  simp only [total_append, total_cons, total_nil, inner]
  omega

/-- Behind the words of a sound packet the checksum reads the same bits of any other one. -/
theorem correct_iff {t t' : TunnelPacket} (correct : UdpCorrect t.ip t.udp t.segment)
    (length : t'.udp.length = t.udp.length) (size : t'.parcel.words.length = t.parcel.words.length)
    (rest : t'.parcel.rest = t.parcel.rest) (settled : t'.settled = t.settled) :
    UdpCorrect t'.ip t'.udp t'.segment ↔ total t'.exposed % 65535 = total t.exposed % 65535 := by
  obtain ⟨long, words, covered, verified⟩ := correct
  have sizes : t'.words.length = t.words.length := by
    rw [t'.words_length, t.words_length, size]
  rw [t.segment_words, coveredWords_append] at covered
  obtain ⟨tail, read, rfl⟩ := Option.map_eq_some_iff.mp covered
  have covered' : coveredWords t'.udp.length.toNat t'.segment = some (cutWords t'.udp.length.toNat t'.words ++ tail) := by
    rw [t'.segment_words, coveredWords_append, length, sizes, rest, read]
    rfl
  have long' : 8 ≤ t'.udp.length.toNat := length ▸ long
  have before := t.total_covered long
  have after := t'.total_covered long'
  have positive : 0 < total t.settled := by
    have inside : t.udp.length.toNat ≤ total t.settled := by
      rw [TunnelPacket.settled]
      simp only [total_append, total_cons]
      omega
    omega
  have verified : 0 < total (pseudoHeader t.ip t.udp ++ (cutWords t.udp.length.toNat t.words ++ tail)) ∧
      total (pseudoHeader t.ip t.udp ++ (cutWords t.udp.length.toNat t.words ++ tail)) % 65535 = 0 :=
    (verifies_iff _).mp verified
  rw [← List.append_assoc, total_append, before] at verified
  have found : UdpCorrect t'.ip t'.udp t'.segment ↔
      0 < total (pseudoHeader t'.ip t'.udp ++ (cutWords t'.udp.length.toNat t'.words ++ tail)) ∧
        total (pseudoHeader t'.ip t'.udp ++ (cutWords t'.udp.length.toNat t'.words ++ tail)) % 65535 = 0 := by
    rw [UdpCorrect, covered']
    constructor
    · rintro ⟨_, words, same, verified⟩
      obtain rfl := Option.some.inj same
      exact (verifies_iff _).mp verified
    · exact fun sum => ⟨long', _, rfl, (verifies_iff _).mpr sum⟩
  rw [found, ← List.append_assoc, total_append, after, settled]
  omega

/-- The words that a redirection writes there, around the given inner packet -/
def written (r : Redirection) (inner : Parcel) (index : BitVec 32) (t : TunnelPacket) :
    ModifyJdVxlanAction → List Word
  | .rewriteEip srcip => exposedWords t.udp.length.toNat srcip ((r.select 1 index).getD t.ip.dstAddr) 250
      { t.vxlan with flags := 0x0c, version := 1, vni := r.vniEip t.vxlan.vni, tof := r.tofEip } inner.srcWords
  | .rewriteAz sharedBwVip => exposedWords t.udp.length.toNat t.ip.srcAddr sharedBwVip 50
      { t.vxlan with flags := 0x0c, version := 1, vni := r.vniAz t.vxlan.vni, tof := r.tofAz } inner.srcWords

/-- A redirection of a correct packet leaves it correct when the words that it writes have the old sum. -/
theorem correct_rewrite {t : TunnelPacket} (correct : UdpCorrect t.ip t.udp t.segment) (r : Redirection)
    (index : BitVec 32) (action : ModifyJdVxlanAction) {inner : Parcel}
    (size : inner.words.length = t.parcel.words.length) (rest : inner.rest = t.parcel.rest)
    (settled : ∀ count, settledInner count inner = settledInner count t.parcel) :
    let t' := ({ t with parcel := inner } : TunnelPacket).rewrite r index action
    UdpCorrect t'.ip t'.udp t'.segment ↔
      total (t.written r inner index action) % 65535 = total t.exposed % 65535 := by
  dsimp only
  have same : (({ t with parcel := inner } : TunnelPacket).rewrite r index action).settled = t.settled := by
    have kept : (({ t with parcel := inner } : TunnelPacket).rewrite r index action).settled =
        ({ t with parcel := inner } : TunnelPacket).settled := by
      cases action <;> rfl
    rw [kept, TunnelPacket.settled, TunnelPacket.settled, settled]
  have exposes : (({ t with parcel := inner } : TunnelPacket).rewrite r index action).exposed =
      t.written r inner index action := by
    cases action <;> rfl
  rw [← exposes]
  cases action <;> exact correct_iff correct rfl size rest same

end TunnelPacket

/-- The translation of the inner source changes no other word. -/
theorem Parcel.translate_words (tables : Tables) (vni : BitVec 24) (parcel : Parcel) :
    (parcel.translate tables vni).words.length = parcel.words.length ∧
      (parcel.translate tables vni).rest = parcel.rest ∧
      ∀ count, TunnelPacket.settledInner count (parcel.translate tables vni) =
        TunnelPacket.settledInner count parcel := by
  cases parcel <;> exact ⟨rfl, rfl, fun _ => rfl⟩

/-! The visits -/

/-- A visit that sends a VXLAN packet: an inbound one, or an outbound one that is redirected -/
structure EmittedVisit where
  passage : Passage
  redirects : Redirects passage.gateway.cfg passage.gateway.tables
  form : Form
  known : passage.form = some form
  delivery : Delivery
  sent : passage.visit.value = some delivery
  emits : form.inbound = true ∨ delivery.directSend = dlPacket

/-- The words under the checksum of an arrived tunnel packet that its redirection writes -/
def writtenWords (gateway : Gateway) (t : TunnelPacket) : Form → Option (List Word)
  | .direct => none
  | .redirectedIn => (t.choiceIn gateway.cfg gateway.tables).map fun choice =>
      t.written (.inbound gateway.tables) t.parcel choice.1 choice.2
  | .firstHop | .redirectedOut => ((t.snat gateway.tables).choiceOut gateway.cfg gateway.tables).map fun choice =>
      t.written (.outbound gateway.tables) (t.snat gateway.tables).parcel choice.1 choice.2

/-- A packet without a checksum is sound. -/
theorem Delivery.Bears.udpSound {delivery : Delivery} {t : TunnelPacket} (bears : delivery.Bears t)
    (absent : t.udp.checksum = 0) : UdpSound delivery.packet := by
  obtain ⟨ethernet, packet⟩ := bears
  rw [packet]
  exact (udpSound_tunnel ethernet t).mpr (.inl absent)

namespace EmittedVisit

variable (v : EmittedVisit)

/-- A checksum that came zero or correct leaves zero or correct. -/
def Kept : Prop := UdpSound v.passage.frame.bits → UdpSound v.delivery.packet

/-- The redirection of a packet with a correct checksum writes words of the same sum as those it overwrites. -/
def Balanced : Prop :=
  ∀ t words, v.passage.frame.tunnel = some t → writtenWords v.passage.gateway t v.form = some words →
    UdpSound v.passage.frame.bits → t.udp.checksum ≠ 0 → total words % 65535 = total t.exposed % 65535

variable {v}

theorem balanced_of_none {t : TunnelPacket} (carried : v.passage.frame.tunnel = some t)
    (none : writtenWords v.passage.gateway t v.form = none) : v.Balanced := by
  intro t' words carried' writes
  obtain rfl := Option.some.inj (carried.symm.trans carried')
  exact absurd (none.symm.trans writes) (by simp)

/-- No redirection computes the checksum anew. -/
theorem kept_iff_of_rewritten {t : TunnelPacket} (carried : v.passage.frame.tunnel = some t)
    (r : TunnelPacket.Redirection) (index : BitVec 32) (action : ModifyJdVxlanAction) (inner : Parcel)
    (size : inner.words.length = t.parcel.words.length) (rest : inner.rest = t.parcel.rest)
    (settled : ∀ count, TunnelPacket.settledInner count inner = TunnelPacket.settledInner count t.parcel)
    (writes : writtenWords v.passage.gateway t v.form = some (t.written r inner index action))
    (bears : v.delivery.Bears ((({ t with parcel := inner } : TunnelPacket).rewrite r index action).stamp false)) :
    v.Kept ↔ v.Balanced := by
  obtain ⟨_, _, _, _, body, _⟩ := v.passage.frame.tunnel_bears v.passage.fits default carried
  obtain ⟨ethernet, packet⟩ := bears
  have checksum : (({ t with parcel := inner } : TunnelPacket).rewrite r index action).udp.checksum =
      t.udp.checksum := by
    cases action <;> rfl
  have arrives : UdpSound v.passage.frame.bits ↔ t.udp.checksum = 0 ∨ UdpCorrect t.ip t.udp t.segment := by
    rw [Frame.bits, body]
    exact udpSound_tunnel _ t
  have leaves : UdpSound v.delivery.packet ↔ t.udp.checksum = 0 ∨
      UdpCorrect (({ t with parcel := inner } : TunnelPacket).rewrite r index action).ip
        (({ t with parcel := inner } : TunnelPacket).rewrite r index action).udp
        (({ t with parcel := inner } : TunnelPacket).rewrite r index action).segment := by
    rw [packet, ← checksum]
    exact udpSound_tunnel ethernet
      ((({ t with parcel := inner } : TunnelPacket).rewrite r index action).stamp false)
  have balanced : v.Balanced ↔ (UdpSound v.passage.frame.bits → t.udp.checksum ≠ 0 →
      total (t.written r inner index action) % 65535 = total t.exposed % 65535) := by
    constructor
    · exact fun all => all t _ carried writes
    · intro one t' words carried' writes'
      obtain rfl := Option.some.inj (carried.symm.trans carried')
      obtain rfl := Option.some.inj (writes.symm.trans writes')
      exact one
  rw [balanced, Kept, arrives, leaves]
  have rewritten (correct : UdpCorrect t.ip t.udp t.segment) :=
    TunnelPacket.correct_rewrite correct r index action size rest settled
  constructor
  · intro kept sound filled
    have correct := sound.resolve_left filled
    exact (rewritten correct).mp ((kept sound).resolve_left filled)
  · intro same sound
    by_cases absent : t.udp.checksum = 0
    · exact .inl absent
    · exact .inr ((rewritten (sound.resolve_left absent)).mpr (same sound absent))

/-- The deliveries clear the checksum, so only the redirections of arrived tunnel packets can spoil it. -/
theorem kept_iff (v : EmittedVisit) : v.Kept ↔ v.Balanced := by
  obtain ⟨passage, redirects, form, known, delivery, sent, emits⟩ := v
  cases form with
  | direct =>
      obtain ⟨parcel, _, _, entering⟩ := Passage.entering_direct known
      have sound : UdpSound delivery.packet := by
        obtain ⟨own, ⟨t', chosen, _, bears⟩ | ⟨_, _, bridge, bears⟩⟩ :=
          Passage.inbound_outcome known rfl entering sent
        · refine bears.udpSound ?_
          obtain ⟨action, _, rfl⟩ := Option.map_eq_some_iff.mp chosen
          cases action <;> rfl
        · exact bears.udpSound rfl
      exact iff_of_true (fun _ => sound) fun _ _ _ writes => nomatch writes
  | redirectedIn =>
      obtain ⟨t, carried, _⟩ := Passage.exists_tunnel known (by decide)
      have entering : passage.entering = some t := by
        rw [Passage.entering, known]
        exact carried
      obtain ⟨own, ⟨t', chosen, _, bears⟩ | ⟨stays, _, bridge, bears⟩⟩ :=
        Passage.inbound_outcome known rfl entering sent
      · rw [TunnelPacket.redirectIn_eq redirects] at chosen
        obtain ⟨⟨index, action⟩, choice, rfl⟩ := Option.map_eq_some_iff.mp chosen
        exact kept_iff_of_rewritten carried (.inbound passage.tables) index action t.parcel rfl rfl
          (fun _ => rfl) (congrArg (Option.map _) choice) bears
      · rw [TunnelPacket.redirectIn_eq redirects] at stays
        exact iff_of_true (fun _ => bears.udpSound rfl)
          (balanced_of_none carried (congrArg (Option.map _) (Option.map_eq_none_iff.mp stays)))
  | _ =>
      obtain ⟨t, carried, _⟩ := Passage.exists_tunnel known (by decide)
      obtain ⟨size, rest, settled⟩ := t.parcel.translate_words passage.tables t.vxlan.vni
      obtain ⟨before, ⟨t', chosen, _, bears⟩ | ⟨_, matched⟩⟩ := Passage.outbound_outcome known rfl carried sent
      · rw [TunnelPacket.redirectOut_eq redirects] at chosen
        obtain ⟨⟨index, action⟩, choice, rfl⟩ := Option.map_eq_some_iff.mp chosen
        exact kept_iff_of_rewritten carried (.outbound passage.tables) index action
          (t.snat passage.tables).parcel size rest settled
          (congrArg (Option.map _) choice) bears
      · rcases emits with inward | redirected
        · contradiction
        · exact absurd (matched.symm.trans redirected) (by decide)

end EmittedVisit

/-- A tunnel packet of fifty bytes behind its outer IP header, with a correct UDP checksum -/
def outboundTunnel : TunnelPacket where
  ip := { smallTunnel.ip with dstAddr := smallConfig.vip }
  udp := ⟨0, udpPortVxlan, 50, 14691⟩
  vxlan := smallTunnel.vxlan
  ethernet := smallTunnel.ethernet
  parcel := .v4 plainHeader []

def outboundFrame : Frame :=
  .ipv4 ⟨1, 2, etherTypeIpv4⟩ outboundTunnel.ip (.overlay
    ⟨outboundTunnel.udp, outboundTunnel.vxlan, outboundTunnel.ethernet, .v4 plainHeader ⟨[], .unread, []⟩⟩)

theorem outboundFrame_fits : outboundFrame.Fits := by
  have reads : p02IngressDialect.readsTransport = true := rfl
  refine ⟨rfl, ⟨rfl, rfl, rfl⟩, rfl, rfl, rfl, ?_⟩
  rw [if_pos reads, Tail.FitsV4, if_neg (by decide)]
  exact ⟨rfl, fun h => absurd h.1 (by decide)⟩

/-- Every IPv4 source has an entry of another cluster. -/
def outboundPassage : Passage :=
  smallPassage { Tables.empty with eipOutRedirect := fun _ => some ⟨7, 0, 1, 1, 0⟩ } (fun _ => rfl)
    outboundFrame outboundFrame_fits (.inl rfl)

/-- The redirection of the packet to another cluster spoils its checksum. -/
theorem not_kept_outbound : ∃ v : EmittedVisit, v.passage = outboundPassage ∧ ¬ v.Kept := by
  have run : (outboundPassage.visit.value.map fun delivery => delivery.directSend) = some dlPacket := by
    decide +kernel
  have form : outboundPassage.form = some .firstHop := by decide +kernel
  obtain ⟨delivery, sent, redirected⟩ := Option.map_eq_some_iff.mp run
  let v : EmittedVisit := ⟨outboundPassage, smallGateway_redirects _, .firstHop, form, delivery, sent, .inr redirected⟩
  refine ⟨v, rfl, fun kept => ?_⟩
  have sound : UdpSound outboundPassage.frame.bits := by
    refine (udpSound_tunnel ⟨1, 2, etherTypeIpv4⟩ outboundTunnel).mpr (.inr ⟨by decide, outboundTunnel.words, ?_, ?_⟩)
    · decide +kernel
    · decide +kernel
  have writes : ((writtenWords outboundPassage.gateway outboundTunnel .firstHop).map fun words =>
      decide (total words % 65535 = total outboundTunnel.exposed % 65535)) = some false := by
    decide +kernel
  obtain ⟨words, written, differs⟩ := Option.map_eq_some_iff.mp writes
  have same := v.kept_iff.mp kept outboundTunnel words rfl written sound (by decide)
  exact of_decide_eq_false differs same

end IgwP4.Dataplane
