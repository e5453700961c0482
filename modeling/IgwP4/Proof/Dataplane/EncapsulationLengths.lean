/-
This file shows for which direct packets the lengths of the new outer headers are correct.
-/

import IgwP4.Proof.Dataplane.Journeys

namespace IgwP4.Dataplane
open Packet Setup

/-- The total length and the UDP length of the outer headers of a frame -/
def outerLengths (packet : Bits) : Option (BitVec 16 × BitVec 16) := do
  let (_, rest) ← Ethernet.codec.extract packet
  let (ip, rest) ← Ipv4.codec.extract rest
  let (udp, _) ← Udp.codec.extract rest
  some (ip.totalLen, udp.length)

theorem Delivery.Bears.outerLengths {delivery : Delivery} {t : TunnelPacket} {inner : Bool}
    (bears : delivery.Bears (t.stamp inner)) :
    outerLengths delivery.packet = some (t.ip.totalLen, t.udp.length) := by
  obtain ⟨ethernet, packet⟩ := bears
  rw [packet, Dataplane.outerLengths, Codec.extract_encode, TunnelPacket.bits]
  simp only [Option.bind_eq_bind, Option.bind_some, Codec.extract_encode]
  rfl

/-- The length of the IP packet that the header announces, as a natural number -/
def l3Length (hdr : Headers) : Nat :=
  if hdr.ipv4.valid then hdr.ipv4.fields.totalLen.toNat else hdr.ipv6.fields.payloadLen.toNat + 40

/-- The sixteen bits of the encapsulation hold this length as far as they reach. -/
theorem length_of_parcel {frame : Frame} (containers : Headers) {parcel : Parcel}
    (carried : frame.parcel = some parcel) :
    parcel.length.toNat = l3Length (frame.state containers).hdr % 65536 := by
  cases frame with
  | ipv4 ethernet ip outer =>
      obtain rfl := Option.some.inj carried
      have placed : ((Frame.ipv4 ethernet ip outer).state containers).hdr.ipv4 = ⟨true, ip⟩ :=
        (outer.place_keeps p02IngressDialect _).ipv4
      rw [l3Length, placed]
      exact (Nat.mod_eq_of_lt ip.totalLen.isLt).symm
  | ipv6 ethernet ip transport rest =>
      obtain rfl := Option.some.inj carried
      have placed : ((Frame.ipv6 ethernet ip transport rest).state containers).hdr.ipv4.valid = false ∧
          ((Frame.ipv6 ethernet ip transport rest).state containers).hdr.ipv6 = ⟨true, ip⟩ := by
        cases transport <;> exact ⟨rfl, rfl⟩
      rw [l3Length, placed.1, placed.2]
      exact BitVec.toNat_add _ _
  | _ => contradiction

/-- A direct packet that a gateway encapsulates and forwards -/
structure EncapsulatedVisit where
  passage : Passage
  direct : passage.form = some .direct
  delivery : Delivery
  sent : passage.visit.value = some delivery

namespace EncapsulatedVisit

variable (v : EncapsulatedVisit)

def l3Length : Nat := Dataplane.l3Length v.passage.hdr

/-- The outer headers announce the packet and the headers around it. -/
def Announces : Prop :=
  ∃ totalLen length, outerLengths v.delivery.packet = some (totalLen, length) ∧
    totalLen.toNat = v.l3Length + 50 ∧ length.toNat = v.l3Length + 30

/-- No rewrite behind the encapsulation touches the lengths. -/
theorem lengths : ∃ parcel, v.passage.frame.parcel = some parcel ∧
    outerLengths v.delivery.packet = some (parcel.length + 50, parcel.length + 30) := by
  obtain ⟨parcel, carried, _, entering⟩ := Passage.entering_direct v.direct
  refine ⟨parcel, carried, ?_⟩
  obtain ⟨own, ⟨t', chosen, _, bears⟩ | ⟨_, _, bridge, bears⟩⟩ :=
    Passage.inbound_outcome v.direct rfl entering v.sent
  · have kept : t'.ip.totalLen = parcel.length + 50 ∧ t'.udp.length = parcel.length + 30 := by
      obtain ⟨action, _, rfl⟩ := Option.map_eq_some_iff.mp chosen
      cases action <;> exact ⟨rfl, rfl⟩
    rw [bears.outerLengths, kept.1, kept.2]
  · exact bears.outerLengths

/-- The outer lengths are correct exactly when the packet with its new headers fits in sixteen bits. -/
theorem announces_iff : v.Announces ↔ v.l3Length + 50 < 65536 := by
  obtain ⟨parcel, carried, lengths⟩ := v.lengths
  have length : parcel.length.toNat = v.l3Length % 65536 :=
    length_of_parcel v.passage.around.p02Ingress.containers carried
  rw [Announces, lengths]
  constructor
  · rintro ⟨totalLen, _, same, total, _⟩
    rw [← total]
    exact totalLen.isLt
  · intro fits
    refine ⟨_, _, rfl, ?_, ?_⟩
    · rw [BitVec.toNat_add, length]
      change (v.l3Length % 65536 + 50) % 65536 = _
      omega
    · rw [BitVec.toNat_add, length]
      change (v.l3Length % 65536 + 30) % 65536 = _
      omega

end EncapsulatedVisit

/-- A packet of the greatest length goes to its next hop. -/
def longPassage : Passage :=
  smallPassage locatedTables locatedTables_unpunted (directFrame { plainHeader with totalLen := 0xffff })
    plainHeader_fits (directFrame_etherType _)

/-- The outer headers of the longest packet announce 49 and 29 bytes. -/
theorem not_announces_long : ∃ v : EncapsulatedVisit, v.passage = longPassage ∧ ¬ v.Announces := by
  have run : longPassage.visit.value.isSome = true := by decide +kernel
  have direct : longPassage.form = some .direct := by decide +kernel
  have length : Dataplane.l3Length longPassage.hdr = 65535 := by decide +kernel
  obtain ⟨delivery, sent⟩ := Option.isSome_iff_exists.mp run
  let v : EncapsulatedVisit := ⟨longPassage, direct, delivery, sent⟩
  refine ⟨v, rfl, fun announces => ?_⟩
  have fits : Dataplane.l3Length longPassage.hdr + 50 < 65536 := v.announces_iff.mp announces
  rw [length] at fits
  exact absurd fits (by decide)

end IgwP4.Dataplane
