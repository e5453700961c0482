/-
This file follows the time to live of an inbound packet along a chain of redirecting gateways.
-/

import Mathlib.Logic.Relation
import IgwP4.Proof.Dataplane.Journeys

namespace IgwP4.Dataplane
open Packet Setup Relation

/-- The hops that the header of the packet still allows -/
def Parcel.ttl : Parcel → Nat
  | .v4 ip _ => ip.ttl.toNat
  | .v6 ip _ => ip.hopLimit.toNat

/-- The IP packet inside a VXLAN frame -/
def innerParcel (packet : Bits) : Option Parcel := do
  let (_, rest) ← Ethernet.codec.extract packet
  let (_, rest) ← Ipv4.codec.extract rest
  let (_, rest) ← Udp.codec.extract rest
  let (_, rest) ← Vxlan.codec.extract rest
  let (ethernet, rest) ← Ethernet.codec.extract rest
  if ethernet.etherType = etherTypeIpv4 then do
    let (ip, payload) ← Ipv4.codec.extract rest
    some (.v4 ip payload)
  else if ethernet.etherType = etherTypeIpv6 then do
    let (ip, payload) ← Ipv6.codec.extract rest
    some (.v6 ip payload)
  else none

theorem innerParcel_tunnel (ethernet : Ethernet) {t : TunnelPacket}
    (type : t.ethernet.etherType = t.parcel.etherType) :
    innerParcel (Ethernet.codec.encode ethernet ++ t.bits) = some t.parcel := by
  rw [innerParcel, Codec.extract_encode, TunnelPacket.bits]
  simp only [Option.bind_eq_bind, Option.bind_some, Codec.extract_encode]
  rw [type]
  cases t.parcel with
  | v4 ip payload =>
      rw [Parcel.bits, Codec.extract_encode]
      rfl
  | v6 ip payload =>
      rw [Parcel.bits, Codec.extract_encode]
      rfl

/-- Of the delivery steps only the decrement touches the time to live. -/
theorem TunnelPacket.deliver_ttl (tables : Tables) (bridge : BridgeMetadata) (t : TunnelPacket) (inner : Bool) :
    let delivered := (({ t with parcel := t.parcel.dnat tables } : TunnelPacket).deliver tables bridge).stamp inner
    (t.ethernet.etherType = t.parcel.etherType → delivered.ethernet.etherType = delivered.parcel.etherType) ∧
      delivered.parcel.isV4 = t.parcel.isV4 ∧
      delivered.parcel.ttl = if t.parcel.isV4 then (t.parcel.ttl + 255) % 256 else t.parcel.ttl := by
  obtain ⟨ip, udp, vxlan, ethernet, parcel⟩ := t
  have type := ethernet.readdress_etherType (tables.tunnelInnerRewrite bridge.innerMacId)
  cases parcel with
  | v4 header payload =>
      have counted : (header.ttl - 1).toNat = (header.ttl.toNat + 255) % 256 := by
        rw [BitVec.toNat_sub, Nat.add_comm]
        rfl
      cases inner with
      | false => exact ⟨type.trans, rfl, counted⟩
      | true => exact ⟨type.trans, rfl, counted⟩
  | v6 header payload =>
      cases inner with
      | false => exact ⟨type.trans, rfl, rfl⟩
      | true => exact ⟨type.trans, rfl, rfl⟩

/-- An inbound packet that a gateway lets through -/
structure Hop where
  passage : Passage
  form : Form
  known : passage.form = some form
  inward : form.inbound = true
  delivery : Delivery
  sent : passage.visit.value = some delivery

namespace Hop

/-- The packet as it comes, which is the inner one of a packet that another gateway has redirected -/
def arriving (h : Hop) : Option Parcel :=
  match h.form with
  | .direct => h.passage.frame.parcel
  | _ => innerParcel h.passage.frame.bits

def leaving (h : Hop) : Option Parcel := innerParcel h.delivery.packet

/-- The tunnel packet at the redirection has the time to live of the arriving packet. -/
theorem enters (h : Hop) : ∃ before t, h.arriving = some before ∧ h.passage.entering = some t ∧
    t.ethernet.etherType = t.parcel.etherType ∧ t.parcel.isV4 = before.isV4 ∧
    t.parcel.ttl = before.ttl := by
  obtain ⟨passage, form, known, inward, delivery, sent⟩ := h
  cases form with
  | firstHop => contradiction
  | redirectedOut => contradiction
  | direct =>
      obtain ⟨parcel, carried, _, entering⟩ := Passage.entering_direct known
      refine ⟨parcel, _, carried, entering, (wrap_tunnels _ parcel).type, ?_, ?_⟩
      · cases parcel <;> rfl
      · cases parcel <;> rfl
  | redirectedIn =>
      obtain ⟨t, carried, _⟩ := Passage.exists_tunnel known (by decide)
      obtain ⟨_, _, tunnels, _, body, _⟩ := passage.frame.tunnel_bears passage.fits default carried
      refine ⟨t.parcel, t, ?_, ?_, tunnels.type, rfl, rfl⟩
      · change innerParcel passage.frame.bits = _
        rw [Frame.bits, body]
        exact innerParcel_tunnel _ tunnels.type
      · rw [Passage.entering, known]
        exact carried

/-- A redirection keeps the time to live, and a delivery takes the hop from it in its own bits. -/
theorem leaves (h : Hop) : ∃ before after, h.arriving = some before ∧ h.leaving = some after ∧
    after.isV4 = before.isV4 ∧
    ((h.delivery.directSend = dlPacket ∧ after.ttl = before.ttl) ∨
      (h.delivery.directSend = matchPacket ∧
        after.ttl = if before.isV4 then (before.ttl + 255) % 256 else before.ttl)) := by
  obtain ⟨before, t, arriving, entering, type, family, ttl⟩ := h.enters
  obtain ⟨own, ⟨t', chosen, redirected, ethernet, packet⟩ | ⟨_, delivered, bridge, ethernet, packet⟩⟩ :=
    Passage.inbound_outcome h.known h.inward entering h.sent
  · have same : t'.parcel = t.parcel ∧ t'.ethernet = t.ethernet := by
      obtain ⟨action, _, rfl⟩ := Option.map_eq_some_iff.mp chosen
      cases action <;> exact ⟨rfl, rfl⟩
    refine ⟨before, t'.parcel, arriving, ?_, by rw [same.1, family], .inl ⟨redirected, by rw [same.1, ttl]⟩⟩
    rw [leaving, packet]
    exact innerParcel_tunnel ethernet (by rw [TunnelPacket.stamp, same.2, type, ← same.1]; rfl)
  · obtain ⟨types, sameFamily, counted⟩ := t.deliver_ttl h.passage.tables bridge t.parcel.isV4
    refine ⟨before, _, arriving, ?_, sameFamily.trans family, .inr ⟨delivered, ?_⟩⟩
    · rw [leaving, packet]
      exact innerParcel_tunnel ethernet (types type)
    · rw [counted, family, ttl]

/-- The packet is redirected to a gateway that finds its inner packet as it was sent. -/
def Follows (h next : Hop) : Prop :=
  h.delivery.directSend = dlPacket ∧ next.form = .redirectedIn ∧ next.arriving = h.leaving

end Hop

/-- The way of a packet from its first gateway through redirecting ones to the gateway that delivers it -/
structure Journey where
  first : Hop
  last : Hop
  path : ReflTransGen Hop.Follows first last
  delivered : last.delivery.directSend = matchPacket

namespace Journey

/-- The hops of the way -/
def Visits (j : Journey) (h : Hop) : Prop := ReflTransGen Hop.Follows j.first h ∧ ReflTransGen Hop.Follows h j.last

/-- The delivery takes one hop from an IPv4 packet and leaves it one, and no gateway adds any. -/
def Disciplined (j : Journey) : Prop :=
  ∃ before after, j.first.arriving = some before ∧ j.last.leaving = some after ∧
    (before.isV4 = true → after.ttl + 1 = before.ttl ∧ 1 ≤ after.ttl) ∧
    ∀ h, j.Visits h → ∀ parcel, h.leaving = some parcel → parcel.ttl ≤ before.ttl

/-- The redirections on the way to a hop keep the time to live. -/
theorem arrives {first h : Hop} (path : ReflTransGen Hop.Follows first h) :
    ∃ before parcel, first.arriving = some before ∧ h.arriving = some parcel ∧
      parcel.isV4 = before.isV4 ∧ parcel.ttl = before.ttl := by
  induction path with
  | refl =>
      obtain ⟨before, _, arriving, _⟩ := first.enters
      exact ⟨before, before, arriving, arriving, rfl, rfl⟩
  | @tail h next _ follows ih =>
      obtain ⟨before, parcel, came, arriving, family, ttl⟩ := ih
      obtain ⟨redirected, _, received⟩ := follows
      obtain ⟨parcel', after, arriving', leaving, sameFamily, outcome⟩ := h.leaves
      obtain rfl := Option.some.inj (arriving.symm.trans arriving')
      rcases outcome with ⟨_, kept⟩ | ⟨delivered, _⟩
      · exact ⟨before, after, came, received.trans leaving, sameFamily.trans family, kept.trans ttl⟩
      · exact absurd (redirected.symm.trans delivered) (by decide)

/-- A way is disciplined exactly when an IPv4 packet comes with at least two hops. -/
theorem disciplined_iff (j : Journey) :
    j.Disciplined ↔ ∀ before, j.first.arriving = some before → before.isV4 = true → 2 ≤ before.ttl := by
  obtain ⟨before, parcel, came, arriving, family, ttl⟩ := arrives j.path
  obtain ⟨parcel', after, arriving', leaving, _, outcome⟩ := j.last.leaves
  obtain rfl := Option.some.inj (arriving.symm.trans arriving')
  have counted : after.ttl = if before.isV4 then (before.ttl + 255) % 256 else before.ttl := by
    rcases outcome with ⟨redirected, _⟩ | ⟨_, counted⟩
    · exact absurd (redirected.symm.trans j.delivered) (by decide)
    · rw [counted, family, ttl]
  have small : before.isV4 = true → before.ttl < 256 := by
    cases before with
    | v4 ip payload => exact fun _ => ip.ttl.isLt
    | v6 ip payload => exact fun four => absurd four Bool.false_ne_true
  constructor
  · rintro ⟨before', after', came', leaving', disciplined, _⟩ other same four
    obtain rfl := Option.some.inj (came.symm.trans came')
    obtain rfl := Option.some.inj (came.symm.trans same)
    obtain rfl := Option.some.inj (leaving.symm.trans leaving')
    obtain ⟨exact, least⟩ := disciplined four
    omega
  · intro allowed
    refine ⟨before, after, came, leaving, ?_, ?_⟩
    · intro four
      have two := allowed before came four
      have below := small four
      rw [four, if_pos rfl] at counted
      omega
    · intro h visits left leaves
      obtain ⟨before', parcel', came', arriving', family', ttl'⟩ := arrives visits.1
      obtain rfl := Option.some.inj (came.symm.trans came')
      obtain ⟨parcel'', left', arriving'', leaves', _, outcome'⟩ := h.leaves
      obtain rfl := Option.some.inj (arriving'.symm.trans arriving'')
      obtain rfl := Option.some.inj (leaves.symm.trans leaves')
      rcases outcome' with ⟨_, kept⟩ | ⟨_, kept⟩
      · exact (kept.trans ttl').le
      · rw [kept, family', ttl']
        split
        · rename_i four
          have two := allowed before came four
          have below := small four
          omega
        · exact le_rfl

end Journey

/-- A packet of the given time to live goes to its next hop. -/
def agedPassage (ttl : BitVec 8) : Passage :=
  smallPassage locatedTables locatedTables_unpunted (directFrame { plainHeader with ttl })
    plainHeader_fits (directFrame_etherType _)

/-- A packet without a hop left is delivered with 255 of them. -/
theorem not_disciplined_expired : ∃ j : Journey, j.first = j.last ∧ j.first.passage = agedPassage 0 ∧
    ¬ j.Disciplined := by
  have run : ((agedPassage 0).visit.value.map fun delivery => delivery.directSend) = some matchPacket := by
    decide +kernel
  have direct : (agedPassage 0).form = some .direct := by decide +kernel
  obtain ⟨delivery, sent, delivered⟩ := Option.map_eq_some_iff.mp run
  let hop : Hop := ⟨agedPassage 0, .direct, direct, rfl, delivery, sent⟩
  refine ⟨⟨hop, hop, .refl, delivered⟩, rfl, rfl, fun disciplined => ?_⟩
  have allowed := (Journey.disciplined_iff _).mp disciplined _ rfl rfl
  exact absurd allowed (by decide)

end IgwP4.Dataplane
