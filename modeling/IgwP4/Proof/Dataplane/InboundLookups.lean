/-
This file shows that a packet without a drop mark has hit the three lookups of its delivery.
-/

import IgwP4.Proof.Dataplane.Locations

namespace IgwP4.Dataplane
open Packet

/-- The controller gives no action the next hop or the destination id zero. -/
structure Tables.Controlled (tables : Tables) : Prop where
  vmLocMapping : ∀ dip nexthop vni, tables.vmLocMapping dip = some (nexthop, vni) → nexthop ≠ 0
  ipv6VmLocMapping : ∀ dip nexthop, tables.ipv6VmLocMapping dip = some nexthop → nexthop ≠ 0
  azEcmp : ∀ nexthop entry chosen, tables.azEcmp nexthop entry = some chosen → chosen ≠ 0
  routeEcmp : ∀ nexthop flow chosen, tables.routeEcmp nexthop flow = some chosen → chosen ≠ 0
  routeNexthop : ∀ nexthop data, tables.routeNexthop nexthop = some data → data.dstid ≠ 0

namespace P13Ingress

/-- The packet carries an inner IP header. -/
def Inner (s : IngressState) : Prop := s.hdr.innerIpv4.valid = true ∨ s.hdr.innerIpv6.valid = true

/-- `vm_loc_mapping.apply().hit`, or the same of `ipv6_vm_loc_mapping`, for the table that is applied -/
def locationHit (tables : Tables) (s : IngressState) : Bool :=
  if s.hdr.innerIpv4.valid then (tables.vmLocMapping s.metadata.tunnel.fipDip).isSome
  else if s.hdr.innerIpv6.valid then (tables.ipv6VmLocMapping s.hdr.innerIpv6.fields.dstAddr).isSome
  else false

/-- `route_nexthop.apply().hit` -/
def nexthopHit (tables : Tables) (s : IngressState) : Bool :=
  (tables.routeNexthop s.hdr.bgMd.fields.tunnelNexthop).isSome

/-- The state in which the location is looked up -/
def translated (tables : Tables) (s : IngressState) : IngressState :=
  fipIpDnat tables (computeIpHashes tables (eipInSharedMeter tables s))

/-- The state in which the next hop is looked up -/
def routed (tables : Tables) (s : IngressState) : IngressState :=
  routeEcmp tables (azSelector tables (vmLocationMapping tables (translated tables s)))

/-- Both lookups of the second internal pipe hit. -/
structure Hits (tables : Tables) (s : IngressState) : Prop where
  location : locationHit tables (translated tables s) = true
  nexthop : nexthopHit tables (routed tables s) = true

/-- The packet is marked for the drop. -/
def Marked (s : IngressState) : Prop := s.hdr.bgMd.fields.needDrop = 1

theorem locate_eq_stats (tables : Tables) (s : IngressState) :
    locate tables s = eipInEgressPktStats (routeNexthop tables (routed tables s)) := rfl

/-- The controls before the translation leave the inner headers as they are. -/
theorem hashed_inner (tables : Tables) (s : IngressState) :
    Inner (computeIpHashes tables (eipInSharedMeter tables s)) ↔ Inner s := by
  have limited (r : IngressState) : (ratelimitDrop tables r).hdr = r.hdr := by
    unfold ratelimitDrop
    dsimp only
    split <;> rfl
  have metered (r : IngressState) : Inner (sharedBwRatelimit tables r) ↔ Inner r := by
    unfold sharedBwRatelimit
    dsimp only
    split <;> exact Iff.rfl
  have hashed (r : IngressState) : Inner (computeIpHashes tables r) ↔ Inner r := by
    unfold computeIpHashes
    split <;> exact Iff.rfl
  rw [hashed, eipInSharedMeter]
  unfold Inner
  rw [limited]
  split
  · exact metered s
  · exact Iff.rfl

theorem translated_inner (tables : Tables) {s : IngressState} (inner : Inner s) :
    Inner (translated tables s) := by
  have hashed := (hashed_inner tables s).mpr inner
  unfold translated fipIpDnat
  dsimp only
  split <;> exact hashed

/-- A location that hits names a next hop, and one that misses marks the packet. -/
theorem vmLocationMapping_marks {tables : Tables} (controlled : tables.Controlled) {s : IngressState}
    (inner : Inner s) : Marked (vmLocationMapping tables s) ∨
      locationHit tables s = true ∧ (vmLocationMapping tables s).hdr.bgMd.fields.tunnelNexthop ≠ 0 := by
  have counted (r : IngressState) : (hostDropped r).hdr = r.hdr := by
    unfold hostDropped
    split <;> rfl
  by_cases on : s.hdr.innerIpv4.valid = true
  · rw [vmLocationMapping_v4 tables s on, Marked, counted, locationHit, if_pos on, vmLocMapping]
    cases found : tables.vmLocMapping s.metadata.tunnel.fipDip with
    | none => exact .inl rfl
    | some location => exact .inr ⟨rfl, controlled.vmLocMapping _ _ _ found⟩
  · have off : s.hdr.innerIpv4.valid = false := Bool.eq_false_iff.mpr on
    have six : s.hdr.innerIpv6.valid = true := inner.resolve_left on
    rw [vmLocationMapping_v6 tables s off six, Marked, counted, locationHit, if_neg on, if_pos six,
      ipv6VmLocMapping]
    cases found : tables.ipv6VmLocMapping s.hdr.innerIpv6.fields.dstAddr with
    | none => exact .inl rfl
    | some nexthop => exact .inr ⟨rfl, controlled.ipv6VmLocMapping _ _ found⟩

/-- The selectors keep a mark, and replace a next hop by one that is not zero either. -/
theorem selectors_mark {tables : Tables} (controlled : tables.Controlled) (s : IngressState) :
    (Marked s → Marked (routeEcmp tables (azSelector tables s))) ∧
      (s.hdr.bgMd.fields.tunnelNexthop ≠ 0 →
        (routeEcmp tables (azSelector tables s)).hdr.bgMd.fields.tunnelNexthop ≠ 0) := by
  have zoned : (azSelector tables s).hdr.bgMd.fields.needDrop = s.hdr.bgMd.fields.needDrop ∧
      (s.hdr.bgMd.fields.tunnelNexthop ≠ 0 → (azSelector tables s).hdr.bgMd.fields.tunnelNexthop ≠ 0) := by
    unfold azSelector
    split
    · split
      · rename_i chosen found
        exact ⟨rfl, fun _ => controlled.azEcmp _ _ _ found⟩
      · exact ⟨rfl, id⟩
    · exact ⟨rfl, id⟩
  generalize azSelector tables s = r at zoned
  unfold routeEcmp Marked
  split
  · rename_i chosen found
    exact ⟨fun marked => zoned.1.trans marked, fun _ => controlled.routeEcmp _ _ _ found⟩
  · exact ⟨fun marked => zoned.1.trans marked, zoned.2⟩

/-- A next hop that hits names a destination, and one that misses marks the packet. -/
theorem routeNexthop_marks {tables : Tables} (controlled : tables.Controlled) (s : IngressState) :
    (Marked s → Marked (routeNexthop tables s)) ∧
      (s.hdr.bgMd.fields.tunnelNexthop ≠ 0 → Marked (routeNexthop tables s) ∨
        nexthopHit tables s = true ∧ (routeNexthop tables s).hdr.bgMd.fields.tunnelDstId ≠ 0) := by
  unfold routeNexthop nexthopHit
  cases found : tables.routeNexthop s.hdr.bgMd.fields.tunnelNexthop with
  | some data => exact ⟨id, fun _ => .inr ⟨rfl, controlled.routeNexthop _ _ found⟩⟩
  | none =>
      refine ⟨fun marked => ?_, fun exist => ?_⟩
      · dsimp only
        split
        · rfl
        · exact marked
      · dsimp only
        rw [if_pos exist]
        exact .inl rfl

/-- A packet that leaves these controls without a mark has hit, and names a destination. -/
theorem locate_hits {tables : Tables} (controlled : tables.Controlled) {s : IngressState} (inner : Inner s) :
    Marked (locate tables s) ∨
      Hits tables s ∧ (locate tables s).hdr.bgMd.fields.tunnelDstId ≠ 0 := by
  have counted (r : IngressState) : (eipInEgressPktStats r).hdr = r.hdr := by
    unfold eipInEgressPktStats
    dsimp only
    repeat' split
    all_goals rfl
  rw [locate_eq_stats, Marked, counted]
  obtain ⟨keeps, resolves⟩ := routeNexthop_marks controlled (routed tables s)
  obtain ⟨stays, chooses⟩ := selectors_mark controlled (vmLocationMapping tables (translated tables s))
  rcases vmLocationMapping_marks controlled (translated_inner tables inner) with marked | ⟨location, exist⟩
  · exact .inl (keeps (stays marked))
  · rcases resolves (chooses exist) with marked | ⟨nexthop, destination⟩
    · exact .inl marked
    · exact .inr ⟨⟨location, nexthop⟩, destination⟩

end P13Ingress

end IgwP4.Dataplane
