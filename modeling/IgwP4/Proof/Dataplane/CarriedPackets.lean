/-
This file shows that the redirections carry the inner packet to its last gateway as it came.
-/

import IgwP4.Proof.Dataplane.RedirectionChains
import IgwP4.Proof.Dataplane.TransportChecksums

namespace IgwP4.Dataplane
open Packet Setup

namespace Parcel

variable (tables : Tables) (vni : BitVec 24) (contents : Ipv4) (parcel : Parcel)

/-- No translation reads the checksum. -/
theorem translate_uncheck :
    (parcel.uncheck contents).translate tables vni = (parcel.translate tables vni).uncheck contents := by
  cases parcel <;> rfl

theorem dnat_hop_uncheck :
    ((parcel.uncheck contents).dnat tables).hop = ((parcel.dnat tables).hop).uncheck contents := by
  cases parcel <;> rfl

/-- The deparser writes the checksum anew. -/
@[simp] theorem update_uncheck : (parcel.uncheck contents).update = parcel.update := by
  cases parcel <;> rfl

@[simp] theorem update_etherType : parcel.update.etherType = parcel.etherType := by
  cases parcel <;> rfl

theorem exists_uncheck : ∃ contents, parcel = parcel.uncheck contents := by
  cases parcel with
  | v4 ip payload => exact ⟨ip, rfl⟩
  | v6 ip payload => exact ⟨default, rfl⟩

theorem foldl_uncheck (passages : List Passage) :
    passages.foldl (fun parcel a => parcel.translate a.tables vni) (parcel.uncheck contents) =
      (passages.foldl (fun parcel a => parcel.translate a.tables vni) parcel).uncheck contents := by
  induction passages generalizing parcel with
  | nil => rfl
  | cons a rest ih => rw [List.foldl_cons, List.foldl_cons, translate_uncheck, ih]

end Parcel

/-- The delivery computes the checksum of an inner IPv4 header. -/
theorem TunnelPacket.deliver_parcel (tables : Tables) (bridge : BridgeMetadata) (t : TunnelPacket) :
    ((({ t with parcel := t.parcel.dnat tables } : TunnelPacket).deliver tables bridge).stamp t.parcel.isV4).parcel =
      ((t.parcel.dnat tables).hop).update := by
  obtain ⟨ip, udp, vxlan, ethernet, parcel⟩ := t
  cases parcel <;> rfl

/-- The packet of the address in a frame that the last gateway delivers in this direction -/
def deliveredParcel (inbound : Bool) (packet : Bits) : Option Parcel :=
  if inbound then innerParcel packet else plainParcel packet

namespace Passage

variable {a b : Passage} {found : Form}

/-- The network identifier with which an outbound packet arrives -/
def vni (a : Passage) : BitVec 24 := a.hdr.vxlan.fields.vni

theorem vni_tunnel {t : TunnelPacket} (carried : a.frame.tunnel = some t) : a.vni = t.vxlan.vni := by
  obtain ⟨_, bears, _⟩ := a.frame.tunnel_bears a.fits a.around.p02Ingress.containers carried
  rw [vni, hdr, bears.vxlan]

/-- Only the source of an outbound packet is translated before its redirection. -/
theorem presented_parcel {t : TunnelPacket} (known : a.form = some found) (presented : a.presented found = some t) :
    ∃ parcel contents, a.parcel found = some parcel ∧
      t.parcel = (if found.inbound then parcel else parcel.translate a.tables a.vni).uncheck contents ∧
      (found.inbound = false → t.vxlan.vni = a.vni) := by
  cases found with
  | direct =>
      obtain ⟨parcel, held, _, entering⟩ := entering_direct known
      obtain rfl := Option.some.inj (entering.symm.trans presented)
      exact ⟨parcel, _, held, rfl, fun outward => absurd outward (by decide)⟩
  | redirectedIn =>
      have carried : a.frame.tunnel = some t := by
        rw [← presented]
        change _ = a.entering
        rw [entering, known]
      obtain ⟨contents, same⟩ := t.parcel.exists_uncheck
      refine ⟨t.parcel, contents, ?_, same, fun outward => absurd outward (by decide)⟩
      exact congrArg (Option.map TunnelPacket.parcel) carried
  | _ =>
      obtain ⟨t', carried, rfl⟩ := Option.map_eq_some_iff.mp presented
      obtain ⟨contents, same⟩ := (t'.snat a.tables).parcel.exists_uncheck
      refine ⟨t'.parcel, contents, ?_, ?_, fun _ => (vni_tunnel carried).symm⟩
      · exact congrArg (Option.map TunnelPacket.parcel) carried
      · rw [same, vni_tunnel carried]
        rfl

/-- The next gateway finds the inner packet as this one has translated it. -/
theorem Leads.parcel (leads : Leads a b) (redirects : Redirects a.gateway.cfg a.tables)
    (known : a.form = some found) :
    ∃ parcel contents, a.parcel found = some parcel ∧ b.parcel found.redirected =
        some ((if found.inbound then parcel else parcel.translate a.tables a.vni).uncheck contents) ∧
      (found.inbound = false → b.vni = a.vni) := by
  obtain ⟨t, index, action, ip, presented, chosen, carried⟩ := leads.tunnel redirects known
  obtain ⟨parcel, contents, arrived, same, kept⟩ := presented_parcel known presented
  refine ⟨parcel, contents, arrived, ?_, fun outward => ?_⟩
  · have inner : b.parcel found.redirected = b.frame.tunnel.map TunnelPacket.parcel := by
      rw [Form.redirected]
      cases found.inbound <;> rfl
    rw [inner, carried, ← same, ← (t.rewrite_kept (a.redirection found) index action).2]
    rfl
  · rw [vni_tunnel carried, ← kept outward]
    have idle : (a.redirection found).vniAz = id ∧ (a.redirection found).vniEip = id := by
      rw [redirection, if_neg (by rw [outward]; decide)]
      exact ⟨rfl, rfl⟩
    cases action with
    | rewriteEip srcip => exact congrFun idle.2 t.vxlan.vni
    | rewriteAz sharedBwVip => exact congrFun idle.1 t.vxlan.vni

/-- The gateway that keeps a packet delivers it with its translated address. -/
theorem delivers {delivery : Delivery} (known : a.form = some found) (sent : a.visit.value = some delivery)
    (matched : delivery.directSend = matchPacket) :
    ∃ parcel, a.parcel found = some parcel ∧ deliveredParcel found.inbound delivery.packet =
      some (if found.inbound then (parcel.dnat a.tables).hop else parcel.translate a.tables a.vni).update := by
  cases direction : found.inbound with
  | true =>
      obtain ⟨t, entering⟩ := exists_entering known direction
      have presented : a.presented found = some t := by
        rw [Passage.presented, if_pos direction]
        exact entering
      obtain ⟨parcel, contents, arrived, same, _⟩ := presented_parcel known presented
      obtain ⟨tunnels, _⟩ := presented_tunnels known presented
      obtain ⟨own, ⟨_, _, redirected, _⟩ | ⟨_, _, bridge, ethernet, packet⟩⟩ :=
        inbound_outcome known direction entering sent
      · exact absurd (matched.symm.trans redirected) (by decide)
      · obtain ⟨types, _, _⟩ := t.deliver_ttl a.tables bridge t.parcel.isV4
        refine ⟨parcel, arrived, ?_⟩
        rw [direction, if_pos rfl] at same
        rw [deliveredParcel, if_pos rfl, packet, innerParcel_tunnel ethernet (types tunnels.type),
          TunnelPacket.deliver_parcel, same, Parcel.dnat_hop_uncheck, Parcel.update_uncheck, if_pos rfl]
  | false =>
      obtain ⟨t, carried, _⟩ := exists_tunnel known (by rintro rfl; contradiction)
      have presented : a.presented found = some (t.snat a.tables) := by
        rw [Passage.presented, if_neg (by rw [direction]; decide), carried]
        rfl
      obtain ⟨parcel, contents, arrived, same, _⟩ := presented_parcel known presented
      obtain ⟨ethernet, family, packet⟩ := outbound_stripped known direction carried sent matched
      refine ⟨parcel, arrived, ?_⟩
      rw [direction, if_neg Bool.false_ne_true] at same
      rw [deliveredParcel, if_neg Bool.false_ne_true, packet, plainParcel_frame (by rw [family, Parcel.update_etherType]),
        same, Parcel.update_uncheck, if_neg Bool.false_ne_true]

end Passage

namespace Course

variable (c : Course)

def last : Passage := c.passages.getLast (List.cons_ne_nil _ _)

/-- What the gateways do to the packet of the address in their order -/
def translated (parcel : Parcel) : Parcel :=
  if c.form.inbound then (parcel.dnat c.last.tables).hop
  else c.passages.foldl (fun parcel a => parcel.translate a.tables c.first.vni) parcel

end Course

/-- The last gateway of a chain delivers the packet of the first one, after all translations. -/
theorem chain_carries {first : Passage} {rest : List Passage} {found : Form} (known : first.form = some found)
    (redirects : ∀ a ∈ first :: rest, Redirects a.gateway.cfg a.gateway.tables)
    (leads : List.IsChain Passage.Leads (first :: rest)) {delivery : Delivery}
    (sent : ((first :: rest).getLast (List.cons_ne_nil _ _)).visit.value = some delivery)
    (matched : delivery.directSend = matchPacket) :
    ∃ parcel, first.parcel found = some parcel ∧ deliveredParcel found.inbound delivery.packet =
      some (if found.inbound then
          (parcel.dnat ((first :: rest).getLast (List.cons_ne_nil _ _)).tables).hop
        else (first :: rest).foldl (fun parcel a => parcel.translate a.tables first.vni) parcel).update := by
  induction rest generalizing first found with
  | nil => exact Passage.delivers known sent matched
  | cons second rest ih =>
      obtain ⟨link, leads⟩ := List.isChain_cons_cons.mp leads
      obtain ⟨known', _, _⟩ := link.step (redirects first List.mem_cons_self) known
      obtain ⟨parcel, contents, arrived, next, kept⟩ := link.parcel (redirects first List.mem_cons_self) known
      rw [List.getLast_cons (List.cons_ne_nil _ _)] at sent ⊢
      obtain ⟨parcel', arrived', carried⟩ :=
        ih known' (List.forall_mem_of_forall_mem_cons redirects) leads sent
      obtain rfl := Option.some.inj (arrived'.symm.trans next)
      refine ⟨parcel, arrived, ?_⟩
      rw [Form.redirected_inbound] at carried
      rw [carried]
      cases direction : found.inbound with
      | true => rw [if_pos rfl, if_pos rfl, if_pos rfl, Parcel.dnat_hop_uncheck, Parcel.update_uncheck]
      | false =>
          rw [if_neg Bool.false_ne_true, if_neg Bool.false_ne_true, if_neg Bool.false_ne_true,
            Parcel.foldl_uncheck, Parcel.update_uncheck, kept direction]
          rfl

/--
However often a packet is redirected, its last gateway delivers the inner packet that reached the first one, with
the source translated by every gateway of an outbound way and the destination by the last one of an inbound way.
-/
theorem Course.translates (c : Course) {delivery : Delivery} (sent : c.last.visit.value = some delivery)
    (matched : delivery.directSend = matchPacket) :
    ∃ parcel, c.first.parcel c.form = some parcel ∧
      deliveredParcel c.form.inbound delivery.packet = some (c.translated parcel).update :=
  chain_carries c.known c.redirects c.leads sent matched

/-- The third gateway of the small course delivers the plain packet. -/
theorem smallCourse_translates : ∃ delivery, smallCourse.last.visit.value = some delivery ∧
    ∃ parcel, smallCourse.first.parcel .firstHop = some parcel ∧
      deliveredParcel false delivery.packet = some (smallCourse.translated parcel).update := by
  have run : smallCourse.last.visit.value.map Delivery.directSend = some matchPacket := by decide +kernel
  obtain ⟨delivery, sent, matched⟩ := Option.map_eq_some_iff.mp run
  exact ⟨delivery, sent, smallCourse.translates sent matched⟩

end IgwP4.Dataplane
