/-
This file shows that the answer to a translated packet returns to the address that sent the packet.
-/

import IgwP4.Proof.Dataplane.Envelopes
import Mathlib.Data.PEquiv

namespace IgwP4.Dataplane
open Packet Setup

/-! The addresses behind the gateways -/

/-- The public address of every private one, which no network uses itself -/
structure Bindings where
  fips : BitVec 24 × BitVec 32 ≃. BitVec 32
  apart : ∀ {own fip}, fips own = some fip → ∀ vni, fips (vni, fip) = none

/-- Every flow to this address has its next hop in this network. -/
def Tables.Serves (tables : Tables) (vni : BitVec 24) (address : BitVec 32) : Prop :=
  ∃ location, (tables.vmLocMapping address).map Prod.fst = some location ∧ ∀ nlb flow, ∃ nexthop,
    tables.routeNexthop (tables.nexthopBehind nlb flow location) = some nexthop ∧ nexthop.vni = vni ∧
    (tables.tunnelSrcRewrite nexthop.srcid).isSome = true ∧ (tables.tunnelDstRewrite nexthop.dstid).isSome = true ∧
    (tables.tunnelInnerRewrite nexthop.innerMacId).isSome = true

/-- The tables translate by these bindings in both directions and serve their private addresses. -/
structure Tables.Holds (tables : Tables) (b : Bindings) : Prop where
  fipInnerIpSnat : ∀ vni src, tables.fipInnerIpSnat vni src = b.fips (vni, src)
  fipDnat : ∀ fip, tables.fipDnat fip = (b.fips.symm fip).map Prod.snd
  eipInRedirect : ∀ {own fip}, b.fips own = some fip → (tables.eipInRedirect fip).isSome = true
  serves : ∀ {vni src fip}, b.fips (vni, src) = some fip → tables.Serves vni src

namespace Tables.Holds

variable {tables : Tables} {b : Bindings} (holds : tables.Holds b)

include holds

/-- The location of a host has no key for its network, so that no two networks share a bound address. -/
theorem network {vni vni' : BitVec 24} {src fip fip' : BitVec 32} (bound : b.fips (vni, src) = some fip)
    (bound' : b.fips (vni', src) = some fip') : vni = vni' := by
  obtain ⟨location, located, leads⟩ := holds.serves bound
  obtain ⟨location', located', leads'⟩ := holds.serves bound'
  obtain rfl := Option.some.inj (located.symm.trans located')
  obtain ⟨nexthop, reached, rfl, _⟩ := leads 0 ⟨0, 0, 0, 0, 0⟩
  obtain ⟨nexthop', reached', rfl, _⟩ := leads' 0 ⟨0, 0, 0, 0, 0⟩
  obtain rfl := Option.some.inj (reached.symm.trans reached')
  rfl

theorem translate {vni : BitVec 24} {ip : Ipv4} {fip : BitVec 32} (bound : b.fips (vni, ip.srcAddr) = some fip)
    (payload : Bits) :
    (Parcel.v4 ip payload).translate tables vni = .v4 { ip with srcAddr := fip } payload := by
  rw [Parcel.translate, snatSource, holds.fipInnerIpSnat, bound]
  rfl

/-- A gateway leaves a source alone that an earlier gateway has translated. -/
theorem translate_again {own : BitVec 24 × BitVec 32} {ip : Ipv4} (bound : b.fips own = some ip.srcAddr)
    (vni : BitVec 24) (payload : Bits) : (Parcel.v4 ip payload).translate tables vni = .v4 ip payload := by
  rw [Parcel.translate, snatSource, holds.fipInnerIpSnat, b.apart bound]
  rfl

theorem dnat {own : BitVec 24 × BitVec 32} {ip : Ipv4} (bound : b.fips own = some ip.dstAddr) (payload : Bits) :
    (Parcel.v4 ip payload).dnat tables = .v4 { ip with dstAddr := own.2 } payload := by
  have back : b.fips.symm ip.dstAddr = some own := (b.fips.eq_some_iff).mpr bound
  rw [Parcel.dnat, holds.fipDnat, back]
  rfl

/-- The tunnel of a packet to a bound address ends in the network of the address. -/
theorem envelope {own : BitVec 24 × BitVec 32} {ip : Ipv4} (bound : b.fips own = some ip.dstAddr) (payload : Bits)
    (nlb : BitVec 1) (flow : FlowKey) :
    ∃ envelope, tables.envelope nlb flow (.v4 ip payload) = some envelope ∧ envelope.vni = own.1 := by
  obtain ⟨location, located, leads⟩ := holds.serves bound
  obtain ⟨nexthop, reached, network, src, dst, inner⟩ := leads nlb flow
  obtain ⟨source, from'⟩ := Option.isSome_iff_exists.mp src
  obtain ⟨destination, to'⟩ := Option.isSome_iff_exists.mp dst
  obtain ⟨macs, framed⟩ := Option.isSome_iff_exists.mp inner
  have place : ((Parcel.v4 ip payload).dnat tables).location tables = some location := by
    rw [holds.dnat bound]
    exact located
  rw [Tables.envelope]
  simp only [Option.bind_eq_bind, place, reached, from', to', framed, Option.bind_some]
  exact ⟨_, rfl, network⟩

end Tables.Holds

/-- The first gateway of a chain translates the source, and the others keep it. -/
theorem foldl_translates {b : Bindings} {vni : BitVec 24} {ip : Ipv4} {fip : BitVec 32}
    (bound : b.fips (vni, ip.srcAddr) = some fip) (payload : Bits) {first : Passage} {rest : List Passage}
    (holds : ∀ a ∈ first :: rest, a.tables.Holds b) :
    (first :: rest).foldl (fun parcel a => parcel.translate a.tables vni) (Parcel.v4 ip payload) =
      .v4 { ip with srcAddr := fip } payload := by
  rw [List.foldl_cons, (holds first List.mem_cons_self).translate bound]
  have others := List.forall_mem_of_forall_mem_cons holds
  clear holds
  induction rest with
  | nil => rfl
  | cons a rest ih =>
      rw [List.foldl_cons, (others a List.mem_cons_self).translate_again bound]
      exact ih (List.forall_mem_of_forall_mem_cons others)

/-! A packet and its answer -/

/-- An IPv4 packet from a bound address on its way through gateways with these bindings -/
structure Outgoing (b : Bindings) where
  course : Course
  outbound : course.form.inbound = false
  holds : ∀ a ∈ course.passages, a.tables.Holds b
  header : Ipv4
  payload : Bits
  arrived : course.first.parcel course.form = some (.v4 header payload)
  fip : BitVec 32
  bound : b.fips (course.first.vni, header.srcAddr) = some fip

/-- An IPv4 packet on its way to a gateway with these bindings -/
structure Answer (b : Bindings) where
  course : Course
  inbound : course.form.inbound = true
  holds : course.last.tables.Holds b
  header : Ipv4
  payload : Bits
  arrived : course.first.parcel course.form = some (.v4 header payload)

variable {b : Bindings}

/-- The packet leaves the last gateway with the public address of its source. -/
theorem Outgoing.leaves (o : Outgoing b) {sent : Delivery} (left : o.course.last.visit.value = some sent)
    (matched : sent.directSend = matchPacket) :
    plainParcel sent.packet = some (.v4 ({ o.header with srcAddr := o.fip } : Ipv4).update o.payload) := by
  obtain ⟨parcel, started, carried⟩ := chain_carries o.course.known o.course.redirects o.course.leads left matched
  obtain rfl := Option.some.inj (o.arrived.symm.trans started)
  rw [o.outbound, deliveredParcel, if_neg Bool.false_ne_true, if_neg Bool.false_ne_true,
    foldl_translates o.bound o.payload o.holds] at carried
  exact carried

/--
The answer to the source that a delivered packet shows reaches the sender of that packet with nothing changed but
its destination, its hop count and its checksum, in the network of the sender.
-/
theorem Outgoing.answered (o : Outgoing b) (a : Answer b) {sent back : Delivery}
    (left : o.course.last.visit.value = some sent) (matched : sent.directSend = matchPacket) {shown : Ipv4}
    {payload : Bits} (shows : plainParcel sent.packet = some (.v4 shown payload))
    (answers : a.header.dstAddr = shown.srcAddr) (arrives : a.course.last.visit.value = some back)
    (kept : back.directSend = matchPacket) :
    innerParcel back.packet =
        some ((Parcel.v4 { a.header with dstAddr := o.header.srcAddr } a.payload).hop.update) ∧
      ∃ envelope, envelopeOf back.packet = some envelope ∧ envelope.vni = o.course.first.vni := by
  obtain ⟨rfl, rfl⟩ := Parcel.v4.inj (Option.some.inj (shows.symm.trans (o.leaves left matched)))
  have bound : b.fips (o.course.first.vni, o.header.srcAddr) = some a.header.dstAddr := by
    rw [answers]
    exact o.bound
  constructor
  · obtain ⟨parcel, started, carried⟩ := chain_carries a.course.known a.course.redirects a.course.leads arrives kept
    obtain rfl := Option.some.inj (a.arrived.symm.trans started)
    rw [a.inbound, deliveredParcel, if_pos rfl, if_pos rfl] at carried
    rw [carried]
    exact congrArg (fun parcel : Parcel => some parcel.hop.update) (a.holds.dnat bound a.payload)
  · obtain ⟨last, contents, inside, form, found⟩ :=
      chain_arrives a.course.known a.inbound a.course.redirects a.course.leads a.arrived
    obtain ⟨entry, entered⟩ := Option.isSome_iff_exists.mp (a.holds.eipInRedirect bound)
    have entered : ((Parcel.v4 a.header a.payload).uncheck contents).inboundEntry a.course.last.tables =
        some entry := by
      rw [Parcel.inboundEntry_uncheck]
      exact entered
    obtain ⟨tail, _, envelops⟩ := Passage.enveloped form inside found entered arrives kept
    obtain ⟨envelope, led, network⟩ := a.holds.envelope bound a.payload entry.nlbEip
      ((Parcel.v4 a.header a.payload).flowWith tail)
    refine ⟨envelope, envelops envelope ?_, network⟩
    rw [Parcel.flowWith_uncheck, Tables.envelope_uncheck]
    exact led

/-! A session of one address -/

def sampleFip : BitVec 32 := 0x0b000001

theorem sampleFip_apart {own : BitVec 24 × BitVec 32} {fip : BitVec 32}
    (bound : PEquiv.single ((0 : BitVec 24), plainHeader.srcAddr) sampleFip own = some fip) (vni : BitVec 24) :
    PEquiv.single ((0 : BitVec 24), plainHeader.srcAddr) sampleFip (vni, fip) = none := by
  have same : fip = sampleFip := ((PEquiv.mem_single_iff _ _ _ _).mp bound).2
  refine PEquiv.single_apply_of_ne ?_ sampleFip
  rintro ⟨⟩
  exact absurd same (by decide)

/-- The source of the plain header in the first network has a public address. -/
def sampleBindings : Bindings where
  fips := PEquiv.single (0, plainHeader.srcAddr) sampleFip
  apart := sampleFip_apart

/-- Every bound address lies behind one next hop of the first network. -/
def sessionTables : Tables :=
  { hostTables ⟨7, 0, 0, 0, 0⟩ with
    routeNexthop := fun _ => some ⟨1, 1, 0, 1⟩
    fipInnerIpSnat := fun vni src => sampleBindings.fips (vni, src)
    fipDnat := fun fip => (sampleBindings.fips.symm fip).map Prod.snd }

theorem sessionTables_unpunted (key : ProcessProtocolKey) : sessionTables.processProtocolPacket key = none := rfl

theorem sessionTables_holds : (smallGateway sessionTables).tables.Holds sampleBindings where
  fipInnerIpSnat _ _ := rfl
  fipDnat _ := rfl
  eipInRedirect _ := rfl
  serves bound := by
    obtain ⟨⟨rfl, _⟩, _⟩ := (PEquiv.mem_single_iff _ _ _ _).mp bound
    exact ⟨1, rfl, fun _ _ => ⟨_, rfl, rfl, rfl, rfl, rfl⟩⟩

/-- The answer changes the addresses of the packet. -/
def answerHeader : Ipv4 := { plainHeader with srcAddr := plainHeader.dstAddr, dstAddr := sampleFip }

theorem answerHeader_fits : (directFrame answerHeader).Fits :=
  ⟨rfl, fun read => absurd read.2.1 (by decide), fun read => absurd read.1 (by decide),
    fun read => absurd read.1 (by decide)⟩

def outgoingPassage : Passage :=
  smallPassage sessionTables sessionTables_unpunted outboundFrame outboundFrame_fits outboundFrame_etherType

def answerPassage : Passage :=
  smallPassage sessionTables sessionTables_unpunted (directFrame answerHeader) answerHeader_fits
    (directFrame_etherType _)

theorem outgoingPassage_form : outgoingPassage.form = some .firstHop := by
  decide +kernel

theorem answerPassage_form : answerPassage.form = some .direct := by
  decide +kernel

theorem session_redirects {passage : Passage} (own : passage.gateway = smallGateway sessionTables) :
    ∀ a ∈ [passage], Redirects a.gateway.cfg a.gateway.tables := by
  intro a only
  obtain rfl := List.mem_singleton.mp only
  rw [own]
  exact smallGateway_redirects _

theorem session_holds {passage : Passage} (own : passage.gateway = smallGateway sessionTables) :
    ∀ a ∈ [passage], a.tables.Holds sampleBindings := by
  intro a only
  obtain rfl := List.mem_singleton.mp only
  rw [Passage.tables, own]
  exact sessionTables_holds

theorem direct_dlPkt : Form.direct.dlPkt = 0 := rfl

def sampleOutgoing : Outgoing sampleBindings where
  course := {
    first := outgoingPassage
    rest := []
    form := .firstHop
    known := outgoingPassage_form
    direct := firstHop_dlPkt
    redirects := session_redirects rfl
    leads := .singleton _ }
  outbound := rfl
  holds := session_holds rfl
  header := plainHeader
  payload := []
  arrived := rfl
  fip := sampleFip
  bound := PEquiv.single_apply _ _

def sampleAnswer : Answer sampleBindings where
  course := {
    first := answerPassage
    rest := []
    form := .direct
    known := answerPassage_form
    direct := direct_dlPkt
    redirects := session_redirects rfl
    leads := .singleton _ }
  inbound := rfl
  holds := sessionTables_holds
  header := answerHeader
  payload := []
  arrived := rfl

/-- The answer to the public address reaches the private one. -/
theorem answered_sample : ∃ sent back : Delivery, outgoingPassage.visit.value = some sent ∧
    answerPassage.visit.value = some back ∧
    plainParcel sent.packet = some (.v4 ({ plainHeader with srcAddr := sampleFip } : Ipv4).update []) ∧
    innerParcel back.packet =
      some ((Parcel.v4 { answerHeader with dstAddr := plainHeader.srcAddr } []).hop.update) := by
  have run : outgoingPassage.visit.value.map Delivery.directSend = some matchPacket := by decide +kernel
  have back : answerPassage.visit.value.map Delivery.directSend = some matchPacket := by decide +kernel
  obtain ⟨sent, left, matched⟩ := Option.map_eq_some_iff.mp run
  obtain ⟨back, arrives, kept⟩ := Option.map_eq_some_iff.mp back
  have shows := sampleOutgoing.leaves left matched
  exact ⟨sent, back, left, arrives, shows,
    (sampleOutgoing.answered sampleAnswer left matched shows rfl arrives kept).1⟩

end IgwP4.Dataplane
