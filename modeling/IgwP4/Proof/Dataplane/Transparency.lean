/-
This file compares the delivery behind a chain of redirections with the one of its first gateway without them.
-/

import IgwP4.Proof.Dataplane.Envelopes

namespace IgwP4.Dataplane
open Packet Setup

/-! The first gateway without its redirections -/

def EipInBwId.kept (entry : EipInBwId) : EipInBwId := { entry with withinCluster := 0, betweenCluster := 0 }

def EipOutBwId.kept (entry : EipOutBwId) : EipOutBwId := { entry with withinCluster := 0, betweenCluster := 0 }

/-- The same tables, in which no address belongs to another gateway -/
def Tables.unredirected (tables : Tables) : Tables :=
  { tables with
    eipInRedirect := fun dst => (tables.eipInRedirect dst).map EipInBwId.kept
    eip6InRedirect := fun dst => (tables.eip6InRedirect dst).map EipInBwId.kept
    eipOutRedirect := fun src => (tables.eipOutRedirect src).map EipOutBwId.kept
    eip6OutRedirect := fun src => (tables.eip6OutRedirect src).map EipOutBwId.kept }

theorem Parcel.inboundEntry_unredirected (tables : Tables) (parcel : Parcel) :
    parcel.inboundEntry tables.unredirected = (parcel.inboundEntry tables).map EipInBwId.kept := by
  cases parcel <;> rfl

theorem P02Ingress.outboundEntry_unredirected (tables : Tables) (parcel : Parcel) :
    outboundEntry tables.unredirected parcel = (outboundEntry tables parcel).map EipOutBwId.kept := by
  cases parcel <;> rfl

theorem jdVxlanAction_kept (cfg : SwitchConfig) (tofAz tof : BitVec 4) : jdVxlanAction cfg tofAz tof 0 0 = none := by
  have off : ¬ (tof = tofAz ∧ (0 : BitVec 1) = 1) := fun both => absurd both.2 (by decide)
  rw [jdVxlanAction, if_neg off]
  split
  · rfl
  · rfl

namespace Passage

variable {a : Passage} {found : Form}

/-- The same visit at the gateway without its redirections -/
def unredirected (a : Passage) : Passage where
  gateway := { a.gateway with
    tables := a.tables.unredirected
    classifies := ⟨a.gateway.classifies.igwIpType, a.gateway.classifies.pipelineFix⟩ }
  around := a.around
  port := a.port
  frame := a.frame
  fits := a.fits
  etherType := a.etherType
  unpunted := a.unpunted

theorem choice_unredirected (a : Passage) (found : Form) : a.unredirected.choice found = none := by
  rw [choice]
  split
  · cases a.unredirected.entering with
    | none => rfl
    | some t =>
        change TunnelPacket.choiceIn a.gateway.cfg a.tables.unredirected t = none
        rw [TunnelPacket.choiceIn, Parcel.inboundEntry_unredirected]
        cases t.parcel.inboundEntry a.tables with
        | none => rfl
        | some entry =>
            change (jdVxlanAction _ _ _ 0 0).bind _ = none
            rw [jdVxlanAction_kept]
            rfl
  · cases a.unredirected.frame.tunnel with
    | none => rfl
    | some t =>
        change TunnelPacket.choiceOut a.gateway.cfg a.tables.unredirected (t.snat a.tables.unredirected) = none
        rw [TunnelPacket.choiceOut, P02Ingress.outboundEntry_unredirected]
        cases P02Ingress.outboundEntry a.tables (t.snat a.tables.unredirected).parcel with
        | none => rfl
        | some entry =>
            change (jdVxlanAction _ _ _ 0 0).bind _ = none
            rw [jdVxlanAction_kept]
            rfl

/-- Without redirections the gateway keeps what it delivers. -/
theorem matched_unredirected (redirects : Redirects a.gateway.cfg a.tables) (known : a.form = some found)
    {own : Delivery} (sent : a.unredirected.visit.value = some own) : own.directSend = matchPacket := by
  have redirects' : Redirects a.unredirected.gateway.cfg a.unredirected.tables :=
    ⟨redirects.modifyJdVxlanIn, redirects.modifyJdVxlanOut⟩
  have known' : a.unredirected.form = some found := known
  rcases outcome redirects' known' sent with ⟨_, _, _, _, chosen, _⟩ | ⟨_, matched⟩
  · rw [choice_unredirected] at chosen
    contradiction
  · exact matched

end Passage

/-! Outbound translations -/

/-- No translated address of these gateways is translated again by one of them. -/
def TranslatesOnce (passages : List Passage) : Prop :=
  ∀ a ∈ passages, ∀ b ∈ passages, ∀ vni src fip, a.tables.fipInnerIpSnat vni src = some fip →
    ∀ vni', b.tables.fipInnerIpSnat vni' fip = none

namespace Parcel

variable {tables : Tables} {vni : BitVec 24}

theorem translate_congr {other : Tables} (same : tables.fipInnerIpSnat = other.fipInnerIpSnat) (parcel : Parcel) :
    parcel.translate tables vni = parcel.translate other vni := by
  cases parcel with
  | v4 ip payload => rw [translate, translate, snatSource, snatSource, same]
  | v6 ip payload => rfl

/-- The second of two equal translations has no effect. -/
theorem translate_translate (once : ∀ src fip, tables.fipInnerIpSnat vni src = some fip →
    tables.fipInnerIpSnat vni fip = none) (parcel : Parcel) :
    (parcel.translate tables vni).translate tables vni = parcel.translate tables vni := by
  cases parcel with
  | v6 ip payload => rfl
  | v4 ip payload =>
      have source : snatSource tables vni (snatSource tables vni ip.srcAddr) = snatSource tables vni ip.srcAddr := by
        unfold snatSource
        cases hit : tables.fipInnerIpSnat vni ip.srcAddr with
        | none => rw [Option.getD_none, hit, Option.getD_none]
        | some fip => rw [Option.getD_some, once _ _ hit, Option.getD_none]
      rw [translate, translate, source]

/-- Gateways with the same translations translate a packet once. -/
theorem foldl_translate (once : ∀ src fip, tables.fipInnerIpSnat vni src = some fip →
    tables.fipInnerIpSnat vni fip = none) {passages : List Passage}
    (same : ∀ a ∈ passages, a.tables.fipInnerIpSnat = tables.fipInnerIpSnat) (parcel : Parcel) :
    passages.foldl (fun parcel a => parcel.translate a.tables vni) (parcel.translate tables vni) =
      parcel.translate tables vni := by
  induction passages with
  | nil => rfl
  | cons a rest ih =>
      rw [List.foldl_cons, translate_congr (same a List.mem_cons_self), translate_translate once,
        ih (List.forall_mem_of_forall_mem_cons same)]

end Parcel

/-! The two deliveries -/

/-- Both frames hold the same packet of the address, an inbound one in the same tunnel. -/
structure SameDelivery (inbound : Bool) (first second : Bits) : Prop where
  contents : ∃ parcel, deliveredParcel inbound first = some parcel ∧ deliveredParcel inbound second = some parcel
  tunnel : inbound = true → ∃ envelope, envelopeOf first = some envelope ∧ envelopeOf second = some envelope

namespace Course

/-- The last gateway has the tables that the first one would have used, and they know the host. -/
structure Shares (c : Course) : Prop where
  redirected : c.rest ≠ []
  fipInnerIpSnat : c.last.tables.fipInnerIpSnat = c.first.tables.fipInnerIpSnat
  locates : c.first.tables.LocatesAs c.last.tables
  once : TranslatesOnce c.passages
  led : c.form.inbound = true → ∀ parcel, c.first.parcel c.form = some parcel → ∀ entry,
    parcel.inboundEntry c.last.tables = some entry → ∀ tail, parcel.Ends tail →
      (c.last.tables.envelope entry.nlbEip (parcel.flowWith tail) parcel).isSome = true

/-- The gateways on the way translate alike, and the last one knows the balancer flag of the first one. -/
structure Agrees (c : Course) : Prop where
  translates : c.form.inbound = false → ∀ a ∈ c.passages, a.tables.fipInnerIpSnat = c.first.tables.fipInnerIpSnat
  balances : c.form.inbound = true → ∀ parcel, c.first.parcel c.form = some parcel →
    (parcel.inboundEntry c.last.tables).map EipInBwId.nlbEip = (parcel.inboundEntry c.first.tables).map EipInBwId.nlbEip

/-- The packet is delivered as the first gateway delivers it without redirections. -/
def Transparent (c : Course) : Prop :=
  ∀ delivery own, c.last.visit.value = some delivery → delivery.directSend = matchPacket →
    c.first.unredirected.visit.value = some own → SameDelivery c.form.inbound delivery.packet own.packet

end Course

/-- A gateway redirects an inbound packet only by an entry of its address. -/
theorem Passage.exists_entry {a : Passage} {found : Form} (known : a.form = some found)
    (inward : found.inbound = true) {choice : BitVec 32 × ModifyJdVxlanAction} (chosen : a.choice found = some choice)
    {parcel : Parcel} (arrived : a.parcel found = some parcel) : ∃ entry, parcel.inboundEntry a.tables = some entry := by
  obtain ⟨t, entering⟩ := exists_entering known inward
  have presented : a.presented found = some t := by
    rw [Passage.presented, if_pos inward]
    exact entering
  obtain ⟨parcel', contents, arrived', same, _⟩ := presented_parcel known presented
  obtain rfl := Option.some.inj (arrived.symm.trans arrived')
  rw [if_pos inward] at same
  rw [Passage.choice, if_pos inward, entering] at chosen
  obtain ⟨entry, entered, _⟩ := Option.bind_eq_some_iff.mp (show t.choiceIn a.gateway.cfg a.tables = _ from chosen)
  rw [same, Parcel.inboundEntry_uncheck] at entered
  exact ⟨entry, entered⟩

namespace Course

variable {c : Course}

/-- An inbound packet that is redirected has an entry at the first gateway. -/
theorem exists_first_entry (inbound : c.form.inbound = true) (redirected : c.rest ≠ []) {parcel : Parcel}
    (arrived : c.first.parcel c.form = some parcel) : ∃ entry, parcel.inboundEntry c.first.tables = some entry := by
  obtain ⟨first, rest, form, known, direct, redirects, leads⟩ := c
  cases rest with
  | nil => exact absurd rfl redirected
  | cons second rest =>
      obtain ⟨link, _⟩ := List.isChain_cons_cons.mp leads
      obtain ⟨_, _, _, _, _, chosen, _⟩ := link.tunnel (redirects first List.mem_cons_self) known
      exact Passage.exists_entry known inbound chosen arrived

end Course

/-! An outbound packet that is translated on its way -/

/-- The private source of the packet has a public address. -/
def translation (_vni : BitVec 24) (src : BitVec 32) : Option (BitVec 32) :=
  if src = plainHeader.srcAddr then some 0x0b000001 else none

theorem translation_once {vni vni' : BitVec 24} {src fip : BitVec 32} (hit : translation vni src = some fip) :
    translation vni' fip = none := by
  unfold translation at hit
  split at hit
  · obtain rfl := Option.some.inj hit
    exact if_neg (by decide)
  · contradiction

/-- The packet behind its translation -/
def translatedParcel : Parcel := .v4 { plainHeader with srcAddr := 0x0b000001 } []

/-- Everything behind the outer IP header, with the translated source -/
def translatedPayload (udp : Udp) (vxlan : Vxlan) : Bits :=
  Udp.codec.encode udp ++ (Vxlan.codec.encode vxlan ++
    (Ethernet.codec.encode outboundTunnel.ethernet ++ translatedParcel.bits))

/-- The frame of a redirected packet behind its translation -/
def translatedFrame (ip : Ipv4) (udp : Udp) (vxlan : Vxlan) : Frame :=
  .ipv4 ⟨3, 4, etherTypeIpv4⟩ { ip with ttl := ip.ttl - 1, hdrChecksum := ip.hdrChecksum + 256 } (.overlay
    ⟨udp, vxlan, outboundTunnel.ethernet, .v4 { plainHeader with srcAddr := 0x0b000001 } ⟨[], .unread, []⟩⟩)

theorem translatedFrame_fits {ip : Ipv4} {udp : Udp} {vxlan : Vxlan} (selects : ip.selects ipProtocolsUdp)
    (port : udp.dstPort = udpPortVxlan) : (translatedFrame ip udp vxlan).Fits := by
  have reads : p02IngressDialect.readsTransport = true := rfl
  refine ⟨rfl, selects, rfl, port, rfl, ?_⟩
  rw [if_pos reads, Tail.FitsV4, if_neg (by decide)]
  exact ⟨rfl, fun read => absurd read.1 (by decide)⟩

theorem translatedFrame_leads {a b : Passage} (ip : Ipv4) (udp : Udp) (vxlan : Vxlan)
    (arrived : b.frame = translatedFrame ip udp vxlan)
    (run : (a.visit.value.map fun delivery => (delivery.directSend, delivery.packet)) = some (dlPacket,
      Ethernet.codec.encode ⟨0, 0, etherTypeIpv4⟩ ++ (Ipv4.codec.encode ip ++ translatedPayload udp vxlan)))
    (owns : Owns b.gateway.cfg vxlan.tof ip.dstAddr) : a.Leads b := by
  obtain ⟨delivery, sent, shape⟩ := Option.map_eq_some_iff.mp run
  obtain ⟨redirected, packet⟩ := Prod.mk.inj shape
  refine ⟨⟨delivery, sent, redirected, ⟨0, 0, etherTypeIpv4⟩, ⟨3, 4, etherTypeIpv4⟩, ip, ip.ttl - 1,
    ip.hdrChecksum + 256, translatedPayload udp vxlan, rfl, packet, ?_⟩, vxlan.tof, ip.dstAddr, ?_, owns⟩
  · rw [arrived]
    change Ethernet.codec.encode _ ++ (Ipv4.codec.encode _ ++ (Udp.codec.encode udp ++ (Vxlan.codec.encode vxlan ++
      (Ethernet.codec.encode outboundTunnel.ethernet ++ (Ipv4.codec.encode _ ++ []))))) = _
    rfl
  · rw [arrived]
    exact tunnelTarget_tunnel ⟨3, 4, etherTypeIpv4⟩
      ⟨{ ip with ttl := ip.ttl - 1, hdrChecksum := ip.hdrChecksum + 256 }, udp, vxlan, outboundTunnel.ethernet,
        translatedParcel⟩

/-- The gateway that the packet reaches first, with these translations -/
def translatingFirst (snat : BitVec 24 → BitVec 32 → Option (BitVec 32)) : Passage :=
  smallPassage { Tables.empty with eipOutRedirect := fun _ => some ⟨7, 0, 1, 1, 0⟩, fipInnerIpSnat := snat }
    (fun _ => rfl) outboundFrame outboundFrame_fits outboundFrame_etherType

/-- The gateway of the zone translates the source of this frame. -/
def translatingZone (frame : Frame) (fits : frame.Fits) (ipv4 : frame.ethernet.etherType = etherTypeIpv4) :
    Passage where
  gateway := hopGateway { smallConfig with vip := smallConfig.sharedBwVip, sharedBwVip := 0x0a000004 }
    { Tables.empty with
      eipOutRedirect := fun _ => some ⟨7, 0, 1, 0, 0⟩
      selectRedirectIpOut := fun _ _ => some 0x0a000205
      fipInnerIpSnat := translation }
  around := default
  port := 5
  frame := frame
  fits := fits
  etherType := .inl ipv4
  unpunted punted := punted rfl

def zoneIp : Ipv4 := ({ outboundTunnel.ip with dstAddr := smallConfig.sharedBwVip } : Ipv4).update

def zoneUdp : Udp := { outboundTunnel.udp with srcPort := 50 }

def zoneVxlan : Vxlan := { outboundTunnel.vxlan with flags := 0x0c, version := 1, tof := tofAzOut }

def zoneFrame : Frame := translatedFrame zoneIp zoneUdp zoneVxlan

theorem zoneFrame_fits : zoneFrame.Fits := translatedFrame_fits ⟨rfl, rfl, rfl⟩ rfl

def addressIp : Ipv4 :=
  ({ zonePassage.hdr.ipv4.fields with srcAddr := smallConfig.sharedBwVip, dstAddr := 0x0a000205 } : Ipv4).update

def addressUdp : Udp := { outboundTunnel.udp with srcPort := 250 }

def addressVxlan : Vxlan := { outboundTunnel.vxlan with flags := 0x0c, version := 1, tof := tofEipOut }

def addressFrame : Frame := translatedFrame addressIp addressUdp addressVxlan

theorem addressFrame_fits : addressFrame.Fits := translatedFrame_fits ⟨rfl, rfl, rfl⟩ rfl

/-- The gateway of the address, with these translations -/
def translatingLast (snat : BitVec 24 → BitVec 32 → Option (BitVec 32)) : Passage where
  gateway := hopGateway { smallConfig with dlIp := 0x0a000200 } { Tables.empty with fipInnerIpSnat := snat }
  around := default
  port := 5
  frame := addressFrame
  fits := addressFrame_fits
  etherType := .inl rfl
  unpunted punted := punted rfl

/-- All three gateways translate the source alike. -/
def sharedCourse : Course where
  first := translatingFirst translation
  rest := [translatingZone zoneFrame zoneFrame_fits rfl, translatingLast translation]
  form := .firstHop
  known := by decide +kernel
  direct := firstHop_dlPkt
  redirects := by
    rintro a (_ | ⟨_, _ | ⟨_, _ | ⟨_, none⟩⟩⟩)
    · exact ⟨rfl, rfl⟩
    · exact ⟨rfl, rfl⟩
    · exact ⟨rfl, rfl⟩
    · contradiction
  leads := by
    refine .cons_cons ?_ (.cons_cons ?_ (.singleton _))
    · exact translatedFrame_leads zoneIp zoneUdp zoneVxlan rfl (by decide +kernel) (.inr (by decide))
    · exact translatedFrame_leads addressIp addressUdp addressVxlan rfl (by decide +kernel) (.inl (by decide))

/-- Only the gateway of the zone translates the source. -/
def middleCourse : Course where
  first := translatingFirst fun _ _ => none
  rest := [translatingZone zonePassage.frame zonePassage.fits rfl, translatingLast fun _ _ => none]
  form := .firstHop
  known := by decide +kernel
  direct := firstHop_dlPkt
  redirects := by
    rintro a (_ | ⟨_, _ | ⟨_, _ | ⟨_, none⟩⟩⟩)
    · exact ⟨rfl, rfl⟩
    · exact ⟨rfl, rfl⟩
    · exact ⟨rfl, rfl⟩
    · contradiction
  leads := by
    refine .cons_cons ?_ (.cons_cons ?_ (.singleton _))
    · exact ⟨hopFrame_transit ⟨0, 0, etherTypeIpv4⟩ (by decide +kernel), _, _, hopFrame_target _ _ _, .inr (by decide)⟩
    · exact translatedFrame_leads addressIp addressUdp addressVxlan rfl (by decide +kernel) (.inl (by decide))

/-- The last gateway has this balancer flag for the address, for which the first one knows no balancer. -/
def balancedCourse (nlbEip : BitVec 1) : Course where
  first := sentPassage
  rest := [{ hostPassage with
    gateway := hopGateway { smallConfig with dlIp := 0x0a000200 } (hostTables ⟨7, 0, 0, 0, nlbEip⟩)
    unpunted := fun punted => punted rfl }]
  form := .direct
  known := hostCourse.known
  direct := hostCourse.direct
  redirects := by
    rintro a (_ | ⟨_, _ | ⟨_, none⟩⟩)
    · exact ⟨rfl, rfl⟩
    · exact ⟨rfl, rfl⟩
    · contradiction
  leads := .cons_cons ⟨sentPassage_leads.sent, sentPassage_leads.owns⟩ (.singleton _)

theorem translatesOnce_of_each {passages : List Passage}
    (each : ∀ a ∈ passages, a.tables.fipInnerIpSnat = translation ∨ a.tables.fipInnerIpSnat = fun _ _ => none) :
    TranslatesOnce passages := by
  intro a first b second vni src fip hit vni'
  rcases each a first with same | same
  · rw [same] at hit
    rcases each b second with same | same
    · rw [same]
      exact translation_once hit
    · rw [same]
  · rw [same] at hit
    contradiction

theorem sharedCourse_shares : sharedCourse.Shares where
  redirected := List.cons_ne_nil _ _
  fipInnerIpSnat := rfl
  locates := ⟨rfl, rfl, rfl, rfl, rfl, rfl, rfl, rfl, rfl, rfl⟩
  once := by
    refine translatesOnce_of_each ?_
    rintro a (_ | ⟨_, _ | ⟨_, _ | ⟨_, none⟩⟩⟩)
    · exact .inl rfl
    · exact .inl rfl
    · exact .inl rfl
    · contradiction
  led inbound := absurd inbound (by decide)

theorem sharedCourse_agrees : sharedCourse.Agrees where
  translates := by
    rintro - a (_ | ⟨_, _ | ⟨_, _ | ⟨_, none⟩⟩⟩)
    · rfl
    · rfl
    · rfl
    · contradiction
  balances inbound := absurd inbound (by decide)

theorem middleCourse_shares : middleCourse.Shares where
  redirected := List.cons_ne_nil _ _
  fipInnerIpSnat := rfl
  locates := ⟨rfl, rfl, rfl, rfl, rfl, rfl, rfl, rfl, rfl, rfl⟩
  once := by
    refine translatesOnce_of_each ?_
    rintro a (_ | ⟨_, _ | ⟨_, _ | ⟨_, none⟩⟩⟩)
    · exact .inr rfl
    · exact .inl rfl
    · exact .inr rfl
    · contradiction
  led inbound := absurd inbound (by decide)

theorem balancedCourse_arrived {nlbEip : BitVec 1} {parcel : Parcel}
    (arrived : (balancedCourse nlbEip).first.parcel (balancedCourse nlbEip).form = some parcel) :
    parcel = .v4 plainHeader [] :=
  (Option.some.inj arrived).symm

theorem balancedCourse_shares (nlbEip : BitVec 1) : (balancedCourse nlbEip).Shares where
  redirected := List.cons_ne_nil _ _
  fipInnerIpSnat := rfl
  locates := ⟨rfl, rfl, rfl, rfl, rfl, rfl, rfl, rfl, rfl, rfl⟩
  once := by
    refine translatesOnce_of_each ?_
    rintro a (_ | ⟨_, _ | ⟨_, none⟩⟩)
    · exact .inr rfl
    · exact .inr rfl
    · contradiction
  led _ parcel arrived entry entered tail _ := by
    rw [balancedCourse_arrived arrived]
    rfl

theorem balancedCourse_agrees : (balancedCourse 0).Agrees where
  translates outward := absurd outward (by decide)
  balances _ parcel arrived := by
    rw [balancedCourse_arrived arrived]
    rfl

end IgwP4.Dataplane
