/-
This file shows that no gateway delivers a packet that exceeds the rate of its address or the shared rate.
-/

import IgwP4.Proof.Dataplane.Envelopes

namespace IgwP4.Dataplane
open Packet Setup

/-! The colours of a packet -/

/-- What the meter of the address and the shared meter say about a packet that meets them -/
structure Colors where
  address : Option (BitVec 2)
  shared : Option (BitVec 2)

namespace Colors

variable {c : Colors}

def Red (c : Colors) : Prop := c.address = some colorRed ∨ c.shared = some colorRed

instance (c : Colors) : Decidable c.Red := inferInstanceAs (Decidable (_ ∨ _))

/-- The shared meter decides unless the other one is red. -/
def final (c : Colors) (before : BitVec 2) : BitVec 2 :=
  let address := c.address.getD before
  if address = colorRed then address else c.shared.getD address

theorem Red.final (red : c.Red) (before : BitVec 2) : c.final before = colorRed := by
  rw [Colors.final]
  rcases red with address | shared
  · rw [address, Option.getD_some, if_pos rfl]
  · rw [shared, Option.getD_some]
    split
    · assumption
    · rfl

/-- The colour with which the packet came does not matter behind the meter of the address. -/
theorem red_of_final (metered : c.address.isSome) {before : BitVec 2} (red : c.final before = colorRed) : c.Red := by
  obtain ⟨color, address⟩ := Option.isSome_iff_exists.mp metered
  rw [final, address, Option.getD_some] at red
  split at red
  · rename_i same
    exact .inl (address.trans (congrArg some same))
  · rename_i other
    cases shared : c.shared with
    | none => exact absurd (by rwa [shared] at red) other
    | some color' =>
        rw [shared, Option.getD_some] at red
        exact .inr (shared.trans (congrArg some red))

end Colors

namespace Parcel

/-- The shared meters apply to IPv4 packets only. -/
def inboundColors (tables : Tables) (parcel : Parcel) : Colors where
  address := tables.eipInMeter (limits (parcel.inboundEntry tables)).bandwidthId
  shared :=
    if parcel.isV4 then
      tables.eipInSharedMeter (((parcel.inboundEntry tables).map EipInBwId.sharedBandwidthId).getD 0)
    else none

/-- A source without an entry has no meter of its own. -/
def outboundColors (tables : Tables) (parcel : Parcel) : Colors where
  address := (P02Ingress.outboundEntry tables parcel).bind fun data => tables.eipOutMeter data.bandwidthId
  shared :=
    if parcel.isV4 then
      tables.eipOutSharedMeter
        (((P02Ingress.outboundEntry tables parcel).map EipOutBwId.sharedBandwidthId).getD 0)
    else none

@[simp] theorem outboundColors_uncheck (tables : Tables) (contents : Ipv4) (parcel : Parcel) :
    (parcel.uncheck contents).outboundColors tables = parcel.outboundColors tables := by
  cases parcel <;> rfl

/-- The located packet has the colour of both inbound meters. -/
theorem located_color (tables : Tables) (parcel : Parcel) (flow : FlowKey) (own : BridgeMetadata) :
    ((own.stay tables parcel).locate tables parcel flow).meterPacketColor =
      (parcel.inboundColors tables).final own.meterPacketColor := by
  have shared : (own.stay tables parcel).sharedBandwidthId =
      ((parcel.inboundEntry tables).map EipInBwId.sharedBandwidthId).getD 0 := by
    rw [BridgeMetadata.stay]
    cases parcel.inboundEntry tables <;> rfl
  rw [(BridgeMetadata.locate_keeps tables parcel flow _).2, BridgeMetadata.colour, shared, Colors.final]
  change (if (inboundColors tables parcel).address.getD own.meterPacketColor ≠ colorRed ∧ parcel.isV4 = true
    then _ else _ : BridgeMetadata).meterPacketColor = _
  by_cases red : (inboundColors tables parcel).address.getD own.meterPacketColor = colorRed
  · rw [if_neg (fun both => both.1 red), if_pos red]
    rfl
  · rw [if_neg red]
    by_cases v4 : parcel.isV4 = true
    · rw [if_pos ⟨red, v4⟩, inboundColors, if_pos v4]
      rfl
    · rw [if_neg (fun both => v4 both.2)]
      change (inboundColors tables parcel).address.getD own.meterPacketColor = _
      rw [inboundColors, if_neg v4]
      rfl

end Parcel

/-- A packet leaves an egress by the port that the traffic manager gave it. -/
theorem egressPass_port {parse : Headers → Bits → Option ParserState} {apply : EgressState → EgressState}
    {deparse : EgressState → Bits} {around : Surroundings} {port : BitVec 9} {packet : Bits} {delivery : Delivery}
    (sent : (egressPass parse apply deparse around port packet).value = some delivery) : delivery.port = port := by
  unfold egressPass at sent
  split at sent
  · contradiction
  · dsimp only at sent
    split at sent
    · contradiction
    · rw [← Option.some.inj sent]

/-! The outbound meters -/

namespace P02Egress

/-- What the outbound meters say about a packet with this bridge header -/
def colors (tables : Tables) (v4 : Bool) (bgMd : BridgeMetadata) : Colors where
  address := tables.eipOutMeter bgMd.eipOrBwid
  shared := if v4 then tables.eipOutSharedMeter bgMd.sharedBandwidthId else none

def color (s : EgressState) : BitVec 2 := s.hdr.bgMd.fields.meterPacketColor

theorem eipOutMeter_color (tables : Tables) {s : EgressState}
    (inner : s.hdr.innerIpv4.valid = true ∨ s.hdr.innerIpv6.valid = true) :
    color (eipOutMeter tables s) = (tables.eipOutMeter s.metadata.ratelimit.bandwidthId).getD (color s) := by
  rw [eipOutMeter, if_pos inner]
  cases tables.eipOutMeter s.metadata.ratelimit.bandwidthId <;> rfl

theorem eipOutSharedMeter_color (tables : Tables) (s : EgressState) :
    color (eipOutSharedMeter tables s) =
      if color s ≠ colorRed ∧ s.hdr.innerIpv4.valid = true then
        (tables.eipOutSharedMeter s.hdr.bgMd.fields.sharedBandwidthId).getD (color s)
      else color s := by
  have counted (s : EgressState) : color (sharedBwStats s) = color s := by
    unfold sharedBwStats
    split <;> rfl
  rw [eipOutSharedMeter]
  change color (if color s ≠ colorRed ∧ s.hdr.innerIpv4.valid = true then _ else _) = _
  split
  · rw [counted, sharedBwRatelimit]
    cases tables.eipOutSharedMeter s.hdr.bgMd.fields.sharedBandwidthId <;> rfl
  · rfl

/-- The processing of an outbound packet leaves the colour of both outbound meters. -/
theorem processGwEgress_color (tables : Tables) {s : EgressState} {bgMd : BridgeMetadata}
    (bridge : s.hdr.bgMd.fields = bgMd) (bandwidth : s.metadata.ratelimit.bandwidthId = bgMd.eipOrBwid)
    (inner : s.hdr.innerIpv4.valid = true ∨ s.hdr.innerIpv6.valid = true)
    (outbound : bgMd.igrTunnelType ≠ typeIngressInternetIn) :
    color (processGwEgress tables s) =
      (colors tables s.hdr.innerIpv4.valid bgMd).final bgMd.meterPacketColor := by
  have stripped (s : EgressState) : color (internetOutProcess s) = color s := by
    unfold internetOutProcess
    split <;> rfl
  have counted (s : EgressState) : color (eipOutEgressPktStats s) = color s := by
    obtain ⟨_, same, _⟩ := eipOutEgressPktStats_eq s
    rw [same]
    rfl
  obtain ⟨_, metered⟩ := eipOutMeter_eq tables inner
  have shared : (eipOutMeter tables s).hdr.bgMd.fields.sharedBandwidthId = bgMd.sharedBandwidthId := by
    rw [metered, ← bridge]
  have family : (eipOutMeter tables s).hdr.innerIpv4.valid = s.hdr.innerIpv4.valid := by
    rw [metered]
  have came : color s = bgMd.meterPacketColor := congrArg BridgeMetadata.meterPacketColor bridge
  rw [processGwEgress, bridge, if_neg outbound, stripped, counted, eipOutSharedMeter_color, shared, family,
    eipOutMeter_color tables inner, bandwidth, came, Colors.final]
  change _ = if (tables.eipOutMeter bgMd.eipOrBwid).getD bgMd.meterPacketColor = colorRed then _ else _
  by_cases red : (tables.eipOutMeter bgMd.eipOrBwid).getD bgMd.meterPacketColor = colorRed
  · rw [if_neg (fun both => both.1 red), if_pos red]
    rfl
  · rw [if_neg red]
    by_cases v4 : s.hdr.innerIpv4.valid = true
    · rw [if_pos ⟨red, v4⟩, colors, if_pos v4]
    · rw [if_neg (fun both => v4 both.2), colors, if_neg v4]
      rfl

/-- An outbound packet without an entry of its source has the meter of the id that came with it. -/
theorem released_color (tables : Tables) (port : BitVec 9) (etherType : BitVec 16) (t : TunnelPacket)
    (before : BridgeMetadata) {bgMd : BridgeMetadata}
    (released : bgMd = P02Ingress.bridged port etherType (P02Ingress.released tables t false before)) :
    ∃ color, (colors tables t.parcel.isV4 bgMd).final bgMd.meterPacketColor =
      (t.parcel.outboundColors tables).final color := by
  rw [released, P02Ingress.released, Parcel.outboundColors]
  cases P02Ingress.outboundEntry tables t.parcel with
  | some data => exact ⟨before.meterPacketColor, rfl⟩
  | none => exact ⟨(tables.eipOutMeter before.eipOrBwid).getD before.meterPacketColor, rfl⟩

/-- The ACL of the initialisation drops an outbound packet if and only if it is red. -/
theorem pass_outbound {tables : Tables} (acl : tables.egressSystemAcl = egressAclAction egressAclInit)
    (around : Surroundings) (port : BitVec 9) {bgMd : BridgeMetadata} {t : TunnelPacket}
    (bridges : bgMd.Bridges etherTypeIpv4) (tunnels : t.Tunnels) (matched : bgMd.tunnelDirectSend = matchPacket)
    (outbound : bgMd.igrTunnelType ≠ typeIngressInternetIn) :
    (pass tables around port (BridgeMetadata.codec.encode bgMd ++ t.bits)).value = none ↔
      port ≠ cpuPort ∧ (colors tables t.parcel.isV4 bgMd).final bgMd.meterPacketColor = colorRed := by
  obtain ⟨parsed, accepted, carries⟩ := parse_tunnel around.containers bridges tunnels
  have original : parsed.metadata.mirror.flag = 0 := by
    rw [carries.mirror]
  have coloured : color (reached tables around.fresh (egressStart around port parsed)) =
      (colors tables t.parcel.isV4 bgMd).final bgMd.meterPacketColor := by
    obtain ⟨l3, restores⟩ := restore_carried around.fresh (s := egressStart around port parsed) carries.bgMd
      carries.ethernet bridges.outerEthernetInvalid carries.bears.inner
    have fields : (egressStart around port parsed).hdr.bgMd.fields = bgMd := congrArg Header.fields carries.bgMd
    have inner : (egressStart around port parsed).hdr.innerIpv4.valid = true ∨
        (egressStart around port parsed).hdr.innerIpv6.valid = true := by
      rcases carries.bears.inner with ⟨on, _⟩ | ⟨_, on⟩
      · exact .inl on
      · exact .inr on
    have family : (egressStart around port parsed).hdr.innerIpv4.valid = t.parcel.isV4 := by
      have bears := carries.bears.parcel
      change parsed.hdr.innerIpv4.valid = _
      cases held : t.parcel with
      | v4 ip payload =>
          rw [held] at bears
          exact congrArg Header.valid bears.1
      | v6 ip payload =>
          rw [held] at bears
          exact bears.1
    have treated : (egressStart around port parsed).hdr.bgMd.fields.tunnelDirectSend = matchPacket := by
      rw [fields, matched]
    rw [reached, restores, if_pos treated, ← family]
    refine processGwEgress_color tables ?_ ?_ ?_ outbound
    · exact fields
    · rfl
    · exact inner
  obtain ⟨_, _, _, _, stripped, _⟩ := reached_outbound tables around.fresh around port carries bridges matched outbound
  rw [pass_value accepted original rfl]
  generalize reached tables around.fresh (egressStart around port parsed) = s at coloured stripped
  have drops : (tables.egressSystemAcl (egressAclKey s)).drops = true ↔ color s = colorRed := by
    have bare : (egressAclKey s).ipv4IsValid ≠ 1 := by
      change validBit s.hdr.ipv4.valid ≠ 1
      rw [stripped.ipv4]
      decide
    rw [acl, egressAclInit_drops, or_iff_left (fun marked => bare marked.1)]
    rfl
  rw [← coloured, ← drops]
  split
  · rename_i lost
    exact iff_of_true rfl lost
  · rename_i kept
    exact iff_of_false (Option.some_ne_none _) kept

end P02Egress

/-! The visit -/

namespace Passage

variable {a : Passage} {found : Form}

/-- What the meters of the gateway say about the packet, outbound behind the translation of its source -/
def colors (a : Passage) (found : Form) (parcel : Parcel) : Colors :=
  if found.inbound then parcel.inboundColors a.tables else (parcel.translate a.tables a.vni).outboundColors a.tables

/-- A gateway delivers no inbound packet that is red at one of its meters. -/
theorem inbound_colors (acl : a.tables.egressSystemAcl = egressAclAction egressAclInit) (known : a.form = some found)
    (inward : found.inbound = true) {parcel : Parcel} (arrived : a.parcel found = some parcel) {delivery : Delivery}
    (sent : a.visit.value = some delivery) (matched : delivery.directSend = matchPacket)
    (front : delivery.port ≠ cpuPort) : ¬ (parcel.inboundColors a.tables).Red := by
  obtain ⟨own, t, tail, _, bridges, matched, inbound, tunnels, last⟩ := stays known inward arrived sent matched
  intro red
  have port := egressPass_port last
  rw [P02Egress.pass_inbound acl _ _ bridges tunnels matched inbound, if_pos] at last
  · contradiction
  · refine ⟨port ▸ front, .inl ?_⟩
    rw [Parcel.located_color]
    exact red.final _

/-- The first pipe drops an outbound packet or gives it the bandwidth ids of its source. -/
theorem first_released (known : a.form = some found) (outward : found.inbound = false) {t : TunnelPacket}
    (carried : a.frame.tunnel = some t) :
    (P02Ingress.pass a.tables a.around.p02Ingress a.port a.frame.bits).value = none ∨
      ∃ externalPort before, internal externalPort = false ∧
        before.igrTunnelType = typeIngressInternetOut ∧ before.tunnelDirectSend = matchPacket ∧
        (P02Ingress.pass a.tables a.around.p02Ingress a.port a.frame.bits).value =
          some (externalPort, BridgeMetadata.codec.encode (P02Ingress.bridged a.port etherTypeIpv4
              (P02Ingress.released a.tables (t.snat a.tables) ((t.snat a.tables).redirectOut a.tables before).isSome
                before)) ++
            (((t.snat a.tables).redirectOut a.tables before).getD (t.snat a.tables)).bits) := by
  obtain ⟨egrPipeline, treated⟩ := treated known
  have outbound : found.igrTunnelType = typeIngressInternetOut := by
    cases found with
    | direct => contradiction
    | redirectedIn => contradiction
    | firstHop => rfl
    | redirectedOut => rfl
  obtain ⟨tail, bears, tunnels, _, _, fabric, cpu⟩ :=
    a.frame.tunnel_bears a.fits a.around.p02Ingress.containers carried
  obtain ⟨assigned, _, _, _, _, _, _, applied, _, bears, bridge, ethernet, sameFabric, sameCpu⟩ :=
    treated.apply_outbound outbound (P02IngressParser.parse_initial a.accepted).2 bears
  have outside : internal a.arrival.egressPort = false := (internal_egressPort known).trans outward
  have etherType : (a.frame.state a.around.p02Ingress.containers).hdr.ethernet.fields.etherType = etherTypeIpv4 :=
    (congrArg (fun h : Header Ethernet => h.fields.etherType)
      (a.frame.state_ethernet a.around.p02Ingress.containers)).trans (etherType_of_tunnel carried)
  let before := P02Ingress.classifiedBridge a.around.p02Ingress.fresh (ingressStart a.around.p02Ingress a.port
    (a.frame.state a.around.p02Ingress.containers)) ⟨found.igrTunnelType, found.dlPkt, egrPipeline⟩
  let choice := (t.snat a.tables).redirectOut a.tables before
  have left : P02Ingress.deparse (P02Ingress.apply a.tables a.around.p02Ingress.fresh (ingressStart a.around.p02Ingress
        a.port (a.frame.state a.around.p02Ingress.containers))) ++ (a.frame.state a.around.p02Ingress.containers).pkt =
      BridgeMetadata.codec.encode (P02Ingress.bridged a.port etherTypeIpv4
        (P02Ingress.released a.tables (t.snat a.tables) choice.isSome before)) ++
          (choice.getD (t.snat a.tables)).bits := by
    rw [applied, ← etherType]
    exact bears.emit_bridged bridge ethernet ((congrArg Header.valid sameFabric).trans fabric)
      ((congrArg Header.valid sameCpu).trans cpu)
  rw [P02Ingress.pass_of_parsed a.accepted]
  dsimp only
  rw [left]
  split
  · exact .inl rfl
  · exact .inr ⟨a.arrival.egressPort, before, outside, outbound, assigned.tunnelDirectSend, rfl⟩

/-- Behind the first pipe only the meters can keep an outbound packet that is not redirected. -/
theorem outbound_colors (acl : a.tables.egressSystemAcl = egressAclAction egressAclInit)
    (redirects : Redirects a.gateway.cfg a.tables) (known : a.form = some found) (outward : found.inbound = false)
    {parcel : Parcel} (arrived : a.parcel found = some parcel) (kept : a.choice found = none) :
    (P02Ingress.pass a.tables a.around.p02Ingress a.port a.frame.bits).value = none ∨
      ∃ externalPort before,
        (a.visit.value = none ↔ externalPort ≠ cpuPort ∧
          ((parcel.translate a.tables a.vni).outboundColors a.tables).final before = colorRed) ∧
        ∀ delivery, a.visit.value = some delivery → delivery.port = externalPort := by
  obtain ⟨t, carried, _⟩ := exists_tunnel known (by rintro rfl; contradiction)
  obtain ⟨_, _, tunnels, _⟩ := a.frame.tunnel_bears a.fits default carried
  have presented : a.presented found = some (t.snat a.tables) := by
    rw [Passage.presented, if_neg (by rw [outward]; decide), carried]
    rfl
  obtain ⟨parcel', contents, arrived', same, _⟩ := presented_parcel known presented
  obtain rfl := Option.some.inj (arrived.symm.trans arrived')
  rw [if_neg (by rw [outward]; decide)] at same
  rw [choice, if_neg (by rw [outward]; decide), carried, Option.bind_some] at kept
  rcases first_released known outward carried with lost | ⟨externalPort, before, outside, type, matched, first⟩
  · exact .inl lost
  · have missed : (t.snat a.tables).redirectOut a.tables before = none := by
      rw [TunnelPacket.redirectOut_eq redirects, kept]
      rfl
    rw [missed] at first
    have went := visit_outward outside first
    obtain ⟨color, coloured⟩ := P02Egress.released_color a.tables a.port etherTypeIpv4 (t.snat a.tables) before rfl
    rw [same, Parcel.outboundColors_uncheck] at coloured
    refine .inr ⟨externalPort, color, ?_, fun delivery sent => egressPass_port (went.symm.trans sent)⟩
    have bridges := P02Ingress.bridged_bridges a.port etherTypeIpv4
      (P02Ingress.released a.tables (t.snat a.tables) false before)
    rw [visit, went, ← coloured, ← same]
    refine P02Egress.pass_outbound acl _ _ bridges (tunnels.snat a.tables) matched ?_
    change (P02Ingress.release _ before).igrTunnelType ≠ _
    cases P02Ingress.outboundEntry a.tables (t.snat a.tables).parcel <;> exact type ▸ by decide

/--
With the ACL of the initialisation a gateway delivers no packet that is red at one of its meters. Behind its first
pipe it delivers every outbound packet that it does not redirect and that has a meter and is not red.
-/
theorem polices (acl : a.tables.egressSystemAcl = egressAclAction egressAclInit)
    (redirects : Redirects a.gateway.cfg a.tables) (known : a.form = some found) {parcel : Parcel}
    (arrived : a.parcel found = some parcel) :
    (∀ delivery, a.visit.value = some delivery → delivery.directSend = matchPacket → delivery.port ≠ cpuPort →
      ¬ (a.colors found parcel).Red) ∧
    (found.inbound = false →
      (P02Ingress.pass a.tables a.around.p02Ingress a.port a.frame.bits).value.isSome →
      a.choice found = none → (a.colors found parcel).address.isSome → ¬ (a.colors found parcel).Red →
        ∃ delivery, a.visit.value = some delivery ∧ delivery.directSend = matchPacket) := by
  constructor
  · intro delivery sent matched front
    rw [colors]
    cases direction : found.inbound with
    | true => exact inbound_colors acl known direction arrived sent matched front
    | false =>
        rcases outcome redirects known sent with ⟨_, _, _, _, _, redirected, _⟩ | ⟨kept, _⟩
        · exact absurd (matched.symm.trans redirected) (by decide)
        · rcases outbound_colors acl redirects known direction arrived kept with
            lost | ⟨externalPort, before, value, port⟩
          · rw [visit, Dataplane.visit, Traced.bind, lost] at sent
            contradiction
          · intro red
            have none := value.mpr ⟨port delivery sent ▸ front, red.final before⟩
            rw [sent] at none
            contradiction
  · intro outward went kept metered unmarked
    rw [colors, if_neg (by rw [outward]; decide)] at metered unmarked
    rcases outbound_colors acl redirects known outward arrived kept with lost | ⟨externalPort, before, value, _⟩
    · rw [lost] at went
      contradiction
    · cases sent : a.visit.value with
      | none => exact absurd (Colors.red_of_final metered (value.mp sent).2) unmarked
      | some delivery =>
          rcases outcome redirects known sent with ⟨_, _, _, _, chosen, _, _⟩ | ⟨_, matched⟩
          · rw [kept] at chosen
            contradiction
          · exact ⟨delivery, rfl, matched⟩

end Passage

/-- Every outbound address has this colour at its meter. -/
def policedPassage (color : BitVec 2) : Passage :=
  smallPassage { Tables.empty with
      eipOutRedirect := fun _ => some ⟨7, 0, 0, 0, 0⟩
      eipOutMeter := fun _ => some color } (fun _ => rfl)
    outboundFrame outboundFrame_fits outboundFrame_etherType

/-- A green packet is delivered, and a red one is not. -/
theorem polices_metered :
    (∃ delivery, (policedPassage 0).visit.value = some delivery ∧ delivery.directSend = matchPacket) ∧
    ∀ delivery, (policedPassage colorRed).visit.value = some delivery → delivery.directSend = matchPacket →
      delivery.port = cpuPort := by
  have known : (policedPassage 0).form = some .firstHop ∧ (policedPassage colorRed).form = some .firstHop := by
    decide +kernel
  have arrived (color : BitVec 2) : (policedPassage color).parcel .firstHop = some (.v4 plainHeader []) := rfl
  constructor
  · refine (Passage.polices (smallGateway_acl _) (smallGateway_redirects _) known.1 (arrived 0)).2 rfl ?_ ?_ ?_ ?_
    · decide +kernel
    · decide +kernel
    · decide +kernel
    · decide +kernel
  · intro delivery sent matched
    by_contra front
    refine (Passage.polices (smallGateway_acl _) (smallGateway_redirects _) known.2 (arrived colorRed)).1 delivery
      sent matched front ?_
    decide +kernel

end IgwP4.Dataplane
