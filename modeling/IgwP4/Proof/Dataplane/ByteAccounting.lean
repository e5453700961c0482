/-
This file gives the bytes that the meters and the counters of the addresses charge for a packet.
-/

import IgwP4.Construction.Setup.MeterAdjust
import IgwP4.Proof.Dataplane.Journeys
import IgwP4.Proof.Dataplane.PassEvents

namespace IgwP4.Dataplane
open Packet Setup

/-- Each ingress and each egress of a visit, with the packet that enters it and with its events -/
def stages (tables : Tables) (around : VisitSurroundings) (port : BitVec 9) (frame : Bits) :
    List (Bits × List Event) :=
  let first := P02Ingress.pass tables around.p02Ingress port frame
  (frame, first.events) :: match first.value with
    | none => []
    | some (port, packet) =>
        if internal port then
          let second := P13Egress.pass tables around.p13Egress port packet
          (packet, second.events) :: match second.value with
            | none => []
            | some looped =>
                let third := P13Ingress.pass tables around.p13Ingress port looped.packet
                (looped.packet, third.events) :: match third.value with
                  | none => []
                  | some (port, packet) =>
                      if internal port then []
                      else [(packet, (P02Egress.pass tables around.p02Egress port packet).events)]
        else [(packet, (P02Egress.pass tables around.p02Egress port packet).events)]

/-- The events of the stages are those of the visit. -/
theorem stages_events (tables : Tables) (around : VisitSurroundings) (port : BitVec 9) (frame : Bits) :
    (stages tables around port frame).flatMap Prod.snd = (visit tables around port frame).events := by
  rw [stages, visit, Traced.bind]
  dsimp only
  cases (P02Ingress.pass tables around.p02Ingress port frame).value with
  | none => simp
  | some sent =>
      obtain ⟨port, packet⟩ := sent
      dsimp only
      split
      · rw [loopback, Traced.bind, Traced.bind]
        cases (P13Egress.pass tables around.p13Egress port packet).value with
        | none => simp
        | some looped =>
            dsimp only
            cases (P13Ingress.pass tables around.p13Ingress port looped.packet).value with
            | none => simp
            | some back =>
                obtain ⟨port, packet⟩ := back
                dsimp only
                split
                · simp [Traced.lost]
                · simp
      · simp

/-! The charges -/

/-- The frame with its checksum of four bytes -/
def frameBytes (entered : Bits) : Nat := entered.length / 8 + 4

/-- These counters count bytes by address or by shared bandwidth. -/
def Site.countsBytes : Site → Bool
  | .inSharedValid | .inSharedDrop | .outSharedValid | .outSharedDrop | .eipInEgress | .eip6InEgress |
    .eipOutEgress | .eip6OutEgress => true
  | _ => false

/-- A meter adds the adjustment of its table, and a counter takes the one of its action away. -/
def charge (entered : Bits) (event : Event) : Option Int :=
  if (meterTable event.site).isSome then some (frameBytes entered + meterByteCountAdjust event.site)
  else if event.site.countsBytes then some (frameBytes entered - event.adjust)
  else none

/-- What a charge leaves out of the frame: the outbound meters count a second Ethernet header there. -/
def Site.overhead : Site → Nat
  | .eipOutMeter | .eipOutSharedMeter => 97
  | _ => 83

/-- A table that charges bytes stands behind the first ingress, in the last egress only for outbound packets. -/
theorem charge_eq {event : Event} (constant : event.adjust = event.site.adjust) {entered : Bits} {bytes : Int}
    (charged : charge entered event = some bytes) :
    bytes = frameBytes entered - event.site.overhead ∧ event.site.gress ≠ .p02Ingress ∧
      (event.site.gress = .p02Egress → event.site.outbound = true) := by
  rw [charge, constant] at charged
  generalize event.site = site at charged
  have places : (meterTable site).isSome = true ∨ site.countsBytes = true →
      site.gress ≠ .p02Ingress ∧ (site.gress = .p02Egress → site.outbound = true) := by
    cases site <;> decide
  have meters : (meterTable site).isSome = true → meterByteCountAdjust site = -site.overhead := by
    cases site <;> decide +kernel
  have counters : (meterTable site).isSome = false → site.countsBytes = true → site.adjust = site.overhead := by
    cases site <;> decide
  split at charged
  · rename_i meter
    refine ⟨?_, places (.inl meter)⟩
    rw [← Option.some.inj charged, meters meter]
    rfl
  · rename_i other
    split at charged
    · rename_i counter
      refine ⟨?_, places (.inr counter)⟩
      rw [← Option.some.inj charged, counters (Bool.eq_false_iff.mpr other) counter]
    · contradiction

/-! The lengths of the packets at each stage -/

theorem TunnelPacket.bits_length (t : TunnelPacket) : t.bits.length = 400 + t.parcel.bits.length := by
  rw [TunnelPacket.bits]
  simp only [List.length_append, Codec.encode_length]
  change 160 + (64 + (64 + (112 + t.parcel.bits.length))) = _
  omega

/-- Outside its bridge header a packet between the pipes is whole. -/
theorem frameBytes_bridged (bgMd : BridgeMetadata) (rest : Bits) :
    frameBytes (BridgeMetadata.codec.encode bgMd ++ rest) = rest.length / 8 + 33 := by
  rw [frameBytes, List.length_append, Codec.encode_length]
  change (232 + rest.length) / 8 + 4 = _
  omega

theorem frameBytes_tunnel (bgMd : BridgeMetadata) (t : TunnelPacket) :
    frameBytes (BridgeMetadata.codec.encode bgMd ++ t.bits) = t.parcel.bits.length / 8 + 83 := by
  rw [frameBytes_bridged, t.bits_length]
  omega

namespace Parcel

/-- The translations and the decapsulations keep the length of the inner packet. -/
theorem uncheck_length (contents : Ipv4) (parcel : Parcel) :
    (parcel.uncheck contents).bits.length = parcel.bits.length := by
  cases parcel with
  | v4 ip payload => simp only [uncheck, bits, List.length_append, Codec.encode_length]
  | v6 ip payload => rfl

theorem translate_length (tables : Tables) (vni : BitVec 24) (parcel : Parcel) :
    (parcel.translate tables vni).bits.length = parcel.bits.length := by
  cases parcel with
  | v4 ip payload => simp only [translate, bits, List.length_append, Codec.encode_length]
  | v6 ip payload => rfl

/-- The length that the header announces, as a natural number -/
def l3Length : Parcel → Nat
  | .v4 ip _ => ip.totalLen.toNat
  | .v6 ip _ => ip.payloadLen.toNat + 40

end Parcel

namespace Passage

variable {a : Passage} {found : Form}

/-- The packet of an address, which is the inner one of a tunnel packet -/
def parcel (a : Passage) : Form → Option Parcel
  | .direct => a.frame.parcel
  | _ => a.frame.tunnel.map TunnelPacket.parcel

/-- The stages of the visit, each with the packet that enters it and with its events -/
def stages (a : Passage) : List (Bits × List Event) :=
  Dataplane.stages a.tables a.around a.port a.frame.bits

end Passage

/-- The bytes that a direct packet lacks before it is wrapped -/
def unwrapped : Gress → Form → Nat
  | .p13Egress, .direct => 50
  | _, _ => 0

/-- A stage that charges bytes gets 83 of them around the packet, unless the tunnel is not there yet. -/
def Surrounds (found : Form) (bytes : Nat) (stage : Bits × List Event) : Prop :=
  ∃ gress outbound, (∀ event ∈ stage.2, event.Of gress outbound) ∧
    (gress ≠ .p02Ingress → (gress = .p02Egress → outbound = true) →
      frameBytes stage.1 + unwrapped gress found = bytes + 83)

/-- The first ingress charges nothing. -/
theorem surrounds_first (found : Form) (bytes : Nat) (tables : Tables) (around : Surroundings) (port : BitVec 9)
    (frame : Bits) : Surrounds found bytes (frame, (P02Ingress.pass tables around port frame).events) :=
  ⟨.p02Ingress, false, P02Ingress.pass_events tables around port frame, fun other => absurd rfl other⟩

/-- The last egress sees the direction in the bridge header. -/
theorem P02Egress.pass_events_bridged (tables : Tables) (around : Surroundings) (port : BitVec 9)
    {bgMd : BridgeMetadata} {t : TunnelPacket} (bridges : bgMd.Bridges etherTypeIpv4) (tunnels : t.Tunnels) :
    ∀ event ∈ (pass tables around port (BridgeMetadata.codec.encode bgMd ++ t.bits)).events,
      event.Of .p02Egress (bgMd.igrTunnelType != typeIngressInternetIn) := by
  obtain ⟨parsed, accepted, carries⟩ := parse_tunnel around.containers bridges tunnels
  have came : (egressStart around port parsed).hdr.bgMd.fields = bgMd := congrArg Header.fields carries.bgMd
  have events := @pass_events tables around port _ parsed accepted
  rw [outward, came] at events
  exact events

/-- What the second internal pipe sends back is still an inbound tunnel packet. -/
theorem P13Ingress.pass_inbound {tables : Tables} {around : Surroundings} {internalPort port : BitVec 9}
    {bgMd : BridgeMetadata} {t : TunnelPacket} (inbound : bgMd.Inbound port) (tunnels : t.Tunnels)
    {back : BitVec 9 × Bits}
    (returned : (pass tables around internalPort (BridgeMetadata.codec.encode bgMd ++ t.bits)).value = some back) :
    ∃ (bridge : BridgeMetadata) (t' : TunnelPacket), back.2 = BridgeMetadata.codec.encode bridge ++ t'.bits ∧
      bridge.Bridges etherTypeIpv4 ∧ bridge.igrTunnelType = typeIngressInternetIn ∧ t'.Tunnels := by
  cases accepted : P13IngressParser.parse around.containers (BridgeMetadata.codec.encode bgMd ++ t.bits) with
  | none =>
      rw [pass, ingressPass, accepted] at returned
      contradiction
  | some parsed =>
      obtain ⟨tail, ends, rfl⟩ := (P13IngressParser.parse_tunnel _ inbound.bridges tunnels parsed).mp accepted
      have carries := P13IngressParser.tunnelState_carries around.containers inbound.bridges tunnels ends
      rcases inbound.treatment with matched | redirected
      · obtain ⟨events, _, passed⟩ := @pass_located tables around internalPort _ _ accepted bgMd t carries matched
        have keeps := (BridgeMetadata.locate_keeps tables t.parcel (t.parcel.flow
          (P13IngressParser.tunnelState around.containers bgMd t tail).metadata.l3) bgMd).1
        rw [passed] at returned
        dsimp only at returned
        split at returned
        · contradiction
        · obtain rfl := Option.some.inj returned
          exact ⟨_, { t with parcel := t.parcel.dnat tables }, rfl,
            ⟨keeps.proto.trans inbound.bridges.proto,
              keeps.outerEthernetType.trans inbound.bridges.outerEthernetType,
              keeps.outerEthernetInvalid.trans inbound.bridges.outerEthernetInvalid⟩,
            keeps.igrTunnelType.trans inbound.igrTunnelType,
            ⟨tunnels.selects, tunnels.port, tunnels.type.trans (Parcel.dnat_etherType _ _).symm⟩⟩
      · rw [pass_redirected tables accepted carries redirected] at returned
        obtain rfl := Option.some.inj returned
        exact ⟨bgMd, t, rfl, inbound.bridges, inbound.igrTunnelType, tunnels⟩

namespace Passage

variable {a : Passage} {found : Form}

/-- The tunnel packet at the redirection has the length of the packet, and so have the bits before it. -/
theorem entering_length (known : a.form = some found) (inward : found.inbound = true) {parcel : Parcel}
    (carried : a.parcel found = some parcel) :
    ∃ t, a.entering = some t ∧ t.parcel.bits.length = parcel.bits.length ∧
      ∀ bgMd, frameBytes (BridgeMetadata.codec.encode bgMd ++ a.frame.body) + unwrapped .p13Egress found =
        parcel.bits.length / 8 + 83 := by
  cases found with
  | firstHop => contradiction
  | redirectedOut => contradiction
  | direct =>
      obtain ⟨parcel', held, _, entering⟩ := entering_direct known
      obtain rfl := Option.some.inj (held.symm.trans carried)
      refine ⟨_, entering, Parcel.uncheck_length _ _, fun bgMd => ?_⟩
      rw [Frame.body_of_parcel held, frameBytes_bridged, unwrapped]
  | redirectedIn =>
      obtain ⟨t, held, rfl⟩ := Option.map_eq_some_iff.mp carried
      obtain ⟨_, _, _, _, body, _⟩ := a.frame.tunnel_bears a.fits default held
      refine ⟨t, ?_, rfl, fun bgMd => ?_⟩
      · rw [entering, known]
        exact held
      · change frameBytes _ + 0 = _
        rw [body, frameBytes_tunnel]

theorem inbound_stages (known : a.form = some found) (inward : found.inbound = true) {parcel : Parcel}
    (carried : a.parcel found = some parcel) :
    ∀ stage ∈ a.stages, Surrounds found (parcel.bits.length / 8) stage := by
  have opening := surrounds_first found (parcel.bits.length / 8) a.tables a.around.p02Ingress a.port a.frame.bits
  rcases first_inbound known inward with lost | ⟨internalPort, bgMd, inside, enters, first⟩
  · rw [stages, Dataplane.stages]
    dsimp only
    rw [lost]
    exact List.forall_mem_singleton.mpr opening
  · obtain ⟨t, entering, length, before⟩ := entering_length known inward carried
    obtain ⟨own, inbound, _, tunnels, second⟩ := second_inbound known inward entering enters internalPort
    obtain ⟨_, same, kept⟩ := t.redirectIn_kept a.tables own
    have onwards := inbound.police a.tables t
    rw [stages, Dataplane.stages]
    dsimp only
    rw [first]
    dsimp only
    rw [if_pos inside, second]
    dsimp only
    refine List.forall_mem_cons.mpr ⟨opening, List.forall_mem_cons.mpr ⟨?_, List.forall_mem_cons.mpr ⟨?_, ?_⟩⟩⟩
    · exact ⟨.p13Egress, false, P13Egress.pass_events _ _ _ _, fun _ _ => before bgMd⟩
    · refine ⟨.p13Ingress, false, P13Ingress.pass_events _ _ _ _, fun _ _ => ?_⟩
      change frameBytes _ + 0 = _
      rw [frameBytes_tunnel, same, length]
    · cases returned : (P13Ingress.pass a.tables a.around.p13Ingress internalPort (BridgeMetadata.codec.encode
          (own.police a.tables t) ++ ((t.redirectIn a.tables own).getD t).bits)).value with
      | none => exact fun _ member => absurd member List.not_mem_nil
      | some back =>
          obtain ⟨bridge, t', shape, bridges, type, tunnels'⟩ :=
            P13Ingress.pass_inbound onwards (kept tunnels) returned
          dsimp only
          split
          · exact fun _ member => absurd member List.not_mem_nil
          · refine List.forall_mem_singleton.mpr ⟨.p02Egress, false, ?_, fun _ outer => ?_⟩
            · rw [shape]
              have events := P02Egress.pass_events_bridged a.tables a.around.p02Egress back.1 bridges tunnels'
              rw [type] at events
              exact events
            · exact absurd (outer rfl) Bool.false_ne_true

theorem outbound_stages (known : a.form = some found) (outward : found.inbound = false) {parcel : Parcel}
    (carried : a.parcel found = some parcel) :
    ∀ stage ∈ a.stages, Surrounds found (parcel.bits.length / 8) stage := by
  have opening := surrounds_first found (parcel.bits.length / 8) a.tables a.around.p02Ingress a.port a.frame.bits
  obtain ⟨t, held, rfl⟩ : ∃ t, a.frame.tunnel = some t ∧ t.parcel = parcel := by
    cases found with
    | direct => contradiction
    | _ => exact Option.map_eq_some_iff.mp carried
  obtain ⟨_, _, tunnels, _⟩ := a.frame.tunnel_bears a.fits default held
  rcases first_outbound known outward held with lost | ⟨externalPort, before, bgMd, outside, bridges, type, _, first⟩
  · rw [stages, Dataplane.stages]
    dsimp only
    rw [lost]
    exact List.forall_mem_singleton.mpr opening
  · have sent : (((t.snat a.tables).redirectOut a.tables before).getD (t.snat a.tables)).Tunnels ∧
        (((t.snat a.tables).redirectOut a.tables before).getD (t.snat a.tables)).parcel =
          (t.snat a.tables).parcel := by
      rcases (t.snat a.tables).redirectOut_cases a.tables before with missed | ⟨index, action, hit⟩
      · rw [missed]
        exact ⟨tunnels.snat a.tables, rfl⟩
      · rw [hit]
        refine ⟨(tunnels.snat a.tables).rewrite (.outbound a.tables) index action, ?_⟩
        cases action <;> rfl
    rw [stages, Dataplane.stages]
    dsimp only
    rw [first]
    dsimp only
    rw [if_neg (by rw [outside]; exact Bool.false_ne_true)]
    refine List.forall_mem_cons.mpr ⟨opening, List.forall_mem_singleton.mpr ⟨.p02Egress, true, ?_, fun _ _ => ?_⟩⟩
    · have events := P02Egress.pass_events_bridged a.tables a.around.p02Egress externalPort bridges sent.1
      rw [type] at events
      exact events
    · change frameBytes _ + 0 = _
      rw [frameBytes_tunnel, sent.2, TunnelPacket.snat, Parcel.translate_length]

theorem stages_surround (known : a.form = some found) {parcel : Parcel}
    (carried : a.parcel found = some parcel) :
    ∀ stage ∈ a.stages, Surrounds found (parcel.bits.length / 8) stage := by
  cases inward : found.inbound with
  | true => exact inbound_stages known inward carried
  | false => exact outbound_stages known inward carried

end Passage

/-- A meter or a counter that charges bytes of a packet to its entry -/
structure Charge where
  passage : Passage
  form : Form
  known : passage.form = some form
  parcel : Parcel
  carried : passage.parcel form = some parcel
  stage : Bits × List Event
  entered : stage ∈ passage.stages
  event : Event
  seen : event ∈ stage.2
  bytes : Int
  charged : charge stage.1 event = some bytes

/-- The meter of the addresses misses the tunnel of a direct packet, and the outbound meters miss an Ethernet header. -/
def shortfall : Site → Form → Nat
  | .eipInMeter, .direct => 50
  | .eipOutMeter, _ => 14
  | .eipOutSharedMeter, _ => 14
  | _, _ => 0

namespace Charge

variable (c : Charge)

/-- The charge is the length of the packet. -/
def Exact : Prop := c.bytes = c.parcel.l3Length

theorem bytes_eq : c.bytes + shortfall c.event.site c.form = (c.parcel.bits.length / 8 : Nat) := by
  obtain ⟨gress, outbound, own, around⟩ := Passage.stages_surround c.known c.carried c.stage c.entered
  have mine := own c.event c.seen
  obtain ⟨bytes, behind, outer⟩ := charge_eq mine.adjust c.charged
  have here := mine.gress
  have total := around (here ▸ behind) fun last => mine.outbound (outer (here.trans last))
  have split : shortfall c.event.site c.form + 83 = unwrapped gress c.form + c.event.site.overhead := by
    rw [← here]
    generalize c.event.site = site
    generalize c.form = form
    cases site <;> cases form <;> rfl
  omega

/-- The charge is exact when the frame holds the announced packet and so many bytes behind it as the site misses. -/
theorem exact_iff : c.Exact ↔
    c.parcel.bits.length / 8 = c.parcel.l3Length + shortfall c.event.site c.form := by
  have bytes := c.bytes_eq
  rw [Exact]
  omega

end Charge

/-- A packet of twenty bytes meets the meter of its address. -/
def meteredPassage : Passage :=
  smallPassage { locatedTables with eipInMeter := fun _ => some 0 } (fun _ => rfl)
    (directFrame plainHeader) plainHeader_fits (directFrame_etherType plainHeader)

/-- The meter charges fifty bytes too few for a direct packet. -/
theorem not_exact_metered : ∃ c : Charge, c.passage = meteredPassage ∧ c.event.site = .eipInMeter ∧
    ¬ c.Exact := by
  have direct : meteredPassage.form = some .direct := by decide +kernel
  have applied : ∃ stage ∈ meteredPassage.stages, ∃ event ∈ stage.2, event.site = .eipInMeter := by
    decide +kernel
  obtain ⟨stage, entered, event, seen, site⟩ := applied
  have charged : charge stage.1 event = some (frameBytes stage.1 + meterByteCountAdjust event.site) := by
    rw [charge, site]
    rfl
  let c : Charge := ⟨meteredPassage, .direct, direct, .v4 plainHeader [], rfl, stage,
    entered, event, seen, _, charged⟩
  refine ⟨c, rfl, site, fun exact => ?_⟩
  have fits : (Parcel.v4 plainHeader []).bits.length / 8 = 20 + shortfall event.site .direct :=
    c.exact_iff.mp exact
  have missing : shortfall event.site .direct = 50 := by
    rw [site]
    rfl
  have size : (Parcel.v4 plainHeader []).bits.length / 8 = 20 := by decide +kernel
  rw [size, missing] at fits
  exact absurd fits (by decide)

end IgwP4.Dataplane
