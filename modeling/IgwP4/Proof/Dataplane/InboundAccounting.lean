/-
This file shows when the counters of the inbound addresses agree with the packets that are delivered.
-/

import IgwP4.Proof.Dataplane.Flows
import IgwP4.Proof.Dataplane.Locations
import IgwP4.Proof.Dataplane.P02EgressPasses

namespace IgwP4.Dataplane
open Packet Setup

/-- A tunnel packet that the second internal pipe keeps at the gateway -/
structure Terminal where
  tables : Tables
  p13Ingress : Surroundings
  p02Egress : Surroundings
  port : BitVec 9
  bgMd : BridgeMetadata
  packet : TunnelPacket
  parsed : ParserState
  bridges : bgMd.Bridges etherTypeIpv4
  tunnels : packet.Tunnels
  matched : bgMd.tunnelDirectSend = matchPacket
  inbound : bgMd.igrTunnelType = typeIngressInternetIn
  accepted : P13IngressParser.parse p13Ingress.containers
    (BridgeMetadata.codec.encode bgMd ++ packet.bits) = some parsed
  acl : tables.egressSystemAcl = egressAclAction egressAclInit

/-- The counters of the two families are tables of their own. -/
def Eip.egressSite : Eip → Site
  | .v4 _ => .eipInEgress
  | .v6 _ => .eip6InEgress

def Eip.dropSite : Eip → Site
  | .v4 _ => .eipInDrop
  | .v6 _ => .eip6InDrop

def Eip.key : Eip → Nat
  | .v4 address => address.toNat
  | .v6 address => address.toNat

theorem Eip.egressSite_counts (eip : Eip) : eip.egressSite.countsInbound = true := by
  cases eip <;> rfl

theorem Eip.dropSite_counts (eip : Eip) : eip.dropSite.countsInbound = true := by
  cases eip <;> rfl

theorem Eip.dropSite_ne_egressSite (first second : Eip) : first.dropSite ≠ second.egressSite := by
  cases first <;> cases second <;> exact Site.noConfusion

/-- The tables and their keys tell the addresses apart. -/
theorem Eip.egress_inj (first second : Eip) :
    (first.egressSite = second.egressSite ∧ first.key = second.key) ↔ first = second := by
  cases first <;> cases second <;> simp [Eip.egressSite, Eip.key, BitVec.toNat_inj]

theorem Eip.drop_inj (first second : Eip) :
    (first.dropSite = second.dropSite ∧ first.key = second.key) ↔ first = second := by
  cases first <;> cases second <;> simp [Eip.dropSite, Eip.key, BitVec.toNat_inj]

/-- The egress counter of an address after these events -/
def egressCount (eip : Eip) (events : List Event) : Nat :=
  events.countP fun event => decide (event.site = eip.egressSite ∧ event.key = eip.key)

def dropCount (eip : Eip) (events : List Event) : Nat :=
  events.countP fun event => decide (event.site = eip.dropSite ∧ event.key = eip.key)

namespace Terminal

/-- The pass that counts the packet -/
def ingress (a : Terminal) : Traced (BitVec 9 × Bits) :=
  P13Ingress.pass a.tables a.p13Ingress a.port (BridgeMetadata.codec.encode a.bgMd ++ a.packet.bits)

/-- The last pipe gets the packet unless it leaves through an internal port. -/
def delivered (a : Terminal) : Option Delivery :=
  (a.ingress.bind fun (port, packet) =>
    if internal port then .lost else P02Egress.pass a.tables a.p02Egress port packet).value

/-- The address that the counters are kept for -/
def eip (a : Terminal) : Eip :=
  match a.packet.parcel with
  | .v4 _ _ => .v4 a.bgMd.eipOrBwid
  | .v6 ip _ => .v6 ip.dstAddr

/-- The bridge header with which the packet reaches the counters -/
def located (a : Terminal) : BridgeMetadata :=
  a.bgMd.locate a.tables a.packet.parcel (a.packet.parcel.flow a.parsed.metadata.l3)

/-- The last pipe gets the packet with its destination translated. -/
def translated (a : Terminal) : TunnelPacket :=
  { a.packet with parcel := a.packet.parcel.dnat a.tables }

/-- The egress counter takes exactly the delivered packets, and each packet takes exactly one counter. -/
structure Sound (a : Terminal) : Prop where
  egress : egressCount a.eip a.ingress.events = 1 ↔ a.delivered ≠ none
  one : egressCount a.eip a.ingress.events + dropCount a.eip a.ingress.events = 1

/-- The packet came in from outside, and its colour alone decides at the rate limit. -/
structure Regular (a : Terminal) : Prop where
  ratelimit : ∀ color, a.tables.ratelimitDrop color = decide (color = colorRed)
  outside : internal a.bgMd.igrPort = false
  front : a.bgMd.igrPort ≠ cpuPort

/-- An unmarked packet finds the destination of its tunnel. -/
def Reachable (a : Terminal) : Prop :=
  a.located.needDrop ≠ 1 → ¬ a.located.undelivered a.tables

theorem carries (a : Terminal) : a.parsed.Carries a.bgMd a.packet := by
  have found := a.accepted
  rw [P13IngressParser.parse_bridged _ _ a.bridges] at found
  exact p13IngressDialect.ipv4_carries a.tunnels rfl (.inr (Bool.or_true _)) found

theorem located_keeps (a : Terminal) : a.bgMd.Keeps a.located :=
  (BridgeMetadata.locate_keeps _ _ _ _).1

/-- The counters meet at most one event, which belongs to the address of the packet. -/
theorem inStats_eq (a : Terminal) :
    a.located.inStats (a.packet.parcel.dnat a.tables) =
      if a.located.needDrop ≠ 1 then
        if a.located.meterPacketColor ≠ colorRed then
          [⟨a.eip.egressSite, a.eip.key, eip46InEgressAdjust⟩]
        else [⟨a.eip.dropSite, a.eip.key, 0⟩]
      else [] := by
  have same := a.located_keeps.eipOrBwid
  rw [BridgeMetadata.inStats.eq_def, eip]
  generalize a.located = located at same
  cases a.packet.parcel with
  | v4 ip payload =>
      simp only [Parcel.dnat, same]
      rfl
  | v6 ip payload => rfl

/-- The pass counts the packet and sends it back to the port of its arrival. -/
theorem ingress_eq (a : Terminal) :
    ∃ events, (∀ event ∈ events, event.site.countsInbound = false) ∧ a.ingress =
      ⟨events ++ a.located.inStats (a.packet.parcel.dnat a.tables),
        if a.tables.ratelimitDrop a.located.meterPacketColor then none
        else some (a.bgMd.igrPort, BridgeMetadata.codec.encode a.located ++ a.translated.bits)⟩ := by
  obtain ⟨events, ⟨between, shape, plain⟩, passed⟩ :=
    P13Ingress.pass_located a.tables a.accepted a.carries a.matched
  rw [List.nil_append] at shape
  subst shape
  exact ⟨events, plain, passed⟩

/-- The counters see only the event of the packet. -/
theorem countP_ingress (a : Terminal) {p : Event → Bool}
    (inbound : ∀ event, p event = true → event.site.countsInbound = true) :
    a.ingress.events.countP p = (a.located.inStats (a.packet.parcel.dnat a.tables)).countP p := by
  obtain ⟨events, plain, passed⟩ := a.ingress_eq
  have none : events.countP p = 0 := by
    rw [List.countP_eq_zero]
    intro event member counts
    exact Bool.false_ne_true ((plain event member).symm.trans (inbound event counts))
  rw [passed]
  change (events ++ _).countP p = _
  rw [List.countP_append, none, Nat.zero_add]

/-- The counters of the other addresses stay as they are. -/
theorem egressCount_ingress (a : Terminal) (eip : Eip) :
    egressCount eip a.ingress.events =
      if a.located.needDrop ≠ 1 ∧ a.located.meterPacketColor ≠ colorRed ∧ a.eip = eip then 1 else 0 := by
  rw [egressCount, a.countP_ingress fun event counts => by rw [(of_decide_eq_true counts).1, eip.egressSite_counts],
    a.inStats_eq]
  by_cases marked : a.located.needDrop = 1
  · rw [if_neg (not_not.mpr marked), if_neg (fun h => h.1 marked)]
    rfl
  · rw [if_pos marked]
    by_cases red : a.located.meterPacketColor = colorRed
    · rw [if_neg (not_not.mpr red), if_neg (fun h => h.2.1 red), List.countP_singleton, if_neg]
      rw [decide_eq_true_eq]
      exact fun h => Eip.dropSite_ne_egressSite _ _ h.1
    · rw [if_pos red, List.countP_singleton]
      simp only [decide_eq_true_eq, Eip.egress_inj, ne_eq, marked, red, not_false_eq_true, true_and]

theorem dropCount_ingress (a : Terminal) (eip : Eip) :
    dropCount eip a.ingress.events =
      if a.located.needDrop ≠ 1 ∧ a.located.meterPacketColor = colorRed ∧ a.eip = eip then 1 else 0 := by
  rw [dropCount, a.countP_ingress fun event counts => by rw [(of_decide_eq_true counts).1, eip.dropSite_counts],
    a.inStats_eq]
  by_cases marked : a.located.needDrop = 1
  · rw [if_neg (not_not.mpr marked), if_neg (fun h => h.1 marked)]
    rfl
  · rw [if_pos marked]
    by_cases red : a.located.meterPacketColor = colorRed
    · rw [if_neg (not_not.mpr red), List.countP_singleton]
      simp only [decide_eq_true_eq, Eip.drop_inj, ne_eq, marked, red, not_false_eq_true, true_and]
    · rw [if_pos red, if_neg (fun h => red h.2.1), List.countP_singleton, if_neg]
      rw [decide_eq_true_eq]
      exact fun h => Eip.dropSite_ne_egressSite _ _ h.1.symm

/-- The packet is delivered unless a drop bit, an internal port or the ACL takes it. -/
theorem delivered_iff (a : Terminal) :
    a.delivered ≠ none ↔ a.tables.ratelimitDrop a.located.meterPacketColor = false ∧
      internal a.bgMd.igrPort = false ∧ (a.bgMd.igrPort = cpuPort ∨
        (a.located.meterPacketColor ≠ colorRed ∧ a.located.needDrop ≠ 1 ∧
          ¬ a.located.undelivered a.tables)) := by
  obtain ⟨events, _, passed⟩ := a.ingress_eq
  have kept := a.located_keeps
  have tunnels : a.translated.Tunnels :=
    ⟨a.tunnels.selects, a.tunnels.port, a.tunnels.type.trans (Parcel.dnat_etherType _ _).symm⟩
  have sent := @P02Egress.pass_inbound _ a.acl a.p02Egress a.bgMd.igrPort a.located _
    ⟨kept.proto.trans a.bridges.proto, kept.outerEthernetType.trans a.bridges.outerEthernetType,
      kept.outerEthernetInvalid.trans a.bridges.outerEthernetInvalid⟩ tunnels
    (kept.tunnelDirectSend.trans a.matched) (kept.igrTunnelType.trans a.inbound)
  have settled : (a.located.settle a.tables).needDrop = 1 ↔
      a.located.undelivered a.tables ∨ a.located.needDrop = 1 := by
    rw [BridgeMetadata.settle]
    by_cases missed : a.located.undelivered a.tables
    · simp [missed]
    · simp [missed]
  rw [delivered, passed]
  cases a.tables.ratelimitDrop a.located.meterPacketColor with
  | true => simp
  | false =>
      rw [if_neg (by decide), Traced.bind_some]
      dsimp only
      cases internal a.bgMd.igrPort with
      | true => simp [Traced.lost]
      | false =>
          rw [if_neg (by decide), sent]
          simp only [settled, ne_eq, ite_eq_left_iff, reduceCtorEq, imp_false, true_and, not_not,
            not_and_or, not_or]
          rw [and_comm (a := ¬ a.located.undelivered a.tables)]

/-- An unmarked packet takes one of the two counters, whatever its fate. -/
theorem counted_of_unmarked (a : Terminal) (found : a.located.needDrop ≠ 1) :
    egressCount a.eip a.ingress.events + dropCount a.eip a.ingress.events = 1 := by
  have egress := a.egressCount_ingress a.eip
  have drop := a.dropCount_ingress a.eip
  by_cases red : a.located.meterPacketColor = colorRed
  · rw [egress, drop, if_neg (fun h => h.2.1 red), if_pos ⟨found, red, rfl⟩]
  · rw [egress, drop, if_pos ⟨found, red, rfl⟩, if_neg (fun h => red h.2.1)]

/-- An unmarked packet that finds its tunnel takes the counter that fits its fate. -/
theorem sound_of_regular (a : Terminal) (regular : a.Regular) (found : a.located.needDrop ≠ 1)
    (reachable : a.Reachable) : a.Sound := by
  refine ⟨?_, a.counted_of_unmarked found⟩
  have egress := a.egressCount_ingress a.eip
  have delivered := a.delivered_iff
  rw [regular.ratelimit] at delivered
  by_cases red : a.located.meterPacketColor = colorRed
  · rw [egress, if_neg (fun h => h.2.1 red), delivered, red]
    exact ⟨fun h => absurd h (by decide), fun h => absurd h.1 (by decide)⟩
  · rw [egress, if_pos ⟨found, red, rfl⟩, delivered]
    exact ⟨fun _ => ⟨decide_eq_false red, regular.outside, .inr ⟨red, found, reachable found⟩⟩, fun _ => rfl⟩

/-- A marked packet takes no counter and is dropped. -/
theorem unsound_of_marked (a : Terminal) (regular : a.Regular) (marked : a.located.needDrop = 1) :
    egressCount a.eip a.ingress.events = 0 ∧ dropCount a.eip a.ingress.events = 0 ∧ a.delivered = none := by
  refine ⟨?_, ?_, ?_⟩
  · rw [a.egressCount_ingress, if_neg (fun h => h.1 marked)]
  · rw [a.dropCount_ingress, if_neg (fun h => h.1 marked)]
  · by_contra sent
    rcases (a.delivered_iff.mp sent).2.2 with host | ⟨_, found, _⟩
    · exact regular.front host
    · exact found marked

end Terminal

/-! Runs -/

/-- The events of the packets, one after the other -/
def runEvents (run : List Terminal) : List Event := run.flatMap fun a => a.ingress.events

/-- The counters of every address agree with the packets of the run. -/
structure Accounts (run : List Terminal) : Prop where
  counted : ∀ a ∈ run, a.located.needDrop ≠ 1 →
    egressCount a.eip a.ingress.events + dropCount a.eip a.ingress.events = 1
  unmarked : ∀ a ∈ run, a.located.needDrop ≠ 1 → a.Reachable → a.Sound
  marked : ∀ a ∈ run, a.located.needDrop = 1 →
    egressCount a.eip a.ingress.events = 0 ∧ dropCount a.eip a.ingress.events = 0 ∧ a.delivered = none
  egress : ∀ eip, (∀ a ∈ run, a.eip = eip → a.Reachable) → egressCount eip (runEvents run) =
    run.countP fun a => decide (a.eip = eip ∧ a.delivered ≠ none)
  received : ∀ eip, egressCount eip (runEvents run) + dropCount eip (runEvents run) =
    run.countP fun a => decide (a.eip = eip ∧ a.located.needDrop ≠ 1)

theorem runEvents_egress (eip : Eip) (a : Terminal) (run : List Terminal) :
    egressCount eip (runEvents (a :: run)) =
      egressCount eip a.ingress.events + egressCount eip (runEvents run) := by
  rw [runEvents, List.flatMap_cons]
  exact List.countP_append

theorem runEvents_drop (eip : Eip) (a : Terminal) (run : List Terminal) :
    dropCount eip (runEvents (a :: run)) =
      dropCount eip a.ingress.events + dropCount eip (runEvents run) := by
  rw [runEvents, List.flatMap_cons]
  exact List.countP_append

/-- One packet adds to the egress counter of its own address what is delivered of it. -/
theorem Terminal.step_egress (a : Terminal) (regular : a.Regular) (eip : Eip)
    (reachable : a.eip = eip → a.Reachable) :
    egressCount eip a.ingress.events = if a.eip = eip ∧ a.delivered ≠ none then 1 else 0 := by
  by_cases same : a.eip = eip
  · subst same
    by_cases marked : a.located.needDrop = 1
    · obtain ⟨egress, -, lost⟩ := a.unsound_of_marked regular marked
      rw [egress, if_neg (fun h => h.2 lost)]
    · have sound := a.sound_of_regular regular marked (reachable rfl)
      by_cases sent : a.delivered = none
      · rw [if_neg (fun h => h.2 sent)]
        have none := mt sound.egress.mp (not_not.mpr sent)
        have one := sound.one
        omega
      · rw [if_pos ⟨rfl, sent⟩]
        exact sound.egress.mpr sent
  · rw [a.egressCount_ingress, if_neg (fun h => same h.2.2), if_neg (fun h => same h.1)]

/-- One packet adds one to the counters of its own address unless it is marked. -/
theorem Terminal.step_received (a : Terminal) (regular : a.Regular) (eip : Eip) :
    egressCount eip a.ingress.events + dropCount eip a.ingress.events =
      if a.eip = eip ∧ a.located.needDrop ≠ 1 then 1 else 0 := by
  by_cases same : a.eip = eip
  · subst same
    by_cases marked : a.located.needDrop = 1
    · obtain ⟨egress, drop, -⟩ := a.unsound_of_marked regular marked
      rw [egress, drop, if_neg (fun h => h.2 marked)]
    · rw [a.counted_of_unmarked marked, if_pos ⟨rfl, marked⟩]
  · rw [a.egressCount_ingress, a.dropCount_ingress, if_neg (fun h => same h.2.2), if_neg (fun h => same h.2.2),
      if_neg (fun h => same h.1)]

/-- In a run of regular packets the counters agree with the packets. -/
theorem accounts (run : List Terminal) (regular : ∀ a ∈ run, a.Regular) : Accounts run := by
  refine ⟨fun a _ => a.counted_of_unmarked, fun a member => a.sound_of_regular (regular a member),
    fun a member => a.unsound_of_marked (regular a member), ?_, ?_⟩
  · intro eip reachable
    induction run with
    | nil => rfl
    | cons a run ih =>
        have rest := ih (fun b member => regular b (List.mem_cons_of_mem _ member))
          fun b member => reachable b (List.mem_cons_of_mem _ member)
        have step := a.step_egress (regular a List.mem_cons_self) eip (reachable a List.mem_cons_self)
        rw [runEvents_egress, rest, step, List.countP_cons, Nat.add_comm]
        simp only [decide_eq_true_eq]
  · intro eip
    induction run with
    | nil => rfl
    | cons a run ih =>
        have rest := ih fun b member => regular b (List.mem_cons_of_mem _ member)
        have step := a.step_received (regular a List.mem_cons_self) eip
        rw [runEvents_egress, runEvents_drop, List.countP_cons]
        simp only [decide_eq_true_eq]
        omega

/-! A small packet at two gateways -/

/-- The overlay that the second internal pipe reads in the small packet -/
def smallOverlay : Overlay where
  udp := smallTunnel.udp
  vxlan := smallTunnel.vxlan
  ethernet := smallTunnel.ethernet
  inner := .v4 { (default : Ipv4) with version := 4, ihl := 5 } ⟨[], .unread, []⟩

theorem smallOverlay_fits : (Outer.overlay smallOverlay).Fits p13IngressDialect smallTunnel.ip := by
  have reads : p13IngressDialect.readsTransport = true := rfl
  refine ⟨⟨rfl, rfl, rfl⟩, rfl, rfl, rfl, ?_⟩
  rw [if_pos reads, Tail.FitsV4, if_neg (by decide)]
  exact ⟨rfl, fun h => absurd h.1 (by decide)⟩

/-- The gateway drops the red packets and has no location and no next hop. -/
def meteringTables : Tables :=
  { Tables.empty.withEgressAcl (egressAclAction egressAclInit) with
    ratelimitDrop := fun color => decide (color = colorRed) }

/-- Every address has a location, and every next hop leads to the same tunnel. -/
def locatingTables : Tables :=
  { meteringTables with
    vmLocMapping := fun _ => some (1, 0)
    routeNexthop := fun _ => some ⟨0, 1, 7, 0⟩
    tunnelDstRewrite := fun _ => some 0x0a000005 }

/-- The small packet with this colour, arrived on this port -/
def terminalOf (tables : Tables) (acl : tables.egressSystemAcl = egressAclAction egressAclInit) (color : BitVec 2)
    (igrPort : BitVec 9) : Terminal where
  tables := tables
  p13Ingress := default
  p02Egress := default
  port := 128
  bgMd := { inboundBridge with meterPacketColor := color, igrPort := igrPort }
  packet := smallTunnel
  parsed := (Outer.overlay smallOverlay).place p13IngressDialect
    { ParserState.bridged (default : Surroundings).containers
        { inboundBridge with meterPacketColor := color, igrPort := igrPort } smallTunnel.bits with
      hdr.ipv4 := ⟨true, smallTunnel.ip⟩
      metadata.l3.lkpOuterIpProto := smallTunnel.ip.protocol }
  bridges := ⟨rfl, rfl, rfl⟩
  tunnels := smallTunnel_tunnels
  matched := rfl
  inbound := rfl
  accepted := by
    rw [P13IngressParser.parse_bridged _ _ ⟨rfl, rfl, rfl⟩]
    exact (p13IngressDialect.ipv4_eq_some_iff _ _).mpr
      ⟨smallTunnel.ip, .overlay smallOverlay, smallOverlay_fits, rfl, rfl⟩
  acl := acl

def smallTerminal (tables : Tables) (acl : tables.egressSystemAcl = egressAclAction egressAclInit) : Terminal :=
  terminalOf tables acl 0 0

/-- Every location leads to a tunnel without a destination. -/
def strandingTables : Tables :=
  { locatingTables with tunnelDstRewrite := fun _ => none }

/-- A delivered packet, a red one, one without a location and one without the destination of its tunnel -/
def mixedRun : List Terminal := [smallTerminal locatingTables rfl, terminalOf locatingTables rfl colorRed 5,
  smallTerminal meteringTables rfl, smallTerminal strandingTables rfl]

theorem accounts_located : Accounts mixedRun := by
  refine accounts _ ?_
  intro a member
  simp only [mixedRun, List.mem_cons, List.not_mem_nil, or_false] at member
  rcases member with rfl | rfl | rfl | rfl <;> exact ⟨fun _ => rfl, by decide, by decide⟩

/-- A packet without a location takes neither counter. -/
theorem not_sound_unlocated : ¬ (smallTerminal meteringTables rfl).Sound := by
  rintro ⟨_, one⟩
  have marked : (smallTerminal meteringTables rfl).located.needDrop = 1 := rfl
  rw [Terminal.egressCount_ingress, Terminal.dropCount_ingress, if_neg (fun h => h.1 marked),
    if_neg (fun h => h.1 marked)] at one
  exact absurd one (by decide)

/-- A rate limit that drops every colour drops a packet that the egress counter took. -/
theorem not_sound_limited : ¬ (smallTerminal { locatingTables with ratelimitDrop := fun _ => true } rfl).Sound := by
  rintro ⟨egress, _⟩
  rw [Terminal.egressCount_ingress, Terminal.delivered_iff] at egress
  exact absurd (egress.mp rfl).1 (by decide)

/-- A packet from the CPU port leaves without a location, and no counter takes it. -/
theorem not_accounts_cpu : ¬ Accounts [terminalOf meteringTables rfl 0 cpuPort] := by
  intro accounts
  obtain ⟨-, -, lost⟩ := accounts.marked _ List.mem_cons_self rfl
  exact ((Terminal.delivered_iff _).mpr ⟨rfl, rfl, .inl rfl⟩) lost

end IgwP4.Dataplane
