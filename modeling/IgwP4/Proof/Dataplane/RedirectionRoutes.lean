/-
This file follows a packet through gateways that redirect it, keep it or take it to their CPU.
-/

import Mathlib.Data.List.Chain
import IgwP4.Proof.Dataplane.CpuPasses
import IgwP4.Proof.Dataplane.RedirectionChains

namespace IgwP4.Dataplane
open Packet Setup

/-! A packet that the CPU takes -/

/-- A packet that skips the treatment meets no meter of an address. -/
theorem P02Egress.skipped_applications (tables : Tables) (around : Surroundings) (port : BitVec 9)
    {bgMd : BridgeMetadata} (keeps : P02EgressParser.Keeps bgMd) (skips : bgMd.tunnelDirectSend = skipPacket)
    (frame : Bits) : applications (pass tables around port (BridgeMetadata.codec.encode bgMd ++ frame)).events = 0 := by
  cases accepted : P02EgressParser.parse around.containers (BridgeMetadata.codec.encode bgMd ++ frame) with
  | none =>
      rw [pass, egressPass, accepted]
      rfl
  | some parsed =>
      have beside := P02EgressParser.parseEthernet_beside
        ((P02EgressParser.parse_kept around.containers keeps frame).symm.trans accepted)
      have fields : parsed.hdr.bgMd.fields = bgMd := congrArg Header.fields beside.bgMd
      have original : (egressStart around port parsed).metadata.mirror.flag = 0 :=
        congrArg MirrorMetadata.flag beside.mirror
      have own := @pass_events tables around port _ parsed accepted
      obtain ⟨after, events, unmetered⟩ := apply_appends tables around.fresh original
      have quiet : (reached tables around.fresh (egressStart around port parsed)).events = [] := by
        have restored : (restore around.fresh (egressStart around port parsed)).hdr.bgMd.fields.tunnelDirectSend =
            skipPacket ∧ (restore around.fresh (egressStart around port parsed)).events = [] := by
          have came : (egressStart around port parsed).hdr.bgMd.fields = bgMd := fields
          unfold restore
          split
          · rw [if_neg (by rw [came, keeps.outerEthernetInvalid]; decide)]
            unfold decapMetaDataI2E02
            split <;> exact ⟨(congrArg _ came).trans skips, rfl⟩
          · exact ⟨(congrArg _ came).trans skips, rfl⟩
        rw [reached, if_neg (by rw [restored.1]; decide)]
        exact restored.2
      apply applications_unmetered own
      rw [pass, egressPass, accepted]
      change Unmetered (apply tables around.fresh (egressStart around port parsed)).events
      rw [events, quiet]
      exact unmetered

/-! A gateway on the way -/

/-- An IP frame from outside at an initialised gateway -/
structure Stop where
  gateway : Gateway
  hostifs : List Hostif
  punts : gateway.tables.processProtocolPacket = (protocolPacketTable gateway.cfg hostifs).lookup
  redirects : Redirects gateway.cfg gateway.tables
  around : VisitSurroundings
  port : BitVec 9
  outside : port ≠ cpuPort
  frame : Frame
  fits : frame.Fits
  etherType : frame.ethernet.etherType = etherTypeIpv4 ∨ frame.ethernet.etherType = etherTypeIpv6

namespace Stop

variable {a b : Stop}

abbrev tables (a : Stop) : Tables := a.gateway.tables

/-- The gateway takes the packet to its CPU. The unifier is not to run the parser for it. -/
@[irreducible] def punted (a : Stop) : Bool := (P02Ingress.puntAction a.tables a.around.p02Ingress a.port a.frame.bits).isSome

def hdr (a : Stop) : Headers := (a.frame.state a.around.p02Ingress.containers).hdr

def form (a : Stop) : Option Form := Dataplane.form (classification a.gateway.cfg a.hdr)

def visit (a : Stop) : Traced Delivery := Dataplane.visit a.tables a.around a.port a.frame.bits

def applications (a : Stop) : Nat := Dataplane.applications a.visit.events

/-- The type with which a packet arrives, which is zero for a packet that is not in a tunnel -/
def tof (a : Stop) : BitVec 4 :=
  if a.form = some .direct then 0 else ((tunnelTarget a.frame.bits).map Prod.fst).getD 0

/-- The gateway sends the packet on to another gateway. -/
def redirected (a : Stop) : Bool := (a.visit.value.map Delivery.directSend) == some dlPacket

/-- The gateway delivers the packet. -/
def kept (a : Stop) : Bool := (a.visit.value.map Delivery.directSend) == some matchPacket

theorem accepted (a : Stop) : P02IngressParser.parse a.around.p02Ingress.containers a.frame.bits =
    some (a.frame.state a.around.p02Ingress.containers) :=
  (P02IngressParser.parse_eq_some_iff _ _ _).mpr ⟨a.frame, a.fits, rfl, rfl⟩

/-- The punt table takes a packet from outside only to the CPU. -/
theorem copied (punted : a.punted = true) :
    P02Ingress.puntAction a.tables a.around.p02Ingress a.port a.frame.bits = some (.copyToCpuNos cpuPort) := by
  rw [Stop.punted] at punted
  obtain ⟨action, found⟩ := Option.isSome_iff_exists.mp punted
  have listed := found
  rw [P02Ingress.puntAction_of_fits _ _ _ a.fits, a.punts] at listed
  rw [found, lookup_outside ((a.frame.puntKey_port _ a.port).trans_ne a.outside) listed]

/-- A packet for the CPU is neither metered nor treated. -/
theorem visit_of_punted (punted : a.punted = true) : a.applications = 0 ∧
    ∀ delivery, a.visit.value = some delivery → delivery.directSend = skipPacket := by
  have opening := applications_ingress (.inl rfl)
    (P02Ingress.pass_events a.tables a.around.p02Ingress a.port a.frame.bits)
  by_cases drops : P02Ingress.AclDrops a.tables a.around.p02Ingress a.port a.frame.bits
  · have lost := P02Ingress.pass_dropped (copied punted) drops
    constructor
    · rw [applications, visit, Dataplane.visit, Traced.bind, lost]
      exact opening
    · intro delivery sent
      rw [visit, Dataplane.visit, Traced.bind, lost] at sent
      contradiction
  · have other : (a.frame.state a.around.p02Ingress.containers).hdr.ethernet.fields.etherType ≠ etherTypeBfn := by
      rw [a.frame.state_ethernet]
      rcases a.etherType with type | type
      · exact type.trans_ne (by decide)
      · exact type.trans_ne (by decide)
    obtain ⟨bgMd, fabric, cpu, rest, keeps, skips, -, -, -, first⟩ :=
      P02Ingress.pass_punted drops a.accepted other (copied punted)
    constructor
    · rw [applications, visit, Dataplane.visit, Traced.bind, first]
      dsimp only
      rw [if_neg (by decide), applications_append, opening, P02Egress.skipped_applications _ _ _ keeps skips]
    · intro delivery sent
      rw [visit, visit_outward (by decide) first] at sent
      rw [P02Egress.pass_skipped _ _ _ keeps skips (P02Egress.reads_of_pass keeps sent) (.inl rfl)] at sent
      rw [← Option.some.inj sent]

/-- The same visit at a gateway without the punt of the packet -/
def passing (a : Stop) : Passage where
  gateway := { a.gateway with
    tables := { a.tables with
      processProtocolPacket := if a.punted then fun _ => none else a.tables.processProtocolPacket }
    classifies := ⟨a.gateway.classifies.igwIpType, a.gateway.classifies.pipelineFix⟩ }
  around := a.around
  port := a.port
  frame := a.frame
  fits := a.fits
  etherType := a.etherType
  unpunted := by
    intro hit
    cases punted : a.punted with
    | true =>
        rw [P02Ingress.Punted, punted] at hit
        exact hit rfl
    | false =>
        rw [P02Ingress.Punted, punted] at hit
        rw [Stop.punted, P02Ingress.puntAction, a.accepted, Option.bind_some] at punted
        exact hit (Option.not_isSome_iff_eq_none.mp (Bool.eq_false_iff.mp punted))

theorem passing_redirects (a : Stop) : Redirects a.passing.gateway.cfg a.passing.gateway.tables :=
  ⟨a.redirects.modifyJdVxlanIn, a.redirects.modifyJdVxlanOut⟩

/-- Nothing else of the visit depends on the punt table. -/
theorem visit_passing (unpunted : a.punted = false) : a.passing.visit = a.visit := by
  have same : a.passing.tables = a.tables := by
    change ({ a.tables with
      processProtocolPacket := if a.punted then fun _ => none else a.tables.processProtocolPacket } : Tables) = _
    rw [unpunted]
    rfl
  rw [Passage.visit, same]
  rfl

/-- A redirected packet is not punted. -/
theorem unpunted_of_redirected (redirected : a.redirected = true) : a.punted = false := by
  rw [← Bool.not_eq_true]
  intro punted
  obtain ⟨delivery, sent, same⟩ := Option.map_eq_some_iff.mp (beq_iff_eq.mp redirected)
  exact absurd (((visit_of_punted punted).2 delivery sent).symm.trans same) (by decide)

/-- A gateway redirects a packet to the gateway that it reaches next, which owns its new destination. -/
structure Leads (a b : Stop) : Prop where
  sent : ∃ delivery, a.visit.value = some delivery ∧ delivery.directSend = dlPacket ∧
    Transit delivery.packet b.frame.bits
  owns : ∃ tof dst, tunnelTarget b.frame.bits = some (tof, dst) ∧ Owns b.gateway.cfg tof dst

theorem Leads.redirected (leads : a.Leads b) : a.redirected = true := by
  obtain ⟨⟨delivery, sent, same, _⟩, _⟩ := leads
  exact beq_iff_eq.mpr (Option.map_eq_some_iff.mpr ⟨delivery, sent, same⟩)

theorem Leads.passing (leads : a.Leads b) : a.passing.Leads b.passing := by
  refine ⟨?_, leads.owns⟩
  rw [visit_passing (unpunted_of_redirected leads.redirected)]
  exact leads.sent

theorem redirected_passing (redirected : a.redirected = true) : a.passing.redirected = true := by
  rw [Passage.redirected, visit_passing (unpunted_of_redirected redirected)]
  exact redirected

end Stop

/-! The types on the way -/

section Types

variable {inbound : Bool}

theorem Moves.of_zero {tof : BitVec 4} (moves : Moves inbound 0 tof) :
    tof = zoneTof inbound ∨ tof = addressTof inbound := by
  generalize start : (0 : BitVec 4) = before at moves
  cases moves with
  | zone => exact .inl rfl
  | address => exact .inr rfl
  | onward => exact .inr rfl

theorem Moves.of_zone {tof : BitVec 4} (moves : Moves inbound (zoneTof inbound) tof) : tof = addressTof inbound := by
  generalize start : zoneTof inbound = before at moves
  cases moves with
  | zone => cases inbound <;> exact absurd start (by decide)
  | address => rfl
  | onward => rfl

theorem Moves.not_address {tof : BitVec 4} : ¬ Moves inbound (addressTof inbound) tof := by
  intro moves
  have falls := redirectionsLeft_falls moves
  rw [redirectionsLeft_address] at falls
  exact Nat.not_lt_zero _ falls

/-- The types of a packet along its way, in the direction of its first redirection -/
def typeRuns (inbound : Bool) : List (List (BitVec 4)) :=
  [[0], [0, zoneTof inbound], [0, addressTof inbound], [0, zoneTof inbound, addressTof inbound]]

/-- The moves leave four ways. -/
theorem mem_typeRuns {rest : List (BitVec 4)} (chain : List.IsChain (Moves inbound) (0 :: rest)) :
    0 :: rest ∈ typeRuns inbound := by
  have ends {rest : List (BitVec 4)} (chain : List.IsChain (Moves inbound) (addressTof inbound :: rest)) :
      rest = [] := by
    cases rest with
    | nil => rfl
    | cons next rest => exact absurd (List.isChain_cons_cons.mp chain).1 Moves.not_address
  cases rest with
  | nil => exact List.mem_cons_self
  | cons second rest =>
      obtain ⟨moves, chain⟩ := List.isChain_cons_cons.mp chain
      rcases moves.of_zero with rfl | rfl
      · cases rest with
        | nil => simp [typeRuns]
        | cons third rest =>
            obtain ⟨moves, chain⟩ := List.isChain_cons_cons.mp chain
            obtain rfl := moves.of_zone
            simp [typeRuns, ends chain]
      · simp [typeRuns, ends chain]

end Types

/-! A whole way -/

/-- A packet from the first gateway that classifies it, which no gateway has redirected yet -/
structure Route where
  first : Stop
  rest : List Stop
  form : Form
  unpunted : first.punted = false
  known : first.form = some form
  direct : form.dlPkt = 0
  leads : List.IsChain Stop.Leads (first :: rest)

namespace Route

def stops (r : Route) : List Stop := r.first :: r.rest

def last (r : Route) : Stop := r.stops.getLast (List.cons_ne_nil _ _)

/--
The redirections end, no gateway that sends the packet away meters it, and its address is metered once on a way that
does not end at a stop off it.
-/
structure MetersOnce (off : Stop → Prop) (r : Route) : Prop where
  twice : r.stops.countP Stop.redirected ≤ 2
  types : r.stops.map Stop.tof ∈ typeRuns r.form.inbound
  direction : ∀ a ∈ r.stops, ∃ found, a.form = some found ∧ found.inbound = r.form.inbound
  settled : ∀ a ∈ r.stops, a.tof = addressTof r.form.inbound → a.redirected = false
  unmetered : ∀ a ∈ r.stops, a.redirected = true ∨ a.punted = true → a.applications = 0
  once : r.last.redirected = false → ¬ off r.last →
    r.last.kept = true ∧ r.stops.map Stop.applications = List.replicate r.rest.length 0 ++ [1]

end Route

/-- The gateways before the last one redirect the packet, so only the last one meters it. -/
theorem stops_applications {first : Stop} {rest : List Stop} (leads : List.IsChain Stop.Leads (first :: rest))
    (unmetered : ∀ a ∈ first :: rest, a.redirected = true → a.applications = 0)
    (metered : ((first :: rest).getLast (List.cons_ne_nil _ _)).applications = 1) :
    (first :: rest).map Stop.applications = List.replicate rest.length 0 ++ [1] := by
  induction rest generalizing first with
  | nil => exact congrArg (· :: []) metered
  | cons second rest ih =>
      obtain ⟨link, leads⟩ := List.isChain_cons_cons.mp leads
      rw [List.getLast_cons (List.cons_ne_nil _ _)] at metered
      rw [List.map_cons, unmetered first List.mem_cons_self link.redirected,
        ih leads (List.forall_mem_of_forall_mem_cons unmetered) metered]
      rfl

namespace Route

/-- The direction and the moves hold along the way, as they do without the punts. -/
theorem passing_moves (r : Route) :
    (∀ a ∈ r.stops, ∃ found, a.form = some found ∧ found.inbound = r.form.inbound) ∧
      List.IsChain (fun a b => Moves r.form.inbound a.tof b.tof) r.stops := by
  have leads : List.IsChain Passage.Leads (r.first.passing :: r.rest.map Stop.passing) :=
    (List.isChain_map Stop.passing).mpr (r.leads.imp fun _ _ link => link.passing)
  have known : r.first.passing.form = some r.form := r.known
  obtain ⟨forms, moves⟩ := chain_moves known (fun a member => by
    obtain ⟨stop, _, rfl⟩ := List.mem_map.mp (show a ∈ r.stops.map Stop.passing from member)
    exact stop.passing_redirects) leads
  have stepped := (List.isChain_map (R := fun a b : Passage => Moves r.form.inbound a.tof b.tof) Stop.passing
    (l := r.stops)).mp moves
  exact ⟨fun a member => forms a.passing (List.mem_map_of_mem member), stepped⟩

end Route

/--
A packet is redirected at most twice, in one direction, and metered exactly by the gateway that keeps it, unless one
drops it or takes it to the CPU.
-/
theorem Route.metersOnce (r : Route) : r.MetersOnce fun a => a.visit.value = none ∨ a.punted = true := by
  obtain ⟨forms, moves⟩ := r.passing_moves
  have start : r.first.tof = 0 := Passage.tof_direct (a := r.first.passing) r.known r.direct
  have left {a : Stop} (member : a ∈ r.stops) (redirected : a.redirected = true) :
      0 < redirectionsLeft r.form.inbound a.tof := by
    obtain ⟨found, known, same⟩ := forms a member
    rw [← same]
    exact Passage.left_of_redirected (a := a.passing) a.passing_redirects known (a.redirected_passing redirected)
  have unmetered : ∀ a ∈ r.stops, a.redirected = true → a.applications = 0 := by
    intro a member redirected
    obtain ⟨found, known, _⟩ := forms a member
    obtain ⟨delivery, sent, sentOn⟩ := Passage.redirected_iff.mp (a.redirected_passing redirected)
    rcases Passage.applications_of_sent a.passing_redirects known sent with ⟨_, zero⟩ | ⟨matched, _⟩
    · rw [Stop.applications, ← Stop.visit_passing (Stop.unpunted_of_redirected redirected)]
      exact zero
    · exact absurd (matched.symm.trans sentOn) (by decide)
  constructor
  · have bound : r.stops.countP Stop.redirected ≤ redirectionsLeft r.form.inbound r.first.tof :=
      countP_le_measure (fun a : Stop => redirectionsLeft r.form.inbound a.tof) (fun _ _ => redirectionsLeft_falls)
        moves fun _ member redirected => left member redirected
    rw [start] at bound
    exact bound
  · have chain : List.IsChain (Moves r.form.inbound) (r.first.tof :: r.rest.map Stop.tof) :=
      (List.isChain_map Stop.tof).mpr moves
    rw [start] at chain
    have listed := mem_typeRuns chain
    rw [← start] at listed
    exact listed
  · exact forms
  · intro a member settled
    rw [← Bool.not_eq_true]
    intro redirected
    have positive := left member redirected
    rw [settled, redirectionsLeft_address] at positive
    exact Nat.lt_irrefl 0 positive
  · intro a member off
    rcases off with redirected | punted
    · exact unmetered a member redirected
    · exact (Stop.visit_of_punted punted).1
  · intro unredirected on
    obtain ⟨found, known, _⟩ := forms r.last (List.getLast_mem _)
    obtain ⟨sends, unpunted⟩ := not_or.mp on
    obtain ⟨delivery, sent⟩ := Option.ne_none_iff_exists'.mp sends
    have same : r.last.passing.visit = r.last.visit := Stop.visit_passing (Bool.eq_false_iff.mpr unpunted)
    have shows (treatment : BitVec 3) (treated : delivery.directSend = treatment) :
        ((r.last.visit.value.map Delivery.directSend) == some treatment) = true := by
      rw [sent, Option.map_some, treated]
      exact beq_self_eq_true _
    rcases Passage.applications_of_sent r.last.passing_redirects known (same ▸ sent) with
      ⟨redirects, _⟩ | ⟨matched, metered⟩
    · exact absurd ((shows _ redirects).symm.trans unredirected) (by decide)
    · refine ⟨shows _ matched, stops_applications r.leads unmetered ?_⟩
      change r.last.applications = 1
      rw [Stop.applications, ← same]
      exact metered

/-! A packet that crosses the cluster border -/

/-- The visit at a gateway whose punt table holds the entries of a box without interfaces -/
def Passage.stop (a : Passage) (redirects : Redirects a.gateway.cfg a.gateway.tables) (outside : a.port ≠ cpuPort) :
    Stop where
  gateway := { a.gateway with
    tables := { a.tables with processProtocolPacket := (protocolPacketTable a.gateway.cfg []).lookup }
    classifies := ⟨a.gateway.classifies.igwIpType, a.gateway.classifies.pipelineFix⟩ }
  hostifs := []
  punts := rfl
  redirects := ⟨redirects.modifyJdVxlanIn, redirects.modifyJdVxlanOut⟩
  around := a.around
  port := a.port
  outside := outside
  frame := a.frame
  fits := a.fits
  etherType := a.etherType

theorem front_outside : (5 : BitVec 9) ≠ cpuPort := by decide

def borderStop : Stop := outboundPassage.stop (smallGateway_redirects _) front_outside

def zoneStop : Stop := zonePassage.stop ⟨rfl, rfl⟩ front_outside

/-- The gateway of the address, with this management address -/
def addressStop (mgtIp : BitVec 32) : Stop where
  gateway := hopGateway { smallConfig with dlIp := 0x0a000200, mgtIp } { Tables.empty with
    processProtocolPacket := (protocolPacketTable { smallConfig with dlIp := 0x0a000200, mgtIp } []).lookup }
  hostifs := []
  punts := rfl
  redirects := ⟨rfl, rfl⟩
  around := default
  port := 5
  outside := front_outside
  frame := addressPassage.frame
  fits := addressPassage.fits
  etherType := addressPassage.etherType

theorem borderStop_leads : borderStop.Leads zoneStop :=
  ⟨hopFrame_transit ⟨0, 0, etherTypeIpv4⟩ (by decide +kernel), _, _, hopFrame_target _ _ _, .inr (by decide)⟩

theorem zoneStop_leads (mgtIp : BitVec 32) : zoneStop.Leads (addressStop mgtIp) := by
  have own : inDl { smallConfig with dlIp := 0x0a000200 } 0x0a000205 := by decide
  exact ⟨hopFrame_transit ⟨0, 0, etherTypeIpv4⟩ (by decide +kernel), _, _, hopFrame_target _ _ _,
    .inl ⟨.inr rfl, own⟩⟩

/-- The packet meets both redirections before it reaches the gateway with this management address. -/
def borderRoute (mgtIp : BitVec 32) : Route where
  first := borderStop
  rest := [zoneStop, addressStop mgtIp]
  form := .firstHop
  unpunted := by decide +kernel
  known := by decide +kernel
  direct := firstHop_dlPkt
  leads := .cons_cons borderStop_leads (.cons_cons (zoneStop_leads mgtIp) (.singleton _))

/-- Both redirections happen, and the third gateway meters the address. -/
theorem borderRoute_metersOnce : (borderRoute smallConfig.mgtIp).stops.map Stop.redirected = [true, true, false] ∧
    (borderRoute smallConfig.mgtIp).stops.map Stop.applications = [0, 0, 1] ∧
    (borderRoute smallConfig.mgtIp).MetersOnce fun a => a.visit.value = none ∨ a.punted = true :=
  ⟨by decide +kernel, by decide +kernel, (borderRoute smallConfig.mgtIp).metersOnce⟩

/-- A gateway whose redirection address is its management address takes the packet to the CPU without a drop. -/
theorem not_metersOnce_managed : ∃ r : Route, ¬ r.MetersOnce fun a => a.visit.value = none := by
  refine ⟨borderRoute 0x0a000205, fun meters => ?_⟩
  have unredirected : (borderRoute 0x0a000205).last.redirected = false := by decide +kernel
  have sent : ¬ (borderRoute 0x0a000205).last.visit.value = none := by decide +kernel
  have unkept : (borderRoute 0x0a000205).last.kept = false := by decide +kernel
  exact absurd ((meters.once unredirected sent).1.symm.trans unkept) (by decide)

end IgwP4.Dataplane
