/-
This file shows which redirected packets leave with outer addresses that the path has assigned.
-/

import IgwP4.Proof.Dataplane.Journeys

namespace IgwP4.Dataplane
open Packet Setup

/-- The source and the destination of the outer IPv4 header of a frame -/
def outerAddresses (packet : Bits) : Option (BitVec 32 × BitVec 32) := do
  let (_, rest) ← Ethernet.codec.extract packet
  let (ip, _) ← Ipv4.codec.extract rest
  some (ip.srcAddr, ip.dstAddr)

def TunnelPacket.addresses (t : TunnelPacket) : BitVec 32 × BitVec 32 := (t.ip.srcAddr, t.ip.dstAddr)

theorem Delivery.Bears.outerAddresses {delivery : Delivery} {t : TunnelPacket}
    (bears : delivery.Bears (t.stamp false)) : outerAddresses delivery.packet = some t.addresses := by
  obtain ⟨ethernet, packet⟩ := bears
  rw [packet, Dataplane.outerAddresses, Codec.extract_encode, TunnelPacket.bits]
  simp only [Option.bind_eq_bind, Option.bind_some, Codec.extract_encode]
  rfl

/-- The form of an IPv4 frame depends on its destination, its VXLAN header and the kind of its inner packet. -/
theorem form_congr (cfg : SwitchConfig) {hdr other : Headers} (ipv6 : hdr.ipv6.valid = false)
    (ipv6' : other.ipv6.valid = false) (ipv4 : other.ipv4.fields = hdr.ipv4.fields)
    (valid : other.vxlan.valid = hdr.vxlan.valid) (inner4 : other.innerIpv4.valid = hdr.innerIpv4.valid)
    (inner6 : other.innerIpv6.valid = hdr.innerIpv6.valid)
    (vxlan : hdr.vxlan.valid = true → other.vxlan.fields = hdr.vxlan.fields) :
    form (classification cfg other) = form (classification cfg hdr) := by
  rw [classification, classification, ipv6, ipv6', ipv4, valid, inner4, inner6]
  simp only [Bool.false_eq_true, if_false]
  split
  · rename_i overlay
    rw [isJd, isJd, vxlan overlay.1]
    split
    · split <;> rfl
    · split <;> rfl
  · rfl

/-- The classifier reads nothing but the frame. -/
theorem Frame.form_state (cfg : SwitchConfig) {frame : Frame} (fits : frame.Fits)
    (etherType : frame.ethernet.etherType = etherTypeIpv4 ∨ frame.ethernet.etherType = etherTypeIpv6)
    (first second : Headers) :
    form (classification cfg (frame.state first).hdr) = form (classification cfg (frame.state second).hdr) := by
  rcases Frame.ip_cases fits etherType with ⟨ethernet, ip, outer, rfl⟩ | ⟨ethernet, ip, transport, rest, rfl⟩
  · cases outer with
    | overlay o =>
        obtain ⟨udp, vxlan, inner, rest | ⟨ip', words, transport, rest⟩ | ⟨ip', words, transport, rest⟩⟩ := o
        · exact form_congr cfg rfl rfl rfl rfl rfl rfl fun _ => rfl
        · cases transport <;> exact form_congr cfg rfl rfl rfl rfl rfl rfl fun _ => rfl
        · cases transport <;> exact form_congr cfg rfl rfl rfl rfl rfl rfl fun _ => rfl
    | _ => exact form_congr cfg rfl rfl rfl rfl rfl rfl fun on => absurd on Bool.false_ne_true
  · cases transport <;> rfl

/-- A visit of an inbound or outbound packet that leaves redirected -/
structure RedirectedVisit where
  passage : Passage
  redirects : Redirects passage.gateway.cfg passage.gateway.tables
  acl : passage.gateway.tables.egressSystemAcl = egressAclAction egressAclInit
  delivery : Delivery
  sent : passage.visit.value = some delivery
  redirected : delivery.directSend = dlPacket

/-- The redirection of an arrived tunnel packet takes its addresses from the packet and from the tables. -/
def carriedAddresses (gateway : Gateway) (frame : Frame) : Form → Option (BitVec 32 × BitVec 32)
  | .direct => none
  | .redirectedIn => do
      let t ← frame.tunnel
      let (index, action) ← t.choiceIn gateway.cfg gateway.tables
      some (t.rewrite (.inbound gateway.tables) index action).addresses
  | .firstHop | .redirectedOut => do
      let t ← frame.tunnel
      let translated := t.snat gateway.tables
      let (index, action) ← translated.choiceOut gateway.cfg gateway.tables
      some (translated.rewrite (.outbound gateway.tables) index action).addresses

/-- The redirection of a freshly encapsulated packet finds addresses that nothing has assigned yet. -/
def freshAddresses (gateway : Gateway) (fresh : Ipv4) (data : EipInBwId) : BitVec 32 × BitVec 32 :=
  if data.betweenCluster = 1 then (fresh.srcAddr, gateway.cfg.sharedBwVip)
  else (gateway.cfg.vip, (gateway.tables.selectRedirectIpIn 1
    (hashIndex data.bandwidthId data.sharedBandwidthId)).getD fresh.dstAddr)

namespace RedirectedVisit

variable (r : RedirectedVisit)

/-- Both addresses are the same in every other run of the frame, so no header contents decide them. -/
def Assigned : Prop :=
  ∀ other : RedirectedVisit, other.passage.gateway = r.passage.gateway → other.passage.port = r.passage.port →
    other.passage.frame = r.passage.frame →
    outerAddresses other.delivery.packet = outerAddresses r.delivery.packet

/-- Both addresses are assigned, and a freshly encapsulated packet comes from the address of the gateway. -/
structure Defined : Prop where
  assigned : r.Assigned
  source : r.passage.form = some .direct →
    (outerAddresses r.delivery.packet).map Prod.fst = some r.passage.gateway.cfg.vip

/-- A freshly encapsulated packet stays in its cluster and the selector has a member for it. -/
def Supplied : Prop :=
  r.passage.form = some .direct → ∃ parcel data, r.passage.frame.parcel = some parcel ∧
    parcel.inboundEntry r.passage.tables = some data ∧ data.betweenCluster = 0 ∧
    (r.passage.tables.selectRedirectIpIn 1
      (hashIndex data.bandwidthId data.sharedBandwidthId)).isSome = true

variable {r} {found : Form}

/-- A packet that arrives as a tunnel packet has addresses of its own or of the tables. -/
theorem addresses_carried (known : r.passage.form = some found) (tunnelled : found ≠ .direct) :
    outerAddresses r.delivery.packet = carriedAddresses r.passage.gateway r.passage.frame found := by
  obtain ⟨t, carried, _⟩ := Passage.exists_tunnel known tunnelled
  have treated : ¬ r.delivery.directSend = matchPacket := by
    rw [r.redirected]
    decide
  have outbound (outward : found.inbound = false) : ∃ index action,
      (t.snat r.passage.gateway.tables).choiceOut r.passage.gateway.cfg r.passage.gateway.tables =
        some (index, action) ∧
      outerAddresses r.delivery.packet = some ((t.snat r.passage.gateway.tables).rewrite
        (.outbound r.passage.gateway.tables) index action).addresses := by
    obtain ⟨before, ⟨t', chosen, _, bears⟩ | ⟨_, direct⟩⟩ := Passage.outbound_outcome known outward carried r.sent
    · rw [TunnelPacket.redirectOut_eq r.redirects] at chosen
      obtain ⟨⟨index, action⟩, choice, rfl⟩ := Option.map_eq_some_iff.mp chosen
      exact ⟨index, action, choice, bears.outerAddresses⟩
    · exact absurd direct treated
  cases found with
  | direct => contradiction
  | redirectedIn =>
      have entering : r.passage.entering = some t := by
        rw [Passage.entering, known]
        exact carried
      obtain ⟨own, ⟨t', chosen, _, bears⟩ | ⟨_, direct, _⟩⟩ := Passage.inbound_outcome known rfl entering r.sent
      · rw [TunnelPacket.redirectIn_eq r.redirects] at chosen
        obtain ⟨⟨index, action⟩, choice, rfl⟩ := Option.map_eq_some_iff.mp chosen
        rw [bears.outerAddresses, carriedAddresses, carried, Option.bind_eq_bind, Option.bind_some, choice]
        rfl
      · exact absurd direct treated
  | firstHop =>
      obtain ⟨index, action, choice, addresses⟩ := outbound rfl
      rw [addresses, carriedAddresses, carried, Option.bind_eq_bind, Option.bind_some]
      dsimp only
      rw [choice]
      rfl
  | redirectedOut =>
      obtain ⟨index, action, choice, addresses⟩ := outbound rfl
      rw [addresses, carriedAddresses, carried, Option.bind_eq_bind, Option.bind_some]
      dsimp only
      rw [choice]
      rfl

theorem uncheck_inboundEntry (tables : Tables) (contents : Ipv4) (parcel : Parcel) :
    (parcel.uncheck contents).inboundEntry tables = parcel.inboundEntry tables := by
  cases parcel <;> rfl

/-- A freshly encapsulated packet has an entry, which decides the addresses together with the headers. -/
theorem addresses_direct (known : r.passage.form = some .direct) : ∃ parcel data,
    r.passage.frame.parcel = some parcel ∧ parcel.inboundEntry r.passage.tables = some data ∧
    outerAddresses r.delivery.packet = some (freshAddresses r.passage.gateway
      r.passage.around.p13Egress.fresh.ipv4.fields data) := by
  obtain ⟨parcel, carried, _, entering⟩ := Passage.entering_direct known
  refine ⟨parcel, ?_⟩
  obtain ⟨own, ⟨t', chosen, _, bears⟩ | ⟨_, direct, _⟩⟩ := Passage.inbound_outcome known rfl entering r.sent
  · rw [TunnelPacket.redirectIn_eq r.redirects] at chosen
    obtain ⟨⟨index, action⟩, choice, rfl⟩ := Option.map_eq_some_iff.mp chosen
    unfold TunnelPacket.choiceIn at choice
    simp only [Option.bind_eq_bind, Option.bind_eq_some_iff] at choice
    obtain ⟨data, entry, chosen, decided, same⟩ := choice
    obtain ⟨rfl, rfl⟩ := Prod.mk.inj (Option.some.inj same)
    refine ⟨data, carried, (uncheck_inboundEntry _ _ _).symm.trans entry, ?_⟩
    rw [bears.outerAddresses, freshAddresses]
    rw [jdVxlanAction, if_pos (show (wrap r.passage.around.p13Egress.fresh parcel.etherType
      parcel).vxlan.tof = 0 from rfl)] at decided
    split at decided
    · rename_i between
      obtain rfl := Option.some.inj decided
      rw [if_pos between]
      rfl
    · rename_i inside
      split at decided
      · obtain rfl := Option.some.inj decided
        rw [if_neg inside]
        rfl
      · contradiction
  · rw [r.redirected] at direct
    exact absurd direct (by decide)

end RedirectedVisit

/-! Another run of a freshly encapsulated packet -/

theorem BridgeMetadata.police_of_redirected {tables : Tables} {bgMd : BridgeMetadata} {t : TunnelPacket}
    (hit : (t.redirectIn tables bgMd).isSome = true) :
    bgMd.police tables t =
      { bgMd.enter (t.parcel.inboundEntry tables) with tunnelDirectSend := dlPacket } := by
  unfold police
  dsimp only
  rw [if_pos hit]

theorem Parcel.whole_uncheck (contents : Ipv4) (parcel : Parcel) :
    (parcel.uncheck contents).Whole ↔ parcel.Whole := by
  cases parcel <;> exact Iff.rfl

/-- The choice reads nothing that the encapsulation leaves unassigned. -/
theorem choiceIn_wrap (cfg : SwitchConfig) (tables : Tables) (first second : Headers) (parcel : Parcel) :
    (wrap first parcel.etherType parcel).choiceIn cfg tables =
      (wrap second parcel.etherType parcel).choiceIn cfg tables := by
  cases parcel <;> rfl

namespace Passage

variable {a : Passage}

/-- A direct packet that the tables redirect leaves whatever the unassigned contents are. -/
theorem direct_redirected_iff (redirects : Redirects a.gateway.cfg a.tables)
    (acl : a.tables.egressSystemAcl = egressAclAction egressAclInit) {internalPort : BitVec 9}
    {bgMd : BridgeMetadata} (inside : internal internalPort = true)
    (enters : bgMd.Enters a.frame.ethernet.etherType a.port 0)
    (first : (P02Ingress.pass a.tables a.around.p02Ingress a.port a.frame.bits).value =
      some (internalPort, BridgeMetadata.codec.encode bgMd ++ a.frame.body))
    {parcel : Parcel} (carried : a.frame.parcel = some parcel)
    (family : parcel.etherType = a.frame.ethernet.etherType) {choice : BitVec 32 × ModifyJdVxlanAction}
    (chosen : (wrap a.around.p13Egress.fresh parcel.etherType parcel).choiceIn a.gateway.cfg a.tables =
      some choice) :
    (∃ delivery, a.visit.value = some delivery ∧ delivery.directSend = dlPacket) ↔
      parcel.Whole ∧ internal a.port = false ∧
        ¬ (a.port ≠ cpuPort ∧ (bgMd.meterPacketColor = colorRed ∨ bgMd.needDrop = 1)) := by
  obtain ⟨bridges, igrPort, matched, inbound, dlPkt⟩ := enters
  rw [← family] at bridges
  rw [Frame.body_of_parcel carried] at first
  let t := wrap a.around.p13Egress.fresh parcel.etherType parcel
  let own := P13Egress.enveloped bgMd parcel
  have hit : t.redirectIn a.tables own = some (t.rewrite (.inbound a.tables) choice.1 choice.2) := by
    rw [TunnelPacket.redirectIn_eq redirects, chosen]
    rfl
  have policed := BridgeMetadata.police_of_redirected (Option.isSome_iff_exists.mpr ⟨_, hit⟩)
  have second : (P13Egress.pass a.tables a.around.p13Egress internalPort
      (BridgeMetadata.codec.encode bgMd ++ parcel.bits)).value =
        some ⟨internalPort, BridgeMetadata.codec.encode (own.police a.tables t) ++
          ((t.redirectIn a.tables own).getD t).bits, (own.police a.tables t).tunnelDirectSend⟩ :=
    P13Egress.pass_direct a.tables a.around.p13Egress internalPort a.fits carried bridges dlPkt matched
  rw [hit, Option.getD_some] at second
  have onwards : (own.police a.tables t).Inbound a.port :=
    igrPort ▸ (P13Egress.enveloped_inbound bridges matched inbound).police a.tables t
  have treatment : (own.police a.tables t).tunnelDirectSend = dlPacket := by
    rw [policed]
  have marks : (own.police a.tables t).meterPacketColor = bgMd.meterPacketColor ∧
      (own.police a.tables t).needDrop = bgMd.needDrop := by
    rw [policed]
    cases t.parcel.inboundEntry a.tables <;> cases parcel <;> exact ⟨rfl, rfl⟩
  have tunnels : (t.rewrite (.inbound a.tables) choice.1 choice.2).Tunnels := (wrap_tunnels _ _).rewrite _ _ _
  have whole : (t.rewrite (.inbound a.tables) choice.1 choice.2).parcel.Whole ↔ parcel.Whole := by
    rw [(TunnelPacket.rewrite_kept _ _ _ _).2]
    exact parcel.whole_uncheck _
  have sends := P02Egress.sends_redirected acl a.around.p02Egress a.port onwards.bridges tunnels treatment
  rw [marks.1, marks.2, Option.isSome_iff_exists] at sends
  have value : a.visit.value = onward a.tables a.around internalPort (own.police a.tables t)
      (t.rewrite (.inbound a.tables) choice.1 choice.2) := by
    rw [visit, visit_looped inside first second]
    rfl
  rw [value]
  constructor
  · rintro ⟨delivery, sent, _⟩
    obtain ⟨reads, outside, last⟩ := (onward_redirected onwards tunnels treatment delivery).mp sent
    exact ⟨whole.mp reads, outside, sends.mp ⟨delivery, last⟩⟩
  · rintro ⟨reads, outside, passes⟩
    obtain ⟨delivery, last⟩ := sends.mpr passes
    exact ⟨delivery, (onward_redirected onwards tunnels treatment delivery).mpr ⟨whole.mpr reads, outside, last⟩,
      (P02Egress.pass_redirected onwards.bridges tunnels treatment last).1⟩

/-- The same visit with other contents in the headers that the encapsulation validates -/
def refreshed (a : Passage) (fresh : Headers) : Passage :=
  { a with
    around := { a.around with p13Egress := { a.around.p13Egress with fresh := fresh } }
    unpunted := a.unpunted }

end Passage

namespace RedirectedVisit

variable {r : RedirectedVisit}

/-- A freshly encapsulated packet is redirected in every other run. -/
theorem exists_other (known : r.passage.form = some .direct) (fresh : Headers) :
    ∃ other : RedirectedVisit, other.passage = r.passage.refreshed fresh := by
  rcases Passage.first_inbound known rfl with lost | ⟨internalPort, bgMd, inside, enters, first⟩
  · have sent := r.sent
    rw [Passage.visit, visit, Traced.bind, lost] at sent
    contradiction
  · obtain ⟨parcel, carried, family, entering⟩ := Passage.entering_direct known
    obtain ⟨own, ⟨t', chosen, _, bears⟩ | ⟨_, direct, _⟩⟩ := Passage.inbound_outcome known rfl entering r.sent
    · rw [TunnelPacket.redirectIn_eq r.redirects] at chosen
      obtain ⟨choice, chosen, _⟩ := Option.map_eq_some_iff.mp chosen
      have passes := (Passage.direct_redirected_iff r.redirects r.acl inside enters first carried family chosen).mp
        ⟨r.delivery, r.sent, r.redirected⟩
      rw [choiceIn_wrap _ _ _ fresh] at chosen
      have again := @Passage.direct_redirected_iff (r.passage.refreshed fresh) r.redirects r.acl internalPort bgMd
        inside enters first parcel carried family choice chosen
      obtain ⟨delivery, sent, redirected⟩ := again.mpr passes
      exact ⟨⟨r.passage.refreshed fresh, r.redirects, r.acl, delivery, sent, redirected⟩, rfl⟩
    · rw [r.redirected] at direct
      exact absurd direct (by decide)

/-- The contents of the headers show in the addresses. -/
theorem fresh_of_assigned (known : r.passage.form = some .direct) (assigned : r.Assigned) (fresh : Headers) :
    ∃ parcel data, r.passage.frame.parcel = some parcel ∧ parcel.inboundEntry r.passage.tables = some data ∧
      freshAddresses r.passage.gateway fresh.ipv4.fields data =
        freshAddresses r.passage.gateway r.passage.around.p13Egress.fresh.ipv4.fields data := by
  obtain ⟨other, shape⟩ := exists_other known fresh
  have same : other.passage.gateway = r.passage.gateway ∧ other.passage.port = r.passage.port ∧
      other.passage.frame = r.passage.frame := by
    rw [shape]
    exact ⟨rfl, rfl, rfl⟩
  obtain ⟨parcel, data, carried, entry, addresses⟩ := addresses_direct known
  have form : other.passage.form = some .direct := by
    rw [shape]
    exact known
  obtain ⟨parcel', data', carried', entry', addresses'⟩ := addresses_direct form
  have agreed := assigned other same.1 same.2.1 same.2.2
  rw [addresses, addresses'] at agreed
  rw [shape] at carried' entry' agreed
  obtain rfl := Option.some.inj (carried.symm.trans carried')
  obtain rfl := Option.some.inj (entry.symm.trans entry')
  exact ⟨parcel, data, carried, entry, Option.some.inj agreed⟩

theorem form_eq {a b : Passage} (gateway : b.gateway = a.gateway) (frame : b.frame = a.frame) :
    b.form = a.form := by
  rw [Passage.form, Passage.form, Passage.hdr, Passage.hdr, gateway, frame]
  exact Frame.form_state a.gateway.cfg a.fits a.etherType _ _

/-- The addresses of a freshly encapsulated packet do not depend on its headers when the selector has a member. -/
theorem freshAddresses_supplied (gateway : Gateway) (fresh : Ipv4) {data : EipInBwId} {dlIp : BitVec 32}
    (inside : data.betweenCluster = 0)
    (selected : gateway.tables.selectRedirectIpIn 1 (hashIndex data.bandwidthId data.sharedBandwidthId) =
      some dlIp) : freshAddresses gateway fresh data = (gateway.cfg.vip, dlIp) := by
  rw [freshAddresses, if_neg (by rw [inside]; decide), selected, Option.getD_some]

theorem supplied_of_defined (defined : r.Defined) : r.Supplied := by
  intro known
  let contents := r.passage.around.p13Egress.fresh.ipv4.fields
  obtain ⟨parcel, data, carried, entry, same⟩ := fresh_of_assigned known defined.assigned
    { (default : Headers) with ipv4 := ⟨true, { contents with
      srcAddr := contents.srcAddr + 1, dstAddr := contents.dstAddr + 1 }⟩ }
  have moved (address : BitVec 32) : address + 1 ≠ address := by
    intro kept
    exact absurd (add_eq_left.mp kept) (by decide)
  have bit : ∀ flag : BitVec 1, flag ≠ 1 → flag = 0 := by decide
  refine ⟨parcel, data, carried, entry, ?_⟩
  unfold freshAddresses at same
  split at same
  · exact absurd (congrArg Prod.fst same) (moved contents.srcAddr)
  · rename_i inside
    constructor
    · exact bit _ inside
    · cases selected : r.passage.tables.selectRedirectIpIn 1
          (hashIndex data.bandwidthId data.sharedBandwidthId) with
      | some dlIp => rfl
      | none =>
          rw [selected] at same
          exact absurd (congrArg Prod.snd same) (moved contents.dstAddr)

/-- A freshly encapsulated packet with a member has two assigned addresses. -/
theorem addresses_supplied (supplied : r.Supplied) (known : r.passage.form = some .direct) :
    ∃ parcel data dlIp, r.passage.frame.parcel = some parcel ∧
      parcel.inboundEntry r.passage.tables = some data ∧ data.betweenCluster = 0 ∧
      r.passage.tables.selectRedirectIpIn 1 (hashIndex data.bandwidthId data.sharedBandwidthId) = some dlIp ∧
      outerAddresses r.delivery.packet = some (r.passage.gateway.cfg.vip, dlIp) := by
  obtain ⟨parcel, data, carried, entry, inside, selected⟩ := supplied known
  obtain ⟨dlIp, selected⟩ := Option.isSome_iff_exists.mp selected
  obtain ⟨parcel', data', carried', entry', addresses⟩ := addresses_direct known
  obtain rfl := Option.some.inj (carried.symm.trans carried')
  obtain rfl := Option.some.inj (entry.symm.trans entry')
  rw [freshAddresses_supplied _ _ inside selected] at addresses
  exact ⟨parcel, data, dlIp, carried, entry, inside, selected, addresses⟩

theorem defined_of_supplied (supplied : r.Supplied) : r.Defined := by
  constructor
  · intro other gateway _ frame
    have form := form_eq gateway frame
    obtain ⟨found, known⟩ := Passage.exists_form r.sent
    by_cases fresh : found = .direct
    · subst fresh
      obtain ⟨parcel, data, dlIp, carried, entry, inside, selected, addresses⟩ := addresses_supplied supplied known
      obtain ⟨parcel', data', carried', entry', addresses'⟩ := addresses_direct (form.trans known)
      rw [frame] at carried'
      obtain rfl := Option.some.inj (carried.symm.trans carried')
      rw [Passage.tables, gateway] at entry'
      obtain rfl := Option.some.inj (entry.symm.trans entry')
      rw [addresses', addresses, gateway, freshAddresses_supplied _ _ inside selected]
    · rw [addresses_carried known fresh, addresses_carried (form.trans known) fresh, gateway, frame]
  · intro known
    obtain ⟨_, _, _, _, _, _, _, addresses⟩ := addresses_supplied supplied known
    rw [addresses]
    rfl

/--
A redirected packet has defined outer addresses exactly when it arrived as a tunnel packet, or when its entry
keeps it within the cluster and the selector has a member for it.
-/
theorem defined_iff (r : RedirectedVisit) : r.Defined ↔ r.Supplied :=
  ⟨supplied_of_defined, defined_of_supplied⟩

end RedirectedVisit

/-- Every IPv4 address has an entry of another cluster. -/
def crossTables : Tables :=
  { Tables.empty with eipInRedirect := fun _ => some ⟨7, 0, 1, 1, 0⟩ }

def crossPassage : Passage :=
  smallPassage crossTables (fun _ => rfl) (directFrame plainHeader) plainHeader_fits (directFrame_etherType plainHeader)

/-- The plain packet leaves for another cluster without a source. -/
theorem not_defined_cross : ∃ r : RedirectedVisit, r.passage = crossPassage ∧ ¬ r.Defined := by
  have run : (crossPassage.visit.value.map fun delivery =>
      (delivery.directSend, outerAddresses delivery.packet)) = some (dlPacket, some (0, smallConfig.sharedBwVip)) := by
    decide +kernel
  have form : crossPassage.form = some .direct := by decide +kernel
  obtain ⟨delivery, sent, shape⟩ := Option.map_eq_some_iff.mp run
  obtain ⟨redirected, addresses⟩ := Prod.mk.inj shape
  let r : RedirectedVisit :=
    ⟨crossPassage, smallGateway_redirects crossTables, smallGateway_acl crossTables, delivery, sent, redirected⟩
  refine ⟨r, rfl, fun defined => ?_⟩
  have source : (outerAddresses delivery.packet).map Prod.fst = some smallConfig.vip := defined.source form
  rw [addresses] at source
  exact absurd source (by decide)

end IgwP4.Dataplane
