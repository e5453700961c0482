/-
This file shows that a packet is redirected at most twice on its way and metered once at its end.
-/

import IgwP4.Proof.Dataplane.MeterApplications
import IgwP4.Proof.Dataplane.UdpChecksums

namespace IgwP4.Dataplane
open Packet Setup

/-- A measure that falls along a chain bounds how many of its members are marked when each of them has some of it. -/
theorem countP_le_measure {α : Type} {R : α → α → Prop} (measure : α → Nat) {marked : α → Bool}
    (falls : ∀ a b, R a b → measure b < measure a) {first : α} {rest : List α}
    (chain : List.IsChain R (first :: rest)) (positive : ∀ a ∈ first :: rest, marked a = true → 0 < measure a) :
    (first :: rest).countP marked ≤ measure first := by
  induction rest generalizing first with
  | nil =>
      rw [List.countP_singleton]
      split
      · rename_i one
        exact positive first List.mem_cons_self one
      · exact Nat.zero_le _
  | cons second rest ih =>
      obtain ⟨link, chain⟩ := List.isChain_cons_cons.mp chain
      have bound := ih chain (List.forall_mem_of_forall_mem_cons positive)
      have fallen := falls first second link
      rw [List.countP_cons]
      split
      · omega
      · omega

/-! The types of redirected packets -/

def zoneTof (inbound : Bool) : BitVec 4 := if inbound then tofAzIn else tofAzOut

def addressTof (inbound : Bool) : BitVec 4 := if inbound then tofEipIn else tofEipOut

/-- A redirection changes the type of a packet in one of three ways. -/
inductive Moves (inbound : Bool) : BitVec 4 → BitVec 4 → Prop
  | zone : Moves inbound 0 (zoneTof inbound)
  | address : Moves inbound 0 (addressTof inbound)
  | onward : Moves inbound (zoneTof inbound) (addressTof inbound)

/-- The form in which the next gateway finds a redirected packet -/
def Form.redirected (found : Form) : Form := if found.inbound then .redirectedIn else .redirectedOut

@[simp] theorem Form.redirected_inbound (found : Form) : found.redirected.inbound = found.inbound := by
  cases found <;> rfl

theorem firstHop_dlPkt : Form.firstHop.dlPkt = 0 := rfl

/-- How many redirections a packet of this type can still meet -/
def redirectionsLeft (inbound : Bool) (tof : BitVec 4) : Nat :=
  if tof = 0 then 2 else if tof = zoneTof inbound then 1 else 0

theorem redirectionsLeft_falls {inbound : Bool} {tof tof' : BitVec 4} (moves : Moves inbound tof tof') :
    redirectionsLeft inbound tof' < redirectionsLeft inbound tof := by
  cases moves with
  | _ => cases inbound <;> decide

theorem redirectionsLeft_address (inbound : Bool) : redirectionsLeft inbound (addressTof inbound) = 0 := by
  cases inbound <;> decide

/-- The type and the outer destination of a tunnel packet -/
def tunnelTarget (packet : Bits) : Option (BitVec 4 × BitVec 32) := do
  let (_, rest) ← Ethernet.codec.extract packet
  let (ip, rest) ← Ipv4.codec.extract rest
  let (_, rest) ← Udp.codec.extract rest
  let (vxlan, _) ← Vxlan.codec.extract rest
  some (vxlan.tof, ip.dstAddr)

theorem tunnelTarget_tunnel (ethernet : Ethernet) (t : TunnelPacket) :
    tunnelTarget (Ethernet.codec.encode ethernet ++ t.bits) = some (t.vxlan.tof, t.ip.dstAddr) := by
  rw [tunnelTarget, TunnelPacket.bits]
  simp only [Option.bind_eq_bind, Codec.extract_encode, Option.bind_some]

/-- A gateway owns its redirection prefix for the addresses and its own addresses for the zones. -/
def Owns (cfg : SwitchConfig) (tof : BitVec 4) (dst : BitVec 32) : Prop :=
  ((tof = tofEipIn ∨ tof = tofEipOut) ∧ inDl cfg dst) ∨ ((tof = tofAzIn ∨ tof = tofAzOut) ∧ ownsVip cfg dst)

/-- The network between the gateways replaces the Ethernet header and counts the time to live down. -/
def Transit (sent received : Bits) : Prop :=
  ∃ (before after : Ethernet) (ip : Ipv4) (ttl : BitVec 8) (hdrChecksum : BitVec 16) (rest : Bits),
    after.etherType = etherTypeIpv4 ∧ sent = Ethernet.codec.encode before ++ (Ipv4.codec.encode ip ++ rest) ∧
    received = Ethernet.codec.encode after ++ (Ipv4.codec.encode { ip with ttl, hdrChecksum } ++ rest)

/-! A visit of the chain -/

/-- The first parser reads a JD packet of the bits down to its inner IP header. -/
theorem Frame.tunnel_of_bits {frame : Frame} (fits : frame.Fits) {ethernet : Ethernet} {t : TunnelPacket}
    (tunnels : t.Tunnels) (jd : p02IngressDialect.jd t.vxlan = true) (family : ethernet.etherType = etherTypeIpv4)
    (same : frame.bits = Ethernet.codec.encode ethernet ++ t.bits) : frame.tunnel = some t := by
  obtain ⟨framed, same⟩ := Ethernet.codec.encode_append_inj.mp same
  rw [← framed] at family
  have reads : p02IngressDialect.Reads t := .inr (by rw [jd]; rfl)
  cases frame with
  | other ethernet rest => exact absurd family fits.1
  | ipv6 ethernet ip transport rest => exact absurd (family.symm.trans fits.1) (by decide)
  | cpuOther ethernet fabric cpu rest => exact absurd (family.symm.trans fits.1) (by decide)
  | cpuIpv4 ethernet fabric cpu ip outer => exact absurd (family.symm.trans fits.1) (by decide)
  | ipv4 ethernet ip outer =>
      obtain ⟨inner, rfl, rfl, held, _⟩ := p02IngressDialect.reads_tunnel tunnels rfl reads fits.2 same
      exact congrArg (Option.map _) held

namespace Passage

variable {a b : Passage} {found : Form}

/-- The type with which a packet arrives, which is zero for a packet that is not in a tunnel -/
def tof (a : Passage) : BitVec 4 :=
  if a.form = some .direct then 0 else ((tunnelTarget a.frame.bits).map Prod.fst).getD 0

/-- The gateway sends the packet on to another gateway. -/
def redirected (a : Passage) : Bool := (a.visit.value.map Delivery.directSend) == some dlPacket

theorem redirected_iff : a.redirected = true ↔
    ∃ delivery, a.visit.value = some delivery ∧ delivery.directSend = dlPacket := by
  rw [redirected, beq_iff_eq, Option.map_eq_some_iff]

theorem tof_tunnel {t : TunnelPacket} (known : a.form = some found) (tunnelled : found ≠ .direct)
    (carried : a.frame.tunnel = some t) : a.tof = t.vxlan.tof := by
  obtain ⟨_, _, _, _, body, _⟩ := a.frame.tunnel_bears a.fits default carried
  rw [tof, if_neg (by rw [known]; exact fun same => tunnelled (Option.some.inj same)), Frame.bits, body,
    tunnelTarget_tunnel]
  rfl

/-- The packet meets the redirection as a tunnel packet with the type of its arrival. -/
theorem presented_tunnels {t : TunnelPacket} (known : a.form = some found) (presented : a.presented found = some t) :
    t.Tunnels ∧ a.tof = t.vxlan.tof := by
  have outward {t' : TunnelPacket} (tunnelled : found ≠ .direct) (carried : a.frame.tunnel = some t') :
      (t'.snat a.tables).Tunnels ∧ a.tof = (t'.snat a.tables).vxlan.tof := by
    obtain ⟨_, _, tunnels, _⟩ := a.frame.tunnel_bears a.fits default carried
    have own : a.tof = t'.vxlan.tof := tof_tunnel known tunnelled carried
    exact ⟨tunnels.snat _, own⟩
  cases found with
  | direct =>
      obtain ⟨parcel, _, _, entering⟩ := entering_direct known
      obtain rfl := Option.some.inj (entering.symm.trans presented)
      refine ⟨wrap_tunnels _ _, ?_⟩
      rw [tof, if_pos known]
      rfl
  | redirectedIn =>
      have carried : a.frame.tunnel = some t := by
        rw [← presented]
        change _ = a.entering
        rw [entering, known]
      obtain ⟨_, _, tunnels, _⟩ := a.frame.tunnel_bears a.fits default carried
      exact ⟨tunnels, tof_tunnel known (by decide) carried⟩
  | firstHop =>
      obtain ⟨t', carried, rfl⟩ := Option.map_eq_some_iff.mp presented
      exact outward (by decide) carried
  | redirectedOut =>
      obtain ⟨t', carried, rfl⟩ := Option.map_eq_some_iff.mp presented
      exact outward (by decide) carried

/-- The tables choose a redirection for three moves only. -/
theorem choice_moves {index : BitVec 32} {action : ModifyJdVxlanAction} {t : TunnelPacket}
    (presented : a.presented found = some t) (chosen : a.choice found = some (index, action)) :
    Moves found.inbound t.vxlan.tof (t.rewrite (a.redirection found) index action).vxlan.tof := by
  have decided : ∃ between within, jdVxlanAction a.gateway.cfg (zoneTof found.inbound) t.vxlan.tof between within =
      some action := by
    rw [choice] at chosen
    rw [Passage.presented] at presented
    split at chosen
    · rename_i inward
      rw [if_pos inward] at presented
      rw [presented, Option.bind_some] at chosen
      unfold TunnelPacket.choiceIn at chosen
      simp only [Option.bind_eq_bind, Option.bind_eq_some_iff] at chosen
      obtain ⟨data, _, action', decided, same⟩ := chosen
      obtain ⟨_, rfl⟩ := Prod.mk.inj (Option.some.inj same)
      rw [inward]
      exact ⟨_, _, decided⟩
    · rename_i outward
      rw [if_neg outward] at presented
      obtain ⟨t', carried, rfl⟩ := Option.map_eq_some_iff.mp presented
      rw [carried, Option.bind_some] at chosen
      unfold TunnelPacket.choiceOut at chosen
      simp only [Option.bind_eq_bind, Option.bind_eq_some_iff] at chosen
      obtain ⟨data, _, action', decided, same⟩ := chosen
      obtain ⟨_, rfl⟩ := Prod.mk.inj (Option.some.inj same)
      rw [Bool.eq_false_iff.mpr outward]
      exact ⟨_, _, decided⟩
  have types : (a.redirection found).tofAz = zoneTof found.inbound ∧
      (a.redirection found).tofEip = addressTof found.inbound := by
    rw [redirection]
    cases found.inbound <;> exact ⟨rfl, rfl⟩
  obtain ⟨between, within, decided⟩ := decided
  rcases jdVxlanAction_cases decided with ⟨first, rfl⟩ | ⟨first, rfl⟩ | ⟨second, rfl⟩
  · rw [first]
    change Moves _ 0 (a.redirection found).tofAz
    rw [types.1]
    exact .zone
  · rw [first]
    change Moves _ 0 (a.redirection found).tofEip
    rw [types.2]
    exact .address
  · rw [second]
    change Moves _ _ (a.redirection found).tofEip
    rw [types.2]
    exact .onward

/-- What a gateway sends on is the packet that the tables choose. -/
theorem redirected_outcome (redirects : Redirects a.gateway.cfg a.tables) (known : a.form = some found)
    {delivery : Delivery} (sent : a.visit.value = some delivery) (redirected : delivery.directSend = dlPacket) :
    ∃ t index action, a.presented found = some t ∧ a.choice found = some (index, action) ∧
      delivery.Bears ((t.rewrite (a.redirection found) index action).stamp false) := by
  rcases outcome redirects known sent with ⟨t, index, action, presented, chosen, _, bears⟩ | ⟨_, matched⟩
  · exact ⟨t, index, action, presented, chosen, bears⟩
  · exact absurd (matched.symm.trans redirected) (by decide)

/-- A gateway does not meter what its tables redirect. -/
theorem unmetered_of_choice (redirects : Redirects a.gateway.cfg a.tables) (known : a.form = some found)
    {index : BitVec 32} {action : ModifyJdVxlanAction} (chosen : a.choice found = some (index, action)) :
    a.applications = 0 := by
  rcases applications_eq redirects known with ⟨_, zero⟩ | metered
  · exact zero
  · rw [metered, chosen]
    rfl

/-- A gateway redirects only a packet that can still be redirected. -/
theorem left_of_redirected (redirects : Redirects a.gateway.cfg a.tables) (known : a.form = some found)
    (redirected : a.redirected = true) : 0 < redirectionsLeft found.inbound a.tof := by
  obtain ⟨delivery, sent, sentOn⟩ := redirected_iff.mp redirected
  obtain ⟨t, index, action, presented, chosen, _⟩ := redirected_outcome redirects known sent sentOn
  have moves := choice_moves presented chosen
  rw [← (presented_tunnels known presented).2] at moves
  exact Nat.lt_of_le_of_lt (Nat.zero_le _) (redirectionsLeft_falls moves)

/-- A gateway meters exactly the packets that it keeps, among those that it sends. -/
theorem applications_of_sent (redirects : Redirects a.gateway.cfg a.tables) (known : a.form = some found)
    {delivery : Delivery} (sent : a.visit.value = some delivery) :
    (delivery.directSend = dlPacket ∧ a.applications = 0) ∨
      (delivery.directSend = matchPacket ∧ a.applications = 1) := by
  have metered : a.applications = if (a.choice found).isSome then 0 else 1 := by
    rcases applications_eq redirects known with ⟨lost, _⟩ | metered
    · exact absurd (lost.symm.trans sent) (Option.some_ne_none _).symm
    · exact metered
  rcases outcome redirects known sent with ⟨_, index, action, _, chosen, treated, _⟩ | ⟨kept, treated⟩
  · rw [metered, chosen, treated]
    exact .inl ⟨rfl, rfl⟩
  · rw [metered, kept, treated]
    exact .inr ⟨rfl, rfl⟩

/-- The gateway that owns the new destination finds the packet redirected in the same direction. -/
theorem arrives {inbound : Bool} {next : TunnelPacket} (carried : b.frame.tunnel = some next)
    (jd : p02IngressDialect.jd next.vxlan = true)
    (moved : next.vxlan.tof = zoneTof inbound ∨ next.vxlan.tof = addressTof inbound)
    (owns : Owns b.gateway.cfg next.vxlan.tof next.ip.dstAddr) :
    b.form = some (if inbound then .redirectedIn else .redirectedOut) ∧ b.tof = next.vxlan.tof := by
  obtain ⟨_, bears, _⟩ := b.frame.tunnel_bears b.fits b.around.p02Ingress.containers carried
  have known : b.form = some (if inbound then .redirectedIn else .redirectedOut) := by
    have vxlan : b.hdr.vxlan = ⟨true, next.vxlan⟩ := bears.vxlan
    have inner : b.hdr.innerIpv4.valid = true ∨ b.hdr.innerIpv6.valid = true :=
      bears.inner.imp And.left And.right
    have redirected : isJd b.hdr = true := by
      rw [isJd, vxlan]
      exact jd
    have address : b.hdr.ipv4.fields.dstAddr = next.ip.dstAddr :=
      congrArg (fun h : Header Ipv4 => h.fields.dstAddr) bears.ipv4
    have plain : b.hdr.ipv6.valid = false := bears.ipv6
    rw [form, classification, plain, redirected, vxlan, address]
    dsimp only
    rw [if_neg Bool.false_ne_true, if_pos ⟨rfl, inner⟩]
    generalize next.vxlan.tof = tof at moved owns ⊢
    cases inbound with
    | true =>
        have apart : ¬ wantsOut b.gateway.cfg true tof next.ip.dstAddr := by
          rintro (⟨rfl, _⟩ | ⟨rfl, _⟩)
          · rcases moved with same | same <;> exact absurd same (by decide)
          · rcases moved with same | same <;> exact absurd same (by decide)
        have wants : wantsIn b.gateway.cfg true tof next.ip.dstAddr := by
          refine ⟨rfl, ?_⟩
          rcases moved with rfl | rfl
          · exact .inl ⟨rfl, (owns.resolve_left (by rintro ⟨same, _⟩; revert same; decide)).2⟩
          · exact .inr ⟨rfl, (owns.resolve_right (by rintro ⟨same, _⟩; revert same; decide)).2⟩
        rw [if_neg apart, if_pos wants]
        rfl
    | false =>
        have wants : wantsOut b.gateway.cfg true tof next.ip.dstAddr := by
          rcases moved with rfl | rfl
          · exact .inl ⟨rfl, (owns.resolve_left (by rintro ⟨same, _⟩; revert same; decide)).2⟩
          · exact .inr ⟨rfl, (owns.resolve_right (by rintro ⟨same, _⟩; revert same; decide)).2⟩
        rw [if_pos wants]
        rfl
  refine ⟨known, tof_tunnel known ?_ carried⟩
  cases inbound <;> decide

/-- A gateway redirects a packet to the gateway that it reaches next, which owns its new destination. -/
structure Leads (a b : Passage) : Prop where
  sent : ∃ delivery, a.visit.value = some delivery ∧ delivery.directSend = dlPacket ∧
    Transit delivery.packet b.frame.bits
  owns : ∃ tof dst, tunnelTarget b.frame.bits = some (tof, dst) ∧ Owns b.gateway.cfg tof dst

/-- The next gateway receives the rewritten packet with another outer IP header. -/
theorem Leads.tunnel (leads : Leads a b) (redirects : Redirects a.gateway.cfg a.tables)
    (known : a.form = some found) :
    ∃ t index action ip, a.presented found = some t ∧ a.choice found = some (index, action) ∧
      b.frame.tunnel = some { t.rewrite (a.redirection found) index action with ip := ip } := by
  obtain ⟨⟨delivery, sent, redirected, before, after, ip, ttl, hdrChecksum, rest, family, left, received⟩, _⟩ := leads
  obtain ⟨t, index, action, presented, chosen, ethernet, packet⟩ :=
    redirected_outcome redirects known sent redirected
  obtain ⟨_, behind⟩ := Ethernet.codec.encode_append_inj.mp (left.symm.trans packet)
  obtain ⟨rfl, rfl⟩ := Ipv4.codec.encode_append_inj.mp behind
  have tunnels := (presented_tunnels known presented).1.rewrite (a.redirection found) index action
  obtain ⟨flag, version⟩ := t.rewrite_jd (a.redirection found) index action
  let next : TunnelPacket := { t.rewrite (a.redirection found) index action with
    ip := { (t.rewrite (a.redirection found) index action).ip.update with ttl, hdrChecksum } }
  have received : b.frame.bits = Ethernet.codec.encode after ++ next.bits := received
  have jd : p02IngressDialect.jd next.vxlan = true := by
    change (jdFlag _ && _) = true
    rw [flag, version]
    rfl
  have carried : b.frame.tunnel = some next :=
    b.frame.tunnel_of_bits b.fits ⟨tunnels.selects, tunnels.port, tunnels.type⟩ jd family received
  exact ⟨t, index, action, next.ip, presented, chosen, carried⟩

/-- The next gateway takes the packet up in its direction and with its new type. -/
theorem Leads.step (leads : Leads a b) (redirects : Redirects a.gateway.cfg a.tables)
    (known : a.form = some found) :
    b.form = some found.redirected ∧ Moves found.inbound a.tof b.tof ∧ a.applications = 0 := by
  obtain ⟨t, index, action, ip, presented, chosen, carried⟩ := leads.tunnel redirects known
  obtain ⟨_, tof, dst, target, owns⟩ := leads
  obtain ⟨flag, version⟩ := t.rewrite_jd (a.redirection found) index action
  have moves := choice_moves presented chosen
  rw [← (presented_tunnels known presented).2] at moves
  generalize t.rewrite (a.redirection found) index action = t' at carried flag version moves
  obtain ⟨_, _, _, _, body, _⟩ := b.frame.tunnel_bears b.fits default carried
  rw [Frame.bits, body, tunnelTarget_tunnel] at target
  obtain ⟨rfl, rfl⟩ := Prod.mk.inj (Option.some.inj target)
  have moved : t'.vxlan.tof = zoneTof found.inbound ∨ t'.vxlan.tof = addressTof found.inbound := by
    generalize a.tof = before, t'.vxlan.tof = after at moves
    cases moves with
    | zone => exact .inl rfl
    | address => exact .inr rfl
    | onward => exact .inr rfl
  have jd : p02IngressDialect.jd t'.vxlan = true := by
    change (jdFlag _ && _) = true
    rw [flag, version]
    rfl
  obtain ⟨known', type⟩ := arrives carried jd moved owns
  exact ⟨known', type ▸ moves, unmetered_of_choice redirects known chosen⟩

/-- A packet that no gateway has redirected yet has no type. -/
theorem tof_direct (known : a.form = some found) (direct : found.dlPkt = 0) : a.tof = 0 := by
  cases found with
  | redirectedIn => exact absurd direct (by decide)
  | redirectedOut => exact absurd direct (by decide)
  | direct => rw [tof, if_pos known]
  | firstHop =>
      obtain ⟨t, carried, _⟩ := exists_tunnel known (by decide)
      obtain ⟨_, bears, _⟩ := a.frame.tunnel_bears a.fits a.around.p02Ingress.containers carried
      have classified := classification_classified a.gateway.cfg (P02IngressParser.parse_wellShaped a.accepted)
        a.outer
      change Classified a.gateway.cfg a.hdr (classification a.gateway.cfg a.hdr) at classified
      have type : a.hdr.vxlan.fields.tof = 0 := by
        rw [form] at known
        generalize classification a.gateway.cfg a.hdr = action at classified known
        cases classified with
        | outbound vxlan inner std wants => exact wants.1
        | multicast => contradiction
        | _ => exact absurd (Option.some.inj known) (by decide)
      rw [tof_tunnel known (by decide) carried, ← type, hdr, bears.vxlan]

end Passage

/-! The way of a packet -/

/-- A packet on its way through the gateways, from the first one that it reaches -/
structure Course where
  first : Passage
  rest : List Passage
  form : Form
  known : first.form = some form
  direct : form.dlPkt = 0
  redirects : ∀ a ∈ first :: rest, Redirects a.gateway.cfg a.gateway.tables
  leads : List.IsChain Passage.Leads (first :: rest)

namespace Course

def passages (c : Course) : List Passage := c.first :: c.rest

/-- What the redirections promise on the whole way of a packet -/
structure Settles (c : Course) : Prop where
  twice : c.passages.countP Passage.redirected ≤ 2
  direction : ∀ a ∈ c.passages, ∃ found, a.form = some found ∧ found.inbound = c.form.inbound
  start : c.first.tof = 0
  moves : List.IsChain (fun a b => Moves c.form.inbound a.tof b.tof) c.passages
  settled : ∀ a ∈ c.passages, a.tof = addressTof c.form.inbound → a.redirected = false
  metered : ∀ a ∈ c.passages, ∀ delivery, a.visit.value = some delivery →
    a.applications = if delivery.directSend = matchPacket then 1 else 0
  once : (c.passages.map Passage.applications).sum ≤ 1

end Course

section Chain

variable {inbound : Bool} {first : Passage} {rest : List Passage}

/-- The direction and the moves hold along the chain. -/
theorem chain_moves {found : Form} (known : first.form = some found)
    (redirects : ∀ a ∈ first :: rest, Redirects a.gateway.cfg a.gateway.tables)
    (leads : List.IsChain Passage.Leads (first :: rest)) :
    (∀ a ∈ first :: rest, ∃ own, a.form = some own ∧ own.inbound = found.inbound) ∧
      List.IsChain (fun a b => Moves found.inbound a.tof b.tof) (first :: rest) := by
  induction rest generalizing first found with
  | nil =>
      refine ⟨?_, List.IsChain.singleton _⟩
      rintro a member
      rw [List.mem_singleton.mp member]
      exact ⟨found, known, rfl⟩
  | cons second rest ih =>
      obtain ⟨link, leads⟩ := List.isChain_cons_cons.mp leads
      obtain ⟨known', moves, _⟩ := link.step (redirects first List.mem_cons_self) known
      obtain ⟨forms, chain⟩ := ih known' (List.forall_mem_of_forall_mem_cons redirects) leads
      rw [Form.redirected_inbound] at forms chain
      exact ⟨List.forall_mem_cons.mpr ⟨⟨found, known, rfl⟩, forms⟩, List.isChain_cons_cons.mpr ⟨moves, chain⟩⟩

/-- Every gateway but the last one redirects the packet and does not meter it. -/
theorem chain_applications {found : Form} (known : first.form = some found)
    (redirects : ∀ a ∈ first :: rest, Redirects a.gateway.cfg a.gateway.tables)
    (leads : List.IsChain Passage.Leads (first :: rest)) :
    ((first :: rest).map Passage.applications).sum ≤ 1 := by
  induction rest generalizing first found with
  | nil =>
      rw [List.map_singleton, List.sum_singleton]
      rcases Passage.applications_eq (redirects first List.mem_cons_self) known with ⟨_, zero⟩ | metered
      · omega
      · rw [metered]
        split <;> omega
  | cons second rest ih =>
      obtain ⟨link, leads⟩ := List.isChain_cons_cons.mp leads
      obtain ⟨known', _, unmetered⟩ := link.step (redirects first List.mem_cons_self) known
      have bound := ih known' (List.forall_mem_of_forall_mem_cons redirects) leads
      rw [List.map_cons, List.sum_cons, unmetered]
      omega

end Chain

/-- A packet is redirected at most twice, in one direction, and only the gateway that keeps it meters its address. -/
theorem Course.settles (c : Course) : c.Settles := by
  obtain ⟨first, rest, form, known, direct, redirects, leads⟩ := c
  obtain ⟨forms, moves⟩ := chain_moves known redirects leads
  have start : first.tof = 0 := Passage.tof_direct known direct
  have left {a : Passage} (member : a ∈ first :: rest) (redirected : a.redirected = true) :
      0 < redirectionsLeft form.inbound a.tof := by
    obtain ⟨own, known', same⟩ := forms a member
    rw [← same]
    exact Passage.left_of_redirected (redirects a member) known' redirected
  constructor
  · have bound : (first :: rest).countP Passage.redirected ≤ redirectionsLeft form.inbound first.tof :=
      countP_le_measure (fun a : Passage => redirectionsLeft form.inbound a.tof) (fun _ _ => redirectionsLeft_falls)
        moves fun _ member redirected => left member redirected
    rw [start] at bound
    exact bound
  · exact forms
  · exact start
  · exact moves
  · intro a member settled
    rw [← Bool.not_eq_true]
    intro redirected
    have positive := left member redirected
    rw [settled, redirectionsLeft_address] at positive
    exact Nat.lt_irrefl 0 positive
  · intro a member delivery sent
    obtain ⟨own, known', _⟩ := forms a member
    rcases Passage.applications_of_sent (redirects a member) known' sent with ⟨treated, metered⟩ | ⟨treated, metered⟩
    · rw [metered, treated]
      rfl
    · rw [metered, treated]
      rfl
  · exact chain_applications known redirects leads

/-! A packet that crosses the cluster border and reaches its address there -/

/-- A gateway with the tables of the setup for its configuration -/
def hopGateway (cfg : SwitchConfig) (tables : Tables) : Gateway where
  cfg := cfg
  tables := { tables with
    igwIpType := (igwIpTypeTable cfg).lookup
    pipelineFix := pipelineFixTable.lookup
    modifyJdVxlanIn := (eipInJdVxlanTable cfg).lookup
    modifyJdVxlanOut := (eipOutJdVxlanTable cfg).lookup
    ecmpGroup02 := (Selector.constant 0).ecmpGroup02 }
  selector := .constant 0
  classifies := ⟨rfl, rfl⟩
  ecmpGroup02 := rfl
  active := Selector.constant_zero_active

theorem outboundFrame_etherType : outboundFrame.ethernet.etherType = etherTypeIpv4 ∨
    outboundFrame.ethernet.etherType = etherTypeIpv6 :=
  .inl rfl

/-- Everything behind the outer IP header -/
def hopPayload (udp : Udp) (vxlan : Vxlan) : Bits :=
  Udp.codec.encode udp ++ (Vxlan.codec.encode vxlan ++
    (Ethernet.codec.encode outboundTunnel.ethernet ++ outboundTunnel.parcel.bits))

/-- The frame of an outbound tunnel packet in a new Ethernet header, with one hop less to live -/
def hopFrame (ip : Ipv4) (udp : Udp) (vxlan : Vxlan) : Frame :=
  .ipv4 ⟨3, 4, etherTypeIpv4⟩ { ip with ttl := ip.ttl - 1, hdrChecksum := ip.hdrChecksum + 256 } (.overlay
    ⟨udp, vxlan, outboundTunnel.ethernet, .v4 plainHeader ⟨[], .unread, []⟩⟩)

theorem hopFrame_fits {ip : Ipv4} {udp : Udp} {vxlan : Vxlan} (selects : ip.selects ipProtocolsUdp)
    (port : udp.dstPort = udpPortVxlan) : (hopFrame ip udp vxlan).Fits := by
  have reads : p02IngressDialect.readsTransport = true := rfl
  refine ⟨rfl, selects, rfl, port, rfl, ?_⟩
  rw [if_pos reads, Tail.FitsV4, if_neg (by decide)]
  exact ⟨rfl, fun read => absurd read.1 (by decide)⟩

def hopPassage (cfg : SwitchConfig) (tables : Tables) (unpunted : ∀ key, tables.processProtocolPacket key = none)
    (ip : Ipv4) (udp : Udp) (vxlan : Vxlan) (selects : ip.selects ipProtocolsUdp)
    (port : udp.dstPort = udpPortVxlan) : Passage where
  gateway := hopGateway cfg tables
  around := default
  port := 5
  frame := hopFrame ip udp vxlan
  fits := hopFrame_fits selects port
  etherType := .inl rfl
  unpunted punted := punted (unpunted _)

/-- The packet on its way to the zone -/
def zonePassage : Passage :=
  hopPassage { smallConfig with vip := smallConfig.sharedBwVip, sharedBwVip := 0x0a000004 }
    { Tables.empty with
      eipOutRedirect := fun _ => some ⟨7, 0, 1, 0, 0⟩
      selectRedirectIpOut := fun _ _ => some 0x0a000205 } (fun _ => rfl)
    ({ outboundTunnel.ip with dstAddr := smallConfig.sharedBwVip } : Ipv4).update
    { outboundTunnel.udp with srcPort := 50 }
    { outboundTunnel.vxlan with flags := 0x0c, version := 1, tof := tofAzOut } ⟨rfl, rfl, rfl⟩ rfl

/-- The packet on its way to the gateway of its address -/
def addressPassage : Passage :=
  hopPassage { smallConfig with dlIp := 0x0a000200 } Tables.empty (fun _ => rfl)
    ({ zonePassage.hdr.ipv4.fields with srcAddr := smallConfig.sharedBwVip, dstAddr := 0x0a000205 } : Ipv4).update
    { outboundTunnel.udp with srcPort := 250 }
    { outboundTunnel.vxlan with flags := 0x0c, version := 1, tof := tofEipOut } ⟨rfl, rfl, rfl⟩ rfl

theorem hopFrame_transit {value : Option Delivery} {ip : Ipv4} {udp : Udp} {vxlan : Vxlan} (before : Ethernet)
    (run : (value.map fun delivery => (delivery.directSend, delivery.packet)) =
      some (dlPacket, Ethernet.codec.encode before ++ (Ipv4.codec.encode ip ++ hopPayload udp vxlan))) :
    ∃ delivery, value = some delivery ∧ delivery.directSend = dlPacket ∧
      Transit delivery.packet (hopFrame ip udp vxlan).bits := by
  obtain ⟨delivery, sent, shape⟩ := Option.map_eq_some_iff.mp run
  obtain ⟨redirected, packet⟩ := Prod.mk.inj shape
  refine ⟨delivery, sent, redirected, before, ⟨3, 4, etherTypeIpv4⟩, ip, ip.ttl - 1, ip.hdrChecksum + 256,
    hopPayload udp vxlan, rfl, packet, ?_⟩
  change Ethernet.codec.encode _ ++ (Ipv4.codec.encode _ ++ (Udp.codec.encode udp ++ (Vxlan.codec.encode vxlan ++
    (Ethernet.codec.encode outboundTunnel.ethernet ++ (Ipv4.codec.encode plainHeader ++ []))))) = _
  rfl

theorem hopFrame_target (ip : Ipv4) (udp : Udp) (vxlan : Vxlan) :
    tunnelTarget (hopFrame ip udp vxlan).bits = some (vxlan.tof, ip.dstAddr) :=
  tunnelTarget_tunnel ⟨3, 4, etherTypeIpv4⟩
    ⟨{ ip with ttl := ip.ttl - 1, hdrChecksum := ip.hdrChecksum + 256 }, udp, vxlan, outboundTunnel.ethernet,
      .v4 plainHeader []⟩

theorem hopPassage_leads {a : Passage} {cfg : SwitchConfig} {tables : Tables}
    {unpunted : ∀ key, tables.processProtocolPacket key = none} {ip : Ipv4} {udp : Udp} {vxlan : Vxlan}
    {selects : ip.selects ipProtocolsUdp} {port : udp.dstPort = udpPortVxlan} (before : Ethernet)
    (run : (a.visit.value.map fun delivery => (delivery.directSend, delivery.packet)) =
      some (dlPacket, Ethernet.codec.encode before ++ (Ipv4.codec.encode ip ++ hopPayload udp vxlan)))
    (owns : Owns cfg vxlan.tof ip.dstAddr) :
    a.Leads (hopPassage cfg tables unpunted ip udp vxlan selects port) :=
  ⟨hopFrame_transit before run, vxlan.tof, ip.dstAddr, hopFrame_target ip udp vxlan, owns⟩

/-- The packet meets both redirections. -/
def smallCourse : Course where
  first := outboundPassage
  rest := [zonePassage, addressPassage]
  form := .firstHop
  known := by decide +kernel
  direct := rfl
  redirects := by
    rintro a (_ | ⟨_, _ | ⟨_, _ | ⟨_, none⟩⟩⟩)
    · exact ⟨rfl, rfl⟩
    · exact ⟨rfl, rfl⟩
    · exact ⟨rfl, rfl⟩
    · contradiction
  leads := by
    refine .cons_cons ?_ (.cons_cons ?_ (.singleton _))
    · exact hopPassage_leads ⟨0, 0, etherTypeIpv4⟩ (by decide +kernel) (.inr (by decide))
    · exact hopPassage_leads ⟨0, 0, etherTypeIpv4⟩ (by decide +kernel) (.inl (by decide))

/-- Both redirections happen, and the third gateway meters the address. -/
theorem smallCourse_settles : (smallCourse.passages.map Passage.redirected = [true, true, false] ∧
    smallCourse.passages.map Passage.applications = [0, 0, 1]) ∧ smallCourse.Settles :=
  ⟨by decide +kernel, smallCourse.settles⟩

end IgwP4.Dataplane
