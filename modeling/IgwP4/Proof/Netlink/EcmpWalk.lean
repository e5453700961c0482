/-
This file shows for which contents `process_ecmp` takes exactly the next hops of its attribute.
-/

import IgwP4.Proof.Netlink.NeighBounds
import IgwP4.Proof.Netlink.RouteMessage

namespace IgwP4.Netlink

/-! The next hops of an attribute -/

/-- The next hops that stand one behind the other in so many bytes, and the place behind them -/
def multipathRow (memory : Memory) : Nat → Nat → Nat → List Nat × Nat
  | 0, rnh, _ => ([], rnh)
  | rounds + 1, rnh, remaining =>
      if rtnhOk memory rnh remaining then
        let rest := multipathRow memory rounds (rnh + align4 (rtnhLen memory rnh))
          (remaining - align4 (rtnhLen memory rnh))
        (rnh :: rest.1, rest.2)
      else ([], rnh)

/-- The address in the first gateway attribute of a next hop, wherever it stands among the attributes -/
def hopGateway (memory : Memory) (rnh : Nat) : Option (BitVec 32) :=
  let attributes := attributeRow memory (rtnhLen memory rnh) (rnh + 8) (rtnhLen memory rnh - 8)
  ((firstOf memory attributes.1 rtaGateway.toNat).filter fun rta => 8 ≤ rtaLen memory rta).map fun rta =>
    ntohl (memory.load32 (rta + 4))

/-- The gateway of a next hop whose interface is up -/
def upGateway (answers : Answers) (memory : Memory) (rnh : Nat) : Option (BitVec 32) :=
  if answers.intfUp (memory.load32 (rnh + 4)) = true then hopGateway memory rnh else none

/-- The next hops that have a gateway, and their gateways -/
def withGateway (gateway : Nat → Option (BitVec 32)) (hops : List Nat) : List (Nat × BitVec 32) :=
  hops.filterMap fun rnh => (gateway rnh).map (rnh, ·)

/-- The next hops over interfaces that are up and their gateways, in order and cut at the limit -/
def multipathGateways (answers : Answers) (memory : Memory) (rnh attrlen : Nat) : List (Nat × BitVec 32) :=
  (withGateway (upGateway answers memory) (multipathRow memory attrlen rnh attrlen).1).take maxGateway

/-- The bytes lie in the payload of the attribute. -/
def InPayload (rnh attrlen : Nat) (range : Nat × Nat) : Prop :=
  rnh ≤ range.1 ∧ range.1 + range.2 ≤ rnh + attrlen

/-- The walk has read only in the payload, has left its gateways, and returns one exactly when there are any. -/
structure Extracted (answers : Answers) (memory : Memory) (rnh attrlen : Nat) (run : EcmpWalk) : Prop where
  reads : ∀ range ∈ run.reads, InPayload rnh attrlen range
  gwList : run.gwList = (multipathGateways answers memory rnh attrlen).map Prod.snd
  ret : run.ret = true ↔ multipathGateways answers memory rnh attrlen ≠ []

/-- The loop ends with the gateways of the payload, and has taken each of them from its own next hop. -/
def ExtractsHops (answers : Answers) (memory : Memory) (rnh attrlen : Nat) : Prop :=
  ∃ fuel run, readEcmp answers memory attrlen fuel rnh {} = some run ∧
    Extracted answers memory rnh attrlen run ∧
    run.sources = (multipathGateways answers memory rnh attrlen).map Prod.fst

/-! The contents that are extracted -/

/--
The header of the first attribute lies in front of the end, and so does its address when it is a
gateway. Over an interface that is up, it is one exactly when the next hop has a gateway at all.
-/
structure StartsWithGateway (answers : Answers) (memory : Memory) (limit rnh : Nat) : Prop where
  header : rnh + 12 ≤ limit
  address : memory.load16 (rnh + 8 + 2) = rtaGateway → rnh + 16 ≤ limit
  first : answers.intfUp (memory.load32 (rnh + 4)) = true →
    (memory.load16 (rnh + 8 + 2) = rtaGateway ↔ (hopGateway memory rnh).isSome)

/--
Each next hop that has room in the list, with so many gateways in front, starts with its gateway.
The list is full behind them, or two bytes of the payload stand there and hold no length that fits
into the whole payload.
-/
structure Extractable (answers : Answers) (memory : Memory) (attrlen limit count : Nat) (row : List Nat × Nat) :
    Prop where
  first : ∀ front rnh back, row.1 = front ++ rnh :: back →
    count + (withGateway (upGateway answers memory) front).length < maxGateway →
    StartsWithGateway answers memory limit rnh
  ends : maxGateway ≤ count + (withGateway (upGateway answers memory) row.1).length ∨
    row.2 + 2 ≤ limit ∧ ¬ rtnhOk memory row.2 attrlen

/-- The payload is one row of such next hops. -/
def Contents (answers : Answers) (memory : Memory) (rnh attrlen : Nat) : Prop :=
  Extractable answers memory attrlen (rnh + attrlen) 0 (multipathRow memory attrlen rnh attrlen)

theorem withGateway_cons (gateway : Nat → Option (BitVec 32)) (rnh : Nat) (hops : List Nat) :
    withGateway gateway (rnh :: hops) = (gateway rnh).toList.map (rnh, ·) ++ withGateway gateway hops := by
  rw [withGateway, List.filterMap_cons]
  cases gateway rnh <;> rfl

theorem withGateway_cons_length (gateway : Nat → Option (BitVec 32)) (rnh : Nat) (hops : List Nat) :
    (withGateway gateway (rnh :: hops)).length = (gateway rnh).toList.length + (withGateway gateway hops).length := by
  rw [withGateway_cons, List.length_append, List.length_map]

/-- Only next hops of the row are noted. -/
theorem mem_of_source {gateway : Nat → Option (BitVec 32)} {hops : List Nat} {rnh : Nat}
    (noted : rnh ∈ (withGateway gateway hops).map Prod.fst) : rnh ∈ hops := by
  obtain ⟨pair, member, rfl⟩ := List.mem_map.mp noted
  obtain ⟨hop, among, found⟩ := List.mem_filterMap.mp member
  obtain ⟨gwIp, _, rfl⟩ := Option.map_eq_some_iff.mp found
  exact among

section

variable {answers : Answers} {memory : Memory} {attrlen limit count rnh behind : Nat} {hops : List Nat}

theorem extractable_nil (room : count < maxGateway) :
    Extractable answers memory attrlen limit count ([], behind) ↔
      behind + 2 ≤ limit ∧ ¬ rtnhOk memory behind attrlen := by
  constructor
  · intro contents
    exact contents.ends.resolve_left (Nat.not_le_of_lt room)
  · intro ends
    exact ⟨fun front rnh back shape => absurd shape (by simp), .inr ends⟩

/-- The next hop in front starts with its gateway, and the rest is extractable while there is room. -/
theorem extractable_cons (room : count < maxGateway) :
    Extractable answers memory attrlen limit count (rnh :: hops, behind) ↔
      StartsWithGateway answers memory limit rnh ∧
        (count + (upGateway answers memory rnh).toList.length < maxGateway →
          Extractable answers memory attrlen limit (count + (upGateway answers memory rnh).toList.length)
            (hops, behind)) := by
  constructor
  · intro contents
    refine ⟨contents.first [] rnh hops rfl room, fun spare => ⟨?_, ?_⟩⟩
    · intro front other back shape few
      have whole : rnh :: hops = (rnh :: front) ++ other :: back := congrArg (rnh :: ·) shape
      refine contents.first (rnh :: front) other back whole ?_
      rw [withGateway_cons_length]
      omega
    · have ends := contents.ends
      rwa [withGateway_cons_length, ← Nat.add_assoc] at ends
  · rintro ⟨start, rest⟩
    constructor
    · intro front other back shape few
      cases front with
      | nil =>
          obtain ⟨rfl, rfl⟩ := List.cons.inj shape
          exact start
      | cons head front =>
          obtain ⟨rfl, behindHead⟩ := List.cons.inj shape
          rw [withGateway_cons_length, ← Nat.add_assoc] at few
          exact (rest (by omega)).first front other back behindHead few
    · rw [withGateway_cons_length, ← Nat.add_assoc]
      by_cases spare : count + (upGateway answers memory rnh).toList.length < maxGateway
      · exact (rest spare).ends
      · left
        omega

theorem multipathRow_ok {rounds remaining : Nat} (ok : rtnhOk memory rnh remaining) (enough : remaining ≤ rounds) :
    ∃ rest, rounds = rest + 1 ∧ remaining - align4 (rtnhLen memory rnh) ≤ rest ∧
      multipathRow memory rounds rnh remaining =
        (rnh :: (multipathRow memory rest (rnh + align4 (rtnhLen memory rnh))
          (remaining - align4 (rtnhLen memory rnh))).1,
        (multipathRow memory rest (rnh + align4 (rtnhLen memory rnh))
          (remaining - align4 (rtnhLen memory rnh))).2) := by
  have padded := le_align4 (rtnhLen memory rnh)
  obtain ⟨least, most⟩ := ok
  obtain ⟨rest, rfl⟩ : ∃ rest, rounds = rest + 1 := ⟨rounds - 1, by omega⟩
  refine ⟨rest, rfl, by omega, ?_⟩
  rw [multipathRow, if_pos ⟨least, most⟩]

theorem multipathRow_not_ok {rounds remaining : Nat} (ends : ¬ rtnhOk memory rnh remaining) :
    multipathRow memory rounds rnh remaining = ([], rnh) := by
  cases rounds with
  | zero => rfl
  | succ rounds => exact if_neg ends

/-- The next hops of a row stand behind its start. -/
theorem le_of_mem_multipathRow {rounds remaining hop : Nat}
    (member : hop ∈ (multipathRow memory rounds rnh remaining).1) : rnh ≤ hop := by
  induction rounds generalizing rnh remaining with
  | zero => exact absurd member List.not_mem_nil
  | succ rounds ih =>
      rw [multipathRow] at member
      split at member
      · rcases List.mem_cons.mp member with rfl | later
        · exact Nat.le_refl _
        · exact Nat.le_trans (Nat.le_add_right _ _) (ih later)
      · exact absurd member List.not_mem_nil

end

/-! The next hops that the walk follows -/

/-- The address behind the header of a next hop, taken for the address of its gateway -/
def firstGateway (answers : Answers) (memory : Memory) (rnh : Nat) : Option (BitVec 32) :=
  if memory.load16 (rnh + 8 + 2) = rtaGateway ∧ answers.intfUp (memory.load32 (rnh + 4)) = true then
    some (ntohl (memory.load32 (rnh + 8 + 4)))
  else none

/-- A gateway in front of the other attributes is the one of the next hop. -/
theorem hopGateway_of_first {memory : Memory} {rnh : Nat} (type : memory.load16 (rnh + 8 + 2) = rtaGateway)
    (found : (hopGateway memory rnh).isSome) : hopGateway memory rnh = some (ntohl (memory.load32 (rnh + 8 + 4))) := by
  have same : rtaType memory (rnh + 8) = rtaGateway.toNat := congrArg BitVec.toNat type
  rw [hopGateway] at found ⊢
  cases rounds : rtnhLen memory rnh with
  | zero =>
      rw [rounds] at found
      contradiction
  | succ more =>
      rw [rounds, attributeRow] at found
      rw [attributeRow]
      by_cases ok : rtaOk memory (rnh + 8) ((more + 1 : Nat) - 8)
      · rw [if_pos ok] at found ⊢
        dsimp only at found ⊢
        rw [firstOf_cons, if_pos same] at found ⊢
        rw [Option.isSome_map, Option.isSome_filter] at found
        have kept : (some (rnh + 8)).filter (fun rta => decide (8 ≤ rtaLen memory rta)) = some (rnh + 8) :=
          Option.filter_eq_some_iff.mpr ⟨rfl, found⟩
        rw [kept]
        rfl
      · rw [if_neg ok] at found
        contradiction

/-- The walk takes the gateway of a next hop that starts with it. -/
theorem firstGateway_eq {answers : Answers} {memory : Memory} {limit rnh : Nat}
    (start : StartsWithGateway answers memory limit rnh) :
    firstGateway answers memory rnh = upGateway answers memory rnh := by
  rw [firstGateway, upGateway]
  by_cases up : answers.intfUp (memory.load32 (rnh + 4)) = true
  · by_cases type : memory.load16 (rnh + 8 + 2) = rtaGateway
    · rw [if_pos ⟨type, up⟩, if_pos up, hopGateway_of_first type ((start.first up).mp type)]
    · rw [if_neg fun both => type both.1, if_pos up]
      exact (Option.not_isSome_iff_eq_none.mp fun found => type ((start.first up).mpr found)).symm
  · rw [if_neg fun both => up both.2, if_neg up]

theorem first_of_isSome {answers : Answers} {memory : Memory} {rnh : Nat}
    (same : (firstGateway answers memory rnh).isSome = (upGateway answers memory rnh).isSome)
    (up : answers.intfUp (memory.load32 (rnh + 4)) = true) :
    memory.load16 (rnh + 8 + 2) = rtaGateway ↔ (hopGateway memory rnh).isSome := by
  rw [firstGateway, upGateway, if_pos up] at same
  rw [← same]
  by_cases type : memory.load16 (rnh + 8 + 2) = rtaGateway
  · rw [if_pos ⟨type, up⟩]
    exact iff_of_true type rfl
  · rw [if_neg fun both => type both.1]
    exact iff_of_false type Bool.false_ne_true

/-- A next hop whose first attribute lies in front of the end, as far as the walk looks at it -/
structure HopInside (memory : Memory) (attrlen limit rnh : Nat) : Prop where
  ok : rtnhOk memory rnh attrlen
  type : rnh + 12 ≤ limit
  gateway : memory.load16 (rnh + 8 + 2) = rtaGateway → rnh + 16 ≤ limit

/--
The walk follows these next hops in front of the end. It ends at two bytes in front of the end that
hold no length of a next hop, or with the last gateway that the list can hold.
-/
inductive Walks (answers : Answers) (memory : Memory) (attrlen limit : Nat) : Nat → Nat → List Nat → Prop where
  | stops (rnh count : Nat) (inside : rnh + 2 ≤ limit) (ends : ¬ rtnhOk memory rnh attrlen) :
      Walks answers memory attrlen limit rnh count []
  | follows (rnh count : Nat) (hops : List Nat) (hop : HopInside memory attrlen limit rnh)
      (room : count + (firstGateway answers memory rnh).toList.length < maxGateway)
      (rest : Walks answers memory attrlen limit (rnh + align4 (rtnhLen memory rnh))
        (count + (firstGateway answers memory rnh).toList.length) hops) :
      Walks answers memory attrlen limit rnh count (rnh :: hops)
  | full (rnh count : Nat) (hop : HopInside memory attrlen limit rnh)
      (last : maxGateway ≤ count + (firstGateway answers memory rnh).toList.length) :
      Walks answers memory attrlen limit rnh count [rnh]

/-- The bytes that a round reads of a next hop -/
def hopReads (memory : Memory) (rnh : Nat) : List (Nat × Nat) :=
  (rnh, 2) :: (rnh + 8 + 2, 2) ::
    if memory.load16 (rnh + 8 + 2) = rtaGateway then [(rnh + 8 + 4, 4), (rnh + 4, 4)] else []

/-- The lists behind a round -/
def EcmpWalk.hop (answers : Answers) (memory : Memory) (rnh : Nat) (w : EcmpWalk) : EcmpWalk where
  gwList := w.gwList ++ (firstGateway answers memory rnh).toList
  sources := w.sources ++ ((firstGateway answers memory rnh).toList.map fun _ => rnh)
  reads := w.reads ++ hopReads memory rnh

theorem EcmpWalk.hop_length (answers : Answers) (memory : Memory) (rnh : Nat) (w : EcmpWalk) :
    (w.hop answers memory rnh).gwList.length = w.gwList.length + (firstGateway answers memory rnh).toList.length :=
  List.length_append

/-- One round takes the first attribute of a next hop and goes on while there is room. -/
theorem readEcmp_hop {answers : Answers} {memory : Memory} {attrlen : Nat} (fuel : Nat) {rnh : Nat} {w : EcmpWalk}
    (ok : rtnhOk memory rnh attrlen) (room : w.gwList.length < maxGateway) :
    readEcmp answers memory attrlen (fuel + 1) rnh w =
      if maxGateway ≤ (w.hop answers memory rnh).gwList.length then some (w.hop answers memory rnh)
      else readEcmp answers memory attrlen fuel (rnh + align4 (rtnhLen memory rnh)) (w.hop answers memory rnh) := by
  rw [readEcmp]
  dsimp only
  rw [if_pos ok]
  by_cases gateway : memory.load16 (rnh + 8 + 2) = rtaGateway
  · by_cases up : answers.intfUp (memory.load32 (rnh + 4)) = true
    · have first : firstGateway answers memory rnh = some (ntohl (memory.load32 (rnh + 8 + 4))) :=
        if_pos ⟨gateway, up⟩
      rw [if_pos gateway, if_pos up, EcmpWalk.hop, first, hopReads, if_pos gateway]
      simp [EcmpWalk.read, EcmpWalk.push]
    · have first : firstGateway answers memory rnh = none := if_neg fun both => up both.2
      rw [if_pos gateway, if_neg up, EcmpWalk.hop, first, hopReads, if_pos gateway]
      simp [EcmpWalk.read, room]
  · have first : firstGateway answers memory rnh = none := if_neg fun both => gateway both.1
    rw [if_neg gateway, EcmpWalk.hop, first, hopReads, if_neg gateway]
    simp [EcmpWalk.read, room]

theorem readEcmp_stop {answers : Answers} {memory : Memory} {attrlen : Nat} (fuel : Nat) {rnh : Nat} {w : EcmpWalk}
    (ends : ¬ rtnhOk memory rnh attrlen) :
    readEcmp answers memory attrlen (fuel + 1) rnh w = some (w.read [(rnh, 2)]) := by
  rw [readEcmp]
  dsimp only
  rw [if_neg ends]

/-- A round reads in the payload exactly when the first attribute lies in front of its end. -/
theorem hopReads_inPayload (memory : Memory) {start attrlen rnh : Nat} (after : start ≤ rnh) :
    (∀ range ∈ hopReads memory rnh, InPayload start attrlen range) ↔
      rnh + 12 ≤ start + attrlen ∧
        (memory.load16 (rnh + 8 + 2) = rtaGateway → rnh + 16 ≤ start + attrlen) := by
  unfold hopReads
  rw [List.forall_mem_cons, List.forall_mem_cons]
  by_cases gateway : memory.load16 (rnh + 8 + 2) = rtaGateway
  · rw [if_pos gateway, List.forall_mem_cons, List.forall_mem_singleton]
    simp only [InPayload, gateway, forall_const]
    omega
  · rw [if_neg gateway]
    simp only [InPayload, gateway, false_implies, and_true, List.not_mem_nil, implies_true]
    omega

/-- The walk over next hops that stay inside ends with their first gateways. -/
theorem readEcmp_of_walks {answers : Answers} {memory : Memory} {start attrlen rnh count : Nat} {hops : List Nat}
    (walks : Walks answers memory attrlen (start + attrlen) rnh count hops) (after : start ≤ rnh) (w : EcmpWalk)
    (size : w.gwList.length = count) (room : count < maxGateway)
    (inside : ∀ range ∈ w.reads, InPayload start attrlen range) :
    ∃ fuel run, readEcmp answers memory attrlen fuel rnh w = some run ∧
      (∀ range ∈ run.reads, InPayload start attrlen range) ∧
      run.gwList = w.gwList ++ (withGateway (firstGateway answers memory) hops).map Prod.snd ∧
      run.sources = w.sources ++ (withGateway (firstGateway answers memory) hops).map Prod.fst := by
  have hopInside {rnh : Nat} {w : EcmpWalk} (after : start ≤ rnh)
      (inside : ∀ range ∈ w.reads, InPayload start attrlen range)
      (hop : HopInside memory attrlen (start + attrlen) rnh) :
      ∀ range ∈ (w.hop answers memory rnh).reads, InPayload start attrlen range :=
    List.forall_mem_append.mpr ⟨inside, (hopReads_inPayload memory after).mpr ⟨hop.type, hop.gateway⟩⟩
  induction walks generalizing w with
  | stops rnh count within ends =>
      refine ⟨1, _, readEcmp_stop 0 ends, ?_, (List.append_nil _).symm, (List.append_nil _).symm⟩
      refine List.forall_mem_append.mpr ⟨inside, ?_⟩
      rw [List.forall_mem_singleton]
      exact ⟨after, within⟩
  | follows rnh count hops hop spare rest ih =>
      have onward : start ≤ rnh + align4 (rtnhLen memory rnh) := Nat.le_trans after (Nat.le_add_right _ _)
      obtain ⟨fuel, run, ended, reads, gwList, sources⟩ := ih onward (w.hop answers memory rnh)
        (by rw [EcmpWalk.hop_length, size]) spare (hopInside after inside hop)
      refine ⟨fuel + 1, run, ?_, reads, ?_, ?_⟩
      · rw [readEcmp_hop fuel hop.ok (size ▸ room), EcmpWalk.hop_length, size, if_neg (by omega)]
        exact ended
      · rw [gwList, EcmpWalk.hop, withGateway_cons, List.map_append, List.map_map, List.append_assoc]
        simp
      · rw [sources, EcmpWalk.hop, withGateway_cons, List.map_append, List.map_map, List.append_assoc]
        rfl
  | full rnh count hop last =>
      refine ⟨1, w.hop answers memory rnh, ?_, hopInside after inside hop, ?_, ?_⟩
      · rw [readEcmp_hop 0 hop.ok (size ▸ room), EcmpWalk.hop_length, size, if_pos last]
      · rw [EcmpWalk.hop, withGateway_cons, List.map_append, List.map_map]
        simp [withGateway]
      · rw [EcmpWalk.hop, withGateway_cons, List.map_append, List.map_map]
        simp [withGateway, Function.comp_def]

/-- A walk that has read only in the payload has followed next hops that stay inside. -/
theorem walks_of_readEcmp {answers : Answers} {memory : Memory} {start attrlen : Nat} (fuel rnh : Nat)
    (w run : EcmpWalk) (after : start ≤ rnh) (room : w.gwList.length < maxGateway)
    (ended : readEcmp answers memory attrlen fuel rnh w = some run) :
    w.reads ⊆ run.reads ∧ ((∀ range ∈ run.reads, InPayload start attrlen range) →
      ∃ hops, Walks answers memory attrlen (start + attrlen) rnh w.gwList.length hops ∧
        run.sources = w.sources ++ (withGateway (firstGateway answers memory) hops).map Prod.fst) := by
  induction fuel generalizing rnh w with
  | zero => contradiction
  | succ fuel ih =>
      by_cases ok : rtnhOk memory rnh attrlen
      · rw [readEcmp_hop fuel ok room] at ended
        have size := w.hop_length answers memory rnh
        have hopIn (range : Nat × Nat) (member : range ∈ hopReads memory rnh) :
            range ∈ (w.hop answers memory rnh).reads := List.mem_append_right _ member
        have wIn : w.reads ⊆ (w.hop answers memory rnh).reads := List.subset_append_left _ _
        split at ended
        · rename_i last
          obtain rfl := Option.some.inj ended
          refine ⟨wIn, fun inside => ⟨[rnh], ?_, ?_⟩⟩
          · obtain ⟨type, gateway⟩ := (hopReads_inPayload memory after).mp fun range member =>
              inside range (hopIn range member)
            exact .full rnh _ ⟨ok, type, gateway⟩ (size ▸ last)
          · rw [EcmpWalk.hop, withGateway_cons, List.map_append, List.map_map]
            simp [withGateway, Function.comp_def]
        · rename_i spare
          have onward : start ≤ rnh + align4 (rtnhLen memory rnh) := Nat.le_trans after (Nat.le_add_right _ _)
          obtain ⟨kept, later⟩ := ih _ _ onward (by omega) ended
          refine ⟨fun range member => kept (wIn member), fun inside => ?_⟩
          obtain ⟨hops, walks, sources⟩ := later inside
          rw [size] at walks spare
          obtain ⟨type, gateway⟩ := (hopReads_inPayload memory after).mp fun range member =>
            inside range (kept (hopIn range member))
          refine ⟨rnh :: hops, .follows rnh _ hops ⟨ok, type, gateway⟩ (by omega) walks, ?_⟩
          rw [sources, EcmpWalk.hop, withGateway_cons, List.map_append, List.map_map, List.append_assoc]
          rfl
      · rw [readEcmp_stop fuel ok] at ended
        obtain rfl := Option.some.inj ended
        refine ⟨List.subset_append_left _ _, fun inside => ⟨[], .stops rnh _ ?_ ok, (List.append_nil _).symm⟩⟩
        exact (inside (rnh, 2) (List.mem_append_right _ List.mem_cons_self)).2

/-! The payload and the walk -/

/-- A walk that stays inside reads the length at its start. -/
theorem Walks.start_inside {answers : Answers} {memory : Memory} {attrlen limit rnh count : Nat} {hops : List Nat}
    (walks : Walks answers memory attrlen limit rnh count hops) : rnh + 2 ≤ limit := by
  cases walks with
  | stops _ _ inside _ => exact inside
  | follows _ _ _ hop _ _ =>
      have type := hop.type
      omega
  | full _ _ hop _ =>
      have type := hop.type
      omega

theorem Walks.onward {answers : Answers} {memory : Memory} {attrlen limit rnh count : Nat} {hops : List Nat}
    (walks : Walks answers memory attrlen limit rnh count hops) : ∀ hop ∈ hops, rnh ≤ hop := by
  induction walks with
  | stops => exact fun _ member => absurd member List.not_mem_nil
  | follows rnh _ _ _ _ _ ih =>
      intro hop member
      rcases List.mem_cons.mp member with rfl | later
      · exact Nat.le_refl _
      · exact Nat.le_trans (Nat.le_add_right _ _) (ih hop later)
  | full rnh =>
      intro hop member
      rw [List.mem_singleton.mp member]

/-- The walk over an extractable payload follows its next hops as far as the list has room. -/
theorem walks_of_extractable {answers : Answers} {memory : Memory} {start attrlen : Nat} (rounds : Nat)
    {rnh count : Nat} (after : start ≤ rnh) (enough : start + attrlen - rnh ≤ rounds) (room : count < maxGateway)
    (contents : Extractable answers memory attrlen (start + attrlen) count
      (multipathRow memory rounds rnh (start + attrlen - rnh))) :
    ∃ hops, Walks answers memory attrlen (start + attrlen) rnh count hops ∧
      withGateway (firstGateway answers memory) hops =
        (withGateway (upGateway answers memory) (multipathRow memory rounds rnh (start + attrlen - rnh)).1).take
          (maxGateway - count) := by
  induction rounds generalizing rnh count with
  | zero =>
      have ends := (extractable_nil room).mp contents
      omega
  | succ rounds ih =>
      by_cases ok : rtnhOk memory rnh (start + attrlen - rnh)
      · obtain ⟨rest, more, less, shape⟩ := multipathRow_ok ok enough
        obtain rfl := Nat.succ.inj more
        rw [shape] at contents ⊢
        obtain ⟨first, later⟩ := (extractable_cons room).mp contents
        have same := firstGateway_eq first
        have single : (upGateway answers memory rnh).toList.length ≤ 1 := Option.length_toList_le
        have hop : HopInside memory attrlen (start + attrlen) rnh :=
          ⟨⟨ok.1, by have fits := ok.2; omega⟩, first.header, first.address⟩
        rw [withGateway_cons, List.take_append, List.length_map, List.take_of_length_le
          (by rw [List.length_map]; omega), ← Nat.sub_add_eq]
        by_cases spare : count + (upGateway answers memory rnh).toList.length < maxGateway
        · rw [← Nat.sub_add_eq] at later less ⊢
          obtain ⟨hops, walks, taken⟩ := ih (Nat.le_trans after (Nat.le_add_right _ _)) less spare (later spare)
          refine ⟨rnh :: hops, .follows rnh count hops hop (by rw [same]; exact spare) (by rw [same]; exact walks), ?_⟩
          rw [withGateway_cons, same, taken]
        · refine ⟨[rnh], .full rnh count hop (by rw [same]; omega), ?_⟩
          rw [withGateway_cons, same, show maxGateway - (count + (upGateway answers memory rnh).toList.length) = 0 by
            omega, List.take_zero]
          rfl
      · rw [multipathRow_not_ok ok] at contents ⊢
        obtain ⟨inside, ends⟩ := (extractable_nil room).mp contents
        exact ⟨[], .stops rnh count inside ends, List.take_nil.symm⟩

/-- Two rows that note the same next hops agree on whether the first of them is noted. -/
theorem sources_cons {first up : Nat → Option (BitVec 32)} {rnh room : Nat} {hops others : List Nat}
    (some : 0 < room) (fresh : rnh ∉ hops) (fresh' : rnh ∉ others)
    (same : (withGateway first (rnh :: hops)).map Prod.fst =
      ((withGateway up (rnh :: others)).map Prod.fst).take room) :
    (first rnh).isSome = (up rnh).isSome ∧
      (withGateway first hops).map Prod.fst =
        ((withGateway up others).map Prod.fst).take (room - (up rnh).toList.length) := by
  obtain ⟨room, rfl⟩ : ∃ more, room = more + 1 := ⟨room - 1, by omega⟩
  rw [withGateway_cons, withGateway_cons] at same
  cases taken : first rnh with
  | none =>
      cases wanted : up rnh with
      | none =>
          rw [taken, wanted] at same
          exact ⟨rfl, same⟩
      | some gwIp =>
          rw [taken, wanted] at same
          have noted : rnh ∈ (withGateway first hops).map Prod.fst := by
            simp only [Option.toList_none, List.map_nil, List.nil_append] at same
            rw [same]
            exact List.mem_cons_self
          exact absurd (mem_of_source noted) fresh
  | some gwIp =>
      cases wanted : up rnh with
      | none =>
          rw [taken, wanted] at same
          have noted : rnh ∈ ((withGateway up others).map Prod.fst).take (room + 1) := by
            simp only [Option.toList_none, List.map_nil, List.nil_append] at same
            rw [← same]
            exact List.mem_cons_self
          exact absurd (mem_of_source (List.mem_of_mem_take noted)) fresh'
      | some other =>
          rw [taken, wanted] at same
          exact ⟨rfl, (List.cons.inj same).2⟩

/-- A walk that stays inside and notes the next hops with gateways has met an extractable payload. -/
theorem extractable_of_walks {answers : Answers} {memory : Memory} {start attrlen rnh count : Nat} {hops : List Nat}
    (walks : Walks answers memory attrlen (start + attrlen) rnh count hops) (after : start ≤ rnh) (rounds : Nat)
    (enough : start + attrlen - rnh ≤ rounds) (room : count < maxGateway)
    (sources : (withGateway (firstGateway answers memory) hops).map Prod.fst =
      ((withGateway (upGateway answers memory) (multipathRow memory rounds rnh (start + attrlen - rnh)).1).map
        Prod.fst).take (maxGateway - count)) :
    Extractable answers memory attrlen (start + attrlen) count
      (multipathRow memory rounds rnh (start + attrlen - rnh)) := by
  induction walks generalizing rounds with
  | stops rnh count inside ends =>
      rw [multipathRow_not_ok fun ok => ends ⟨ok.1, by have fits := ok.2; omega⟩]
      exact (extractable_nil room).mpr ⟨inside, ends⟩
  | follows rnh count hops hop spare rest ih =>
      have padded := le_align4 (rtnhLen memory rnh)
      have long := hop.ok.1
      have next := rest.start_inside
      have ok : rtnhOk memory rnh (start + attrlen - rnh) := ⟨long, by omega⟩
      obtain ⟨more, rfl, less, shape⟩ := multipathRow_ok ok enough
      rw [shape] at sources ⊢
      obtain ⟨agree, later⟩ := sources_cons (by omega)
        (fun member => absurd (rest.onward rnh member) (by omega))
        (fun member => absurd (le_of_mem_multipathRow member) (by omega)) sources
      have size : (firstGateway answers memory rnh).toList.length = (upGateway answers memory rnh).toList.length := by
        rw [Option.length_toList, Option.length_toList, agree]
      refine (extractable_cons room).mpr ⟨⟨hop.type, hop.gateway, first_of_isSome agree⟩, fun _ => ?_⟩
      rw [← size, ← Nat.sub_add_eq, ← Nat.sub_add_eq] at later
      rw [← Nat.sub_add_eq] at less
      rw [← size, ← Nat.sub_add_eq]
      exact ih (Nat.le_trans after (Nat.le_add_right _ _)) more less spare later
  | full rnh count hop last =>
      have single : (firstGateway answers memory rnh).toList.length ≤ 1 := Option.length_toList_le
      by_cases ok : rtnhOk memory rnh (start + attrlen - rnh)
      · have padded := le_align4 (rtnhLen memory rnh)
        obtain ⟨more, rfl, less, shape⟩ := multipathRow_ok ok enough
        rw [shape] at sources ⊢
        obtain ⟨agree, _⟩ := sources_cons (by omega) List.not_mem_nil
          (fun member => absurd (le_of_mem_multipathRow member) (by have long := ok.1; omega)) sources
        refine (extractable_cons room).mpr ⟨⟨hop.type, hop.gateway, first_of_isSome agree⟩, fun spare => ?_⟩
        rw [Option.length_toList, ← agree, ← Option.length_toList] at spare
        omega
      · -- The last gateway comes from a next hop that reaches behind the payload.
        rw [multipathRow_not_ok ok] at sources
        have taken : 0 < ((withGateway (firstGateway answers memory) [rnh]).map Prod.fst).length := by
          rw [List.length_map, withGateway_cons_length]
          omega
        rw [sources] at taken
        exact absurd taken (by simp [withGateway])

/-- The walk extracts the next hops of exactly these contents. -/
theorem extractsHops_iff (answers : Answers) (memory : Memory) (rnh attrlen : Nat) :
    ExtractsHops answers memory rnh attrlen ↔ Contents answers memory rnh attrlen := by
  have whole : rnh + attrlen - rnh = attrlen := Nat.add_sub_cancel_left _ _
  constructor
  · rintro ⟨fuel, run, ended, extracted, sources⟩
    obtain ⟨_, followed⟩ := walks_of_readEcmp fuel rnh {} run (Nat.le_refl _) (by decide) ended
    obtain ⟨hops, walks, noted⟩ := followed extracted.reads
    rw [multipathGateways, List.map_take, noted] at sources
    have contents := extractable_of_walks walks (Nat.le_refl _) attrlen (Nat.le_of_eq whole) (by decide)
      (by rw [whole]; exact sources)
    rwa [whole] at contents
  · intro contents
    have payload : Extractable answers memory attrlen (rnh + attrlen) 0
        (multipathRow memory attrlen rnh (rnh + attrlen - rnh)) := by
      rw [whole]
      exact contents
    obtain ⟨hops, walks, taken⟩ := walks_of_extractable attrlen (Nat.le_refl rnh) (Nat.le_of_eq whole) (by decide)
      payload
    rw [whole] at taken
    obtain ⟨fuel, run, ended, reads, gwList, sources⟩ := readEcmp_of_walks walks (Nat.le_refl _) {} rfl (by decide)
      fun range member => absurd member List.not_mem_nil
    have same : withGateway (firstGateway answers memory) hops = multipathGateways answers memory rnh attrlen := taken
    rw [same] at gwList sources
    refine ⟨fuel, run, ended, ⟨reads, gwList, ?_⟩, sources⟩
    rw [EcmpWalk.ret, gwList, bne_iff_ne, ne_eq, List.nil_append, List.length_map, List.length_eq_zero_iff]

/--
A next hop whose gateway 10.0.0.2 stands behind another attribute, and one whose gateway attribute is
empty, with a further next hop behind it whose first bytes read like that address
-/
def crossedHops : Memory := Memory.ofList [
  24, 0, 0, 0, 3, 0, 0, 0, 8, 0, 1, 0, 0, 0, 0, 0, 8, 0, 5, 0, 10, 0, 0, 2,
  12, 0, 0, 0, 3, 0, 0, 0, 4, 0, 5, 0,
  10, 0, 0, 2, 3, 0, 0, 0, 0, 0, 0, 0,
  0, 0]

/-- The address that is missed at the first next hop is taken from the second, so the lists agree by chance. -/
theorem extracted_crossed : ∃ fuel run,
    readEcmp ⟨fun _ => true, fun _ => true⟩ crossedHops 50 fuel 0 {} = some run ∧
      Extracted ⟨fun _ => true, fun _ => true⟩ crossedHops 0 50 run ∧ run.sources = [24] ∧
      ¬ Contents ⟨fun _ => true, fun _ => true⟩ crossedHops 0 50 := by
  have ends : (readEcmp ⟨fun _ => true, fun _ => true⟩ crossedHops 50 4 0 {}).map
      (fun run => (run.gwList, run.sources, run.reads)) = some ([0x0a000002], [24],
        [(0, 2), (10, 2), (24, 2), (34, 2), (36, 4), (28, 4), (36, 2), (46, 2), (48, 2)]) := by
    decide +kernel
  have gateways : multipathGateways ⟨fun _ => true, fun _ => true⟩ crossedHops 0 50 = [(0, 0x0a000002)] := by
    decide +kernel
  have row : multipathRow crossedHops 50 0 50 = ([0, 24, 36], 48) := by
    decide +kernel
  obtain ⟨run, ended, fields⟩ := Option.map_eq_some_iff.mp ends
  obtain ⟨gwList, rest⟩ := Prod.mk.inj fields
  obtain ⟨sources, reads⟩ := Prod.mk.inj rest
  refine ⟨4, run, ended, ⟨?_, ?_, ?_⟩, sources, ?_⟩
  · rw [reads]
    simp [InPayload]
  · rw [gwList, gateways]
    rfl
  · rw [EcmpWalk.ret, gwList, gateways]
    decide
  · intro contents
    rw [Contents, row] at contents
    have start := contents.first [] 0 [24, 36] rfl (by decide)
    exact absurd ((start.first rfl).mpr (by decide +kernel)) (by decide +kernel)

/-- One next hop over 10.0.0.2, and four zero bytes behind it -/
def paddedHop : Memory := Memory.ofList [16, 0, 0, 0, 3, 0, 0, 0, 8, 0, 5, 0, 10, 0, 0, 2, 0, 0, 0, 0]

/-- With the zero bytes in the payload the next hop is extracted. -/
example : Contents ⟨fun _ => true, fun _ => true⟩ paddedHop 0 20 := by
  have row : multipathRow paddedHop 20 0 20 = ([0], 16) := by decide +kernel
  rw [Contents, row]
  refine (extractable_cons (by decide)).mpr ⟨⟨by decide, fun _ => by decide, fun _ => ?_⟩, fun _ => ?_⟩
  · decide +kernel
  · exact (extractable_nil (by decide +kernel)).mpr (by decide +kernel)

/-- One next hop over 10.0.0.2, and old bytes behind it that read like another over 10.0.0.3 -/
def staleHop : Memory := Memory.ofList [
  16, 0, 0, 0, 3, 0, 0, 0, 8, 0, 5, 0, 10, 0, 0, 2,
  16, 0, 0, 0, 3, 0, 0, 0, 8, 0, 5, 0, 10, 0, 0, 3]

/-- The walk goes on behind the payload of sixteen bytes. -/
theorem not_extractsHops_stale : ¬ ∃ fuel run,
    readEcmp ⟨fun _ => true, fun _ => true⟩ staleHop 16 fuel 0 {} = some run ∧
      Extracted ⟨fun _ => true, fun _ => true⟩ staleHop 0 16 run := by
  rintro ⟨fuel, run, ended, extracted⟩
  obtain ⟨_, followed⟩ := walks_of_readEcmp fuel 0 {} run (Nat.le_refl 0) (by decide) ended
  obtain ⟨hops, walks, _⟩ := followed extracted.reads
  have next : 0 + align4 (rtnhLen staleHop 0) = 16 := by decide +kernel
  cases walks with
  | stops _ _ _ ends => exact ends (by decide +kernel)
  | follows _ _ hops _ _ rest =>
      have inside := rest.start_inside
      rw [next] at inside
      omega
  | full _ _ _ last => exact absurd last (by decide +kernel)

end IgwP4.Netlink
