/-
This file shows that the handler takes exactly the gateways of a default route from its message.
-/

import IgwP4.Proof.Netlink.RouteBytes
import IgwP4.Proof.Netlink.Gateways

namespace IgwP4.Netlink
open Memory

/-- The gateways of the next hops whose interface is up -/
def upGatewaysOf (answers : Answers) (hops : List Hop) : List (BitVec 32) :=
  hops.filterMap fun hop => if answers.intfUp hop.ifindex then hop.gateway else none

namespace DefaultRoute

/-- All gateways that a route names -/
def gateways (route : DefaultRoute) : List (BitVec 32) :=
  match route.via with
  | .gateway gwIp => [gwIp]
  | .multipath hops _ => hops.filterMap Hop.gateway

/-- The kernel announces a single gateway only while its interface is up. -/
def upGateways (answers : Answers) (route : DefaultRoute) : List (BitVec 32) :=
  match route.via with
  | .gateway gwIp => [gwIp]
  | .multipath hops _ => upGatewaysOf answers hops

/--
The next hops start with their gateways, at most `maxGateway` of them are up, and the bytes behind
the multipath attribute do not look like a further next hop.
-/
def Contained (answers : Answers) (memory : Memory) (nlmsg : Nat) (route : DefaultRoute) : Prop :=
  match route.via with
  | .gateway _ => True
  | .multipath hops _ => (∀ hop ∈ hops, hop.GatewayFirst) ∧
      (upGatewaysOf answers hops).length ≤ maxGateway ∧
      ¬ rtnhOk memory (nlmsg + 28 + (attributesBytes route.before).length + 4 + (hopsBytes hops).length)
        (hopsBytes hops).length

end DefaultRoute

/-! The walk over the next hops -/

/-- What the walk has noted besides the list has no part in the list. -/
theorem readEcmp_gwList (answers : Answers) (memory : Memory) (attrlen fuel rnh : Nat) (w : EcmpWalk) :
    (readEcmp answers memory attrlen fuel rnh w).map EcmpWalk.gwList =
      processEcmp answers memory attrlen fuel rnh w.gwList := by
  obtain ⟨other, same⟩ : ∃ other : EcmpWalk, { gwList := w.gwList } = other := ⟨_, rfl⟩
  have list : w.gwList = other.gwList := same ▸ rfl
  rw [processEcmp, same]
  clear same
  induction fuel generalizing rnh w other with
  | zero => rfl
  | succ fuel ih =>
      rw [readEcmp, readEcmp]
      dsimp only
      by_cases ok : rtnhOk memory rnh attrlen
      · rw [if_pos ok, if_pos ok]
        by_cases gateway : memory.load16 (rnh + 8 + 2) = rtaGateway
        · rw [if_pos gateway, if_pos gateway]
          by_cases up : answers.intfUp (memory.load32 (rnh + 4)) = true
          · rw [if_pos up, if_pos up]
            have added := congrArg (· ++ [ntohl (memory.load32 (rnh + 8 + 4))]) list
            by_cases full : maxGateway ≤ (w.gwList ++ [ntohl (memory.load32 (rnh + 8 + 4))]).length
            · have full' := full
              rw [list] at full'
              rw [if_pos (by exact full), if_pos (by exact full')]
              exact congrArg some added
            · have spare := full
              rw [list] at spare
              rw [if_neg (by exact full), if_neg (by exact spare)]
              exact ih _ _ _ added
          · rw [if_neg up, if_neg up]
            exact ih _ _ _ list
        · rw [if_neg gateway, if_neg gateway]
          exact ih _ _ _ list
      · rw [if_neg ok, if_neg ok]
        exact congrArg some list

/-- One round of the walk, seen from its list -/
theorem processEcmp_succ (answers : Answers) (memory : Memory) (attrlen fuel rnh : Nat) (gwList : List (BitVec 32)) :
    processEcmp answers memory attrlen (fuel + 1) rnh gwList =
      if rtnhOk memory rnh attrlen then
        let next := rnh + align4 (rtnhLen memory rnh)
        if memory.load16 (rnh + 8 + 2) = rtaGateway ∧ answers.intfUp (memory.load32 (rnh + 4)) = true then
          let gwList := gwList ++ [ntohl (memory.load32 (rnh + 8 + 4))]
          if gwList.length ≥ maxGateway then some gwList
          else processEcmp answers memory attrlen fuel next gwList
        else processEcmp answers memory attrlen fuel next gwList
      else some gwList := by
  rw [processEcmp, readEcmp]
  dsimp only
  by_cases ok : rtnhOk memory rnh attrlen
  · rw [if_pos ok, if_pos ok]
    by_cases gateway : memory.load16 (rnh + 8 + 2) = rtaGateway
    · rw [if_pos gateway]
      by_cases up : answers.intfUp (memory.load32 (rnh + 4)) = true
      · rw [if_pos up, if_pos (And.intro gateway up)]
        by_cases full : maxGateway ≤ (gwList ++ [ntohl (memory.load32 (rnh + 8 + 4))]).length
        · rw [if_pos (by exact full), if_pos full]
          rfl
        · rw [if_neg (by exact full), if_neg full]
          exact readEcmp_gwList _ _ _ _ _ _
      · rw [if_neg up, if_neg fun both => up both.2]
        exact readEcmp_gwList _ _ _ _ _ _
    · rw [if_neg gateway, if_neg fun both => gateway both.1]
      exact readEcmp_gwList _ _ _ _ _ _
  · rw [if_neg ok, if_neg ok]
    rfl

/-- One round over a stored next hop adds its gateway when its interface is up. -/
theorem processEcmp_hop {answers : Answers} {memory : Memory} {attrlen rnh : Nat} {hop : Hop}
    (stored : memory.Holds rnh hop.bytes) (first : hop.GatewayFirst) (fits : hop.bytes.length ≤ attrlen)
    (bound : attrlen < 2 ^ 16) (fuel : Nat) (gwList : List (BitVec 32)) :
    processEcmp answers memory attrlen (fuel + 1) rnh gwList =
      let found := if answers.intfUp hop.ifindex then hop.gateway else none
      if found.isSome ∧ gwList.length + 1 ≥ maxGateway then some (gwList ++ found.toList)
      else processEcmp answers memory attrlen fuel (rnh + hop.bytes.length) (gwList ++ found.toList) := by
  obtain ⟨length, ifindex, attributes⟩ := Hop.of_holds stored (by omega)
  obtain ⟨head, rest, shape, kind⟩ := first
  rw [shape, attributesBytes_cons] at attributes
  obtain ⟨_, type, payload⟩ := Attribute.of_holds ((holds_append _ _).mp attributes).1
  have ok : rtnhOk memory rnh attrlen := by
    rw [rtnhOk, length]
    rw [hop.bytes_length] at fits ⊢
    exact ⟨by omega, fits⟩
  rw [processEcmp_succ, if_pos ok, length, hop.align4_bytes, ifindex]
  dsimp only
  rw [type]
  rcases kind with ⟨isGateway, long⟩ | ⟨notGateway, none⟩
  · have gateway : hop.gateway = some head.address := by
      rw [Hop.gateway, shape, List.find?_cons_of_pos (by simp [isGateway]), Option.map_some]
    rw [gateway, isGateway, Attribute.address_of_holds payload long]
    cases answers.intfUp hop.ifindex with
    | false => simp
    | true => simp
  · rw [none, if_neg fun both => notGateway both.1]
    simp

/-- The walk adds the gateways of all next hops and ends behind them. -/
theorem processEcmp_hops {answers : Answers} {memory : Memory} {attrlen : Nat} (hops : List Hop)
    (rnh fuel : Nat) (gwList : List (BitVec 32)) (stored : memory.Holds rnh (hopsBytes hops))
    (first : ∀ hop ∈ hops, hop.GatewayFirst) (fits : (hopsBytes hops).length ≤ attrlen)
    (bound : attrlen < 2 ^ 16) (closed : ¬ rtnhOk memory (rnh + (hopsBytes hops).length) attrlen)
    (few : gwList.length + (upGatewaysOf answers hops).length ≤ maxGateway)
    (rounds : hops.length < fuel) :
    processEcmp answers memory attrlen fuel rnh gwList = some (gwList ++ upGatewaysOf answers hops) := by
  induction hops generalizing rnh fuel gwList with
  | nil =>
      cases fuel with
      | zero => exact absurd rounds (by simp)
      | succ fuel =>
          have stopped : ¬ rtnhOk memory rnh attrlen := closed
          rw [processEcmp_succ, if_neg stopped]
          simp [upGatewaysOf]
  | cons hop rest ih =>
      cases fuel with
      | zero => exact absurd rounds (by simp)
      | succ fuel =>
          rw [hopsBytes_cons, List.length_append] at fits closed
          rw [hopsBytes_cons] at stored
          obtain ⟨here, behind⟩ := (holds_append _ _).mp stored
          rw [processEcmp_hop here (first hop List.mem_cons_self) (by omega) bound]
          have ups : upGatewaysOf answers (hop :: rest) =
              (if answers.intfUp hop.ifindex then hop.gateway else none).toList ++
                upGatewaysOf answers rest := by
            rw [upGatewaysOf, upGatewaysOf, List.filterMap_cons]
            cases (if answers.intfUp hop.ifindex then hop.gateway else none) <;> rfl
          rw [ups, List.length_append] at few
          rw [ups]
          generalize (if answers.intfUp hop.ifindex then hop.gateway else none) = found at few ⊢
          dsimp only
          split
          · rename_i full
            obtain ⟨some', room⟩ := full
            obtain ⟨gwIp, rfl⟩ := Option.isSome_iff_exists.mp some'
            rw [Option.toList_some, List.length_singleton] at few
            obtain none := List.length_eq_zero_iff.mp (show (upGatewaysOf answers rest).length = 0 by omega)
            rw [none, List.append_nil]
          · rw [ih _ fuel _ behind (fun other among => first other (List.mem_cons_of_mem _ among))
              (by omega) (by rw [Nat.add_assoc]; exact closed)
              (by rw [List.length_append]; omega) (by simpa using rounds), List.append_assoc]

/-! The walk over the attributes -/

theorem nlaOk_of_holds {memory : Memory} {attr remaining : Nat} {a : Attribute}
    (stored : memory.Holds attr a.bytes) (fits : a.bytes.length ≤ remaining) :
    nlaOk memory attr remaining ∧ align4 (nlaLen memory attr) = a.bytes.length ∧
      nlaType memory attr = a.type &&& 0x3fff := by
  obtain ⟨length, type, _⟩ := Attribute.of_holds stored
  rw [nlaOk, nlaType, length, type, a.bytes_length]
  rw [a.bytes_length] at fits
  have padded : 4 + a.payload.length ≤ align4 (4 + a.payload.length) := by
    unfold align4
    omega
  exact ⟨⟨by omega, by omega, by omega⟩, rfl, rfl⟩

/-- The walk passes by the inert attributes at its front. -/
theorem walkAttrs_inert {answers : Answers} {memory : Memory} {fuel : Nat} (attributes : List Attribute)
    (inert : ∀ a ∈ attributes, a.Inert) (rounds attr remaining : Nat) (found : RouteAttrs)
    (stored : memory.Holds attr (attributesBytes attributes)) :
    walkAttrs answers memory fuel (attributes.length + rounds) attr
        ((attributesBytes attributes).length + remaining) found =
      walkAttrs answers memory fuel rounds (attr + (attributesBytes attributes).length) remaining found := by
  induction attributes generalizing attr with
  | nil => simp [attributesBytes]
  | cons a rest ih =>
      rw [attributesBytes_cons] at stored ⊢
      obtain ⟨here, behind⟩ := (holds_append _ _).mp stored
      obtain ⟨ok, length, type⟩ := nlaOk_of_holds here
        (show a.bytes.length ≤ a.bytes.length + (attributesBytes rest).length + remaining by omega)
      obtain ⟨notDst, notGateway, notMultipath⟩ := inert a List.mem_cons_self
      rw [List.length_cons, Nat.add_right_comm, List.length_append, walkAttrs, if_pos ok, type,
        if_neg notDst, if_neg notGateway, if_neg notMultipath, length,
        show a.bytes.length + (attributesBytes rest).length + remaining - a.bytes.length =
          (attributesBytes rest).length + remaining by omega,
        ih (fun other among => inert other (List.mem_cons_of_mem _ among)) _ behind, Nat.add_assoc]

theorem walkAttrs_end {answers : Answers} {memory : Memory} {fuel : Nat} (rounds attr : Nat)
    (found : RouteAttrs) : walkAttrs answers memory fuel rounds attr 0 found = .ended found := by
  cases rounds with
  | zero => rfl
  | succ rounds => rw [walkAttrs, if_neg fun ok => absurd ok.1 (by omega)]

theorem length_le_attributesBytes (attributes : List Attribute) :
    attributes.length ≤ (attributesBytes attributes).length := by
  induction attributes with
  | nil => simp
  | cons a rest ih =>
      rw [attributesBytes_cons, List.length_cons, List.length_append, a.bytes_length, align4]
      omega

/-- What the walk has found behind the attribute that gives the next hops -/
def DefaultRoute.found (answers : Answers) (route : DefaultRoute) : RouteAttrs :=
  match route.via with
  | .gateway gwIp => { gatewayValid := true, gatewayAddr := gwIp }
  | .multipath hops _ =>
      { gwList := upGatewaysOf answers hops, ecmpValid := !(upGatewaysOf answers hops).isEmpty }

/-- The rounds that the walk over the next hops of a route takes -/
def DefaultRoute.rounds (route : DefaultRoute) : Nat :=
  match route.via with
  | .gateway _ => 0
  | .multipath hops _ => hops.length + 1

/-- The round over the attribute of the next hops records them. -/
theorem walkAttrs_via {answers : Answers} {memory : Memory} {nlmsg : Nat} (route : DefaultRoute)
    (fuel : Nat) (rounds remaining : Nat)
    (stored : memory.Holds (nlmsg + 28 + (attributesBytes route.before).length) route.via.attribute.bytes)
    (contained : route.Contained answers memory nlmsg) (enough : route.rounds ≤ fuel) :
    walkAttrs answers memory fuel (rounds + 1) (nlmsg + 28 + (attributesBytes route.before).length)
        (route.via.attribute.bytes.length + remaining) {} =
      walkAttrs answers memory fuel rounds
        (nlmsg + 28 + (attributesBytes route.before).length + route.via.attribute.bytes.length)
        remaining (route.found answers) := by
  obtain ⟨ok, length, type⟩ := nlaOk_of_holds stored (Nat.le_add_right _ remaining)
  obtain ⟨size, _, payload⟩ := Attribute.of_holds stored
  rw [walkAttrs, if_pos ok, type, length, Nat.add_sub_cancel_left]
  unfold DefaultRoute.found
  unfold DefaultRoute.Contained at contained
  unfold DefaultRoute.rounds at enough
  generalize nlmsg + 28 + (attributesBytes route.before).length = attr at stored contained payload size ⊢
  cases via : route.via with
  | gateway gwIp =>
      rw [via] at payload
      have carried : ntohl (memory.load32 (attr + 4)) = gwIp := by
        rw [load32_of_holds payload, ntohl_ntohl]
      have kind : (Via.gateway gwIp).attribute.type &&& 0x3fff = rtaGateway :=
        show rtaGateway &&& 0x3fff = rtaGateway by decide
      dsimp only
      rw [kind, if_neg (by decide), if_pos rfl, carried]
  | multipath hops fits =>
      rw [via] at payload contained enough size
      have walked := processEcmp_hops hops (attr + 4) fuel [] payload contained.1 (Nat.le_refl _)
        (by omega) contained.2.2 (by simpa using contained.2.1) enough
      have kind : (Via.multipath hops fits).attribute.type &&& 0x3fff = rtaMultipath :=
        show rtaMultipath &&& 0x3fff = rtaMultipath by decide
      have attrlen : 4 + (Via.multipath hops fits).attribute.payload.length - 4 =
          (hopsBytes hops).length := Nat.add_sub_cancel_left _ _
      dsimp only
      rw [kind, if_neg (by decide), if_neg (by decide), if_pos rfl, size, attrlen, walked]
      rfl

/-- The walk over the attributes of a route finds its next hops. -/
theorem walkAttrs_route {answers : Answers} {memory : Memory} {nlmsg : Nat} (route : DefaultRoute)
    (fuel : Nat) (stored : memory.Holds (nlmsg + 28) (attributesBytes route.attributes))
    (contained : route.Contained answers memory nlmsg) (enough : route.rounds ≤ fuel) :
    walkAttrs answers memory fuel (attributesBytes route.attributes).length (nlmsg + 28)
        (attributesBytes route.attributes).length {} = .ended (route.found answers) := by
  have shape : attributesBytes route.attributes = attributesBytes route.before ++
      (route.via.attribute.bytes ++ attributesBytes route.after) := by
    rw [DefaultRoute.attributes, attributesBytes, List.flatMap_append]
    rfl
  rw [shape, holds_append, holds_append] at stored
  obtain ⟨before, via, after⟩ := stored
  have lengths : (attributesBytes route.attributes).length = (attributesBytes route.before).length +
      (route.via.attribute.bytes.length + (attributesBytes route.after).length) := by
    rw [shape, List.length_append, List.length_append]
  have room := length_le_attributesBytes route.before
  have room' := length_le_attributesBytes route.after
  have filled := route.via.attribute.bytes_length
  unfold align4 at filled
  obtain ⟨spare, rounds⟩ : ∃ spare, (attributesBytes route.attributes).length =
      route.before.length + (route.after.length + spare + 1) :=
    ⟨(attributesBytes route.attributes).length - (route.before.length + (route.after.length + 1)), by omega⟩
  conv_lhs =>
    rw [lengths]
    arg 4
    rw [← lengths, rounds]
  rw [walkAttrs_inert route.before route.before_inert _ _ _ _ before,
    walkAttrs_via route fuel _ _ via contained enough]
  exact (walkAttrs_inert route.after route.after_inert spare _ 0 _ after).trans (walkAttrs_end _ _ _)

/-- A stored route is parsed as the gateways that are up, unless there are none. -/
theorem parseRouteMsg_route {answers : Answers} {memory : Memory} {nlmsg : Nat} (route : DefaultRoute)
    {type : BitVec 16} (fuel : Nat) (stored : memory.Holds nlmsg (route.bytes type)) (fits : route.length < 2 ^ 31)
    (contained : route.Contained answers memory nlmsg) (enough : route.rounds ≤ fuel) :
    parseRouteMsg answers fuel memory nlmsg =
      if route.upGateways answers = [] then .returned else .nexthops (route.upGateways answers) := by
  obtain ⟨attrlen, _, family, dstLen, attributes⟩ := DefaultRoute.of_holds stored fits
  rw [parseRouteMsg, family, dstLen, attrlen, walkAttrs_route route fuel attributes contained enough]
  simp only [ne_eq, not_true_eq_false, if_false]
  unfold DefaultRoute.found DefaultRoute.upGateways
  cases route.via with
  | gateway gwIp => rfl
  | multipath hops _ =>
      by_cases none : upGatewaysOf answers hops = []
      · simp [none]
      · simp [none]

/-- The handler ends on a stored route and changes the next hops to the gateways that are up. -/
theorem processNetlinkMessage_route {answers : Answers} {memory : Memory} {nlmsg : Nat}
    (table : GatewayTable) (route : DefaultRoute) {type : BitVec 16} (fuel : Nat) (s : RouteState)
    (kind : type = rtmNewRoute ∨ type = rtmDelRoute) (stored : memory.Holds nlmsg (route.bytes type))
    (fits : route.length < 2 ^ 31) (contained : route.Contained answers memory nlmsg)
    (enough : route.rounds ≤ fuel) :
    processNetlinkMessage answers table fuel memory nlmsg s =
      some (if route.upGateways answers = [] then s
        else changeNexthops answers table (route.upGateways answers) s) := by
  have typed := (DefaultRoute.of_holds stored fits).2.1
  have foreign : ¬ (type = rtmNewNeigh ∨ type = rtmDelNeigh) := by
    rcases kind with rfl | rfl <;> decide
  rw [processNetlinkMessage, typed, if_neg foreign, if_pos kind, processRouteMsg,
    parseRouteMsg_route route fuel stored fits contained enough]
  by_cases none : route.upGateways answers = []
  · rw [if_pos none, if_pos none]
  · rw [if_neg none, if_neg none]

end IgwP4.Netlink
