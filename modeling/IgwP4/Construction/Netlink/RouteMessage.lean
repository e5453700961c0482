/-
This file gives the parsing of route messages by `process_route_msg` and `process_ecmp`.
-/

import IgwP4.Construction.Netlink.Gateways
import IgwP4.Construction.Netlink.MessageLoop

namespace IgwP4.Netlink

abbrev rtmNewRoute : BitVec 16 := 24
abbrev rtmDelRoute : BitVec 16 := 25
abbrev rtmNewNeigh : BitVec 16 := 28
abbrev rtmDelNeigh : BitVec 16 := 29

abbrev afInet : BitVec 8 := 2

abbrev rtaDst : BitVec 16 := 1
abbrev rtaGateway : BitVec 16 := 5
abbrev rtaMultipath : BitVec 16 := 9

/-! The accessors of the netlink library -/

def nlaLen (memory : Memory) (attr : Nat) : Nat := (memory.load16 attr).toNat

/-- `nla_type` takes the two flag bits off. -/
def nlaType (memory : Memory) (attr : Nat) : BitVec 16 := memory.load16 (attr + 2) &&& 0x3fff

def nlaOk (memory : Memory) (attr remaining : Nat) : Prop :=
  4 ≤ remaining ∧ 4 ≤ nlaLen memory attr ∧ nlaLen memory attr ≤ remaining

instance (memory : Memory) (attr remaining : Nat) : Decidable (nlaOk memory attr remaining) :=
  inferInstanceAs (Decidable (_ ∧ _ ∧ _))

/-- `nlmsg_attrlen` is no longer than zero for a message that ends before its attributes. -/
def nlmsgAttrlen (memory : Memory) (hdr : Nat) : Nat :=
  (nlmsgLen memory hdr - 28).toInt.toNat

def rtnhLen (memory : Memory) (rnh : Nat) : Nat := (memory.load16 rnh).toNat

def rtnhOk (memory : Memory) (rnh attrlen : Nat) : Prop :=
  8 ≤ rtnhLen memory rnh ∧ rtnhLen memory rnh ≤ attrlen

instance (memory : Memory) (rnh attrlen : Nat) : Decidable (rtnhOk memory rnh attrlen) :=
  inferInstanceAs (Decidable (_ ∧ _))

/-- The list of gateways, the next hops that they come from, and the bytes that the walk has read -/
structure EcmpWalk where
  gwList : List (BitVec 32) := []
  sources : List Nat := []
  reads : List (Nat × Nat) := []

def EcmpWalk.read (w : EcmpWalk) (ranges : List (Nat × Nat)) : EcmpWalk :=
  { w with reads := w.reads ++ ranges }

def EcmpWalk.push (w : EcmpWalk) (rnh : Nat) (gwIp : BitVec 32) : EcmpWalk :=
  { w with gwList := w.gwList ++ [gwIp], sources := w.sources ++ [rnh] }

/-- The return value -/
def EcmpWalk.ret (w : EcmpWalk) : Bool := w.gwList.length != 0

/--
`process_ecmp` looks at the first attribute of each next hop, and `RTNH_OK` reads the length in
front of any test. It never lowers the length that it tests, so it ends at the attribute only when
the bytes behind the attribute stop it. It yields nothing when it has not ended after so many rounds.
-/
def readEcmp (answers : Answers) (memory : Memory) (attrlen : Nat) : Nat → Nat → EcmpWalk → Option EcmpWalk
  | 0, _, _ => none
  | fuel + 1, rnh, w =>
      let w := w.read [(rnh, 2)]
      if rtnhOk memory rnh attrlen then
        let rta := rnh + 8
        let next := rnh + align4 (rtnhLen memory rnh)
        let w := w.read [(rta + 2, 2)]
        if memory.load16 (rta + 2) = rtaGateway then
          let w := w.read [(rta + 4, 4), (rnh + 4, 4)]
          if answers.intfUp (memory.load32 (rnh + 4)) = true then
            let w := w.push rnh (ntohl (memory.load32 (rta + 4)))
            if w.gwList.length ≥ maxGateway then some w
            else readEcmp answers memory attrlen fuel next w
          else readEcmp answers memory attrlen fuel next w
        else readEcmp answers memory attrlen fuel next w
      else some w

/-- The list that `process_ecmp` leaves -/
def processEcmp (answers : Answers) (memory : Memory) (attrlen fuel rnh : Nat) (gwList : List (BitVec 32)) :
    Option (List (BitVec 32)) :=
  (readEcmp answers memory attrlen fuel rnh { gwList }).map EcmpWalk.gwList

/-- What the walk over the attributes has found so far -/
structure RouteAttrs where
  gatewayValid : Bool := false
  gatewayAddr : BitVec 32 := 0
  ecmpValid : Bool := false
  gwList : List (BitVec 32) := []

/-- The walk has not ended, has left the handler, or has come to the end of the attributes. -/
inductive Walk where
  | running
  | returned
  | ended (found : RouteAttrs)

/-- Each attribute takes at least four bytes, so the rounds last for the length of all attributes. -/
def walkAttrs (answers : Answers) (memory : Memory) (fuel : Nat) :
    Nat → Nat → Nat → RouteAttrs → Walk
  | 0, _, _, found => .ended found
  | rounds + 1, attr, attrlen, found =>
      if nlaOk memory attr attrlen then
        let next := walkAttrs answers memory fuel rounds (attr + align4 (nlaLen memory attr))
          (attrlen - align4 (nlaLen memory attr))
        if nlaType memory attr = rtaDst then
          if ntohl (memory.load32 (attr + 4)) ≠ 0 then .returned else next found
        else if nlaType memory attr = rtaGateway then
          next { found with
            gatewayValid := true
            gatewayAddr := ntohl (memory.load32 (attr + 4)) }
        else if nlaType memory attr = rtaMultipath then
          match processEcmp answers memory (nlaLen memory attr - 4) fuel (attr + 4) [] with
          | none => .running
          | some gwList => next { found with gwList, ecmpValid := !gwList.isEmpty }
        else next found
      else .ended found

/-- The message has not been read to its end, changes no next hops, or gives the list of the new ones. -/
inductive RouteParse where
  | running
  | returned
  | nexthops (gwList : List (BitVec 32))

/-- The part of `process_route_msg` in front of its loop -/
def parseRouteMsg (answers : Answers) (fuel : Nat) (memory : Memory) (nlmsg : Nat) : RouteParse :=
  let rtmFamily := memory (nlmsg + 16)
  let rtmDstLen := memory (nlmsg + 17)
  if rtmFamily ≠ afInet then .returned
  else
    match walkAttrs answers memory fuel (nlmsgAttrlen memory nlmsg) (nlmsg + 28)
        (nlmsgAttrlen memory nlmsg) {} with
    | .running => .running
    | .returned => .returned
    | .ended found =>
        if rtmDstLen ≠ 0 then .returned
        else if found.gatewayValid = false ∧ found.ecmpValid = false then .returned
        else .nexthops (if found.ecmpValid then found.gwList else [found.gatewayAddr])

/-- The gateways of an IPv4 default route, when the walk over the attributes finds any -/
def gwListOf (answers : Answers) (fuel : Nat) (memory : Memory) (nlmsg : Nat) : Option (List (BitVec 32)) :=
  match parseRouteMsg answers fuel memory nlmsg with
  | .nexthops gwList => some gwList
  | _ => none

/-- `process_route_msg` takes the type of the message and never looks at it. -/
def processRouteMsg (answers : Answers) (table : GatewayTable) (fuel : Nat) (memory : Memory)
    (nlmsg : Nat) (_type : BitVec 16) (s : RouteState) : Option RouteState :=
  match parseRouteMsg answers fuel memory nlmsg with
  | .running => none
  | .returned => some s
  | .nexthops gwList => some (changeNexthops answers table gwList s)

/-- `process_netlink_message`, where the neighbour messages touch none of this state -/
def processNetlinkMessage (answers : Answers) (table : GatewayTable) (fuel : Nat) (memory : Memory)
    (nlmsg : Nat) (s : RouteState) : Option RouteState :=
  let type := nlmsgType memory nlmsg
  if type = rtmNewNeigh ∨ type = rtmDelNeigh then some s
  else if type = rtmNewRoute ∨ type = rtmDelRoute then
    processRouteMsg answers table fuel memory nlmsg type s
  else some s

end IgwP4.Netlink
