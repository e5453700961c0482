/-
This file gives `process_route_msg` with the value that its loop variable holds before the loop.
-/

import IgwP4.Construction.Netlink.RouteMessage

namespace IgwP4.Netlink
open Setup

/-- The loop variable, what the loop has marked, and the indices at which it has read `gw_list` -/
structure NexthopLoop where
  i : BitVec 32
  marked : Marked
  visited : List (BitVec 32)

/-- `for (i == 0; i < gw_list.nums; i++)` compares without signs and leaves `i` as it was before. -/
def markGateways (table : GatewayTable) (gwList : List (BitVec 32)) : Nat → NexthopLoop → NexthopLoop
  | 0, l => l
  | rounds + 1, l =>
      if l.i < BitVec.ofNat 32 gwList.length then
        markGateways table gwList rounds {
          i := l.i + 1
          marked := markGateway table l.marked (gwList.getD l.i.toNat 0)
          visited := l.visited ++ [l.i] }
      else l

/-- What a call has read of `gw_list`, the arrays that it has written to the groups, and its state -/
structure RouteRun where
  visited : List (BitVec 32)
  written : SelectorGroup → Option (Fin 16 → Bool)
  state : RouteState

/-- The call returns before the loop. -/
def RouteRun.returned (s : RouteState) : RouteRun := ⟨[], fun _ => none, s⟩

/-- The array that the loop hands to the driver for a group -/
def writtenStatus (m : Marked) : SelectorGroup → Option (Fin 16 → Bool)
  | .pipe0 => if m.p0NeedChange then some m.state.pipe0MemberstatusVal else none
  | .pipe2 => if m.p2NeedChange then some m.state.pipe2MemberstatusVal else none
  | _ => none

/-- The part of `process_route_msg` behind its parsing, from the value of `i` on -/
def changeNexthopsFrom (answers : Answers) (table : GatewayTable) (gwList : List (BitVec 32)) (i : BitVec 32)
    (s : RouteState) : RouteRun :=
  let l := markGateways table gwList gwList.length ⟨i, ⟨initMembersState s, false, false⟩, []⟩
  ⟨l.visited, writtenStatus l.marked, writeMarked answers l.marked⟩

/-- `process_route_msg` with the value of `i` on entry -/
def processRouteMsgFrom (answers : Answers) (table : GatewayTable) (fuel : Nat) (memory : Memory)
    (nlmsg : Nat) (_type : BitVec 16) (i : BitVec 32) (s : RouteState) : Option RouteRun :=
  match parseRouteMsg answers fuel memory nlmsg with
  | .running => none
  | .returned => some (.returned s)
  | .nexthops gwList => some (changeNexthopsFrom answers table gwList i s)

end IgwP4.Netlink
