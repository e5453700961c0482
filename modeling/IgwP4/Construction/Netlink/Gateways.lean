/-
This file gives the gateway table and the member states that the route messages update.
-/

import IgwP4.Construction.Setup.EcmpGroup
import IgwP4.Construction.Structures.BucketTable

namespace IgwP4.Netlink
open Setup Structures

/-- `MAX_GATEWAY` -/
abbrev maxGateway : Nat := 64

/-- `gateway_entry_t`, whose port lies in one of the two external pipes -/
structure GatewayEntry where
  gwIp : BitVec 32
  devPort : BitVec 9
  pipe : BitVec 9
  memberIndex : Fin 16
deriving DecidableEq

/-- The table of the gateways by the low six bits of their addresses -/
abbrev GatewayTable := BucketTable (BitVec 32) GatewayEntry

/-- `get_member_index_from_pipe0_port` and `get_member_index_from_pipe2_port` -/
def getMemberIndexFromPipePort (group : SelectorGroup) (devPort : BitVec 9) : Option (Fin 16) :=
  (List.finRange 16).find? fun index => group.port index == devPort

/-- `get_member_index_from_port` fails outside the two external pipes. -/
def getMemberIndexFromPort (pipe : BitVec 9) (devPort : BitVec 9) : Option (Fin 16) :=
  if pipe = 0 then getMemberIndexFromPipePort .pipe0 devPort
  else if pipe = 2 then getMemberIndexFromPipePort .pipe2 devPort
  else none

/-- The entry of an interface, or nothing where the source panics -/
def gatewayOfHostif (hostif : Hostif) : Option GatewayEntry :=
  let pipe := hostif.devPort >>> 7
  if pipe ≠ 0 ∧ pipe ≠ 2 then none
  else (getMemberIndexFromPort pipe hostif.devPort).map fun memberIndex =>
    ⟨hostif.gwIp, hostif.devPort, pipe, memberIndex⟩

/-- `gw_ip & GW_ENTRY_HASH_TBL_MASK` -/
def gatewayKey (gwIp : BitVec 32) : BitVec 32 := gwIp &&& 63

/-- `hostif_array_to_gateways` -/
def hostifArrayToGateways (hostifs : List Hostif) : Option GatewayTable :=
  if hostifs.length > maxGateway then none
  else (hostifs.mapM gatewayOfHostif).map (BucketTable.ofList gatewayKey GatewayEntry.gwIp)

/-- `gw_entry_get` -/
def gwEntryGet (table : GatewayTable) (gwIp : BitVec 32) : Option GatewayEntry :=
  BucketTable.get gatewayKey GatewayEntry.gwIp table gwIp

/-- The two static arrays of the program and the selector groups of the hardware -/
structure RouteState where
  pipe0MemberstatusVal : Fin 16 → Bool
  pipe2MemberstatusVal : Fin 16 → Bool
  hardware : SelectorGroup → Fin 16 → Bool

/-- The arrays start from zero and the groups from their initialisation. -/
def RouteState.initial : RouteState where
  pipe0MemberstatusVal _ := false
  pipe2MemberstatusVal _ := false
  hardware := initialStatus

/-- `init_members_state` -/
def initMembersState (s : RouteState) : RouteState :=
  { s with pipe0MemberstatusVal := fun _ => false, pipe2MemberstatusVal := fun _ => false }

/-- These answers come from the kernel and from the driver while a message is processed. -/
structure Answers where
  intfUp : BitVec 32 → Bool
  accepts : SelectorGroup → Bool

/-- `ecmp_group_selector_entry_add` modifies a group, or leaves it when the driver refuses. -/
def ecmpGroupSelectorEntryMod (answers : Answers) (group : SelectorGroup) (status : Fin 16 → Bool)
    (s : RouteState) : RouteState :=
  if answers.accepts group then { s with hardware := Function.update s.hardware group status } else s

/-- The loop over the gateways marks the members and remembers which pipes it met. -/
structure Marked where
  state : RouteState
  p0NeedChange : Bool
  p2NeedChange : Bool

def markGateway (table : GatewayTable) (m : Marked) (gwIp : BitVec 32) : Marked :=
  match gwEntryGet table gwIp with
  | none => m
  | some entry =>
      if entry.pipe = 0 then
        { m with
          p0NeedChange := true
          state.pipe0MemberstatusVal :=
            Function.update m.state.pipe0MemberstatusVal entry.memberIndex true }
      else
        { m with
          p2NeedChange := true
          state.pipe2MemberstatusVal :=
            Function.update m.state.pipe2MemberstatusVal entry.memberIndex true }

/-- Behind the loop the arrays of the pipes that it met are written. -/
def writeMarked (answers : Answers) (m : Marked) : RouteState :=
  let s := m.state
  let s :=
    if m.p0NeedChange then ecmpGroupSelectorEntryMod answers .pipe0 s.pipe0MemberstatusVal s else s
  if m.p2NeedChange then ecmpGroupSelectorEntryMod answers .pipe2 s.pipe2MemberstatusVal s else s

/-- The part of `process_route_msg` behind its parsing -/
def changeNexthops (answers : Answers) (table : GatewayTable) (gwList : List (BitVec 32))
    (s : RouteState) : RouteState :=
  writeMarked answers (gwList.foldl (markGateway table) ⟨initMembersState s, false, false⟩)

end IgwP4.Netlink
