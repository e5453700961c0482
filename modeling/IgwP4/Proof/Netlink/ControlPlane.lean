/-
This file shows that the state of the gateway is a function of the port changes and the messages that it has seen.
-/

import IgwP4.Construction.Netlink.ControlPlane
import IgwP4.Construction.Structures.History
import IgwP4.Proof.Netlink.Convergence
import IgwP4.Proof.Netlink.NeighCache
import IgwP4.Proof.Netlink.NexthopLoop

namespace IgwP4.Netlink
open Setup Structures

instance (hostifs : List Hostif) (gwList : List (BitVec 32)) (group : SelectorGroup) :
    Decidable (Names hostifs gwList group) :=
  inferInstanceAs (Decidable (∃ gwIp ∈ gwList, ∃ index, ∃ hostif ∈ hostifs, hostif.gwIp = gwIp ∧
    hostif.devPort = group.port index))

/-- The port is that of the interface. -/
def Belongs (hostifs : List SwitchHostif) (devPort : BitVec 32) (intfName : List Byte) : Prop :=
  ∃ hostif ∈ hostifs, hostif.port = devPort ∧ hostif.intfName = intfName

instance (hostifs : List SwitchHostif) (devPort : BitVec 32) (intfName : List Byte) :
    Decidable (Belongs hostifs devPort intfName) :=
  inferInstanceAs (Decidable (∃ hostif ∈ hostifs, _))

/-! What the events say, the newest first -/

section History

variable (kernel : Kernel) (hostifs : List SwitchHostif) (fuel : Nat)

/-- The last state that the interface was told -/
def linkUp : List ControlEvent → List Byte → Bool
  | [], intfName => decide (intfName ∈ hostifs.map SwitchHostif.intfName) || kernel.flags intfName
  | .portChange devPort up done :: past, intfName =>
      if done = true ∧ Belongs hostifs devPort intfName then up else linkUp past intfName
  | .adminChange other up :: past, intfName => if other = intfName then up else linkUp past intfName
  | .message _ :: past, intfName => linkUp past intfName

/-- The gateways of a default route behind the index at which the loop over them starts -/
def announced (past : List ControlEvent) (m : Datagram) : Option (List (BitVec 32)) :=
  if nlmsgType m.memory m.nlmsg = rtmNewRoute ∨ nlmsgType m.memory m.nlmsg = rtmDelRoute then
    (gwListOf ⟨getIntfUp kernel (linkUp kernel hostifs past), m.accepts⟩ fuel m.memory m.nlmsg).map
      (List.drop m.i.toNat)
  else none

/-- The last list of gateways that reached the group -/
def governing (group : SelectorGroup) : List ControlEvent → List (BitVec 32)
  | [] => []
  | .message m :: past =>
      match announced kernel hostifs fuel past m with
      | none => governing group past
      | some gwList =>
          if m.accepts group = true ∧ Names (hostifs.map SwitchHostif.toHostif) gwList group then gwList
          else governing group past
  | _ :: past => governing group past

def Datagram.neigh (m : Datagram) : NeighDatagram := ⟨m.memory, m.v4addr, m.nlmsg, nlmsgType m.memory m.nlmsg⟩

/-- The MAC address that a message announces for the gateway of an interface -/
def Datagram.announcedMac (m : Datagram) (hostif : SwitchHostif) : Option Mac :=
  if m.neigh.type = rtmNewNeigh ∧ 0 ≤ m.neigh.len ∧ m.neigh.family = afInet ∧
      m.neigh.ifindex = kernel.ifNametoindex hostif.intfName ∧ m.neigh.dst = some hostif.gwIp then m.neigh.lladdr
  else none

/-- The last MAC address of the gateway that the driver took -/
def learned (hostif : SwitchHostif) : List ControlEvent → Option Mac
  | [] => none
  | .message m :: past =>
      match m.announcedMac kernel hostif with
      | none => learned hostif past
      | some mac =>
          if m.hardware.accepts = true ∧ (m.hardware.finds = true ∨ learned hostif past = none) then some mac
          else learned hostif past
  | _ :: past => learned hostif past

/-- The entry that stands for an interface in the cache -/
def entryOf (past : List ControlEvent) (hostif : SwitchHostif) : MacRewriteEntry where
  ifindex := kernel.ifNametoindex hostif.intfName
  smac := hostif.mac
  dmac := (learned kernel hostif past).getD fun _ => 0
  gwIp := hostif.gwIp
  devPort := hostif.devPort
  valid := (learned kernel hostif past).isSome

end History

/-! The flags of the interfaces -/

theorem port_inj {first second : SwitchHostif} (same : first.port = second.port) : first.devPort = second.devPort := by
  apply BitVec.eq_of_toNat_eq
  have numbers := congrArg BitVec.toNat same
  have small := first.devPort.isLt
  have small' := second.devPort.isLt
  simp only [SwitchHostif.port, BitVec.toNat_setWidth] at numbers
  omega

/-- The table has the entry of each interface under its port. -/
theorem hostifEntryGet_eq_some_iff {hostifs : List SwitchHostif}
    (distinct : (hostifs.map fun hostif => hostif.devPort).Nodup) (devPort : BitVec 32) (entry : HostifEntry) :
    hostifEntryGet (hostifArrayToHashTable hostifs) devPort = some entry ↔
      ∃ hostif ∈ hostifs, hostif.port = devPort ∧ entry = ⟨hostif.intfName, hostif.port, hostif.fpPort⟩ := by
  have ports : ((hostifs.map fun hostif : SwitchHostif =>
      (⟨hostif.intfName, hostif.port, hostif.fpPort⟩ : HostifEntry)).map HostifEntry.devPort).Nodup := by
    rw [List.map_map]
    have apart := (List.nodup_map_iff_inj_on (List.Nodup.of_map _ distinct)).mp distinct
    exact (List.Nodup.of_map _ distinct).map_on fun first member second member' same =>
      apart first member second member' (port_inj same)
  rw [hostifEntryGet, hostifArrayToHashTable, BucketTable.get_ofList_eq_some_iff _ ports, List.mem_map]
  constructor
  · rintro ⟨⟨hostif, member, rfl⟩, rfl⟩
    exact ⟨hostif, member, rfl, rfl⟩
  · rintro ⟨hostif, member, rfl, rfl⟩
    exact ⟨⟨hostif, member, rfl⟩, rfl⟩

theorem createHostif_eq (hostifs : List SwitchHostif) (flags : LinkFlags) (intfName : List Byte) :
    createHostif hostifs flags intfName =
      (decide (intfName ∈ hostifs.map SwitchHostif.intfName) || flags intfName) := by
  induction hostifs generalizing flags with
  | nil => rfl
  | cons hostif rest ih =>
      change createHostif rest (Function.update flags hostif.intfName true) intfName = _
      rw [ih, List.map_cons]
      by_cases same : intfName = hostif.intfName
      · subst same
        simp
      · simp [same]

/-- A port change reaches the interface of the port. -/
theorem switchPortStateChange_eq {hostifs : List SwitchHostif}
    (distinct : (hostifs.map fun hostif => hostif.devPort).Nodup) (done : Bool) (devPort : BitVec 32) (up : Bool)
    (flags : LinkFlags) (intfName : List Byte) :
    switchPortStateChange (hostifArrayToHashTable hostifs) done devPort up flags intfName =
      if done = true ∧ Belongs hostifs devPort intfName then up else flags intfName := by
  rw [switchPortStateChange]
  cases found : hostifEntryGet (hostifArrayToHashTable hostifs) devPort with
  | none =>
      rw [if_neg]
      rintro ⟨_, hostif, member, port, _⟩
      have held := (hostifEntryGet_eq_some_iff distinct devPort _).mpr ⟨hostif, member, port, rfl⟩
      exact absurd (found.symm.trans held) (by simp)
  | some entry =>
      obtain ⟨hostif, member, port, rfl⟩ := (hostifEntryGet_eq_some_iff distinct devPort entry).mp found
      have only : Belongs hostifs devPort intfName ↔ hostif.intfName = intfName := by
        constructor
        · rintro ⟨other, member', port', name⟩
          have same := List.inj_on_of_nodup_map distinct member member' (port_inj (port.trans port'.symm))
          rwa [same]
        · exact fun name => ⟨hostif, member, port, name⟩
      dsimp only [setHostifAdminState]
      cases done with
      | false => simp
      | true =>
          by_cases same : intfName = hostif.intfName
          · subst same
            simp [only]
          · simp [only, same, Ne.symm same]

/-! The members of the groups -/

/-- A call that ends either leaves the state or changes the next hops to what it has found. -/
theorem processRouteMsgFrom_cases {answers : Answers} {table : GatewayTable} {fuel : Nat} {memory : Memory}
    {nlmsg : Nat} {type : BitVec 16} {i : BitVec 32} {s : RouteState} {run : RouteRun}
    (ended : processRouteMsgFrom answers table fuel memory nlmsg type i s = some run) :
    (gwListOf answers fuel memory nlmsg = none ∧ run.state = s) ∨
      ∃ gwList, gwListOf answers fuel memory nlmsg = some gwList ∧
        run.state = changeNexthops answers table (gwList.drop i.toNat) s := by
  cases found : gwListOf answers fuel memory nlmsg with
  | some gwList =>
      rw [processRouteMsgFrom_eq found] at ended
      rw [← Option.some.inj ended]
      exact .inr ⟨gwList, rfl, changeNexthopsFrom_state answers table (gwListOf_length found) i s⟩
  | none =>
      refine .inl ⟨rfl, ?_⟩
      rw [gwListOf] at found
      rw [processRouteMsgFrom] at ended
      cases parsed : parseRouteMsg answers fuel memory nlmsg with
      | running =>
          rw [parsed] at ended
          contradiction
      | returned =>
          rw [parsed] at ended
          rw [← Option.some.inj ended]
          rfl
      | nexthops gwList =>
          rw [parsed] at found
          contradiction

/-! The neighbours -/

/-- The driver takes a pair of addresses unless it refuses or misses the entry that it holds. -/
theorem macRewriteTableEntryAdd_eq (answers : HardwareAnswers) (egressPort : BitVec 9) (smac dmac : Mac)
    (hardware : MacRewriteTable) : macRewriteTableEntryAdd answers egressPort smac dmac hardware =
      if answers.accepts = true ∧ (answers.finds = true ∨ hardware egressPort = none) then
        some (Function.update hardware egressPort (some (smac, dmac)))
      else none := by
  obtain ⟨finds, accepts⟩ := answers
  unfold macRewriteTableEntryAdd
  cases held : hardware egressPort <;> cases finds <;> cases accepts <;> simp

/-- A write stores the address in the cache and in the driver, or leaves both. -/
theorem writeNeigh_state (answers : HardwareAnswers) (entry : MacRewriteEntry) (mac : Mac) (s : NeighState)
    (news : ¬ (entry.valid = true ∧ entry.dmac = mac)) : (writeNeigh answers entry mac s).state =
      if answers.accepts = true ∧ (answers.finds = true ∨ s.hardware entry.devPort = none) then {
        table := updateMacEntry (·.learn mac) entry.ifindex s.table
        hardware := Function.update s.hardware entry.devPort (some (entry.smac, mac)) }
      else s := by
  rw [writeNeigh, if_neg news, macRewriteTableEntryAdd_eq]
  by_cases taken : answers.accepts = true ∧ (answers.finds = true ∨ s.hardware entry.devPort = none)
  · rw [if_pos taken, if_pos taken]
    rfl
  · rw [if_neg taken, if_neg taken]

/-- The entries of the interfaces before any message -/
theorem entries_eq {kernel : Kernel} {hostifs : List SwitchHostif} {entries : List MacRewriteEntry}
    (built : (hostifs.map SwitchHostif.interface).mapM (macEntryOfHostif kernel.ifNametoindex) = some entries) :
    entries = hostifs.map (entryOf kernel []) := by
  induction hostifs generalizing entries with
  | nil =>
      obtain rfl := Option.some.inj built
      rfl
  | cons hostif rest ih =>
      rw [List.map_cons, List.mapM_cons] at built
      obtain ⟨entry, first, built⟩ := Option.bind_eq_some_iff.mp built
      obtain ⟨others, behind, built⟩ := Option.bind_eq_some_iff.mp built
      obtain rfl := Option.some.inj built
      rw [List.map_cons, ← ih behind]
      unfold macEntryOfHostif at first
      split at first
      · contradiction
      · rw [← Option.some.inj first]
        rfl

/-! The state of the machine -/

/-- The groups hold the members of the gateways that govern them. -/
structure FollowsRoutes (kernel : Kernel) (hostifs : List SwitchHostif) (fuel : Nat) (past : List ControlEvent)
    (routes : RouteState) : Prop where
  groups : ∀ group, external group → ∀ index, routes.hardware group index = true ↔
    ∃ gwIp ∈ governing kernel hostifs fuel group past, Serves (hostifs.map SwitchHostif.toHostif) group index gwIp
  inner : ∀ group, ¬ external group → routes.hardware group = initialStatus group

/-- The cache and the driver hold the MAC addresses that they have learned. -/
structure FollowsNeigh (kernel : Kernel) (hostifs : List SwitchHostif) (past : List ControlEvent)
    (neigh : NeighState) : Prop where
  cache : neigh.table = (hostifs.map (entryOf kernel past)).reverse
  macs : ∀ hostif ∈ hostifs, neigh.hardware hostif.devPort =
    (learned kernel hostif past).map fun dmac => (hostif.mac, dmac)
  others : ∀ port, (∀ hostif ∈ hostifs, hostif.devPort ≠ port) → neigh.hardware port = none

/-- The state agrees with what the events say. -/
structure Follows (kernel : Kernel) (hostifs : List SwitchHostif) (fuel : Nat) (past : List ControlEvent)
    (s : ControlState) : Prop where
  flags : s.flags = linkUp kernel hostifs past
  routes : FollowsRoutes kernel hostifs fuel past s.routes
  neigh : FollowsNeigh kernel hostifs past s.neigh

section Machine

variable {kernel : Kernel} {hostifs : List SwitchHostif} {fuel : Nat} {past : List ControlEvent} {s : ControlState}
  {tables : ControlTables}

theorem FollowsRoutes.kept {routes : RouteState} (follows : FollowsRoutes kernel hostifs fuel past routes)
    {event : ControlEvent} (same : ∀ group, governing kernel hostifs fuel group (event :: past) =
      governing kernel hostifs fuel group past) : FollowsRoutes kernel hostifs fuel (event :: past) routes := by
  refine ⟨fun group inside index => ?_, follows.inner⟩
  rw [same]
  exact follows.groups group inside index

theorem FollowsNeigh.kept {neigh : NeighState} (follows : FollowsNeigh kernel hostifs past neigh)
    {event : ControlEvent} (same : ∀ hostif ∈ hostifs, learned kernel hostif (event :: past) =
      learned kernel hostif past) : FollowsNeigh kernel hostifs (event :: past) neigh := by
  have entries : hostifs.map (entryOf kernel (event :: past)) = hostifs.map (entryOf kernel past) := by
    apply List.map_congr_left
    intro hostif member
    rw [entryOf, same hostif member]
    rfl
  refine ⟨?_, fun hostif member => ?_, follows.others⟩
  · rw [entries]
    exact follows.cache
  · rw [same hostif member]
    exact follows.macs hostif member

/-- A route message sets the groups that its gateways reach and that the driver accepts. -/
theorem FollowsRoutes.route (follows : FollowsRoutes kernel hostifs fuel past s.routes)
    (flags : s.flags = linkUp kernel hostifs past)
    (built : hostifArrayToGateways (hostifs.map SwitchHostif.toHostif) = some tables.gateways)
    (distinct : ((hostifs.map SwitchHostif.toHostif).map Hostif.gwIp).Nodup) {m : Datagram}
    (type : nlmsgType m.memory m.nlmsg = rtmNewRoute ∨ nlmsgType m.memory m.nlmsg = rtmDelRoute) {run : RouteRun}
    (ended : processRouteMsgFrom ⟨getIntfUp kernel s.flags, m.accepts⟩ tables.gateways fuel m.memory m.nlmsg
      (nlmsgType m.memory m.nlmsg) m.i s.routes = some run) :
    FollowsRoutes kernel hostifs fuel (.message m :: past) run.state := by
  have list : announced kernel hostifs fuel past m = (gwListOf ⟨getIntfUp kernel s.flags, m.accepts⟩ fuel
      m.memory m.nlmsg).map (List.drop m.i.toNat) := by
    rw [announced, if_pos type, ← flags]
  rcases processRouteMsgFrom_cases ended with ⟨none, same⟩ | ⟨gwList, found, same⟩
  · rw [same]
    refine follows.kept fun group => ?_
    rw [governing, list, none]
    rfl
  · rw [found] at list
    have touches (group : SelectorGroup) (inside : external group) :
        Touches tables.gateways (gwList.drop m.i.toNat) group ↔
          Names (hostifs.map SwitchHostif.toHostif) (gwList.drop m.i.toNat) group := by
      simp only [Touches, Names, leads_iff built distinct group _ _ inside]
    rw [same]
    constructor
    · intro group inside index
      obtain ⟨written, kept⟩ := changeNexthops_hardware ⟨getIntfUp kernel s.flags, m.accepts⟩ tables.gateways
        (gwList.drop m.i.toNat) s.routes group index
      rw [governing, list]
      dsimp only [Option.map_some]
      split
      · rename_i names
        rw [written ⟨names.1, (touches group inside).mpr names.2⟩]
        simp only [leads_iff built distinct group _ _ inside]
      · rename_i unnamed
        rw [kept fun touched => unnamed ⟨touched.1, (touches group inside).mp touched.2⟩]
        exact follows.groups group inside index
    · intro group outside
      rw [← follows.inner group outside, changeNexthops_eq, if_neg]
      rintro ⟨changed, _⟩
      cases group with
      | pipe0 => exact outside trivial
      | pipe2 => exact outside trivial
      | pipe1 => exact Bool.false_ne_true changed
      | pipe3 => exact Bool.false_ne_true changed

/-- The cache has one entry for each interface. -/
theorem FollowsNeigh.found_iff {neigh : NeighState} (follows : FollowsNeigh kernel hostifs past neigh)
    (indices : (hostifs.map fun hostif => kernel.ifNametoindex hostif.intfName).Nodup) (ifindex : BitVec 32)
    (entry : MacRewriteEntry) : macEntryGet neigh.table ifindex = some entry ↔
      ∃ hostif ∈ hostifs, kernel.ifNametoindex hostif.intfName = ifindex ∧ entry = entryOf kernel past hostif := by
  have distinct : ((hostifs.map (entryOf kernel past)).map MacRewriteEntry.ifindex).Nodup := by
    rw [List.map_map]
    exact indices
  rw [macEntryGet_eq_find, follows.cache, ← BucketTable.get_ofList (fun _ : BitVec 32 => ()),
    BucketTable.get_ofList_eq_some_iff _ distinct, List.mem_map]
  constructor
  · rintro ⟨⟨hostif, member, rfl⟩, rfl⟩
    exact ⟨hostif, member, rfl, rfl⟩
  · rintro ⟨hostif, member, rfl, rfl⟩
    exact ⟨⟨hostif, member, rfl⟩, rfl⟩

theorem Datagram.announcedMac_eq_some_iff (m : Datagram) (hostif : SwitchHostif) (mac : Mac) :
    m.announcedMac kernel hostif = some mac ↔ m.neigh.ifindex = kernel.ifNametoindex hostif.intfName ∧
      m.neigh.Announces (entryOf kernel past hostif) mac := by
  rw [announcedMac]
  constructor
  · intro announced
    split at announced
    · rename_i all
      obtain ⟨type, len, family, ifindex, dst⟩ := all
      exact ⟨ifindex, type, len, family, dst, announced⟩
    · contradiction
  · rintro ⟨ifindex, type, len, family, dst, lladdr⟩
    rw [if_pos ⟨type, len, family, ifindex, dst⟩, lladdr]

/-- A message without news repeats what the entry of its interface holds. -/
theorem FollowsNeigh.repeated {neigh : NeighState} (follows : FollowsNeigh kernel hostifs past neigh)
    (indices : (hostifs.map fun hostif => kernel.ifNametoindex hostif.intfName).Nodup) {m : Datagram}
    (nothing : ∀ entry mac, ¬ m.neigh.News neigh entry mac) {hostif : SwitchHostif} (member : hostif ∈ hostifs) :
    learned kernel hostif (.message m :: past) = learned kernel hostif past := by
  rw [learned]
  cases announced : m.announcedMac kernel hostif with
  | none => rfl
  | some mac =>
      obtain ⟨ifindex, announces⟩ := (m.announcedMac_eq_some_iff hostif mac).mp announced
      have found := (follows.found_iff indices m.neigh.ifindex _).mpr ⟨hostif, member, ifindex.symm, rfl⟩
      have held : (entryOf kernel past hostif).valid = true ∧ (entryOf kernel past hostif).dmac = mac := by
        by_contra differs
        exact nothing _ mac ⟨found, announces, differs⟩
      obtain ⟨dmac, known⟩ := Option.isSome_iff_exists.mp held.1
      have same : dmac = mac := by
        rw [← held.2, entryOf, known]
        rfl
      rw [known, same]
      exact ite_self _

/-- The write of a message changes its own entry and its own port. -/
theorem FollowsNeigh.written {neigh : NeighState} (follows : FollowsNeigh kernel hostifs past neigh)
    (indices : (hostifs.map fun hostif => kernel.ifNametoindex hostif.intfName).Nodup)
    (ports : (hostifs.map fun hostif => hostif.devPort).Nodup) {m : Datagram} {hostif : SwitchHostif}
    (member : hostif ∈ hostifs) {mac : Mac} (announced : m.announcedMac kernel hostif = some mac)
    (news : ¬ ((entryOf kernel past hostif).valid = true ∧ (entryOf kernel past hostif).dmac = mac)) :
    FollowsNeigh kernel hostifs (.message m :: past)
      (writeNeigh m.hardware (entryOf kernel past hostif) mac neigh).state := by
  obtain ⟨ifindex, _⟩ : _ ∧ m.neigh.Announces (entryOf kernel past hostif) mac :=
    (m.announcedMac_eq_some_iff hostif mac).mp announced
  have others (other : SwitchHostif) (among : other ∈ hostifs) (apart : other ≠ hostif) :
      learned kernel other (.message m :: past) = learned kernel other past := by
    have silent : m.announcedMac kernel other = none := by
      cases heard : m.announcedMac kernel other with
      | none => rfl
      | some mac' =>
          obtain ⟨ifindex', _⟩ : _ ∧ m.neigh.Announces (entryOf kernel past other) mac' :=
            (m.announcedMac_eq_some_iff other mac').mp heard
          exact absurd (List.inj_on_of_nodup_map indices among member (ifindex'.symm.trans ifindex)) apart
    rw [learned, silent]
  have own : learned kernel hostif (.message m :: past) =
      if m.hardware.accepts = true ∧ (m.hardware.finds = true ∨ learned kernel hostif past = none) then some mac
      else learned kernel hostif past := by
    rw [learned, announced]
  have held : neigh.hardware hostif.devPort = none ↔ learned kernel hostif past = none := by
    rw [follows.macs hostif member, Option.map_eq_none_iff]
  have port : (entryOf kernel past hostif).devPort = hostif.devPort := rfl
  rw [writeNeigh_state _ _ _ _ news, port]
  simp only [held]
  by_cases taken : m.hardware.accepts = true ∧ (m.hardware.finds = true ∨ learned kernel hostif past = none)
  · rw [if_pos taken] at own ⊢
    have entry (other : SwitchHostif) (among : other ∈ hostifs) : entryOf kernel (.message m :: past) other =
        if (entryOf kernel past other).ifindex = (entryOf kernel past hostif).ifindex then
          (entryOf kernel past other).learn mac
        else entryOf kernel past other := by
      by_cases same : other = hostif
      · subst same
        rw [if_pos rfl, entryOf, own]
        rfl
      · have apart : ¬ (entryOf kernel past other).ifindex = (entryOf kernel past hostif).ifindex :=
          fun index => same (List.inj_on_of_nodup_map indices among member index)
        rw [if_neg apart, entryOf, others other among same]
        rfl
    have distinct : ((hostifs.map (entryOf kernel past)).reverse.map MacRewriteEntry.ifindex).Nodup := by
      rw [List.map_reverse, List.nodup_reverse, List.map_map]
      exact indices
    refine ⟨?_, fun other among => ?_, fun port outside => ?_⟩
    · dsimp only
      rw [follows.cache, updateMacEntry_eq_map _ distinct, ← List.map_reverse, List.map_map, ← List.map_reverse]
      exact List.map_congr_left fun other among => (entry other (List.mem_reverse.mp among)).symm
    · dsimp only
      by_cases same : other = hostif
      · subst same
        rw [Function.update_self, own]
        rfl
      · have apart : other.devPort ≠ hostif.devPort :=
          fun port => same (List.inj_on_of_nodup_map ports among member port)
        rw [Function.update_of_ne apart, others other among same]
        exact follows.macs other among
    · dsimp only
      rw [Function.update_of_ne (Ne.symm (outside hostif member))]
      exact follows.others port outside
  · rw [if_neg taken] at own ⊢
    refine follows.kept fun other among => ?_
    by_cases same : other = hostif
    · rw [same, own]
    · exact others other among same

theorem announcedMac_none {m : Datagram} (other : m.neigh.type ≠ rtmNewNeigh) (hostif : SwitchHostif) :
    m.announcedMac kernel hostif = none := by
  rw [Datagram.announcedMac, if_neg fun both => other both.1]

/-- A message for the neighbours either repeats what is held or writes its news. -/
theorem FollowsNeigh.message {neigh : NeighState} (follows : FollowsNeigh kernel hostifs past neigh)
    (indices : (hostifs.map fun hostif => kernel.ifNametoindex hostif.intfName).Nodup)
    (ports : (hostifs.map fun hostif => hostif.devPort).Nodup) (m : Datagram) :
    FollowsNeigh kernel hostifs (.message m :: past) (m.neigh.run m.hardware neigh).state := by
  cases m.neigh.step m.hardware neigh with
  | idle nothing same silent =>
      rw [same]
      exact follows.kept fun hostif member => follows.repeated indices nothing member
  | writes entry mac before news silent rest =>
      obtain ⟨hostif, member, ifindex, rfl⟩ := (follows.found_iff indices _ _).mp news.found
      have announced := (m.announcedMac_eq_some_iff hostif mac).mpr ⟨ifindex.symm, news.announced⟩
      rw [rest]
      exact follows.written indices ports member announced news.differs

end Machine

/-- The tables of the start come from one array with distinct ports, gateways and interfaces. -/
structure Starts (kernel : Kernel) (hostifs : List SwitchHostif) (tables : ControlTables) (start : ControlState) :
    Prop where
  started : startControl kernel hostifs = some (tables, start)
  ports : (hostifs.map fun hostif => hostif.devPort).Nodup
  gateways : (hostifs.map fun hostif => hostif.gwIp).Nodup
  indices : (hostifs.map fun hostif => kernel.ifNametoindex hostif.intfName).Nodup

namespace Starts

variable {kernel : Kernel} {hostifs : List SwitchHostif} {tables : ControlTables} {start s s' : ControlState}
  {fuel : Nat} {past : List ControlEvent}

theorem built (starts : Starts kernel hostifs tables start) :
    hostifArrayToGateways (hostifs.map SwitchHostif.toHostif) = some tables.gateways ∧
      tables.hostifs = hostifArrayToHashTable hostifs ∧ Follows kernel hostifs fuel [] start := by
  obtain ⟨gateways, built, started⟩ := Option.bind_eq_some_iff.mp starts.started
  obtain ⟨table, cached, started⟩ := Option.bind_eq_some_iff.mp started
  obtain ⟨rfl, rfl⟩ := Prod.mk.inj (Option.some.inj started)
  obtain ⟨entries, mapped, rfl⟩ := Option.map_eq_some_iff.mp cached
  refine ⟨built, rfl, ?_, ⟨fun group inside index => ?_, fun group outside => ?_⟩, ?_, ?_, ?_⟩
  · funext intfName
    exact createHostif_eq hostifs kernel.flags intfName
  · exact activeExactly_initial _ group inside index
  · rfl
  · exact congrArg List.reverse (entries_eq mapped)
  · exact fun _ _ => rfl
  · exact fun _ _ => rfl

/-- One step keeps the agreement with the events. -/
theorem step (starts : Starts kernel hostifs tables start) (follows : Follows kernel hostifs fuel past s)
    {event : ControlEvent} (stepped : controlStep kernel tables fuel s event = some s') :
    Follows kernel hostifs fuel (event :: past) s' := by
  obtain ⟨built, table, _⟩ : _ ∧ _ ∧ Follows kernel hostifs fuel [] start := starts.built
  obtain ⟨flags, routes, neigh⟩ := follows
  cases event with
  | portChange devPort up done =>
      obtain rfl := Option.some.inj stepped
      refine ⟨?_, routes.kept fun _ => rfl, neigh.kept fun _ _ => rfl⟩
      funext intfName
      dsimp only
      rw [table, switchPortStateChange_eq starts.ports, flags, linkUp]
  | adminChange other up =>
      obtain rfl := Option.some.inj stepped
      refine ⟨?_, routes.kept fun _ => rfl, neigh.kept fun _ _ => rfl⟩
      funext intfName
      dsimp only
      rw [flags, linkUp, Function.update_apply]
      simp only [eq_comm]
  | message m =>
      change handleMessage kernel tables fuel m s = some s' at stepped
      have silent (other : m.neigh.type ≠ rtmNewNeigh) (hostif : SwitchHostif) :
          learned kernel hostif (.message m :: past) = learned kernel hostif past := by
        rw [learned, announcedMac_none other]
      have mute (other : ¬ (nlmsgType m.memory m.nlmsg = rtmNewRoute ∨ nlmsgType m.memory m.nlmsg = rtmDelRoute))
          (group : SelectorGroup) : governing kernel hostifs fuel group (.message m :: past) =
            governing kernel hostifs fuel group past := by
        rw [governing, announced, if_neg other]
      unfold handleMessage at stepped
      dsimp only at stepped
      split at stepped
      · rename_i type
        obtain rfl := Option.some.inj stepped
        have other : ¬ (nlmsgType m.memory m.nlmsg = rtmNewRoute ∨ nlmsgType m.memory m.nlmsg = rtmDelRoute) := by
          rcases type with type | type <;> rw [type] <;> decide
        exact ⟨flags, routes.kept (mute other), neigh.message starts.indices starts.ports m⟩
      · rename_i foreign
        have other : m.neigh.type ≠ rtmNewNeigh := fun same => foreign (.inl same)
        split at stepped
        · rename_i type
          obtain ⟨run, ended, rfl⟩ := Option.map_eq_some_iff.mp stepped
          have gateways : ((hostifs.map SwitchHostif.toHostif).map Hostif.gwIp).Nodup := by
            rw [List.map_map]
            exact starts.gateways
          exact ⟨flags, routes.route flags built gateways type ended, neigh.kept fun hostif _ => silent other hostif⟩
        · rename_i unknown
          obtain rfl := Option.some.inj stepped
          exact ⟨flags, routes.kept (mute unknown), neigh.kept fun hostif _ => silent other hostif⟩

/-- In every state that the machine reaches, the flags, the groups and the neighbours are what its events say. -/
theorem follows (starts : Starts kernel hostifs tables start)
    (reached : Reaches (controlStep kernel tables fuel) start past s) : Follows kernel hostifs fuel past s :=
  reached.invariant starts.built.2.2 fun _ _ _ _ follows stepped => starts.step follows stepped

end Starts

/-! Two interfaces, one in each external pipe -/

def pairKernel : Kernel where
  ifNametoindex intfName := BitVec.ofNat 32 (intfName.map BitVec.toNat).sum
  ifIndextoname ifindex := some [ifindex.setWidth 8]
  flags _ := false

def firstHostif : SwitchHostif := ⟨⟨0, 0x0A000002, 0, false, 0, 0, 0, 0⟩, [7], fun _ => 4, 1⟩

def pairHostifs : List SwitchHostif :=
  [firstHostif, ⟨⟨256, 0x0A000101, 0, false, 0, 0, 0, 0⟩, [8], fun _ => 6, 2⟩]

theorem pair_starts {tables : ControlTables} {start : ControlState}
    (started : startControl pairKernel pairHostifs = some (tables, start)) :
    Starts pairKernel pairHostifs tables start :=
  ⟨started, by decide, by decide, by decide⟩

def pairDatagram (memory : Memory) : Datagram :=
  ⟨memory, 0, fun _ => 0, 0, fun _ => true, ⟨true, true⟩⟩

/-- The first gateway is announced with its route and its address, and then its port goes down, the newest first. -/
def pairPast : List ControlEvent := [
  .portChange 0 false true,
  .message (pairDatagram sampleNeigh.memory),
  .message (pairDatagram sampleRouteMemory)]

theorem follows_pair : ∃ tables start s, startControl pairKernel pairHostifs = some (tables, start) ∧
    Reaches (controlStep pairKernel tables 0) start pairPast s ∧ Follows pairKernel pairHostifs 0 pairPast s := by
  obtain ⟨tables, start, started⟩ : ∃ tables start, startControl pairKernel pairHostifs = some (tables, start) :=
    ⟨_, _, rfl⟩
  have ends : ((startControl pairKernel pairHostifs).bind fun begun => pairPast.foldr
      (fun event before => before.bind (controlStep pairKernel begun.1 0 · event)) (some begun.2)).isSome := by
    decide +kernel
  rw [started] at ends
  obtain ⟨s, computed⟩ := Option.isSome_iff_exists.mp ends
  have reached := Reaches.iff_foldr.mpr computed
  exact ⟨tables, start, s, started, reached, (pair_starts started).follows reached⟩

end IgwP4.Netlink
