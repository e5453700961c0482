/-
This file says which member serves a gateway and what a change of the next hops leaves active.
-/

import IgwP4.Construction.Netlink.Gateways

namespace IgwP4.Netlink
open Setup Structures

/-- The two groups that the route messages write -/
def external : SelectorGroup → Prop
  | .pipe0 => True
  | .pipe1 => False
  | .pipe2 => True
  | .pipe3 => False

/-- The member is the device port of an interface with this gateway. -/
def Serves (hostifs : List Hostif) (group : SelectorGroup) (index : Fin 16) (gwIp : BitVec 32) : Prop :=
  ∃ hostif ∈ hostifs, hostif.gwIp = gwIp ∧ hostif.devPort = group.port index

/-! The gateway table -/

/-- The entry of an address leads to this member. -/
def Leads (table : GatewayTable) (group : SelectorGroup) (index : Fin 16) (gwIp : BitVec 32) : Prop :=
  ∃ entry, gwEntryGet table gwIp = some entry ∧ entry.memberIndex = index ∧
    (if entry.pipe = 0 then .pipe0 else .pipe2) = group

theorem pipe_of_port (index : Fin 16) :
    SelectorGroup.port .pipe0 index >>> 7 = 0 ∧ SelectorGroup.port .pipe2 index >>> 7 = 2 := by
  revert index
  decide

theorem find_port (group : SelectorGroup) (index : Fin 16) :
    getMemberIndexFromPipePort group (group.port index) = some index := by
  revert index
  cases group <;> decide

/-- The table stores an interface under the member of its device port. -/
theorem gatewayOfHostif_eq_some_iff (hostif : Hostif) (entry : GatewayEntry) :
    gatewayOfHostif hostif = some entry ↔ ∃ group index, external group ∧
      hostif.devPort = group.port index ∧
      entry = ⟨hostif.gwIp, hostif.devPort, if group = .pipe0 then 0 else 2, index⟩ := by
  constructor
  · intro found
    unfold gatewayOfHostif getMemberIndexFromPort at found
    dsimp only at found
    split at found
    · contradiction
    · rename_i outside
      obtain ⟨index, member, rfl⟩ := Option.map_eq_some_iff.mp found
      split at member
      · rename_i first
        have port := List.find?_some member
        rw [beq_iff_eq] at port
        exact ⟨.pipe0, index, trivial, port.symm, by rw [first]; rfl⟩
      · split at member
        · rename_i second
          have port := List.find?_some member
          rw [beq_iff_eq] at port
          exact ⟨.pipe2, index, trivial, port.symm, by rw [second]; rfl⟩
        · contradiction
  · rintro ⟨group, index, inside, port, rfl⟩
    unfold gatewayOfHostif getMemberIndexFromPort
    rw [port]
    cases group with
    | pipe0 =>
        rw [(pipe_of_port index).1]
        simp [find_port]
    | pipe2 =>
        rw [(pipe_of_port index).2]
        simp [find_port]
    | pipe1 => exact absurd inside id
    | pipe3 => exact absurd inside id

/-- The table has one entry for each interface. -/
theorem mapM_gatewayOfHostif (hostifs : List Hostif) (entries : List GatewayEntry)
    (built : hostifs.mapM gatewayOfHostif = some entries) :
    entries.map GatewayEntry.gwIp = hostifs.map Hostif.gwIp ∧
      ∀ entry, entry ∈ entries ↔ ∃ hostif ∈ hostifs, gatewayOfHostif hostif = some entry := by
  induction hostifs generalizing entries with
  | nil =>
      obtain rfl : [] = entries := by simpa using built
      simp
  | cons hostif rest ih =>
      rw [List.mapM_cons, Option.bind_eq_bind, Option.bind_eq_some_iff] at built
      obtain ⟨entry, found, remaining⟩ := built
      rw [Option.bind_eq_bind, Option.bind_eq_some_iff] at remaining
      obtain ⟨tail, tailBuilt, finished⟩ := remaining
      obtain rfl : entry :: tail = entries := by simpa using finished
      obtain ⟨addresses, members⟩ := ih tail tailBuilt
      have address : entry.gwIp = hostif.gwIp := by
        obtain ⟨_, _, _, _, rfl⟩ := (gatewayOfHostif_eq_some_iff hostif entry).mp found
        rfl
      constructor
      · rw [List.map_cons, List.map_cons, addresses, address]
      · intro other
        rw [List.mem_cons, members]
        simp only [List.mem_cons, exists_eq_or_imp, found, Option.some.injEq]
        exact or_congr_left eq_comm

/-- The entry of an address is the one of its interface, when no two share the address. -/
theorem gwEntryGet_eq_some_iff {hostifs : List Hostif} {table : GatewayTable}
    (built : hostifArrayToGateways hostifs = some table) (distinct : (hostifs.map Hostif.gwIp).Nodup)
    (gwIp : BitVec 32) (entry : GatewayEntry) :
    gwEntryGet table gwIp = some entry ↔
      ∃ hostif ∈ hostifs, gatewayOfHostif hostif = some entry ∧ entry.gwIp = gwIp := by
  unfold hostifArrayToGateways at built
  split at built
  · contradiction
  · obtain ⟨entries, mapped, rfl⟩ := Option.map_eq_some_iff.mp built
    obtain ⟨addresses, members⟩ := mapM_gatewayOfHostif hostifs entries mapped
    rw [← addresses] at distinct
    rw [gwEntryGet, BucketTable.get_ofList_eq_some_iff _ distinct, members]
    constructor
    · rintro ⟨⟨hostif, among, stored⟩, address⟩
      exact ⟨hostif, among, stored, address⟩
    · rintro ⟨hostif, among, stored, address⟩
      exact ⟨⟨hostif, among, stored⟩, address⟩

/-- With distinct gateways an address leads to the member of its interface. -/
theorem leads_iff {hostifs : List Hostif} {table : GatewayTable}
    (built : hostifArrayToGateways hostifs = some table) (distinct : (hostifs.map Hostif.gwIp).Nodup)
    (group : SelectorGroup) (index : Fin 16) (gwIp : BitVec 32) (inside : external group) :
    Leads table group index gwIp ↔ Serves hostifs group index gwIp := by
  constructor
  · rintro ⟨entry, found, rfl, rfl⟩
    obtain ⟨hostif, among, stored, rfl⟩ := (gwEntryGet_eq_some_iff built distinct _ _).mp found
    obtain ⟨group, index, outside, port, rfl⟩ := (gatewayOfHostif_eq_some_iff hostif entry).mp stored
    refine ⟨hostif, among, rfl, ?_⟩
    cases group with
    | pipe0 => exact port
    | pipe2 => exact port
    | pipe1 => exact absurd outside id
    | pipe3 => exact absurd outside id
  · rintro ⟨hostif, among, rfl, port⟩
    have stored := (gatewayOfHostif_eq_some_iff hostif _).mpr ⟨group, index, inside, port, rfl⟩
    refine ⟨_, (gwEntryGet_eq_some_iff built distinct _ _).mpr ⟨hostif, among, stored, rfl⟩, rfl, ?_⟩
    cases group with
    | pipe0 => rfl
    | pipe2 => rfl
    | pipe1 => exact absurd inside id
    | pipe3 => exact absurd inside id

/-! The change of the next hops -/

/-- The flag of the loop for a group -/
def Marked.changed (m : Marked) : SelectorGroup → Bool
  | .pipe0 => m.p0NeedChange
  | .pipe2 => m.p2NeedChange
  | _ => false

/-- The array of the loop for a group -/
def Marked.status (m : Marked) : SelectorGroup → Fin 16 → Bool
  | .pipe0 => m.state.pipe0MemberstatusVal
  | .pipe2 => m.state.pipe2MemberstatusVal
  | _ => fun _ => false

theorem leads_of_found {table : GatewayTable} {gwIp : BitVec 32} {entry : GatewayEntry}
    (found : gwEntryGet table gwIp = some entry) (group : SelectorGroup) (index : Fin 16) :
    Leads table group index gwIp ↔
      entry.memberIndex = index ∧ (if entry.pipe = 0 then .pipe0 else .pipe2) = group := by
  constructor
  · rintro ⟨other, foundOther, member, inside⟩
    obtain rfl := Option.some.inj (found.symm.trans foundOther)
    exact ⟨member, inside⟩
  · rintro ⟨member, inside⟩
    exact ⟨entry, found, member, inside⟩

theorem update_true (status : Fin 16 → Bool) (member index : Fin 16) :
    Function.update status member true index = true ↔ status index = true ∨ member = index := by
  by_cases same : index = member
  · simp [same]
  · simp [same, Ne.symm same]

/-- One address marks at most the member that it leads to. -/
theorem markGateway_effect (table : GatewayTable) (m : Marked) (gwIp : BitVec 32)
    (group : SelectorGroup) :
    (markGateway table m gwIp).state.hardware = m.state.hardware ∧
      ((markGateway table m gwIp).changed group = true ↔
        m.changed group = true ∨ ∃ i, Leads table group i gwIp) ∧
      (∀ i, (markGateway table m gwIp).status group i = true ↔
        m.status group i = true ∨ Leads table group i gwIp) := by
  unfold markGateway
  cases found : gwEntryGet table gwIp with
  | none =>
      have nowhere (i : Fin 16) : ¬ Leads table group i gwIp := by
        rintro ⟨entry, foundOther, _⟩
        rw [found] at foundOther
        contradiction
      simp [nowhere]
  | some entry =>
      simp only [leads_of_found found]
      by_cases first : entry.pipe = 0
      · simp only [if_pos first]
        refine ⟨trivial, ?_⟩
        cases group <;> simp [Marked.changed, Marked.status, update_true]
      · simp only [if_neg first]
        refine ⟨trivial, ?_⟩
        cases group <;> simp [Marked.changed, Marked.status, update_true]

/-- The loop marks a member when some address of the list leads to it. -/
theorem foldl_markGateway (table : GatewayTable) (gwList : List (BitVec 32)) (m : Marked)
    (group : SelectorGroup) :
    (gwList.foldl (markGateway table) m).state.hardware = m.state.hardware ∧
      ((gwList.foldl (markGateway table) m).changed group = true ↔
        m.changed group = true ∨ ∃ gwIp ∈ gwList, ∃ i, Leads table group i gwIp) ∧
      (∀ i, (gwList.foldl (markGateway table) m).status group i = true ↔
        m.status group i = true ∨ ∃ gwIp ∈ gwList, Leads table group i gwIp) := by
  induction gwList generalizing m with
  | nil => simp
  | cons gwIp rest ih =>
      obtain ⟨hardware, changed, status⟩ := markGateway_effect table m gwIp group
      obtain ⟨hardware', changed', status'⟩ := ih (markGateway table m gwIp)
      rw [List.foldl_cons]
      refine ⟨hardware'.trans hardware, ?_, ?_⟩
      · rw [changed', changed, or_assoc]
        simp only [List.mem_cons, exists_eq_or_imp]
      · intro i
        rw [status', status, or_assoc]
        simp only [List.mem_cons, exists_eq_or_imp]

/-- The addresses lead to some member of the group. -/
def Touches (table : GatewayTable) (gwList : List (BitVec 32)) (group : SelectorGroup) : Prop :=
  ∃ gwIp ∈ gwList, ∃ index, Leads table group index gwIp

/-- A write changes only its own group. -/
theorem entryMod_hardware (answers : Answers) (written group : SelectorGroup) (status : Fin 16 → Bool)
    (s : RouteState) :
    (ecmpGroupSelectorEntryMod answers written status s).hardware group =
      if group = written ∧ answers.accepts written = true then status else s.hardware group := by
  unfold ecmpGroupSelectorEntryMod
  by_cases accepted : answers.accepts written = true
  · by_cases same : group = written
    · subst same
      simp [accepted]
    · simp [accepted, same]
  · simp [accepted]

/-- A group that the loop has marked is written with its array, if the driver accepts it. -/
theorem changeNexthops_eq (answers : Answers) (table : GatewayTable) (gwList : List (BitVec 32))
    (s : RouteState) (group : SelectorGroup) :
    let m := gwList.foldl (markGateway table) ⟨initMembersState s, false, false⟩
    (changeNexthops answers table gwList s).hardware group =
      if m.changed group = true ∧ answers.accepts group = true then m.status group
      else s.hardware group := by
  intro m
  have kept : m.state.hardware = s.hardware :=
    (foldl_markGateway table gwList ⟨initMembersState s, false, false⟩ group).1
  have unfolded : changeNexthops answers table gwList s =
      let first :=
        if m.p0NeedChange then
          ecmpGroupSelectorEntryMod answers .pipe0 m.state.pipe0MemberstatusVal m.state
        else m.state
      if m.p2NeedChange then ecmpGroupSelectorEntryMod answers .pipe2 first.pipe2MemberstatusVal first
      else first := rfl
  have array : (ecmpGroupSelectorEntryMod answers .pipe0 m.state.pipe0MemberstatusVal
      m.state).pipe2MemberstatusVal = m.state.pipe2MemberstatusVal := by
    unfold ecmpGroupSelectorEntryMod
    split <;> rfl
  rw [unfolded]
  dsimp only
  cases p0 : m.p0NeedChange <;> cases p2 : m.p2NeedChange <;>
    cases group <;> simp [entryMod_hardware, array, kept, Marked.changed, Marked.status, p0, p2]

/-- A group that the addresses touch gets exactly their members, and any other group stays. -/
theorem changeNexthops_hardware (answers : Answers) (table : GatewayTable)
    (gwList : List (BitVec 32)) (s : RouteState) (group : SelectorGroup) (index : Fin 16) :
    ((answers.accepts group = true ∧ Touches table gwList group) →
      ((changeNexthops answers table gwList s).hardware group index = true ↔
        ∃ gwIp ∈ gwList, Leads table group index gwIp)) ∧
    (¬ (answers.accepts group = true ∧ Touches table gwList group) →
      (changeNexthops answers table gwList s).hardware group index = s.hardware group index) := by
  have effect := foldl_markGateway table gwList ⟨initMembersState s, false, false⟩ group
  obtain ⟨_, changed, status⟩ := effect
  have clear (i : Fin 16) :
      (Marked.mk (initMembersState s) false false).status group i = false := by
    cases group <;> rfl
  have unmarked : (Marked.mk (initMembersState s) false false).changed group = false := by
    cases group <;> rfl
  simp only [clear, unmarked, Bool.false_eq_true, false_or] at changed status
  rw [changeNexthops_eq]
  constructor
  · rintro ⟨accepted, touched⟩
    rw [if_pos ⟨changed.mpr touched, accepted⟩]
    exact status index
  · intro untouched
    rw [if_neg fun written => untouched ⟨written.2, changed.mp written.1⟩]

end IgwP4.Netlink
