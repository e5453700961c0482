/-
This file shows that the neighbour cache and the table of MAC addresses stay coherent.
-/

import IgwP4.Construction.Netlink.NeighMessage

namespace IgwP4.Netlink

/-! The cache -/

/-- The bucket of an index holds every entry with this index. -/
theorem macEntryGet_eq_find (table : MacEntryTable) (ifindex : BitVec 32) :
    macEntryGet table ifindex = table.find? fun entry => entry.ifindex == ifindex := by
  rw [macEntryGet, List.find?_filter]
  congr 1
  funext entry
  by_cases same : entry.ifindex = ifindex
  · simp [same]
  · simp [same]

theorem macEntryGet_mem {table : MacEntryTable} {ifindex : BitVec 32} {entry : MacRewriteEntry}
    (found : macEntryGet table ifindex = some entry) : entry ∈ table ∧ entry.ifindex = ifindex := by
  rw [macEntryGet_eq_find] at found
  exact ⟨List.mem_of_find?_eq_some found, by simpa using List.find?_some found⟩

/-- The entry that a store through the pointer leaves behind -/
def MacRewriteEntry.learn (dmac : Mac) (entry : MacRewriteEntry) : MacRewriteEntry :=
  { entry with dmac := dmac, valid := true }

/-- With distinct indices the store changes the entry of the index alone. -/
theorem updateMacEntry_eq_map (change : MacRewriteEntry → MacRewriteEntry) {table : MacEntryTable}
    (distinct : (table.map MacRewriteEntry.ifindex).Nodup) (ifindex : BitVec 32) :
    updateMacEntry change ifindex table =
      table.map fun entry => if entry.ifindex = ifindex then change entry else entry := by
  induction table with
  | nil => rfl
  | cons entry rest ih =>
      rw [List.map_cons, List.nodup_cons] at distinct
      rw [updateMacEntry, List.map_cons]
      split
      · rename_i own
        have others : ∀ other ∈ rest, (if other.ifindex = ifindex then change other else other) = other := by
          intro other member
          refine if_neg fun same => distinct.1 ?_
          rw [own, ← same]
          exact List.mem_map_of_mem member
        rw [List.map_congr_left others, List.map_id']
      · rw [ih distinct.2]

theorem macEntryGet_update {table : MacEntryTable} (distinct : (table.map MacRewriteEntry.ifindex).Nodup)
    (dmac : Mac) (ifindex other : BitVec 32) : macEntryGet (updateMacEntry (·.learn dmac) ifindex table) other =
      (macEntryGet table other).map fun entry => if entry.ifindex = ifindex then entry.learn dmac else entry := by
  have kept : ((fun entry : MacRewriteEntry => entry.ifindex == other) ∘ fun entry =>
      if entry.ifindex = ifindex then entry.learn dmac else entry) = fun entry => entry.ifindex == other := by
    funext entry
    simp only [Function.comp_apply]
    split <;> rfl
  rw [macEntryGet_eq_find, macEntryGet_eq_find, updateMacEntry_eq_map _ distinct, List.find?_map, kept]

/-! What a message asks for -/

/-- A message in the buffer, with the bytes that stand in `v4addr` before the call -/
structure NeighDatagram where
  memory : Memory
  v4addr : Nat → Byte
  nlmsg : Nat
  type : BitVec 16

namespace NeighDatagram

def run (answers : HardwareAnswers) (m : NeighDatagram) (s : NeighState) : NeighRun :=
  processNeighMsg answers m.memory m.v4addr m.nlmsg m.type s

def len (m : NeighDatagram) : Int := neighAttrlen m.memory m.nlmsg

def family (m : NeighDatagram) : Byte := m.memory (m.nlmsg + 16)

def ifindex (m : NeighDatagram) : BitVec 32 := m.memory.load32 (m.nlmsg + 20)

/-- The attribute of a type -/
def attributeOf (m : NeighDatagram) (type : Nat) : Option Nat :=
  (parseRtattrFlags m.memory ndaMax (m.nlmsg + 28) m.len).tb type

/-- The address that a message is about -/
def dst (m : NeighDatagram) : Option (BitVec 32) :=
  (m.attributeOf ndaDst).map fun rta => ntohl (copiedDst m.memory m.v4addr rta)

/-- The MAC address that a message announces, when it is a valid unicast address -/
def lladdr (m : NeighDatagram) : Option Mac :=
  ((m.attributeOf ndaLladdr).map fun rta => macAt m.memory (rta + 4)).filter isValidEtherAddr

/-- A message announces a MAC address for the gateway of the entry of its interface. -/
structure Announces (m : NeighDatagram) (entry : MacRewriteEntry) (mac : Mac) : Prop where
  type : m.type = rtmNewNeigh
  len : 0 ≤ m.len
  family : m.family = afInet
  dst : m.dst = some entry.gwIp
  lladdr : m.lladdr = some mac

end NeighDatagram

/-- A write with its arguments and its result -/
def NeighEvent.IsWrite : NeighEvent → Prop
  | .write .. => True
  | _ => False

/-- A message has news for the entry of its interface. -/
structure NeighDatagram.News (m : NeighDatagram) (s : NeighState) (entry : MacRewriteEntry) (mac : Mac) : Prop where
  found : macEntryGet s.table m.ifindex = some entry
  announced : m.Announces entry mac
  differs : ¬ (entry.valid = true ∧ entry.dmac = mac)

/-- One message either leaves the state and the hardware alone, or it writes its news. -/
inductive NeighStep (m : NeighDatagram) (answers : HardwareAnswers) (s : NeighState) (run : NeighRun) : Prop where
  | idle (nothing : ∀ entry mac, ¬ m.News s entry mac) (same : run.state = s)
      (silent : ∀ event ∈ run.events, ¬ event.IsWrite)
  | writes (entry : MacRewriteEntry) (mac : Mac) (before : List NeighEvent) (news : m.News s entry mac)
      (silent : ∀ event ∈ before, ¬ event.IsWrite)
      (rest : run = NeighRun.after before (writeNeigh answers entry mac s))

theorem NeighStep.after {m : NeighDatagram} {answers : HardwareAnswers} {s : NeighState} {run : NeighRun}
    {before : List NeighEvent} (silent : ∀ event ∈ before, ¬ event.IsWrite) (step : NeighStep m answers s run) :
    NeighStep m answers s (run.after before) := by
  have both {events : List NeighEvent} (others : ∀ event ∈ events, ¬ event.IsWrite) :
      ∀ event ∈ before ++ events, ¬ event.IsWrite := by
    intro event member
    exact (List.mem_append.mp member).elim (silent event) (others event)
  cases step with
  | idle nothing same others => exact .idle nothing same (both others)
  | writes entry mac events news others rest =>
      refine .writes entry mac (before ++ events) news (both others) ?_
      rw [rest, NeighRun.after, NeighRun.after, NeighRun.after, List.append_assoc]

theorem NeighStep.ignored {m : NeighDatagram} {answers : HardwareAnswers} {s : NeighState}
    (nothing : ∀ entry mac, ¬ m.News s entry mac) : NeighStep m answers s ⟨[], s⟩ :=
  .idle nothing rfl fun _ member => absurd member List.not_mem_nil

/-- The two attributes lead to a write only when both are there and fit the entry. -/
theorem NeighStep.of_attrs {m : NeighDatagram} {answers : HardwareAnswers} {s : NeighState}
    {entry : MacRewriteEntry} (found : macEntryGet s.table m.ifindex = some entry)
    (type : m.type = rtmNewNeigh) (len : 0 ≤ m.len) (family : m.family = afInet) :
    NeighStep m answers s (processNeighAttrs answers m.memory m.v4addr
      (parseRtattrFlags m.memory ndaMax (m.nlmsg + 28) m.len).tb entry s) := by
  have same {other : MacRewriteEntry} {mac : Mac} (news : m.News s other mac) : other = entry :=
    Option.some.inj (news.found.symm.trans found)
  have dst : m.dst = ((parseRtattrFlags m.memory ndaMax (m.nlmsg + 28) m.len).tb ndaDst).map
      fun rta => ntohl (copiedDst m.memory m.v4addr rta) := rfl
  have lladdr : m.lladdr = (((parseRtattrFlags m.memory ndaMax (m.nlmsg + 28) m.len).tb ndaLladdr).map
      fun rta => macAt m.memory (rta + 4)).filter isValidEtherAddr := rfl
  unfold processNeighAttrs
  dsimp only
  cases first : (parseRtattrFlags m.memory ndaMax (m.nlmsg + 28) m.len).tb ndaDst with
  | none =>
      have nothing : ∀ entry mac, ¬ m.News s entry mac := by
        intro other mac news
        rw [first, news.announced.dst] at dst
        contradiction
      dsimp only
      split
      · exact .ignored nothing
      · rw [if_pos (.inr rfl)]
        exact (NeighStep.ignored nothing).after (by simp [NeighEvent.IsWrite])
  | some dstRta =>
      rw [first, Option.map_some] at dst
      refine NeighStep.after (by simp [NeighEvent.IsWrite]) ?_
      split
      · rename_i other
        refine .ignored fun held mac news => other ?_
        rw [← same news]
        exact Option.some.inj (news.announced.dst.symm.trans dst)
      · rename_i own
        rw [← not_not.mp own] at dst
        split
        · rename_i second
          refine .ignored fun held mac news => ?_
          rw [second, news.announced.lladdr] at lladdr
          contradiction
        · rename_i rta second
          rw [second, Option.map_some] at lladdr
          refine NeighStep.after (by simp [NeighEvent.IsWrite]) ?_
          split
          · rename_i invalid
            refine .ignored fun held mac news => ?_
            have multicast := invalid.resolve_right (by simp)
            rw [Option.filter_some_neg (by simp [multicast]), news.announced.lladdr] at lladdr
            contradiction
          · rename_i valid
            have unicast : isValidEtherAddr (macAt m.memory (rta + 4)) = true := by
              simpa using valid
            rw [Option.filter_some_pos unicast] at lladdr
            by_cases known : entry.valid = true ∧ entry.dmac = macAt m.memory (rta + 4)
            · rw [writeNeigh, if_pos known]
              refine .ignored fun held mac news => ?_
              have announced := Option.some.inj (news.announced.lladdr.symm.trans lladdr)
              have differs := news.differs
              rw [same news, announced] at differs
              exact differs known
            · exact .writes entry _ [] ⟨found, ⟨type, len, family, dst, lladdr⟩, known⟩ (by simp) rfl

theorem NeighDatagram.step (m : NeighDatagram) (answers : HardwareAnswers) (s : NeighState) :
    NeighStep m answers s (m.run answers s) := by
  unfold NeighDatagram.run processNeighMsg
  split
  · rename_i other
    exact .ignored fun entry mac news => other news.announced.type
  · rename_i type
    refine NeighStep.after (by simp [NeighEvent.IsWrite]) ?_
    split
    · rename_i short
      exact .ignored fun entry mac news => absurd news.announced.len (Int.not_le.mpr short)
    · rename_i len
      refine NeighStep.after (by simp [NeighEvent.IsWrite]) ?_
      split
      · rename_i other
        exact .ignored fun entry mac news => other news.announced.family
      · rename_i family
        refine NeighStep.after (by simp [NeighEvent.IsWrite]) ?_
        split
        · rename_i unknown
          refine .ignored fun entry mac news => ?_
          exact absurd (unknown.symm.trans news.found) (Option.some_ne_none _).symm
        · rename_i entry found
          refine NeighStep.after ?_ (.of_attrs found (not_not.mp type) (Int.not_lt.mp len) (not_not.mp family))
          intro event member
          obtain ⟨range, _, rfl⟩ := List.mem_map.mp member
          exact id

/-! The invariant -/

/-- Every valid entry stands in the hardware at its port. -/
structure NeighState.Coherent (s : NeighState) : Prop where
  indices : (s.table.map MacRewriteEntry.ifindex).Nodup
  ports : (s.table.map MacRewriteEntry.devPort).Nodup
  held : ∀ entry ∈ s.table, entry.valid = true → s.hardware entry.devPort = some (entry.smac, entry.dmac)

/-- A write either fails and changes nothing, or it stores the address in the hardware and in the cache. -/
theorem writeNeigh_cases {answers : HardwareAnswers} {entry : MacRewriteEntry} {mac : Mac} (s : NeighState)
    (news : ¬ (entry.valid = true ∧ entry.dmac = mac)) :
    writeNeigh answers entry mac s = ⟨[.write entry.devPort entry.smac mac false], s⟩ ∨
      writeNeigh answers entry mac s = ⟨[.write entry.devPort entry.smac mac true], {
        table := updateMacEntry (·.learn mac) entry.ifindex s.table
        hardware := Function.update s.hardware entry.devPort (some (entry.smac, mac)) }⟩ := by
  rw [writeNeigh, if_neg news]
  unfold macRewriteTableEntryAdd
  dsimp only
  split
  · left
    rfl
  · rename_i written
    right
    split at written
    · rw [← Option.some.inj written]
      rfl
    · contradiction

/-- A stored address keeps the cache and the hardware coherent. -/
theorem NeighState.Coherent.learn {s : NeighState} (coherent : s.Coherent) {entry : MacRewriteEntry}
    (member : entry ∈ s.table) (mac : Mac) : NeighState.Coherent {
      table := updateMacEntry (·.learn mac) entry.ifindex s.table
      hardware := Function.update s.hardware entry.devPort (some (entry.smac, mac)) } := by
  have table := updateMacEntry_eq_map (·.learn mac) coherent.indices entry.ifindex
  have fields {α : Type} (field : MacRewriteEntry → α) (kept : ∀ entry, field (entry.learn mac) = field entry) :
      ((s.table.map fun other => if other.ifindex = entry.ifindex then other.learn mac else other).map field) =
        s.table.map field := by
    rw [List.map_map]
    apply List.map_congr_left
    intro other _
    simp only [Function.comp_apply]
    split
    · exact kept other
    · rfl
  constructor
  · rw [table, fields _ fun _ => rfl]
    exact coherent.indices
  · rw [table, fields _ fun _ => rfl]
    exact coherent.ports
  · intro changed among valid
    rw [table] at among
    obtain ⟨other, inside, rfl⟩ := List.mem_map.mp among
    dsimp only
    by_cases own : other.ifindex = entry.ifindex
    · obtain rfl : other = entry := List.inj_on_of_nodup_map coherent.indices inside member own
      rw [if_pos rfl]
      exact Function.update_self _ _ _
    · rw [if_neg own] at valid ⊢
      have apart : other.devPort ≠ entry.devPort := fun same =>
        own (congrArg _ (List.inj_on_of_nodup_map coherent.ports inside member same))
      rw [Function.update_of_ne apart]
      exact coherent.held other inside valid

theorem NeighState.Coherent.step {s : NeighState} (coherent : s.Coherent) (m : NeighDatagram)
    (answers : HardwareAnswers) : (m.run answers s).state.Coherent := by
  cases m.step answers s with
  | idle _ same => rwa [same]
  | writes entry mac before news _ rest =>
      rw [rest]
      change (writeNeigh answers entry mac s).state.Coherent
      rcases writeNeigh_cases s news.differs with failed | written
      · rwa [failed]
      · rw [written]
        exact coherent.learn (macEntryGet_mem news.found).1 mac

/-! What one message changes -/

/-- A message changes at most the entry of its interface, and only when it announces an address for it. -/
structure ChangesOwn (m : NeighDatagram) (s s' : NeighState) : Prop where
  others : ∀ ifindex ≠ m.ifindex, macEntryGet s'.table ifindex = macEntryGet s.table ifindex
  ports : ∀ port, s'.hardware port ≠ s.hardware port →
    ∃ entry, macEntryGet s.table m.ifindex = some entry ∧ entry.devPort = port
  announced : s' ≠ s → ∃ entry mac, macEntryGet s.table m.ifindex = some entry ∧
    m.Announces entry mac ∧ isValidEtherAddr mac = true

theorem ChangesOwn.refl (m : NeighDatagram) (s : NeighState) : ChangesOwn m s s :=
  ⟨fun _ _ => rfl, fun _ differ => absurd rfl differ, fun differ => absurd rfl differ⟩

theorem NeighDatagram.Announces.unicast {m : NeighDatagram} {entry : MacRewriteEntry} {mac : Mac}
    (announced : m.Announces entry mac) : isValidEtherAddr mac = true := by
  have filtered := announced.lladdr
  unfold NeighDatagram.lladdr at filtered
  exact (Option.filter_eq_some_iff.mp filtered).2

theorem NeighState.Coherent.changesOwn {s : NeighState} (coherent : s.Coherent) (m : NeighDatagram)
    (answers : HardwareAnswers) : ChangesOwn m s (m.run answers s).state := by
  cases m.step answers s with
  | idle _ same =>
      rw [same]
      exact .refl m s
  | writes entry mac before news _ rest =>
      have found := news.found
      rw [rest]
      change ChangesOwn m s (writeNeigh answers entry mac s).state
      rcases writeNeigh_cases s news.differs with failed | written
      · rw [failed]
        exact .refl m s
      · rw [written]
        refine ⟨?_, ?_, fun _ => ⟨entry, mac, found, news.announced, news.announced.unicast⟩⟩
        · intro ifindex other
          dsimp only
          rw [macEntryGet_update coherent.indices]
          cases held : macEntryGet s.table ifindex with
          | none => rfl
          | some own =>
              have index := (macEntryGet_mem held).2
              have entryIndex := (macEntryGet_mem found).2
              rw [Option.map_some, if_neg]
              rw [index, entryIndex]
              exact other
        · intro port differ
          refine ⟨entry, found, ?_⟩
          by_contra apart
          exact differ (Function.update_of_ne (Ne.symm apart) _ _)

/-- A message that fits the buffer, whose attributes have the sizes of their kinds -/
structure NeighDatagram.WellFormed (m : NeighDatagram) : Prop where
  fits : (nlmsgLen m.memory m.nlmsg).toNat ≤ bufSize
  dst : m.family = afInet → ∀ rta, m.attributeOf ndaDst = some rta → rtaLen m.memory rta = 8
  lladdr : m.family = afInet → ∀ rta, m.attributeOf ndaLladdr = some rta → 10 ≤ rtaLen m.memory rta

/-- The same message in another call -/
def NeighDatagram.again (m : NeighDatagram) (v4addr : Nat → Byte) : NeighDatagram := { m with v4addr := v4addr }

/-- A payload of four bytes overwrites all that stood in `v4addr`. -/
theorem copiedDst_eq (memory : Memory) (v4addr : Nat → Byte) {rta : Nat} (size : rtaLen memory rta = 8) :
    copiedDst memory v4addr rta = memory.load32 (rta + 4) := by
  simp [copiedDst, size, Memory.load32]

/-- The news of a message do not depend on the bytes that the call finds in `v4addr`. -/
theorem NeighDatagram.News.again {m : NeighDatagram} {s : NeighState} {entry : MacRewriteEntry} {mac : Mac}
    (news : m.News s entry mac) (wellFormed : m.WellFormed) (v4addr : Nat → Byte) :
    (m.again v4addr).News s entry mac := by
  obtain ⟨found, ⟨type, len, family, dst, lladdr⟩, differs⟩ := news
  refine ⟨found, ⟨type, len, family, ?_, lladdr⟩, differs⟩
  obtain ⟨rta, named, address⟩ := Option.map_eq_some_iff.mp dst
  have size := wellFormed.dst family rta named
  change (m.attributeOf ndaDst).map (fun rta => ntohl (copiedDst m.memory v4addr rta)) = some entry.gwIp
  rw [named, Option.map_some, ← address, copiedDst_eq _ _ size, copiedDst_eq _ _ size]

/-- A failed write leaves everything as it was, and the same message tries the same write again. -/
def Retries (m : NeighDatagram) (answers : HardwareAnswers) (s : NeighState) : Prop :=
  ∀ devPort smac dmac, .write devPort smac dmac false ∈ (m.run answers s).events →
    (m.run answers s).state = s ∧
      ∀ v4addr answers', ∃ accepted,
        .write devPort smac dmac accepted ∈ ((m.again v4addr).run answers' (m.run answers s).state).events

/-- Whether a message is written does not depend on the answers of the hardware. -/
theorem NeighDatagram.retries (m : NeighDatagram) (wellFormed : m.WellFormed) (answers : HardwareAnswers)
    (s : NeighState) : Retries m answers s := by
  intro devPort smac dmac attempted
  cases m.step answers s with
  | idle _ _ silent => exact absurd trivial (silent _ attempted)
  | writes entry mac before news silent rest =>
      rw [rest] at attempted ⊢
      have late : .write devPort smac dmac false ∈ (writeNeigh answers entry mac s).events :=
        (List.mem_append.mp attempted).resolve_left fun early => silent _ early trivial
      rcases writeNeigh_cases s news.differs with failed | written
      · rw [failed, List.mem_singleton] at late
        obtain ⟨rfl, rfl, rfl, _⟩ := NeighEvent.write.inj late
        refine ⟨congrArg NeighRun.state failed, fun v4addr answers' => ?_⟩
        change ∃ accepted, _ ∈ ((m.again v4addr).run answers' (writeNeigh answers entry dmac s).state).events
        rw [failed]
        have same := news.again wellFormed v4addr
        cases (m.again v4addr).step answers' s with
        | idle nothing => exact absurd same (nothing entry dmac)
        | writes other mac' before' news' _ rest' =>
            obtain rfl : other = entry := Option.some.inj (news'.found.symm.trans same.found)
            obtain rfl : mac' = dmac :=
              Option.some.inj (news'.announced.lladdr.symm.trans same.announced.lladdr)
            rw [rest']
            rcases writeNeigh_cases s news'.differs with failed' | written'
            · exact ⟨false, List.mem_append_right _ (by rw [failed']; exact List.mem_cons_self)⟩
            · exact ⟨true, List.mem_append_right _ (by rw [written']; exact List.mem_cons_self)⟩
      · rw [written, List.mem_singleton] at late
        exact absurd (NeighEvent.write.inj late).2.2.2 Bool.false_ne_true

/-! Whole runs -/

/-- A message of a run, and what the hardware does with it -/
structure NeighInput where
  message : NeighDatagram
  wellFormed : message.WellFormed
  answers : HardwareAnswers

def NeighState.runs (s : NeighState) (inputs : List NeighInput) : NeighState :=
  inputs.foldl (fun s input => (input.message.run input.answers s).state) s

theorem NeighState.Coherent.runs {s : NeighState} (coherent : s.Coherent) (inputs : List NeighInput) :
    (s.runs inputs).Coherent := by
  induction inputs generalizing s with
  | nil => exact coherent
  | cons input rest ih => exact ih (coherent.step input.message input.answers)

/-- The entries of the interfaces, none of them valid -/
theorem entries_of_hostifs {ifNametoindex : List Byte → BitVec 32} {hostifs : List Interface}
    {entries : List MacRewriteEntry}
    (built : hostifs.mapM (macEntryOfHostif ifNametoindex) = some entries) :
    entries.map MacRewriteEntry.ifindex = hostifs.map (fun hostif => ifNametoindex hostif.intfName) ∧
      entries.map MacRewriteEntry.devPort = hostifs.map Interface.devPort ∧
      ∀ entry ∈ entries, entry.valid = false := by
  induction hostifs generalizing entries with
  | nil =>
      obtain rfl := Option.some.inj built
      simp
  | cons hostif rest ih =>
      rw [List.mapM_cons] at built
      obtain ⟨entry, first, built⟩ := Option.bind_eq_some_iff.mp built
      obtain ⟨others, later, built⟩ := Option.bind_eq_some_iff.mp built
      obtain rfl := Option.some.inj built
      obtain ⟨indices, ports, fresh⟩ := ih later
      unfold macEntryOfHostif at first
      split at first
      · contradiction
      · obtain rfl := Option.some.inj first
        refine ⟨by rw [List.map_cons, List.map_cons, indices], by rw [List.map_cons, List.map_cons, ports], ?_⟩
        rw [List.forall_mem_cons]
        exact ⟨rfl, fresh⟩

theorem coherent_of_hostifs {ifNametoindex : List Byte → BitVec 32} {hostifs : List Interface}
    {table : MacEntryTable} (built : hostifArrayToMacEntryTable ifNametoindex hostifs = some table)
    (interfaces : (hostifs.map fun hostif => ifNametoindex hostif.intfName).Nodup)
    (ports : (hostifs.map Interface.devPort).Nodup) (hardware : MacRewriteTable) :
    NeighState.Coherent ⟨table, hardware⟩ := by
  obtain ⟨entries, mapped, rfl⟩ := Option.map_eq_some_iff.mp built
  obtain ⟨indices, devPorts, fresh⟩ := entries_of_hostifs mapped
  refine ⟨?_, ?_, ?_⟩
  · rw [List.map_reverse, List.nodup_reverse, indices]
    exact interfaces
  · rw [List.map_reverse, List.nodup_reverse, devPorts]
    exact ports
  · intro entry member valid
    rw [fresh entry (List.mem_reverse.mp member)] at valid
    contradiction

/-- In every reachable state the cache agrees with the hardware, and every next message keeps to its interface. -/
theorem neighbours_coherent (ifNametoindex : List Byte → BitVec 32) (hostifs : List Interface)
    (interfaces : (hostifs.map fun hostif => ifNametoindex hostif.intfName).Nodup)
    (ports : (hostifs.map Interface.devPort).Nodup) (table : MacEntryTable)
    (built : hostifArrayToMacEntryTable ifNametoindex hostifs = some table) (hardware : MacRewriteTable)
    (inputs : List NeighInput) :
    (∀ entry ∈ (NeighState.runs ⟨table, hardware⟩ inputs).table, entry.valid = true →
      (NeighState.runs ⟨table, hardware⟩ inputs).hardware entry.devPort = some (entry.smac, entry.dmac)) ∧
    ∀ input : NeighInput,
      ChangesOwn input.message (NeighState.runs ⟨table, hardware⟩ inputs)
        (input.message.run input.answers (NeighState.runs ⟨table, hardware⟩ inputs)).state ∧
      Retries input.message input.answers (NeighState.runs ⟨table, hardware⟩ inputs) := by
  have coherent := (coherent_of_hostifs built interfaces ports hardware).runs inputs
  exact ⟨coherent.held, fun input =>
    ⟨coherent.changesOwn input.message input.answers, input.message.retries input.wellFormed input.answers _⟩⟩

/-- A new neighbour 10.0.0.2 at 02:00:00:00:00:09 on the interface with the index 7 -/
def sampleNeigh : NeighDatagram where
  memory := Memory.ofList [
    48, 0, 0, 0, 28, 0, 0, 0, 0, 0, 0, 0, 0, 0, 0, 0,
    2, 0, 0, 0, 7, 0, 0, 0, 2, 0, 0, 1,
    8, 0, 1, 0, 10, 0, 0, 2,
    10, 0, 2, 0, 2, 0, 0, 0, 0, 9, 0, 0]
  v4addr _ := 0
  nlmsg := 0
  type := rtmNewNeigh

theorem sampleNeigh_wellFormed : sampleNeigh.WellFormed := by
  have dst : sampleNeigh.attributeOf ndaDst = some 28 := by decide +kernel
  have lladdr : sampleNeigh.attributeOf ndaLladdr = some 36 := by decide +kernel
  refine ⟨by decide +kernel, fun _ rta named => ?_, fun _ rta named => ?_⟩
  · rw [dst] at named
    rw [← Option.some.inj named]
    decide +kernel
  · rw [lladdr] at named
    rw [← Option.some.inj named]
    decide +kernel

def sampleInterface : Interface := ⟨[], fun _ => 4, 0x0A000002, 256⟩

/-- The message is written in the second attempt. -/
def sampleInputs : List NeighInput := [
  ⟨sampleNeigh, sampleNeigh_wellFormed, ⟨true, false⟩⟩,
  ⟨sampleNeigh, sampleNeigh_wellFormed, ⟨true, true⟩⟩]

theorem neighbours_coherent_sample : ∃ table,
    hostifArrayToMacEntryTable (fun _ => 7) [sampleInterface] = some table ∧
    ∀ entry ∈ (NeighState.runs ⟨table, fun _ => none⟩ sampleInputs).table, entry.valid = true →
      (NeighState.runs ⟨table, fun _ => none⟩ sampleInputs).hardware entry.devPort =
        some (entry.smac, entry.dmac) :=
  ⟨_, rfl, (neighbours_coherent (fun _ => 7) [sampleInterface] (by decide) (by decide) _ rfl
    (fun _ => none) sampleInputs).1⟩

/-- After both attempts the entry is valid. -/
example : ((hostifArrayToMacEntryTable (fun _ => 7) [sampleInterface]).map fun table =>
    (NeighState.runs ⟨table, fun _ => none⟩ sampleInputs).table.map MacRewriteEntry.valid) = some [true] := by
  decide +kernel

end IgwP4.Netlink
