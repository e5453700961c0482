/-
This file shows for which accepted configurations the initialisation of the tables never stops.
-/

import IgwP4.Proof.Netlink.Gateways
import IgwP4.Proof.Setup.ConfigReading
import IgwP4.Proof.Setup.RedirectMembers
import IgwP4.Proof.Setup.TableWrites

namespace IgwP4.Setup
open Packet Dataplane Netlink

/-! Lists of results -/

theorem mapM_isSome_iff {α β : Type} (f : α → Option β) (list : List α) :
    (list.mapM f).isSome ↔ ∀ item ∈ list, (f item).isSome := by
  induction list with
  | nil => simp
  | cons item rest ih =>
      rw [List.mapM_cons, List.forall_mem_cons, ← ih]
      cases f item with
      | none => simp
      | some value => cases rest.mapM f <;> simp

/-- The results of a list are those that its members have. -/
theorem filterMap_of_mapM {α β : Type} {f : α → Option β} {list : List α} {results : List β}
    (all : list.mapM f = some results) : list.filterMap f = results := by
  induction list generalizing results with
  | nil => exact Option.some.inj all
  | cons item rest ih =>
      rw [List.mapM_cons] at all
      obtain ⟨value, first, all⟩ := Option.bind_eq_some_iff.mp all
      obtain ⟨values, later, all⟩ := Option.bind_eq_some_iff.mp all
      rw [List.filterMap_cons, first, ih later]
      exact Option.some.inj all

theorem length_of_mapM {α β : Type} {f : α → Option β} {list : List α} {results : List β}
    (all : list.mapM f = some results) : results.length = list.length := by
  induction list generalizing results with
  | nil =>
      rw [← Option.some.inj all]
      rfl
  | cons item rest ih =>
      rw [List.mapM_cons] at all
      obtain ⟨value, first, all⟩ := Option.bind_eq_some_iff.mp all
      obtain ⟨values, later, all⟩ := Option.bind_eq_some_iff.mp all
      rw [← Option.some.inj all, List.length_cons, List.length_cons, ih later]

/-- Two passes over a list have the results of one. -/
theorem mapM_bind_mapM {α β γ : Type} (f : α → Option β) (g : β → Option γ) (list : List α) :
    (list.mapM f).bind (List.mapM g) = list.mapM fun item => (f item).bind g := by
  induction list with
  | nil => rfl
  | cons item rest ih =>
      rw [List.mapM_cons, List.mapM_cons, ← ih]
      cases f item with
      | none => rfl
      | some value =>
          cases rest.mapM f with
          | none => cases g value <;> simp
          | some values => simp

/-! The interfaces -/

/-- The interface that the configuration in memory names, when its IPv6 text and its port are valid -/
def ConfigState.hostif (s : ConfigState) (ports : PortMap) (index : Nat) : Option Hostif :=
  (parseHostif s index).bind (switchDevPortGet ports)

def ConfigState.hostifs (s : ConfigState) (ports : PortMap) : List Hostif :=
  (List.range s.hostifNum.toNat).filterMap (s.hostif ports)

/-- The device port is one of the members of an external pipe. -/
def Hostif.External (hostif : Hostif) : Prop :=
  ∃ group member, external group ∧ hostif.devPort = group.port member

theorem gatewayOfHostif_isSome_iff (hostif : Hostif) :
    (gatewayOfHostif hostif).isSome ↔ hostif.External := by
  rw [Option.isSome_iff_exists]
  constructor
  · rintro ⟨entry, found⟩
    obtain ⟨group, member, inside, port, _⟩ := (gatewayOfHostif_eq_some_iff hostif entry).mp found
    exact ⟨group, member, inside, port⟩
  · rintro ⟨group, member, inside, port⟩
    exact ⟨_, (gatewayOfHostif_eq_some_iff hostif _).mpr ⟨group, member, inside, port, rfl⟩⟩

theorem hostifArrayToGatewaysOn_isSome_iff (hardwareModel : BitVec 16) (hostifs : List Hostif) :
    (hostifArrayToGatewaysOn hardwareModel hostifs).isSome ↔
      hostifs.length ≤ maxGateway ∧ hardwareModel = wedge100Bf65x ∧ ∀ hostif ∈ hostifs, hostif.External := by
  have mapped : (hostifs.mapM gatewayOfHostif).isSome ↔ ∀ hostif ∈ hostifs, hostif.External := by
    rw [mapM_isSome_iff]
    exact forall₂_congr fun hostif _ => gatewayOfHostif_isSome_iff hostif
  unfold hostifArrayToGatewaysOn hostifArrayToGateways
  split
  · rename_i many
    simp only [Option.isSome_none, Bool.false_eq_true, false_iff]
    omega
  · rename_i few
    split
    · rename_i other
      simp only [Option.isSome_none, Bool.false_eq_true, false_iff]
      exact fun all => other all.2.1
    · rename_i model
      rw [Option.isSome_map, mapped]
      constructor
      · exact fun all => ⟨Nat.le_of_not_lt few, not_not.mp model, all⟩
      · exact fun all => all.2.2

/-- All interfaces are read when every one of at most 128 is. -/
theorem parsed_eq_some_iff (s : ConfigState) (ports : PortMap) (hostifs : List Hostif) :
    (parserSwitchConfigToHostif s).bind (List.mapM (switchDevPortGet ports)) = some hostifs ↔
      s.hostifNum ≤ hostifArraySize ∧ (List.range s.hostifNum.toNat).mapM (s.hostif ports) = some hostifs := by
  unfold parserSwitchConfigToHostif
  split
  · rename_i few
    rw [mapM_bind_mapM]
    exact (and_iff_right few).symm
  · rename_i many
    simp only [Option.bind_none, reduceCtorEq, false_iff]
    exact fun both => many both.1

/-! The hardware model -/

/-- An accepted configuration names one of the two hardware models. -/
theorem hardwareModel_cases {root : Json} {s : ConfigState} (accepted : switchConfigInit root = .ok s) :
    s.hardwareModel = wedge100Bf65x ∨ s.hardwareModel = wedge100Bf32x := by
  obtain ⟨doc, _, valid, _, _, count, _, rfl⟩ := switchConfigInit_stores accepted
  have apart : ∀ store ∈ hostifStoresFrom 0 doc.hostifs, ConfigField.hardwareModel.Apart store := by
    intro store member
    have range := hostifStoresFrom_range 0 doc.hostifs store member
    left
    change store.1.offset + store.2.length ≤ 28790
    dsimp only [hostifsSize, hostifSize] at *
    omega
  have read : (ConfigState.initial.stores doc.stores).read ConfigField.hardwareModel =
      (littleEndian (doc.higw.hardware.setWidth 32)).take 2 := by
    rw [ConfigDoc.stores, ConfigState.stores_append, ConfigState.read_stores_apart _ apart]
    exact ConfigState.initial.read_of_mem
      (ordered_of_shapes (frontStores_shapes _ _ _) (ConfigDoc.frontShapes_ordered _))
      (by simp [frontStores, HigwDoc.stores]) (by rw [littleEndian_length]; decide)
  have value := load16_of_read rfl read
  rw [BitVec.setWidth_setWidth_of_le _ (by decide)] at value
  rw [ConfigState.hardwareModel, value]
  exact valid.hardware

/-! The whole initialisation -/

/-- The condition on the configuration in memory under which no check of the initialisation fails -/
structure Initialisable (ports : PortMap) (s : ConfigState) : Prop where
  count : s.hostifNum ≤ maxGateway
  hostifs : ∀ index < s.hostifNum.toNat, ∃ hostif, s.hostif ports index = some hostif ∧ hostif.External
  hardware : s.hardwareModel ≠ wedge100Bf32x
  backup : s.switchConfig.backupVip = 0 ∨ s.switchConfig.backupVip ≠ s.switchConfig.vip
  room : 6 + (if s.switchConfig.backupVip = 0 then 0 else 1) +
    ((s.hostifs ports).flatMap Hostif.addresses).toFinset.card ≤ 128

/-- The two entries of the pipeline table are always written. -/
theorem pipelinefixInit_isSome : pipelinefixInit.isSome := by
  decide

/-- The interfaces that the initialisation reads are those of the configuration. -/
theorem hostifs_of_parsed {s : ConfigState} {ports : PortMap} {parsed : List (BitVec 32 × Hostif)}
    {hostifs : List Hostif} (parse : parserSwitchConfigToHostif s = some parsed)
    (created : parsed.mapM (switchDevPortGet ports) = some hostifs) :
    (List.range s.hostifNum.toNat).mapM (s.hostif ports) = some hostifs :=
  ((parsed_eq_some_iff s ports hostifs).mp (Option.bind_eq_some_iff.mpr ⟨parsed, parse, created⟩)).2

/-- An initialisation that ends has met the condition. -/
theorem Initialisable.of_isSome {s : ConfigState} {ports : PortMap} (done : (initialise ports s).isSome) : Initialisable ports s := by
  obtain ⟨installed, run⟩ := Option.isSome_iff_exists.mp done
  obtain ⟨parsed, parse, run⟩ := Option.bind_eq_some_iff.mp run
  obtain ⟨hostifs, created, run⟩ := Option.bind_eq_some_iff.mp run
  obtain ⟨igwIpType, types, run⟩ := Option.bind_eq_some_iff.mp run
  obtain ⟨_, _, run⟩ := Option.bind_eq_some_iff.mp run
  obtain ⟨_, _, run⟩ := Option.bind_eq_some_iff.mp run
  obtain ⟨_, _, run⟩ := Option.bind_eq_some_iff.mp run
  obtain ⟨gateways, leads, run⟩ := Option.bind_eq_some_iff.mp run
  obtain ⟨packets, punts, _⟩ := Option.bind_eq_some_iff.mp run
  have all := hostifs_of_parsed parse created
  have list : s.hostifs ports = hostifs := filterMap_of_mapM all
  have length : hostifs.length = s.hostifNum.toNat := by
    rw [length_of_mapM all, List.length_range]
  have differ := (igwIpTypeTableInit_isSome_iff s.switchConfig).mp (Option.isSome_of_eq_some types)
  obtain ⟨count, model, outside⟩ :=
    (hostifArrayToGatewaysOn_isSome_iff _ hostifs).mp (Option.isSome_of_eq_some leads)
  have room := (processProtocolPacketTableInit_isSome_iff differ hostifs).mp (Option.isSome_of_eq_some punts)
  have each := (mapM_isSome_iff _ _).mp (Option.isSome_of_eq_some all)
  exact {
    count := by
      rw [length] at count
      omega
    hostifs := by
      intro index inside
      obtain ⟨hostif, found⟩ := Option.isSome_iff_exists.mp (each index (List.mem_range.mpr inside))
      refine ⟨hostif, found, outside hostif ?_⟩
      rw [← list]
      exact List.mem_filterMap.mpr ⟨index, List.mem_range.mpr inside, found⟩
    hardware := by
      rw [model]
      decide
    backup := differ
    room := by rw [list]; exact room }

/-- A configuration that meets the condition is initialised. -/
theorem Initialisable.isSome {root : Json} {s : ConfigState} (accepted : switchConfigInit root = .ok s)
    {ports : PortMap} (valid : Initialisable ports s) : (initialise ports s).isSome := by
  have found : ((List.range s.hostifNum.toNat).mapM (s.hostif ports)).isSome := by
    rw [mapM_isSome_iff]
    intro index inside
    obtain ⟨hostif, found, _⟩ := valid.hostifs index (List.mem_range.mp inside)
    exact Option.isSome_of_eq_some found
  obtain ⟨hostifs, all⟩ := Option.isSome_iff_exists.mp found
  have list : s.hostifs ports = hostifs := filterMap_of_mapM all
  have length : hostifs.length = s.hostifNum.toNat := by
    rw [length_of_mapM all, List.length_range]
  have few : s.hostifNum ≤ hostifArraySize := Int.le_trans valid.count (by decide)
  obtain ⟨parsed, parse, created⟩ :=
    Option.bind_eq_some_iff.mp ((parsed_eq_some_iff s ports hostifs).mpr ⟨few, all⟩)
  obtain ⟨igwIpType, types⟩ :=
    Option.isSome_iff_exists.mp ((igwIpTypeTableInit_isSome_iff s.switchConfig).mpr valid.backup)
  obtain ⟨pipelineFix, fixed⟩ := Option.isSome_iff_exists.mp pipelinefixInit_isSome
  obtain ⟨eip, redirected⟩ := Option.isSome_iff_exists.mp (ecmpDlTableInit_isSome s.switchConfig)
  have outside : (hostifArrayToGatewaysOn s.hardwareModel hostifs).isSome := by
    rw [hostifArrayToGatewaysOn_isSome_iff]
    refine ⟨?_, (hardwareModel_cases accepted).resolve_right valid.hardware, ?_⟩
    · have count := valid.count
      omega
    · intro hostif member
      rw [← list] at member
      obtain ⟨index, inside, found⟩ := List.mem_filterMap.mp member
      obtain ⟨same, named, port⟩ := valid.hostifs index (List.mem_range.mp inside)
      rw [found] at named
      rw [Option.some.inj named]
      exact port
  obtain ⟨gateways, leads⟩ := Option.isSome_iff_exists.mp outside
  have room := valid.room
  rw [list] at room
  obtain ⟨packets, punts⟩ :=
    Option.isSome_iff_exists.mp ((processProtocolPacketTableInit_isSome_iff valid.backup hostifs).mpr room)
  unfold initialise
  simp [parse, created, types, fixed, redirected, leads, punts, eipInEcmpDlTableInit, eipOutEcmpDlTableInit]

/-- The initialisation stops exactly when the stored configuration breaks one of the five conditions. -/
theorem initialise_iff {root : Json} {s : ConfigState} (accepted : switchConfigInit root = .ok s)
    (ports : PortMap) : (initialise ports s).isSome ↔ Initialisable ports s :=
  ⟨Initialisable.of_isSome, Initialisable.isSome accepted⟩

/-! Two documents -/

/-- Sixteen front ports lead to each external pipe. -/
def samplePorts : PortMap := fun fpPort =>
  if fpPort < 64 then some (fpPort.setWidth 9) else some ((fpPort + 192).setWidth 9)

/-- The initialisation of the sample file ends. -/
theorem initialise_iff_sample : ∃ s, switchConfigInit (sampleConfig 1) = .ok s ∧
    Initialisable samplePorts s ∧ (initialise samplePorts s).isSome := by
  have facts : (switchConfigInit (sampleConfig 1)).toOption.map (fun s =>
      decide (s.hostifNum = 1 ∧ s.hardwareModel = 1 ∧
        s.switchConfig.backupVip ≠ s.switchConfig.vip ∧
        (s.hostif samplePorts 0).map (fun hostif => (hostif.devPort, hostif.ipv6Enable)) =
          some (256, false))) = some true := by
    decide +kernel
  cases result : switchConfigInit (sampleConfig 1) with
  | error failure =>
      rw [result] at facts
      exact absurd facts.symm (Option.some_ne_none _)
  | ok s =>
      rw [result] at facts
      obtain ⟨one, model, differ, named⟩ := of_decide_eq_true (Option.some.inj facts)
      obtain ⟨hostif, found, fields⟩ := Option.map_eq_some_iff.mp named
      obtain ⟨port, disabled⟩ := Prod.mk.inj fields
      have list : s.hostifs samplePorts = [hostif] := by
        rw [ConfigState.hostifs, one]
        simp [List.range_succ, found]
      have valid : Initialisable samplePorts s := {
        count := by rw [one]; decide
        hostifs := by
          intro index inside
          rw [one] at inside
          obtain rfl : index = 0 := by simpa using inside
          exact ⟨hostif, found, .pipe2, 0, trivial, port⟩
        hardware := by rw [model]; decide
        backup := .inr differ
        room := by
          have one : (Hostif.addresses hostif).length = 1 := by
            rw [Hostif.addresses, disabled]
            rfl
          have few := List.toFinset_card_le (Hostif.addresses hostif)
          rw [list, List.flatMap_singleton]
          split <;> omega }
      exact ⟨s, rfl, valid, (initialise_iff result samplePorts).mpr valid⟩

/-- The sample file whose backup address is the address of the cluster -/
def twinConfig : Json := sampleFile sampleVip [sampleHostif]

/-- The file is accepted, and an add into the table of packet types fails. -/
theorem not_initialised_twin : ∃ s, switchConfigInit twinConfig = .ok s ∧
    ¬ (igwIpTypeTableInit s.switchConfig).isSome ∧
    ¬ (initialise samplePorts s).isSome := by
  have facts : (switchConfigInit twinConfig).toOption.map (fun s =>
      decide (s.switchConfig.backupVip ≠ 0 ∧ s.switchConfig.backupVip = s.switchConfig.vip)) = some true := by
    decide +kernel
  cases result : switchConfigInit twinConfig with
  | error failure =>
      rw [result] at facts
      exact absurd facts.symm (Option.some_ne_none _)
  | ok s =>
      rw [result] at facts
      obtain ⟨given, same⟩ := of_decide_eq_true (Option.some.inj facts)
      refine ⟨s, rfl, ?_, ?_⟩
      · intro written
        exact ((igwIpTypeTableInit_isSome_iff s.switchConfig).mp written).elim given fun differ => differ same
      · intro done
        exact (Initialisable.of_isSome done).backup.elim given fun differ => differ same

end IgwP4.Setup
