/-
This file shows for which actions the rendered lookup ends with the index of the action.
-/

import IgwP4.Construction.Apigen.ActionMap
import Mathlib.Data.List.Nodup

namespace IgwP4.Apigen

/-! The rendered array -/

/-- With distinct keys the last entry of a key is its only one. -/
theorem lookup_reverse_of_mem {κ β : Type} [BEq κ] [LawfulBEq κ] {entries : List (κ × β)}
    (distinct : (entries.map Prod.fst).Nodup) {key : κ} {value : β} (member : (key, value) ∈ entries) :
    entries.reverse.lookup key = some value := by
  obtain ⟨front, behind, rfl⟩ := List.append_of_mem member
  rw [List.map_append, List.map_cons, List.nodup_append] at distinct
  obtain ⟨absent, -⟩ := List.nodup_cons.mp distinct.2.1
  refine List.lookup_eq_some_iff.mpr ⟨behind.reverse, front.reverse, by simp, fun entry later => ?_⟩
  rw [bne_iff_ne]
  rintro rfl
  exact absent (List.mem_map.mpr ⟨entry, List.mem_reverse.mp later, rfl⟩)

theorem map_snd_zipIdx {α : Type} (list : List α) : list.zipIdx.map Prod.snd = List.range list.length := by
  rw [List.zipIdx_eq_zip_range', List.map_snd_zip (by simp), List.range_eq_range']

/-- The entries of a list by their indices -/
def indexed {α : Type} (list : List α) : List (Nat × α) := list.zipIdx.map fun entry => (entry.2, entry.1)

theorem indexed_keys {α : Type} (list : List α) : (indexed list).map Prod.fst = List.range list.length := by
  rw [indexed, List.map_map, ← map_snd_zipIdx]
  rfl

theorem arraySize_indexed {α : Type} (list : List α) : arraySize (indexed list) = list.length := by
  have keys : arraySize (indexed list) =
      ((indexed list).map Prod.fst).foldl (fun size index => max size (index + 1)) 0 := by
    rw [List.foldl_map]
    rfl
  rw [keys, indexed_keys]
  induction list.length with
  | zero => rfl
  | succ count ih =>
      rw [List.range_succ, List.foldl_append, ih]
      simp

theorem arrayOf_indexed (ids : List (BitVec 32)) : arrayOf (indexed ids) = ids := by
  rw [arrayOf, arraySize_indexed]
  apply List.ext_getElem
  · simp
  · intro index _ inside
    have member : (index, ids[index]) ∈ indexed ids :=
      List.mem_map.mpr ⟨(ids[index], index), List.mk_mem_zipIdx_iff_getElem?.mpr
        (List.getElem?_eq_getElem inside), rfl⟩
    have distinct : ((indexed ids).map Prod.fst).Nodup := by
      rw [indexed_keys]
      exact List.nodup_range
    rw [List.getElem_map, List.getElem_range, lookup_reverse_of_mem distinct member]
    rfl

theorem mapM_eq_some {α β : Type} {f : α → Option β} {g : α → β} {list : List α}
    (each : ∀ entry ∈ list, f entry = some (g entry)) : list.mapM f = some (list.map g) := by
  induction list with
  | nil => rfl
  | cons first rest ih =>
      rw [List.mapM_cons, each first List.mem_cons_self,
        ih fun entry member => each entry (List.mem_cons_of_mem _ member)]
      rfl

/-- With distinct names the array holds the numbers of the actions in their order. -/
theorem actionIdMap_eq {r : Rendering} {actions : List ActionSpec}
    (distinct : ((renderedActions actions).map r.macroName).Nodup) :
    r.actionIdMap actions = some ((renderedActions actions).map ActionSpec.id) := by
  have front : (renderedActions actions).zipIdx.map Prod.fst = renderedActions actions :=
    List.zipIdx_map_fst 0 _
  have keys : ((r.defines actions).map Prod.fst).Nodup := by
    have names : (r.defines actions).map Prod.fst =
        ((renderedActions actions).zipIdx.map Prod.fst).map r.macroName := by
      rw [Rendering.defines, List.map_map, List.map_map]
      rfl
    rwa [names, front]
  have initialisers : r.initialisers actions =
      (renderedActions actions).zipIdx.map fun entry => (r.macroName entry.1, entry.1.id) := by
    conv_lhs => rw [Rendering.initialisers, ← front, List.map_map]
    rfl
  have each : ∀ entry ∈ (renderedActions actions).zipIdx,
      (expand (r.defines actions) (r.macroName entry.1)).map (fun index => (index, entry.1.id)) =
        some (entry.2, entry.1.id) := by
    intro entry member
    have defined : (r.macroName entry.1, entry.2) ∈ r.defines actions :=
      List.mem_map.mpr ⟨entry, member, rfl⟩
    rw [expand, lookup_reverse_of_mem keys defined]
    rfl
  have entries : (renderedActions actions).zipIdx.map (fun entry => (entry.2, entry.1.id)) =
      indexed ((renderedActions actions).map ActionSpec.id) := by
    rw [indexed, List.zipIdx_map, List.map_map]
    rfl
  have stored := mapM_eq_some each
  rw [entries] at stored
  rw [Rendering.actionIdMap, initialisers, List.mapM_map]
  exact (congrArg (Option.map arrayOf) stored).trans (congrArg some (arrayOf_indexed _))

/-! The lookup -/

/-- The loop stays at its entry, so that it ends only where the entry holds the number. -/
theorem actionIdLoop_stays {map : List (BitVec 32)} {actionId : BitVec 32} {action : Nat}
    (inside : action < map.length) (other : map[action]? ≠ some actionId) (fuel : Nat) (i : BitVec 32) :
    actionIdLoop map actionId fuel action i = none := by
  induction fuel generalizing i with
  | zero => rfl
  | succ fuel ih => rw [actionIdLoop, if_pos inside, if_neg other, ih]

/-- The index of the first action with the number, and −1 when there is none -/
def actionIndex (rendered : List ActionSpec) (actionId : BitVec 32) : Int :=
  match rendered.findIdx? fun action => action.id = actionId with
  | some index => index
  | none => -1

/-- The lookup of a rendered table ends with the index of the action. -/
def LookupEnds (r : Rendering) (actions : List ActionSpec) (i actionId : BitVec 32) : Prop :=
  ∃ map, r.actionIdMap actions = some map ∧
    ∃ fuel, tableActionIdMap map i fuel actionId = some (actionIndex (renderedActions actions) actionId)

/-- The lookup ends with the index of the action exactly when the table has no action, or its first action has the
number. -/
theorem lookupEnds_iff {r : Rendering} {actions : List ActionSpec}
    (distinct : ((renderedActions actions).map r.macroName).Nodup) (i actionId : BitVec 32) :
    LookupEnds r actions i actionId ↔
      ∀ action ∈ (renderedActions actions).head?, action.id = actionId := by
  have rendered := actionIdMap_eq distinct
  cases actionsEq : renderedActions actions with
  | nil =>
      rw [actionsEq] at rendered
      constructor
      · intro _ action member
        cases member
      · intro _
        refine ⟨[], rendered, 0, ?_⟩
        rw [actionsEq]
        rfl
  | cons first rest =>
      rw [actionsEq, List.map_cons] at rendered
      have positive : (first.id :: rest.map ActionSpec.id).length > 0 := Nat.succ_pos _
      constructor
      · rintro ⟨map, mapEq, fuel, ends⟩ action member
        obtain rfl : first = action := Option.some.inj member
        rw [rendered] at mapEq
        obtain rfl := Option.some.inj mapEq
        by_contra other
        rw [tableActionIdMap, if_pos positive,
          actionIdLoop_stays positive fun found => other (Option.some.inj found)] at ends
        cases ends
      · intro firstIs
        obtain rfl := firstIs first rfl
        refine ⟨_, rendered, 1, ?_⟩
        have found : (first.id :: rest.map ActionSpec.id)[0]? = some first.id := rfl
        have index : actionIndex (first :: rest) first.id = 0 := by
          rw [actionIndex, List.findIdx?_cons, if_pos (decide_eq_true rfl)]
          rfl
        rw [tableActionIdMap, if_pos positive, actionIdLoop, if_pos positive, if_pos found, actionsEq, index]
        rfl

/-- Two actions with the numbers 5 and 6 -/
def twoActions : List ActionSpec :=
  [⟨['a'], 5⟩, ⟨['b'], 6⟩]

/-- The names of a table without any case mapping -/
def plainRendering : Rendering where
  upper := id
  lower := id
  namePrefix := ['p']
  tbName := ['t']

theorem lookupEnds_iff_two :
    LookupEnds plainRendering twoActions 0 5 ↔
      ∀ action ∈ (renderedActions twoActions).head?, action.id = 5 :=
  lookupEnds_iff (by decide) 0 5

/-- The lookup of the second of two actions never ends. -/
theorem not_lookupEnds_second :
    ¬ ∀ (r : Rendering) (actions : List ActionSpec),
      ((renderedActions actions).map r.macroName).Nodup → ∀ i actionId, LookupEnds r actions i actionId := by
  intro all
  obtain ⟨map, mapEq, fuel, ends⟩ := all plainRendering twoActions (by decide) 0 6
  have mapIs : plainRendering.actionIdMap twoActions = some [5, 6] := by decide
  rw [mapIs] at mapEq
  obtain rfl := Option.some.inj mapEq
  rw [tableActionIdMap, if_pos (by decide),
    actionIdLoop_stays (by decide) (by decide)] at ends
  cases ends

end IgwP4.Apigen
