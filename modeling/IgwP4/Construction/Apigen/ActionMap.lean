/-
This file gives the lookup of an action that the API generator renders for a table.
-/

import IgwP4.Construction.Apigen.Filters

namespace IgwP4.Apigen

/-- An entry of `action_specs`, as far as the lookup is rendered from it -/
structure ActionSpec where
  name : Name
  id : BitVec 32

def noAction : Name := ['N', 'o', 'A', 'c', 't', 'i', 'o', 'n']

/-- How the template writes names: the case mappings of texts, the prefix and the name of the table -/
structure Rendering where
  upper : Char → Char
  lower : Char → Char
  namePrefix : Name
  tbName : Name

/-- `{{prefix|upper}}_{{tb_name|upper}}_ACT_{{utils.field_name(action.name|last_part)|upper}}` -/
def Rendering.macroName (r : Rendering) (action : ActionSpec) : Name :=
  r.namePrefix.map r.upper ++ '_' :: r.tbName.map r.upper ++ ['_', 'A', 'C', 'T', '_'] ++
    ((normalizeFieldName (lastPart action.name)).map r.lower).map r.upper

/-- The loops of the templates leave out `NoAction`. -/
def renderedActions (actions : List ActionSpec) : List ActionSpec :=
  actions.filter fun action => action.name ≠ noAction

/-- The definitions of the header, where `loop.index0` counts the rendered actions -/
def Rendering.defines (r : Rendering) (actions : List ActionSpec) : List (Name × Nat) :=
  (renderedActions actions).zipIdx.map fun action => (r.macroName action.1, action.2)

/-- The designated initialisers of `g_action_id_map` -/
def Rendering.initialisers (r : Rendering) (actions : List ActionSpec) : List (Name × BitVec 32) :=
  (renderedActions actions).map fun action => (r.macroName action, action.id)

/-- The last definition of a name counts. -/
def expand (defines : List (Name × Nat)) (macroName : Name) : Option Nat := defines.reverse.lookup macroName

/-- An array ends behind its largest index. -/
def arraySize {α : Type} (entries : List (Nat × α)) : Nat :=
  entries.foldl (fun size entry => max size (entry.1 + 1)) 0

/-- Of two initialisers for an index the last counts, and an index without one holds zero. -/
def arrayOf (entries : List (Nat × BitVec 32)) : List (BitVec 32) :=
  (List.range (arraySize entries)).map fun index => (entries.reverse.lookup index).getD 0

/-- `g_action_id_map`, unless a name is not defined -/
def Rendering.actionIdMap (r : Rendering) (actions : List ActionSpec) : Option (List (BitVec 32)) :=
  ((r.initialisers actions).mapM fun entry =>
    (expand (r.defines actions) entry.1).map fun index => (index, entry.2)).map arrayOf

/-- The loop counts `i` and compares the entry of `action`, and gives nothing when its fuel runs out. -/
def actionIdLoop (map : List (BitVec 32)) (actionId : BitVec 32) : Nat → Nat → BitVec 32 → Option Int
  | 0, _, _ => none
  | fuel + 1, action, i =>
      if action < map.length then
        if map[action]? = some actionId then some action else actionIdLoop map actionId fuel action (i + 1)
      else some (-1)

/-- `__<tb_name>_action_id_map`, where `i` holds what stood in its place before -/
def tableActionIdMap (map : List (BitVec 32)) (i : BitVec 32) (fuel : Nat) (actionId : BitVec 32) :
    Option Int :=
  if map.length > 0 then actionIdLoop map actionId fuel 0 i else some (-1)

end IgwP4.Apigen
