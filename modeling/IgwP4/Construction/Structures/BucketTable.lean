/-
This file gives hash tables whose buckets are lists with the newest entry first.
-/

import Mathlib.Data.List.Nodup

namespace IgwP4.Structures

/-- The buckets by their key -/
abbrev BucketTable (Key Entry : Type) := Key → List Entry

namespace BucketTable

variable {Key Entry Name : Type} [DecidableEq Key]

def empty : BucketTable Key Entry := fun _ => []

/-- The new entry becomes the head of its bucket. -/
def addHead (hash : Name → Key) (name : Entry → Name) (table : BucketTable Key Entry) (entry : Entry) :
    BucketTable Key Entry :=
  Function.update table (hash (name entry)) (entry :: table (hash (name entry)))

/-- The first entry of this name in the bucket of the name -/
def get [DecidableEq Name] (hash : Name → Key) (name : Entry → Name) (table : BucketTable Key Entry) (wanted : Name) : Option Entry :=
  (table (hash wanted)).find? fun entry => name entry == wanted

def ofList (hash : Name → Key) (name : Entry → Name) (entries : List Entry) : BucketTable Key Entry :=
  entries.foldl (addHead hash name) empty

variable (hash : Name → Key) (name : Entry → Name)

/-- A bucket holds the entries whose name belongs to it, the newest first. -/
theorem foldl_addHead (entries : List Entry) (table : BucketTable Key Entry) (key : Key) :
    entries.foldl (addHead hash name) table key =
      (entries.filter fun entry => hash (name entry) == key).reverse ++ table key := by
  induction entries generalizing table with
  | nil => rfl
  | cons entry rest ih =>
      rw [List.foldl_cons, ih, addHead, List.filter_cons]
      by_cases same : hash (name entry) = key
      · subst same
        simp
      · rw [Function.update_of_ne (Ne.symm same), if_neg (by simpa using same)]

variable [DecidableEq Name]

/-- The buckets do not show: the newest entry of a name is found, whatever the hash is. -/
theorem get_ofList (entries : List Entry) (wanted : Name) :
    get hash name (ofList hash name entries) wanted = entries.reverse.find? fun entry => name entry == wanted := by
  rw [get, ofList, foldl_addHead, empty, List.append_nil, ← List.filter_reverse, List.find?_filter]
  congr 1
  funext entry
  by_cases same : name entry = wanted
  · simp [same]
  · simp [same]

variable {name}

/-- With distinct names the table finds exactly the entries of the list. -/
theorem get_ofList_eq_some_iff {entries : List Entry} (distinct : (entries.map name).Nodup) (wanted : Name)
    (entry : Entry) :
    get hash name (ofList hash name entries) wanted = some entry ↔ entry ∈ entries ∧ name entry = wanted := by
  rw [get_ofList]
  constructor
  · intro found
    exact ⟨List.mem_reverse.mp (List.mem_of_find?_eq_some found), by simpa using List.find?_some found⟩
  · rintro ⟨member, rfl⟩
    cases found : entries.reverse.find? fun other => name other == name entry with
    | none => exact absurd (List.find?_eq_none.mp found entry (List.mem_reverse.mpr member)) (by simp)
    | some other =>
        have among := List.mem_reverse.mp (List.mem_of_find?_eq_some found)
        have same : name other = name entry := by simpa using List.find?_some found
        rw [List.inj_on_of_nodup_map distinct among member same]

end BucketTable

end IgwP4.Structures
