import FilterPipeline.Value

/-!
Filter dictionaries: entries in the order in which their keys were first set, with at
most one entry for a key. Setting a key again keeps its place.
-/

namespace FilterPipeline

structure Filters where
  entries : List (String × Value)
  nodup : (entries.map Prod.fst).Nodup
deriving Repr

namespace Filters

def empty : Filters := ⟨[], .nil⟩

def keys (f : Filters) : List String := f.entries.map Prod.fst

def contains (f : Filters) (key : String) : Bool := f.keys.contains key

def get? (f : Filters) (key : String) : Option Value := f.entries.lookup key

/-- The value of a key; a key without an entry counts as holding null. -/
def value (f : Filters) (key : String) : Value := (f.get? key).getD .null

/-- The entries with the value of a key replaced. -/
def replace (key : String) (v : Value) (entries : List (String × Value)) : List (String × Value) :=
  entries.map fun e => if e.1 = key then (key, v) else e

theorem replace_keys (key : String) (v : Value) (entries : List (String × Value)) :
    (replace key v entries).map Prod.fst = entries.map Prod.fst := by
  simp only [replace, List.map_map]
  apply List.map_congr_left
  intro e _
  by_cases h : e.1 = key <;> simp [h]

def insert (f : Filters) (key : String) (v : Value) : Filters :=
  if h : key ∈ f.keys then
    ⟨replace key v f.entries, by rw [replace_keys]; exact f.nodup⟩
  else
    ⟨f.entries ++ [(key, v)], by
      rw [List.map_append, List.nodup_append]
      refine ⟨f.nodup, by simp, ?_⟩
      intro a ha b hb hab
      simp only [List.map_cons, List.map_nil, List.mem_singleton] at hb
      exact h (hb ▸ hab ▸ ha)⟩

/-- The dictionary without the given keys. -/
def eraseAll (f : Filters) (keys : List String) : Filters :=
  ⟨f.entries.filter fun e => !keys.contains e.1,
    f.nodup.sublist (List.Sublist.map _ List.filter_sublist)⟩

/-- Sets the given entries one after the other. -/
def ofList (entries : List (String × Value)) : Filters :=
  entries.foldl (fun f e => f.insert e.1 e.2) empty

def toDocument (f : Filters) : Value := .record f.entries

end Filters

end FilterPipeline
