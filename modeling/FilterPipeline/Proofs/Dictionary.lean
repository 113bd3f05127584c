import FilterPipeline.Filters
import Mathlib.Data.List.Nodup

/-!
Filter dictionaries as finite maps. What is left of a dictionary when some of its keys are
removed is read off key by key. Two dictionaries that agree on some keys are told apart by
no reader of those keys alone, and two with the same keys in the same order and the same
values are equal.
-/

namespace FilterPipeline.Filters

theorem eq_of_entries {f g : Filters} (h : f.entries = g.entries) : f = g := by
  cases f
  cases g
  simpa using h

theorem mem_keys_iff (f : Filters) (key : String) :
    key ∈ f.keys ↔ ∃ v, (key, v) ∈ f.entries := by
  simp [keys]

theorem contains_iff (f : Filters) (key : String) : f.contains key = true ↔ key ∈ f.keys := by
  simp [contains]

/-- No other entry has the key of an entry. -/
theorem split_of_mem (f : Filters) {key : String} {v : Value} (h : (key, v) ∈ f.entries) :
    ∃ front back, f.entries = front ++ (key, v) :: back ∧ ∀ e ∈ front ++ back, e.1 ≠ key := by
  obtain ⟨front, back, he⟩ := List.append_of_mem h
  refine ⟨front, back, he, ?_⟩
  have hnodup := f.nodup
  rw [he, List.map_append, List.map_cons] at hnodup
  have hrest := (List.nodup_cons.mp (List.nodup_middle.mp hnodup)).1
  rw [← List.map_append] at hrest
  intro e hmem hkey
  exact hrest (List.mem_map.mpr ⟨e, hmem, hkey⟩)

theorem get?_eq_none_iff (f : Filters) (key : String) : f.get? key = none ↔ key ∉ f.keys := by
  rw [mem_keys_iff]
  simp only [get?, List.lookup_eq_none_iff, bne_iff_ne, ne_eq]
  constructor
  · rintro h ⟨v, hv⟩
    exact h _ hv rfl
  · rintro h ⟨k, v⟩ he rfl
    exact h ⟨v, he⟩

/-- As no key occurs twice, an entry is found wherever it stands. -/
theorem get?_eq_some_iff (f : Filters) (key : String) (v : Value) :
    f.get? key = some v ↔ (key, v) ∈ f.entries := by
  constructor
  · intro h
    obtain ⟨front, back, he, _⟩ := List.lookup_eq_some_iff.mp h
    rw [he]
    simp
  · intro h
    obtain ⟨front, back, he, hothers⟩ := f.split_of_mem h
    refine List.lookup_eq_some_iff.mpr ⟨front, back, he, ?_⟩
    intro e hmem
    rw [bne_iff_ne]
    exact (hothers e (List.mem_append_left _ hmem)).symm

theorem isSome_get?_iff (f : Filters) (key : String) :
    (f.get? key).isSome = true ↔ key ∈ f.keys := by
  rw [← not_iff_not, Bool.not_eq_true, Option.isSome_eq_false_iff, Option.isNone_iff_eq_none]
  exact get?_eq_none_iff f key

theorem contains_of_isPresent {f : Filters} {key : String}
    (h : (f.value key).isPresent = true) : f.contains key = true := by
  rw [contains_iff, ← isSome_get?_iff]
  unfold value at h
  cases hv : f.get? key with
  | none =>
    rw [hv] at h
    cases h
  | some v => rfl

theorem filter_key_of_mem {f : Filters} {key : String} {v : Value} (h : (key, v) ∈ f.entries) :
    f.entries.filter (·.1 == key) = [(key, v)] := by
  obtain ⟨front, back, he, hothers⟩ := f.split_of_mem h
  have hfront : front.filter (·.1 == key) = [] := List.filter_eq_nil_iff.mpr fun e hmem => by
    simpa using hothers e (List.mem_append_left _ hmem)
  have hback : back.filter (·.1 == key) = [] := List.filter_eq_nil_iff.mpr fun e hmem => by
    simpa using hothers e (List.mem_append_right _ hmem)
  rw [he, List.filter_append, List.filter_cons_of_pos (by simp), hfront, hback]
  rfl

theorem mem_entries_insert (f : Filters) (key : String) (v : Value) (e : String × Value) :
    e ∈ (f.insert key v).entries ↔ e = (key, v) ∨ e.1 ≠ key ∧ e ∈ f.entries := by
  unfold insert
  split
  · rename_i hkey
    obtain ⟨w, hw⟩ := (f.mem_keys_iff key).mp hkey
    simp only [replace, List.mem_map]
    constructor
    · rintro ⟨d, hd, rfl⟩
      split
      · exact Or.inl rfl
      · rename_i hne
        exact Or.inr ⟨hne, hd⟩
    · rintro (rfl | ⟨hne, he⟩)
      · exact ⟨(key, w), hw, if_pos rfl⟩
      · exact ⟨e, he, if_neg hne⟩
  · rename_i hkey
    rw [List.mem_append, List.mem_singleton, or_comm]
    refine or_congr_right ⟨fun he => ⟨?_, he⟩, And.right⟩
    rintro rfl
    exact hkey ((f.mem_keys_iff e.1).mpr ⟨e.2, he⟩)

theorem get?_insert (f : Filters) (k : String) (v : Value) (key : String) :
    (f.insert k v).get? key = if key = k then some v else f.get? key := by
  apply Option.ext
  intro w
  rw [get?_eq_some_iff, mem_entries_insert]
  split
  · rename_i hkey
    simp [hkey, eq_comm]
  · rename_i hkey
    simp [hkey, get?_eq_some_iff]

theorem value_insert (f : Filters) (k : String) (v : Value) (key : String) :
    (f.insert k v).value key = if key = k then v else f.value key := by
  rw [value, get?_insert]
  split <;> rfl

@[simp] theorem entries_eraseAll (f : Filters) (ks : List String) :
    (f.eraseAll ks).entries = f.entries.filter fun e => !ks.contains e.1 := rfl

theorem keys_eraseAll (f : Filters) (ks : List String) :
    (f.eraseAll ks).keys = f.keys.filter fun k => !ks.contains k := by
  simp [keys, List.filter_map, Function.comp_def]

theorem mem_keys_eraseAll (f : Filters) (ks : List String) (key : String) :
    key ∈ (f.eraseAll ks).keys ↔ key ∈ f.keys ∧ key ∉ ks := by
  simp [keys_eraseAll]

theorem mem_entries_eraseAll (f : Filters) (ks : List String) (e : String × Value) :
    e ∈ (f.eraseAll ks).entries ↔ e ∈ f.entries ∧ e.1 ∉ ks := by
  simp

theorem get?_eraseAll (f : Filters) (ks : List String) (key : String) :
    (f.eraseAll ks).get? key = if key ∈ ks then none else f.get? key := by
  by_cases hk : key ∈ ks
  · rw [if_pos hk, get?_eq_none_iff, mem_keys_eraseAll]
    exact fun h => h.2 hk
  · rw [if_neg hk]
    apply Option.ext
    intro v
    rw [get?_eq_some_iff, get?_eq_some_iff, mem_entries_eraseAll]
    exact and_iff_left hk

@[simp] theorem eraseAll_nil (f : Filters) : f.eraseAll [] = f := by
  apply eq_of_entries
  simp

@[simp] theorem eraseAll_keys (f : Filters) : f.eraseAll f.keys = empty := by
  apply eq_of_entries
  rw [entries_eraseAll, List.filter_eq_nil_iff.mpr, empty]
  intro e he
  simpa using (f.mem_keys_iff e.1).mpr ⟨e.2, he⟩

theorem eraseAll_comm (f : Filters) (ks ls : List String) :
    (f.eraseAll ks).eraseAll ls = (f.eraseAll ls).eraseAll ks := by
  apply eq_of_entries
  simp only [entries_eraseAll, List.filter_filter]
  exact List.filter_congr fun e _ => Bool.and_comm _ _

/-- Two dictionaries hold the same for every one of some keys, or nothing. -/
def AgreeOn (ks : List String) (f g : Filters) : Prop := ∀ key ∈ ks, f.get? key = g.get? key

namespace AgreeOn

variable {ks ls : List String} {f g : Filters}

theorem mono (h : AgreeOn ks f g) (hsub : ∀ key ∈ ls, key ∈ ks) : AgreeOn ls f g :=
  fun key hk => h key (hsub key hk)

theorem value_eq (h : AgreeOn ks f g) {key : String} (hk : key ∈ ks) :
    f.value key = g.value key := by
  unfold value
  rw [h key hk]

theorem contains_eq (h : AgreeOn ks f g) {key : String} (hk : key ∈ ks) :
    f.contains key = g.contains key := by
  rw [Bool.eq_iff_iff, contains_iff, contains_iff, ← isSome_get?_iff, ← isSome_get?_iff, h key hk]

theorem filter_contains_eq (h : AgreeOn ks f g) :
    ks.filter f.contains = ks.filter g.contains :=
  List.filter_congr fun _ hk => h.contains_eq hk

/-- Removing other keys is not noticed. -/
theorem eraseAll (f : Filters) (hdisj : ks.Disjoint ls) : AgreeOn ks (f.eraseAll ls) f := by
  intro key hk
  rw [get?_eraseAll, if_neg (hdisj hk)]

end AgreeOn

/-- The entries are the keys together with what is found under them. -/
theorem entries_map_some (f : Filters) :
    (f.entries.map fun e => (e.1, some e.2)) = f.keys.map fun key => (key, f.get? key) := by
  rw [keys, List.map_map]
  apply List.map_congr_left
  intro e he
  rw [Function.comp_apply, (f.get?_eq_some_iff e.1 e.2).mpr he]

/-- A dictionary is given by its keys in their order and what they hold. -/
theorem ext_get? {f g : Filters} (hkeys : f.keys = g.keys)
    (hget : ∀ key ∈ f.keys, f.get? key = g.get? key) : f = g := by
  have hinj : Function.Injective fun e : String × Value => (e.1, some e.2) := by
    rintro ⟨k, v⟩ ⟨l, w⟩ h
    simpa using h
  apply eq_of_entries
  apply List.map_injective_iff.mpr hinj
  rw [entries_map_some, entries_map_some, ← hkeys]
  exact List.map_congr_left fun key hk => congrArg (Prod.mk key) (hget key hk)

/-- Two dictionaries have the same entries, in whatever order. -/
def SameEntries (f g : Filters) : Prop := f.entries.Perm g.entries

theorem sameEntries_iff {f g : Filters} : SameEntries f g ↔ ∀ key, f.get? key = g.get? key := by
  rw [SameEntries, List.perm_ext_iff_of_nodup (f.nodup.of_map _) (g.nodup.of_map _)]
  constructor
  · intro h key
    apply Option.ext
    intro v
    rw [get?_eq_some_iff, get?_eq_some_iff]
    exact h (key, v)
  · rintro h ⟨key, v⟩
    rw [← get?_eq_some_iff, ← get?_eq_some_iff, h]

/-- Entries that are set one after the other replace what was there of their keys. -/
theorem get?_foldl_insert {entries : List (String × Value)}
    (hnodup : (entries.map Prod.fst).Nodup) (f : Filters) (key : String) :
    (entries.foldl (fun f e => f.insert e.1 e.2) f).get? key =
      (entries.lookup key).or (f.get? key) := by
  induction entries generalizing f with
  | nil => rfl
  | cons e rest ih =>
    rw [List.map_cons, List.nodup_cons] at hnodup
    rw [List.foldl_cons, ih hnodup.2, get?_insert, List.lookup_cons]
    by_cases hkey : key = e.1
    · have hrest : rest.lookup key = none := by
        rw [List.lookup_eq_none_iff]
        intro d hd
        rw [bne_iff_ne, hkey]
        exact fun h => hnodup.1 (List.mem_map.mpr ⟨d, hd, h.symm⟩)
      rw [hrest, if_pos hkey, beq_iff_eq.mpr hkey]
      rfl
    · rw [if_neg hkey, beq_eq_false_iff_ne.mpr hkey]

namespace SameEntries

variable {f g p q : Filters}

theorem agreeOn (h : SameEntries f g) (ks : List String) : AgreeOn ks f g :=
  fun key _ => sameEntries_iff.mp h key

theorem eraseAll (h : SameEntries f g) (ks : List String) :
    SameEntries (f.eraseAll ks) (g.eraseAll ks) := h.filter _

theorem foldl_insert (h : SameEntries f g) (hpq : SameEntries p q) :
    SameEntries (f.entries.foldl (fun p e => p.insert e.1 e.2) p)
      (g.entries.foldl (fun p e => p.insert e.1 e.2) q) := by
  rw [sameEntries_iff] at h hpq ⊢
  intro key
  rw [get?_foldl_insert f.nodup, get?_foldl_insert g.nodup, hpq key]
  exact congrArg (Option.or · _) (h key)

end SameEntries

end FilterPipeline.Filters
