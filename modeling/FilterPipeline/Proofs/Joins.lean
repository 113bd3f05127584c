import FilterPipeline.Builder

/-!
The stages of a join. A join without a collection has none. Otherwise a loose join is one
stage, into the array that is named or else into that of the settings, and a strict join is
followed by the unwinding of its own array, which always has a proper name: the one that is
asked for, or one that is made from that of the collection.
-/

namespace FilterPipeline

namespace Lookup

variable {l : Lookup}

/-- What a name is made from after the collection is never empty. -/
theorem isTruthy_strictTarget {v : Value} (h : l.strictTarget = .ok v) : v.isTruthy = true := by
  unfold strictTarget Value.write at h
  split at h
  · rename_i htarget
    rwa [← Except.ok.inj h]
  · split at h
    · rw [← Except.ok.inj h]
      simp [Value.isTruthy]
    · cases h

theorem strict_eq {name : String} (hcollection : l.collection.isTruthy = true)
    (hname : l.strictTarget = .ok (.text name)) :
    l.strict = .ok [.lookup { l with target := .text name }, .unwind (fieldPath name)] := by
  rw [strict, if_pos hcollection, hname]
  rfl

/-- A strict join has stages only if it is about a collection and its array has a name. -/
theorem strict_cases {stages : List Stage} (h : l.strict = .ok stages) :
    stages = [] ∨ l.collection.isTruthy = true ∧ ∃ name, l.strictTarget = .ok (.text name) ∧
      stages = [.lookup { l with target := .text name }, .unwind (fieldPath name)] := by
  by_cases hcollection : l.collection.isTruthy = true
  · cases htarget : l.strictTarget with
    | error e => simp [strict, hcollection, htarget, bind, Except.bind] at h
    | ok target =>
      cases target with
      | text name =>
        rw [strict_eq hcollection htarget] at h
        exact Or.inr ⟨hcollection, name, rfl, (Except.ok.inj h).symm⟩
      | _ =>
        simp [strict, hcollection, htarget, Value.fieldPathOrFail, Value.nameOrFail, bind,
          Except.bind, Except.map] at h
  · exact Or.inl (by simpa [strict, hcollection, pure, Except.pure, eq_comm] using h)

end Lookup

namespace JoinRequest

variable (r : JoinRequest) (settings : Settings) (vs : List Value)

/-- The array of a join that has no name of its own is that of the settings. -/
def looseTarget : Value :=
  if r.target.isTruthy then r.target else .text settings.lookupAlias

theorem isTruthy_looseTarget : (r.looseTarget settings).isTruthy = true := by
  unfold looseTarget
  split
  · assumption
  · simpa [Value.isTruthy] using settings.lookupAlias_ne

theorem loose_eq : r.loose settings vs =
    if r.collection.isTruthy then
      [.lookup { r.toLookup vs with target := r.looseTarget settings }]
    else [] := rfl

/-- The name of the array of a strict join: the one that is asked for, unless there is none or it is
empty, and then one that is made from the name of the collection, which has to be written for it. -/
inductive IsStrictTarget (r : JoinRequest) : String → Prop where
  | asked {name : String} (h : r.target = .text name) (hne : name ≠ "") : r.IsStrictTarget name
  | made (h : r.target.isTruthy = false) (hwritable : r.collection.isWritable = true) :
      r.IsStrictTarget (String.ofList r.collection.plainText ++ "_looked_up")

variable {r} {name : String}

theorem strictTarget_of_unnamed (h : r.target.isTruthy = false) (vs : List Value) :
    (r.toLookup vs).strictTarget =
      r.collection.write.map fun name => .text (String.ofList (name ++ "_looked_up".toList)) := by
  have htarget : (r.toLookup vs).target.isTruthy = false := h
  rw [Lookup.strictTarget, if_neg (by simp [htarget])]
  rfl

theorem IsStrictTarget.strictTarget_eq (h : r.IsStrictTarget name) (vs : List Value) :
    (r.toLookup vs).strictTarget = .ok (.text name) := by
  cases h with
  | asked h hne => simp [Lookup.strictTarget, toLookup, h, Value.isTruthy, hne]
  | made h hwritable =>
    rw [strictTarget_of_unnamed h, Value.write, if_pos hwritable, Except.map, String.ofList_append,
      String.ofList_toList]

/-- If an array is asked for by a text, or not at all, it has a proper name, unless that would have
to be made from a collection that cannot be written. -/
theorem exists_isStrictTarget (h : r.target = .null ∨ ∃ name, r.target = .text name)
    (hwritable : r.target.isTruthy = true ∨ r.collection.isWritable = true) :
    ∃ name, r.IsStrictTarget name := by
  by_cases htarget : r.target.isTruthy = true
  · rcases h with hnull | ⟨name, hname⟩
    · rw [hnull] at htarget
      cases htarget
    · refine ⟨name, .asked hname ?_⟩
      rintro rfl
      rw [hname] at htarget
      cases htarget
  · exact ⟨_, .made (by simpa using htarget) (hwritable.resolve_left htarget)⟩

/-- A collection and a text for a name, or none, are all that a strict join needs. -/
theorem exists_strict {r : JoinRequest} (hcollection : r.collection.isTruthy = true)
    (htarget : r.target = .null ∨ ∃ name, r.target = .text name)
    (hwritable : r.target.isTruthy = true ∨ r.collection.isWritable = true) (vs : List Value) :
    ∃ name, (r.toLookup vs).strictTarget = .ok (.text name) ∧ r.strict vs =
      .ok [.lookup { r.toLookup vs with target := .text name }, .unwind (fieldPath name)] := by
  obtain ⟨name, hname⟩ := exists_isStrictTarget htarget hwritable
  have htext := hname.strictTarget_eq vs
  exact ⟨name, htext, Lookup.strict_eq hcollection htext⟩

/-- A join whose array would be named after a collection that cannot be written fails. -/
theorem strict_of_unwritable {r : JoinRequest} (hcollection : r.collection.isTruthy = true)
    (htarget : r.target.isTruthy = false) (hwritable : r.collection.isWritable = false)
    (vs : List Value) : r.strict vs = .error .tooManyDigits := by
  have hjoin : (r.toLookup vs).collection.isTruthy = true := hcollection
  rw [strict, Lookup.strict, if_pos hjoin, strictTarget_of_unnamed htarget, Value.write,
    if_neg (by simp [hwritable])]
  rfl

end JoinRequest

end FilterPipeline
