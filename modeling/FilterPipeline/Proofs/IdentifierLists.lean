import FilterPipeline.Host.Published
import FilterPipeline.Proofs.NamedFields

/-!
Lists of identifiers. Whether a value is an identifier and what it is converted to are two
questions to the host; all that is relied on is that what is accepted can be converted. Then each
identifier among the values of a list is kept as often as it occurs and where it occurs, whatever
stands between, so that lists can be converted piece by piece and again. The rules that work on
such lists emit the same list for a value, wherever they find the value, and for a value that is no
collection this is the list of what the rule about a single identifier emits.
-/

namespace FilterPipeline

/-- What is accepted as an identifier can be converted to one. -/
def Host.ConvertsIds [Host] : Prop :=
  ∀ cs, isIdText cs = true → (idOfText? cs).isSome = true

theorem Host.convertsIds_published : Host.ConvertsIds := fun _ h => h

namespace Value

def isCollection : Value → Bool
  | .list _ | .tuple _ | .set _ => true
  | _ => false

theorem elements_of_not_isCollection {v : Value} (h : v.isCollection = false) :
    v.elements = [v] := by
  cases v with
  | list | tuple | set => cases h
  | _ => rfl

end Value

section

variable [Host]

namespace Value

/-- Some values and the identifiers that they are converted to, with the other values left out. -/
inductive Keeps : List Value → List ObjectId → Prop where
  | nil : Keeps [] []
  | keep {v : Value} {oid : ObjectId} {vs : List Value} {oids : List ObjectId}
      (hv : v.isId = true) (hoid : v.convertId = .ok oid) (hvs : Keeps vs oids) :
      Keeps (v :: vs) (oid :: oids)
  | drop {v : Value} {vs : List Value} {oids : List ObjectId}
      (hv : v.isId = false) (hvs : Keeps vs oids) : Keeps (v :: vs) oids

variable {v : Value} {oid : ObjectId} {vs ws : List Value} {oids others : List ObjectId}

theorem exists_convertId (hids : Host.ConvertsIds) (hv : v.isId = true) :
    ∃ oid, v.convertId = .ok oid := by
  cases v with
  | id oid => exact ⟨oid, rfl⟩
  | text s =>
    obtain ⟨oid, hoid⟩ := Option.isSome_iff_exists.mp (hids s.toList hv)
    exact ⟨oid, by rw [convertId, hoid]⟩
  | _ => cases hv

theorem toIds_cons_of_isId (hv : v.isId = true) (vs : List Value) :
    toIds (v :: vs) = do
      let oid ← v.convertId
      let oids ← toIds vs
      return oid :: oids := by
  rw [toIds, List.filter_cons_of_pos hv, List.mapM_cons]
  rfl

theorem toIds_cons_of_not_isId (hv : v.isId = false) (vs : List Value) :
    toIds (v :: vs) = toIds vs := by
  rw [toIds, List.filter_cons_of_neg (by simp [hv])]
  rfl

theorem Keeps.toIds_eq (h : Keeps vs oids) : toIds vs = .ok oids := by
  induction h with
  | nil => rfl
  | keep hv hoid _ ih =>
    rw [toIds_cons_of_isId hv, hoid, ih]
    rfl
  | drop hv _ ih => rw [toIds_cons_of_not_isId hv, ih]

theorem exists_keeps (hids : Host.ConvertsIds) (vs : List Value) : ∃ oids, Keeps vs oids := by
  induction vs with
  | nil => exact ⟨[], .nil⟩
  | cons v vs ih =>
    obtain ⟨oids, hoids⟩ := ih
    cases hv : v.isId with
    | true =>
      obtain ⟨oid, hoid⟩ := exists_convertId hids hv
      exact ⟨oid :: oids, .keep hv hoid hoids⟩
    | false => exact ⟨oids, .drop hv hoids⟩

theorem exists_toIds (hids : Host.ConvertsIds) (vs : List Value) :
    ∃ oids, toIds vs = .ok oids := by
  obtain ⟨oids, hoids⟩ := exists_keeps hids vs
  exact ⟨oids, hoids.toIds_eq⟩

theorem keeps_iff (hids : Host.ConvertsIds) : Keeps vs oids ↔ toIds vs = .ok oids := by
  refine ⟨Keeps.toIds_eq, fun h => ?_⟩
  obtain ⟨kept, hkept⟩ := exists_keeps hids vs
  obtain rfl : kept = oids := Except.ok.inj (hkept.toIds_eq.symm.trans h)
  exact hkept

theorem Keeps.append (h : Keeps vs oids) (hws : Keeps ws others) :
    Keeps (vs ++ ws) (oids ++ others) := by
  induction h with
  | nil => exact hws
  | keep hv hoid _ ih => exact .keep hv hoid ih
  | drop hv _ ih => exact .drop hv ih

/-- Identifiers are kept as they are. -/
theorem keeps_map_id (oids : List ObjectId) : Keeps (oids.map .id) oids := by
  induction oids with
  | nil => exact .nil
  | cons oid oids ih => exact .keep rfl rfl ih

theorem Keeps.eq_nil_iff (h : Keeps vs oids) : oids = [] ↔ ∀ v ∈ vs, v.isId = false := by
  induction h with
  | nil => simp
  | keep hv _ _ _ => simp [hv]
  | drop hv _ ih => simp [hv, ih]

end Value

namespace Rule

variable {f : Filters} {name key : String} {given : Value} {oids : List ObjectId}

/-- The stages for some identifiers: one, if there are any. -/
def idsStages (name : String) (oids : List ObjectId) : List Stage :=
  if oids = [] then [] else [.filter (.single (.text name) (.among (oids.map .id)))]

theorem idListMatch_of_isPresent (name : String) (hpresent : (inputOr f given key).isPresent = true)
    (hoids : Value.toIds (inputOr f given key).elements = .ok oids) :
    ∃ t, idListMatch f (.text name) (.text key) given = .ok t ∧ t.stages = idsStages name oids := by
  unfold idListMatch
  rw [resolve_text]
  simp only [bind, Except.bind, hpresent, Bool.not_true, Bool.false_eq_true, if_false, hoids]
  cases oids with
  | nil => exact ⟨_, rfl, rfl⟩
  | cons oid oids => exact ⟨_, rfl, rfl⟩

theorem idListMatch_of_not_isPresent (name : String)
    (hpresent : ¬ (inputOr f given key).isPresent = true) :
    ∃ t, idListMatch f (.text name) (.text key) given = .ok t ∧ t.stages = [] := by
  unfold idListMatch
  rw [resolve_text]
  simp only [bind, Except.bind, hpresent, Bool.not_false, if_true]
  exact ⟨_, rfl, rfl⟩

theorem translate_id (zone : Except Error Zone) (f : Filters) (name : String) :
    (id (.text name)).translate zone f = settle (f.value name)
      ((idOf (f.value name)).map fun v => v.map (Stage.equality name))
      ([name].filter f.contains) := by
  rw [translate, equalityMatch_text]
  rfl

/-- A single identifier is emitted if the value is set and converted to it. -/
theorem id_emits_iff (zone : Except Error Zone) (f : Filters) (name : String) (oid : ObjectId) :
    (∃ t, (id (.text name)).translate zone f = .ok t ∧
        t.stages = [.filter (.single (.text name) (.equals (.id oid)))]) ↔
      (f.value name).isPresent = true ∧ (f.value name).isId = true ∧
        (f.value name).convertId = .ok oid := by
  rw [translate_id, settle]
  by_cases hpresent : (f.value name).isPresent = true
  · rw [if_pos hpresent]
    unfold idOf
    by_cases hid : (f.value name).isId = true
    · rw [if_pos hid]
      cases hconvert : (f.value name).convertId with
      | error e => simp [Except.map, bind, Except.bind]
      | ok other =>
        simp [Except.map, bind, Except.bind, hpresent, hid, Translation.of, Stage.equality,
          Query.single]
    · rw [if_neg hid]
      cases (f.value name).spell with
      | error e => simp [Except.map, bind, Except.bind, hid]
      | ok text => simp [Except.map, bind, Except.bind, hid, Translation.skip]
  · simp [hpresent, Translation.skip]

/-- A value that is no collection gives one identifier to the rule about a single one exactly if it
gives the list of this one to the rule about several. -/
theorem id_emits_iff_ids (hids : Host.ConvertsIds) (zone : Except Error Zone)
    (hv : (f.value name).isCollection = false) (oid : ObjectId) :
    (∃ t, (id (.text name)).translate zone f = .ok t ∧
        t.stages = [.filter (.single (.text name) (.equals (.id oid)))]) ↔
      ∃ t, (ids (.text name)).translate zone f = .ok t ∧
        t.stages = [.filter (.single (.text name) (.among [.id oid]))] := by
  rw [id_emits_iff]
  by_cases hpresent : (f.value name).isPresent = true
  · obtain ⟨oids, hkeeps⟩ := Value.exists_keeps hids (f.value name).elements
    obtain ⟨t, ht, hstages⟩ :=
      idListMatch_of_isPresent name (show (inputOr f .null name).isPresent = true from hpresent)
        hkeeps.toIds_eq
    rw [Value.elements_of_not_isCollection hv] at hkeeps
    rw [show (ids (.text name)).translate zone f = .ok t from ht]
    simp only [Except.ok.injEq, exists_eq_left', hstages]
    cases hkeeps with
    | keep hid hoid hrest =>
      cases hrest
      simp [hpresent, hid, hoid, idsStages, Query.single]
    | drop hid hrest =>
      cases hrest
      simp [hid, idsStages]
  · obtain ⟨t, ht, hstages⟩ :=
      idListMatch_of_not_isPresent name
        (show ¬ (inputOr f .null name).isPresent = true from hpresent)
    rw [show (ids (.text name)).translate zone f = .ok t from ht]
    simp [hpresent, hstages]

/-- What is accepted as an identifier is converted to one, and identifiers are copied. In a list
the identifiers are kept in order and as often as they occur, so that lists are converted piece by
piece and not changed by a second conversion. For a value that is set, the bare key, the key with a
suffix and a given value lead to the same stage, which is there if the value has an identifier among
its elements. A value that is no collection gives the list of one identifier where it gives this one
to the rule about a single identifier. -/
theorem identifiers_kept (hids : Host.ConvertsIds) :
    (∀ v : Value, v.isId = true → ∃ oid, v.convertId = .ok oid) ∧
    (∀ oid, (Value.id oid).isId = true ∧ (Value.id oid).convertId = .ok oid) ∧
    (∀ vs, ∃ oids, Value.toIds vs = .ok oids) ∧
    (∀ (vs : List Value) (oids : List ObjectId),
      Value.Keeps vs oids ↔ Value.toIds vs = .ok oids) ∧
    (∀ (vs ws : List Value) (oids others : List ObjectId), Value.toIds vs = .ok oids →
      Value.toIds ws = .ok others → Value.toIds (vs ++ ws) = .ok (oids ++ others)) ∧
    (∀ (vs : List Value) (oids : List ObjectId), Value.toIds vs = .ok oids →
      Value.toIds (oids.map .id) = .ok oids) ∧
    (∀ (zone : Except Error Zone) (f g h : Filters) (name : String) (v : Value),
      v.isPresent = true → f.value name = v →
      g.value (operatorKey (.text name) .among) = v →
      ∃ oids bare suffixed given, Value.toIds v.elements = .ok oids ∧
        (ids (.text name)).translate zone f = .ok bare ∧
        (idsAmong (.text name) .null).translate zone g = .ok suffixed ∧
        (idsAmong (.text name) v).translate zone h = .ok given ∧
        bare.stages = idsStages name oids ∧ suffixed.stages = bare.stages ∧
        given.stages = bare.stages ∧
        (bare.stages ≠ [] ↔ ∃ w ∈ v.elements, w.isId = true)) ∧
    ∀ (zone : Except Error Zone) (f : Filters) (name : String),
      (f.value name).isCollection = false → ∀ oid,
      ((∃ t, (id (.text name)).translate zone f = .ok t ∧
          t.stages = [.filter (.single (.text name) (.equals (.id oid)))]) ↔
        ∃ t, (ids (.text name)).translate zone f = .ok t ∧
          t.stages = [.filter (.single (.text name) (.among [.id oid]))]) := by
  refine ⟨fun v => Value.exists_convertId hids, fun oid => ⟨rfl, rfl⟩, Value.exists_toIds hids,
    fun vs oids => Value.keeps_iff hids, ?append,
    fun vs oids _ => (Value.keeps_map_id oids).toIds_eq, ?rules,
    fun zone f name hv oid => id_emits_iff_ids hids zone hv oid⟩
  case append =>
    intro vs ws oids others hvs hws
    exact (((Value.keeps_iff hids).mpr hvs).append ((Value.keeps_iff hids).mpr hws)).toIds_eq
  case rules =>
    intro zone f g h name v hv hf hg
    -- What is set is not null, and so it is taken in place of the key.
    have hinput : inputOr h v (operatorKey (.text name) .among) = v := by
      cases v with
      | null => cases hv
      | _ => rfl
    obtain ⟨oids, hkeeps⟩ := Value.exists_keeps hids v.elements
    have hoids := hkeeps.toIds_eq
    obtain ⟨bare, hbare, hbareStages⟩ : ∃ t, idListMatch f (.text name) (.text name) .null =
        .ok t ∧ t.stages = idsStages name oids :=
      idListMatch_of_isPresent _ (by rwa [inputOr, hf]) (by rwa [inputOr, hf])
    obtain ⟨suffixed, hsuffixed, hsuffixedStages⟩ : ∃ t, idListMatch g (.text name)
        (.text (operatorKey (.text name) .among)) .null = .ok t ∧ t.stages = idsStages name oids :=
      idListMatch_of_isPresent _ (by rwa [inputOr, hg]) (by rwa [inputOr, hg])
    obtain ⟨given, hgiven, hgivenStages⟩ : ∃ t, idListMatch h (.text name)
        (.text (operatorKey (.text name) .among)) v = .ok t ∧ t.stages = idsStages name oids :=
      idListMatch_of_isPresent _ (by rwa [hinput]) (by rwa [hinput])
    refine ⟨oids, bare, suffixed, given, hoids, hbare, hsuffixed, hgiven, hbareStages,
      hsuffixedStages.trans hbareStages.symm, hgivenStages.trans hbareStages.symm, ?_⟩
    rw [hbareStages, idsStages]
    have hnil := hkeeps.eq_nil_iff
    by_cases hoidsNil : oids = []
    · rw [if_pos hoidsNil]
      simpa using hnil.mp hoidsNil
    · rw [if_neg hoidsNil]
      simpa [hoidsNil] using hnil

end Rule

end

namespace Rule

/-- An identifier that is spelled twice, among other values. -/
def mixedOwners : Value := .tuple [.text "64B7F0C2A1B2C3D4E5F60718", .int 7, .text "nobody",
  .text "64b7f0c2a1b2c3d4e5f60718"]

/-- The same values under a bare key and under one with a suffix. -/
def owners : Filters := .ofList [("owner", mixedOwners), ("owner-in", mixedOwners)]

/-- An identifier that occurs twice is kept twice. -/
theorem identifiers_kept_owners : Host.ConvertsIds ∧ ∃ oid bare suffixed,
    (ids (.text "owner")).translate (.ok .utc) owners = .ok bare ∧
      (idsAmong (.text "owner") .null).translate (.ok .utc) owners = .ok suffixed ∧
      suffixed.stages = bare.stages ∧
      bare.stages = [.filter (.single (.text "owner") (.among [.id oid, .id oid]))] := by
  obtain ⟨-, -, -, -, -, -, hrules, -⟩ := identifiers_kept Host.convertsIds_published
  obtain ⟨oids, bare, suffixed, -, hoids, hbare, hsuffixed, -, hstages, hsame, -⟩ :=
    hrules (.ok .utc) owners owners owners "owner" mixedOwners rfl rfl (by rfl)
  obtain ⟨oid, htwice⟩ : ∃ oid, Value.toIds mixedOwners.elements = .ok [oid, oid] := ⟨_, rfl⟩
  obtain rfl := Except.ok.inj (hoids.symm.trans htwice)
  exact ⟨Host.convertsIds_published, oid, bare, suffixed, hbare, hsuffixed, hsame, hstages⟩

end Rule

end FilterPipeline
