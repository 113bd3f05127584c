import FilterPipeline.Host.Published
import FilterPipeline.Proofs.Locality

/-!
The keys that a rule names. They are said by kind: the bare key of its field, the keys of its
fields with its operators, and its flag. A rule that was given a value names none. What a rule
does depends on a dictionary by the keys that it names alone, and those of them that are there are
consumed, whatever their values are and whether or not a stage comes of them.
-/

namespace FilterPipeline.Rule

open Filters

/-- The field whose bare key a rule names, or the flag of its own that it was told to look at. -/
def bare? : Rule → Option Value
  | .text field _ | .search field _ | .number field _ | .truth field _ | .moment field _ _
  | .id field | .ids field | .notDeleted field => some field
  | .expect _ _ flagKey => if flagKey.isTruthy then some flagKey else none
  | _ => none

/-- The fields that a rule names together with an operator. -/
def operators : Rule → List (Value × Operator)
  | .notEqual field => [(field, .notEqual)]
  | .comparison field c => [(field, c.operator)]
  | .range field _ | .dayRange field => [(field, .rangeFrom), (field, .rangeTo)]
  | .trueOrFalse field => [(field, .isTrue), (field, .isFalse)]
  | .dayComparison field c => [(field, c.dayOperator)]
  | .timeRange startField endField => [(startField, .timeFrom), (endField, .timeTo)]
  | .dayRangeAcross startField endField => [(startField, .rangeFrom), (endField, .rangeTo)]
  | .among field _ | .idsAmong field _ => [(field, .among)]
  | .notAmong field _ => [(field, .notAmong)]
  | .notEmpty field => [(field, .notEmpty)]
  | .isNull field => [(field, .isNull)]
  | .notNull field => [(field, .notNull)]
  | .existence field => [(field, .present)]
  | .expect field _ flagKey => if flagKey.isTruthy then [] else [(field, .present)]
  | .anyOfNamed name => [(name, .anyOf)]
  | _ => []

/-- The key that belongs to a rule itself and to no field. -/
def gate? : Rule → Option String
  | .today _ _ _ | .dayRangeAcross _ _ => some dateGate
  | .timeOfDay _ _ _ _ => some timeGate
  | .anyOf => some orKey
  | .allOf => some andKey
  | _ => none

/-- A rule names a key. -/
def Names (r : Rule) (key : String) : Prop :=
  r.given = .null ∧ (r.bare? = some (.text key) ∨ r.gate? = some key ∨
    ∃ p ∈ r.operators, key = operatorKey p.1 p.2)

theorem textKey?_eq_some_iff {v : Value} {key : String} :
    textKey? v = some key ↔ v = .text key := by
  cases v <;> simp [textKey?]

theorem mem_keyUnless_iff {given v : Value} {key : String} :
    key ∈ keyUnless given v ↔ given = .null ∧ v = .text key := by
  cases given <;> simp [keyUnless, textKey?_eq_some_iff]

/-- What a rule may read are the keys that it names. -/
theorem mem_keys_iff {r : Rule} {key : String} : key ∈ r.keys ↔ r.Names key := by
  cases r with
  | text | number | truth | moment =>
    simp [keys, Names, given, bare?, gate?, operators, mem_keyUnless_iff]
  | among | notAmong | idsAmong =>
    simp [keys, Names, given, bare?, gate?, operators, mem_keyUnless_iff, eq_comm]
  | search | id | ids | notDeleted =>
    simp [keys, Names, given, bare?, gate?, operators, textKey?_eq_some_iff]
  | expect field expected flagKey =>
    simp only [keys, Names, existenceKey?, given, bare?, gate?, operators]
    split
    · simp [textKey?_eq_some_iff]
    · simp
  | today | timeOfDay | dayRangeAcross | anyOf | allOf =>
    simp [keys, Names, given, bare?, gate?, operators, eq_comm]
  | _ => simp [keys, Names, given, bare?, gate?, operators]

variable {f : Filters}

/-- Only a range across two fields may leave keys unread that it names. -/
theorem reads_eq_keys {r : Rule}
    (hr : ∀ startField endField, r ≠ .dayRangeAcross startField endField) : r.reads f = r.keys := by
  cases r with
  | dayRangeAcross startField endField => exact absurd rfl (hr startField endField)
  | _ => rfl

theorem mem_reads_dayRangeAcross {startField endField : Value} {key : String} :
    key ∈ (dayRangeAcross startField endField).reads f ↔ key = dateGate ∨
      (f.value dateGate).isFlagSet = true ∧
        (key = operatorKey startField .rangeFrom ∨ key = operatorKey endField .rangeTo) := by
  rw [reads]
  split
  · rename_i hflag
    simp [keys, hflag]
  · rename_i hflag
    simp [hflag]

/-- A rule depends on the keys that it names alone, consumes those of them that are there, and
adds one stage at most. A range across two fields leaves the keys of its bounds alone while its
flag is not set. -/
theorem depends_on_names [Host] (r : Rule) (zone : Except Error Zone) :
    (∀ f g : Filters, (∀ key, r.Names key → f.get? key = g.get? key) →
      r.translate zone f = r.translate zone g) ∧
    ∀ (f : Filters) (t : Translation), r.translate zone f = .ok t →
      t.stages.length ≤ 1 ∧
      ((∀ startField endField, r ≠ .dayRangeAcross startField endField) →
        ∀ key, key ∈ t.consumed ↔ r.Names key ∧ key ∈ f.keys) ∧
      ∀ startField endField, r = .dayRangeAcross startField endField →
        ((f.value dateGate).isFlagSet = false →
          ∀ g : Filters, f.get? dateGate = g.get? dateGate → r.translate zone g = .ok t) ∧
        ∀ key, key ∈ t.consumed ↔ key ∈ f.keys ∧ (key = dateGate ∨
          (f.value dateGate).isFlagSet = true ∧
            (key = operatorKey startField .rangeFrom ∨ key = operatorKey endField .rangeTo)) := by
  constructor
  · intro f g h
    refine translate_eq_of_agreeOn fun key hkey => h key ?_
    exact mem_keys_iff.mp (mem_keys_of_mem_reads hkey)
  · intro f t ht
    refine ⟨stages_length_le ht, fun hr key => ?_, ?_⟩
    · rw [mem_consumed_iff ht, reads_eq_keys hr, mem_keys_iff]
    · rintro startField endField rfl
      constructor
      · intro hflag g h
        rw [← ht]
        refine (translate_eq_of_agreeOn fun key hkey => ?_).symm
        have hgate : key = dateGate := by simpa [mem_reads_dayRangeAcross, hflag] using hkey
        rwa [hgate]
      · intro key
        rw [mem_consumed_iff ht, mem_reads_dayRangeAcross, and_comm]

/-- A range across two fields whose flag is not set, in a dictionary with a bound. -/
theorem depends_on_names_idle :
    let rule := dayRangeAcross (.text "opens") (.text "closes")
    let filters : Filters := .ofList [(dateGate, .bool false), ("opens-from", .text "2024-01-01")]
    rule.translate (.ok .utc) filters = .ok ⟨[], [dateGate]⟩ ∧
      ∀ g : Filters, filters.get? dateGate = g.get? dateGate →
        rule.translate (.ok .utc) g = .ok ⟨[], [dateGate]⟩ := by
  intro rule filters
  have ht : rule.translate (.ok .utc) filters = .ok ⟨[], [dateGate]⟩ := rfl
  have hlaw := (depends_on_names rule (.ok .utc)).2 filters _ ht
  exact ⟨ht, (hlaw.2.2 _ _ rfl).1 rfl⟩

end FilterPipeline.Rule
