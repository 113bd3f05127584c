import FilterPipeline.Proofs.IsoText
import FilterPipeline.Proofs.NamedFields
import FilterPipeline.Proofs.PublishedZones

/-!
The forms in which a filter can hold one moment: the moment itself, a date for its midnight, and
the texts that spell it, with white space around them. Equality with a moment does not depend on
the form, in any zone, with a reader of dates that keeps every offset.
-/

namespace FilterPipeline

open Text

theorem Place.asRead_true (place : Place) : place.asRead true = place := by
  cases place <;> simp [asRead, Offset.asRead]

/-- Of a moment that a text can tell, the text tells the same reading of every clock. -/
theorem Zone.ofDateTime?_asRead (z : Zone) {m : DateTime} (hm : m.IsTellable) :
    z.ofDateTime? (m.asRead true) = z.ofDateTime? m := by
  rw [DateTime.asRead, Place.asRead_true]
  rcases hm with hm | ⟨o, ho⟩
  · rw [hm]
    rfl
  · obtain ⟨w, later, place⟩ := m
    cases ho
    -- An offset that is said leaves nothing to the occurrence of the reading.
    simp [ofDateTime?, DateTime.IsLocalTo, DateTime.toUtc?, DateTime.offset?]

namespace Value

def isText : Value → Bool
  | .text _ => true
  | _ => false

/-- The values that stand for a moment. -/
inductive Represents : Value → DateTime → Prop where
  | moment (m : DateTime) : Represents (.dateTime m) m
  | date (d : Date) : Represents (.date d) (.naive (.of d .midnight))
  | text {m : DateTime} {cs front back : List Char} (h : m.IsWrittenAs cs)
      (hfront : ∀ c ∈ front, isBlank c = true) (hback : ∀ c ∈ back, isBlank c = true) :
      Represents (.text (String.ofList (front ++ cs ++ back))) m

theorem Represents.isTellable {v : Value} {m : DateTime} (h : v.Represents m)
    (ht : v.isText = true) : m.IsTellable := by
  cases h with
  | text hcs _ _ => exact hcs.isTellable
  | _ => cases ht

end Value

section

variable [Host]

namespace Value

variable {v w : Value} {m n : DateTime}

theorem Represents.moment?_eq (h : v.Represents m) :
    v.moment? = some (if v.isText then m.asRead Host.keepsShortOffsets else m) := by
  cases h with
  | moment => rfl
  | date d => rfl
  | text hcs hfront hback =>
    simp only [moment?, isText, if_true, String.toList_ofList]
    rw [strip_padded hfront (Iso.isBlank_of_isWrittenAs hcs) hback,
      Iso.read?_of_isWrittenAs _ hcs]

/-- In every zone and every dictionary, a field is compared with the one value as it is with the
other, whether the values are given or found under the name of the field. -/
def AgreesWith (v w : Value) : Prop :=
  ∀ (zone : Except Error Zone) (name : String) (f : Filters),
    (Rule.moment (.text name) .null .null).translate zone (f.insert name v) =
        (Rule.moment (.text name) .null .null).translate zone (f.insert name w) ∧
      (Rule.moment (.text name) v .null).translate zone f =
        (Rule.moment (.text name) w .null).translate zone f

end Value

namespace Rule

variable {f : Filters} {given : Value} {name : String} {m : DateTime}

/-- Equality of a field with what is stored for a moment, unless that is not in the calendar. -/
def equalityTranslation (name : String) (consumed : List String) (stored : Option LocalTime) :
    Except Error Translation :=
  (inCalendar stored).map fun u => ⟨[.equality name (.dateTime (.utc u))], consumed⟩

/-- Equality with a moment, all told: the moment goes through the zone, and is stored unless it
leaves the calendar on its way. -/
theorem translate_moment_of_moment? (zone : Except Error Zone)
    (hm : (inputOr f given name).moment? = some m) :
    (moment (.text name) given .null).translate zone f = zone >>= fun z =>
      equalityTranslation name ((keyUnless given (.text name)).filter f.contains)
        (z.stored? m none) := by
  have hpresent : (inputOr f given name).isPresent = true := by
    by_contra hnot
    rw [Value.moment?_of_not_isPresent hnot] at hm
    cases hm
  rw [translate, equalityMatch_text, settle, if_pos hpresent]
  cases zone with
  | error e => rfl
  | ok z =>
    rw [momentOf_eq, Value.limit?, hm]
    change Except.map _ (Except.map _ (inCalendar (z.stored? m none))) >>= _ = Except.map _ _
    cases inCalendar (z.stored? m none) <;> rfl

/-- A value that stands for a moment is given in place of a key. -/
theorem translate_given (zone : Except Error Zone) {v : Value} (hv : v.moment? = some m) :
    (moment (.text name) v .null).translate zone f =
      zone >>= fun z => equalityTranslation name [] (z.stored? m none) := by
  cases v with
  | null => cases hv
  | _ => exact translate_moment_of_moment? zone hv

theorem translate_held (zone : Except Error Zone) {v : Value} (hv : v.moment? = some m) :
    (moment (.text name) .null .null).translate zone (f.insert name v) =
      zone >>= fun z => equalityTranslation name [name] (z.stored? m none) := by
  have hvalue : (inputOr (f.insert name v) .null name).moment? = some m := by
    rw [inputOr, f.value_insert, if_pos rfl, hv]
  have hcontains : (f.insert name v).contains name = true := by
    rw [Filters.contains_iff, ← Filters.isSome_get?_iff, f.get?_insert, if_pos rfl]
    rfl
  rw [translate_moment_of_moment? zone hvalue]
  simp [keyUnless, textKey?, hcontains]

end Rule

namespace Value

variable {v w : Value} {m n : DateTime}

theorem agreesWith_of_moment? (hv : v.moment? = some m) (hw : w.moment? = some n)
    (h : ∀ z : Zone, z.ofDateTime? m = z.ofDateTime? n) : v.AgreesWith w := by
  intro zone name f
  have hstored (z : Zone) : z.stored? m none = z.stored? n none := by
    rw [Zone.stored?, Zone.stored?, h]
  rw [Rule.translate_held zone hv, Rule.translate_held zone hw, Rule.translate_given zone hv,
    Rule.translate_given zone hw]
  simp only [hstored, and_self]

/-- What a reader that keeps every offset makes of the values for a moment is the same to all
clocks. -/
theorem Represents.exists_moment? (hkeeps : Host.keepsShortOffsets = true) (h : v.Represents m) :
    ∃ n, v.moment? = some n ∧ ∀ z : Zone, z.ofDateTime? n = z.ofDateTime? m := by
  refine ⟨_, h.moment?_eq, fun z => ?_⟩
  by_cases ht : v.isText = true
  · rw [if_pos ht, hkeeps]
    exact z.ofDateTime?_asRead (h.isTellable ht)
  · rw [if_neg ht]

/-- With a reader of dates that keeps every offset, all values for one moment agree. Among them are
all texts of the moment in the ISO format, if its offset is the same at all times or is left to the
zone, and for the midnight of a date the date and its text. -/
theorem representations_agree (hkeeps : Host.keepsShortOffsets = true) :
    (∀ (m : DateTime) (v w : Value), v.Represents m → w.Represents m → v.AgreesWith w) ∧
    (∀ (m : DateTime) (front back : List Char), m.IsTellable →
      (∀ c ∈ front, isBlank c = true) → (∀ c ∈ back, isBlank c = true) →
      (Value.dateTime m).AgreesWith (.text (String.ofList (front ++ m.isoText ++ back)))) ∧
    ∀ d : Date, (Value.date d).AgreesWith (.dateTime (.naive (.of d .midnight))) ∧
      (Value.date d).AgreesWith (.text (String.ofList d.isoText)) := by
  have hagree : ∀ (m : DateTime) (v w : Value), v.Represents m → w.Represents m →
      v.AgreesWith w := by
    intro m v w hv hw
    obtain ⟨n, hn, hnm⟩ := hv.exists_moment? hkeeps
    obtain ⟨p, hp, hpm⟩ := hw.exists_moment? hkeeps
    exact agreesWith_of_moment? hn hp fun z => (hnm z).trans (hpm z).symm
  refine ⟨hagree, fun m front back hm hfront hback => ?_, fun d => ⟨?_, ?_⟩⟩
  · exact hagree m _ _ (.moment m) (.text (DateTime.isWrittenAs_isoText hm) hfront hback)
  · exact hagree _ _ _ (.date d) (.moment _)
  · refine hagree _ _ _ (.date d) ?_
    have htext := Represents.text (.date d) (List.forall_mem_nil _) (List.forall_mem_nil _)
    rwa [List.nil_append, List.append_nil] at htext

end Value

end

namespace Value

/-- The start of a year, with an offset of half a second. -/
def halfSecond : DateTime :=
  ⟨⟨63713433600000000, by decide⟩, false, .offset ⟨500000, by decide⟩⟩

/-- Half a second alone is told by a text, if the reader keeps it. -/
theorem representations_agree_halfSecond :
    Host.exact.keepsShortOffsets = true ∧
      @AgreesWith .exact (.dateTime halfSecond)
        (.text " 2020-01-01T00:00:00+00:00:00.500000") := by
  have hkeeps : Host.exact.keepsShortOffsets = true := rfl
  have htext : String.ofList ([' '] ++ halfSecond.isoText ++ []) =
      " 2020-01-01T00:00:00+00:00:00.500000" := by decide +kernel
  refine ⟨hkeeps, ?_⟩
  rw [← htext]
  exact (@representations_agree .exact hkeeps).2.1 halfSecond [' '] [] (Or.inr ⟨_, rfl⟩)
    (List.forall_mem_singleton.mpr rfl) (List.forall_mem_nil _)

end Value

end FilterPipeline
