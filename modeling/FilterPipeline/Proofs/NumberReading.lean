import FilterPipeline.Host.Published
import FilterPipeline.Proofs.NumberLiteral
import FilterPipeline.Proofs.Run

/-!
The numbers that filter values stand for. What a text denotes is said by the grammar of literals
and by rounding alone: an integer literal denotes its value while that has 64 bits and a rounded
one beyond, a decimal literal denotes its rounded value, and other texts denote nothing. Reading
finds what a text denotes. A number that has been read can be stored, and is read as itself.
-/

namespace FilterPipeline

open Text

namespace Number

/-- Integers are stored in 64 bits, and other numbers have to be finite. -/
def IsStorable : Number → Prop
  | .integer n => -2 ^ 63 ≤ n ∧ n ≤ 2 ^ 63 - 1
  | .binary x => x.isFinite = true

/-- The number that a text without white space around it stands for, if it does for one. -/
inductive Denotes : List Char → Option Number → Prop where
  | tooLong {cs digits : List Char} {negative : Bool}
      (hdigits : Decimal.IsInteger cs negative digits) (hlong : 4300 < digits.length) :
      Denotes cs none
  | integer {cs digits : List Char} {negative : Bool} {n : Int}
      (hdigits : Decimal.IsInteger cs negative digits) (hlength : digits.length ≤ 4300)
      (hn : n = Decimal.signed negative (asciiNumber digits))
      (hrange : -2 ^ 63 ≤ n ∧ n ≤ 2 ^ 63 - 1) : Denotes cs (some (.integer n))
  | wide {cs digits : List Char} {negative : Bool} {n : Int} {x : Option Binary64}
      (hdigits : Decimal.IsInteger cs negative digits) (hlength : digits.length ≤ 4300)
      (hn : n = Decimal.signed negative (asciiNumber digits))
      (hrange : ¬ (-2 ^ 63 ≤ n ∧ n ≤ 2 ^ 63 - 1)) (hx : Binary64.RoundsTo (n < 0) |(n : Rat)| x) :
      Denotes cs (x.map .binary)
  | decimal {cs : List Char} {negative : Bool} {q : Rat} {x : Option Binary64}
      (hinteger : ∀ sign digits, ¬ Decimal.IsInteger cs sign digits)
      (hliteral : Decimal.IsLiteral cs negative q) (hx : Binary64.RoundsTo negative q x) :
      Denotes cs (x.map .binary)
  | other {cs : List Char} (hinteger : ∀ sign digits, ¬ Decimal.IsInteger cs sign digits)
      (hliteral : ∀ sign q, ¬ Decimal.IsLiteral cs sign q) : Denotes cs none

theorem ofInt?_of_range {n : Int} (h : -2 ^ 63 ≤ n ∧ n ≤ 2 ^ 63 - 1) :
    ofInt? n = some (.integer n) := if_pos (by omega)

theorem ofInt?_of_not_range {n : Int} (h : ¬ (-2 ^ 63 ≤ n ∧ n ≤ 2 ^ 63 - 1)) :
    ofInt? n = (Binary64.ofInt? n).map .binary := if_neg (by omega)

theorem ofText?_of_isInteger {cs digits : List Char} {negative : Bool}
    (h : Decimal.IsInteger cs negative digits) :
    ofText? cs = if digits.length ≤ 4300 then ofInt? (Decimal.signed negative (asciiNumber digits))
      else none := by
  simp only [ofText?, Decimal.integerDigits?_eq_some_iff.mpr h]
  rfl

theorem ofText?_of_not_isInteger {cs : List Char}
    (h : ∀ sign digits, ¬ Decimal.IsInteger cs sign digits) :
    ofText? cs = ((Decimal.read? cs).bind Binary64.ofDecimal?).map .binary := by
  unfold ofText?
  split
  · rename_i sign digits hread
    exact absurd (Decimal.integerDigits?_eq_some_iff.mp hread) (h sign digits)
  · rfl

theorem ofText?_of_isLiteral {cs : List Char} {negative : Bool} {q : Rat} {x : Option Binary64}
    (hinteger : ∀ sign digits, ¬ Decimal.IsInteger cs sign digits)
    (hliteral : Decimal.IsLiteral cs negative q) (hx : Binary64.RoundsTo negative q x) :
    ofText? cs = x.map .binary := by
  obtain ⟨d, hread, rfl, rfl⟩ := Decimal.exists_read?_of_isLiteral hliteral
  rw [ofText?_of_not_isInteger hinteger, hread, Option.bind_some,
    (Binary64.roundsTo_ofDecimal? d).unique hx]

/-- Each text is read as the number that it denotes. -/
theorem Denotes.eq_ofText? {cs : List Char} {number : Option Number} (h : Denotes cs number) :
    ofText? cs = number := by
  cases h with
  | tooLong hdigits hlong => rw [ofText?_of_isInteger hdigits, if_neg (Nat.not_le_of_lt hlong)]
  | integer hdigits hlength hn hrange =>
    rw [ofText?_of_isInteger hdigits, if_pos hlength, ← hn, ofInt?_of_range hrange]
  | wide hdigits hlength hn hrange hx =>
    rw [ofText?_of_isInteger hdigits, if_pos hlength, ← hn, ofInt?_of_not_range hrange,
      (Binary64.roundsTo_ofInt? _).unique hx]
  | decimal hinteger hliteral hx => exact ofText?_of_isLiteral hinteger hliteral hx
  | other hinteger hliteral =>
    have hread : Decimal.read? cs = none := by
      rw [Option.eq_none_iff_forall_ne_some]
      exact fun d hd => hliteral _ _ (Decimal.isLiteral_of_read? hd)
    rw [ofText?_of_not_isInteger hinteger, hread]
    rfl

theorem denotes_ofText? (cs : List Char) : Denotes cs (ofText? cs) := by
  cases hdigits : Decimal.integerDigits? cs with
  | some parts =>
    have hinteger := Decimal.integerDigits?_eq_some_iff.mp hdigits
    rw [ofText?_of_isInteger hinteger]
    split
    · rename_i hlength
      by_cases hrange : -2 ^ 63 ≤ Decimal.signed parts.1 (asciiNumber parts.2) ∧
          Decimal.signed parts.1 (asciiNumber parts.2) ≤ 2 ^ 63 - 1
      · rw [ofInt?_of_range hrange]
        exact .integer hinteger hlength rfl hrange
      · rw [ofInt?_of_not_range hrange]
        exact .wide hinteger hlength rfl hrange (Binary64.roundsTo_ofInt? _)
    · rename_i hlong
      exact .tooLong hinteger (Nat.lt_of_not_le hlong)
  | none =>
    have hinteger (sign : Bool) (digits : List Char) : ¬ Decimal.IsInteger cs sign digits := by
      rw [← Decimal.integerDigits?_eq_some_iff, hdigits]
      exact nofun
    rw [ofText?_of_not_isInteger hinteger]
    cases hread : Decimal.read? cs with
    | some d =>
      exact .decimal hinteger (Decimal.isLiteral_of_read? hread) (Binary64.roundsTo_ofDecimal? d)
    | none =>
      refine .other hinteger fun sign q hliteral => ?_
      obtain ⟨d, hd, _⟩ := Decimal.exists_read?_of_isLiteral hliteral
      rw [hread] at hd
      cases hd

theorem isStorable_of_roundsTo {negative : Bool} {q : Rat} {x : Option Binary64}
    (h : Binary64.RoundsTo negative q x) {number : Number} (hx : x.map .binary = some number) :
    number.IsStorable := by
  cases h with
  | finite =>
    rw [← Option.some.inj hx]
    exact rfl
  | tooLarge => cases hx

theorem isStorable_of_ofInt? {n : Int} {number : Number} (h : ofInt? n = some number) :
    number.IsStorable := by
  by_cases hrange : -2 ^ 63 ≤ n ∧ n ≤ 2 ^ 63 - 1
  · rw [ofInt?_of_range hrange] at h
    rw [← Option.some.inj h]
    exact hrange
  · rw [ofInt?_of_not_range hrange] at h
    exact isStorable_of_roundsTo (Binary64.roundsTo_ofInt? n) h

theorem Denotes.isStorable {cs : List Char} {number : Number} (h : Denotes cs (some number)) :
    number.IsStorable := by
  generalize hresult : some number = result at h
  cases h with
  | integer _ _ _ hrange =>
    rw [Option.some.inj hresult]
    exact hrange
  | wide _ _ _ _ hx => exact isStorable_of_roundsTo hx hresult.symm
  | decimal _ _ hx => exact isStorable_of_roundsTo hx hresult.symm
  | tooLong | other => cases hresult

theorem isStorable_of_toNumber? {v : Value} {number : Number} (h : v.toNumber? = some number) :
    number.IsStorable := by
  cases v with
  | bool b =>
    rw [← Option.some.inj h]
    cases b <;> exact ⟨by decide, by decide⟩
  | int n => exact isStorable_of_ofInt? h
  | float x =>
    rw [Value.toNumber?, ofBinary?] at h
    split at h
    · rename_i hfinite
      rw [← Option.some.inj h]
      exact hfinite
    · cases h
  | text s =>
    have hdenotes := denotes_ofText? (strip s.toList)
    rw [show ofText? (strip s.toList) = some number from h] at hdenotes
    exact hdenotes.isStorable
  | _ => cases h

/-- A number that can be stored stands for itself. -/
theorem toNumber?_toValue {number : Number} (h : number.IsStorable) :
    number.toValue.toNumber? = some number := by
  cases number with
  | integer n => exact ofInt?_of_range h
  | binary x => exact if_pos h

end Number

namespace Rule

/-- An equality is one with what some value is converted to. -/
theorem stages_of_equalityMatch {f : Filters} {field given : Value}
    {convert : Value → Except Error (Option Value)} {t : Translation}
    (h : equalityMatch f field given convert = .ok t) :
    t.stages = [] ∨ ∃ raw v, convert raw = .ok (some v) ∧
      t.stages = [.filter (.single field (.equals v))] := by
  obtain ⟨⟨raw, consumed⟩, -, hraw⟩ := exists_of_bind_eq_ok h
  dsimp only at hraw
  split at hraw
  · rw [← Except.ok.inj hraw]
    exact Or.inl rfl
  · obtain ⟨converted, hconvert, hstages⟩ := exists_of_bind_eq_ok hraw
    cases converted with
    | none =>
      obtain ⟨_, -, hreported⟩ := exists_of_bind_eq_ok hstages
      rw [← Except.ok.inj hreported]
      exact Or.inl rfl
    | some v =>
      obtain ⟨stage, hstage, hresult⟩ := exists_of_bind_eq_ok hstages
      unfold matchField at hstage
      split at hstage
      · rw [← Except.ok.inj hresult, ← Except.ok.inj hstage]
        exact Or.inr ⟨raw, v, hconvert, rfl⟩
      · cases hstage

/-- A number rule asks for a number that can be stored, if it asks for any. -/
theorem isStorable_of_translate_number [Host] {field given : Value} {zone : Except Error Zone}
    {f : Filters} {t : Translation} (h : (number field given).translate zone f = .ok t) :
    t.stages = [] ∨ ∃ n : Number, n.IsStorable ∧
      t.stages = [.filter (.single field (.equals n.toValue))] := by
  rw [translate] at h
  refine (stages_of_equalityMatch h).imp_right ?_
  rintro ⟨raw, v, hv, hstages⟩
  obtain ⟨n, hn, rfl⟩ := Option.map_eq_some_iff.mp (Except.ok.inj hv)
  exact ⟨n, Number.isStorable_of_toNumber? hn, hstages⟩

end Rule

namespace Number

/-- A text is read as the number that it denotes, and a number rule adds a condition about a
number that can be stored, or nothing. -/
theorem reads_literals [Host] :
    (∀ (s : String) (number : Option Number),
      (Value.text s).toNumber? = number ↔ Denotes (strip s.toList) number) ∧
    ∀ (b after : Builder) (field given : Value),
      b.step (.apply (.number field given)) = .ok after →
        after.stages = b.stages ∨ ∃ n : Number, n.IsStorable ∧
          after.stages = b.stages ++ [.filter (.single field (.equals n.toValue))] := by
  constructor
  · intro s number
    constructor
    · rintro rfl
      exact denotes_ofText? _
    · exact Denotes.eq_ofText?
  · intro b after field given hstep
    rw [b.step_eq_map rfl] at hstep
    obtain ⟨t, ht, rfl⟩ := exists_of_map_eq_ok hstep
    rcases Rule.isStorable_of_translate_number ht with hnone | ⟨n, hn, hstages⟩
    · exact Or.inl ((congrArg (b.stages ++ ·) hnone).trans (List.append_nil _))
    · exact Or.inr ⟨n, hn, congrArg (b.stages ++ ·) hstages⟩

/-- White space around a literal with a sign, read alone and by a step. -/
theorem reads_literals_price :
    Denotes (strip " +07 ".toList) (some (.integer 7)) ∧
      ∃ n : Number, n.IsStorable ∧
        ((Builder.usual ⟨[("price", .text " +07 ")], by decide⟩).next
          (.apply (.number (.text "price") .null))).stages =
            [.filter (.single (.text "price") (.equals n.toValue))] := by
  have hafter := reads_literals.2 (Builder.usual ⟨[("price", .text " +07 ")], by decide⟩) _
    (.text "price") .null rfl
  refine ⟨(reads_literals.1 " +07 " _).mp (by decide +kernel), hafter.resolve_left fun h => ?_⟩
  exact absurd (congrArg List.length h) (by decide +kernel)

end Number

end FilterPipeline
