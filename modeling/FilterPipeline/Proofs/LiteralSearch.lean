import FilterPipeline.Host.Published
import FilterPipeline.Proofs.NamedFields
import Mathlib.Data.Set.Insert

/-!
Searches look for their text. A pattern is a sequence of signs, bare or escaped by a backslash; in
the pattern of a search every sign is plain, whatever the value is whose text is searched for, and
the signs spell the text. So no part of a value acts as a part of a pattern. What plain signs match
is up to the engine: each stands for itself, but an engine that takes patterns as extended passes
over white space that is left bare. As searches escape the white space of ASCII alone, a text with
other white space of that kind is not found in an extended search.
-/

namespace FilterPipeline

open Text

/-- A character of a pattern, with a backslash before it or without. -/
inductive PatternSign where
  | escaped (c : Char)
  | bare (c : Char)
deriving DecidableEq, Repr

/-- A letter, a digit or an underscore. What is not ASCII is counted among the letters. -/
def IsWordCharacter (c : Char) : Prop := c.isAlphanum = true ∨ c = '_' ∨ 128 ≤ c.toNat

instance (c : Char) : Decidable (IsWordCharacter c) := inferInstanceAs (Decidable (_ ∨ _))

/-- The characters with a meaning of their own in patterns. -/
def metacharacters : List Char :=
  ['.', '^', '$', '*', '+', '?', '\x7b', '\x7d', '[', ']', '(', ')', '|', '\\']

def asciiBlanks : List Char := ['\t', '\n', '\x0b', '\x0c', '\r', ' ']

/-- The white space beyond ASCII that an extended pattern may be spread out with. -/
def patternBlanks : List Char := ['\u0085', '\u200e', '\u200f', '\u2028', '\u2029']

namespace PatternSign

def char : PatternSign → Char
  | escaped c | bare c => c

/-- The sign stands for its character in every place of a pattern, also between the brackets of a
class: it is escaped and no word character, as there are classes, references and assertions by
letters and digits, or it is bare and has no meaning. -/
def IsPlain : PatternSign → Prop
  | escaped c => ¬ IsWordCharacter c
  | bare c => c ∉ metacharacters ∧ c ∉ asciiBlanks ∧ c ∉ ['#', '-', '&', '~']

/-- An extended pattern means nothing by the sign. -/
def isPassedOver : PatternSign → Bool
  | escaped _ => false
  | bare c => c ∈ asciiBlanks ++ patternBlanks

end PatternSign

/-- Reads a pattern sign by sign; a backslash at the end makes none. -/
def signs? : List Char → Option (List PatternSign)
  | [] => some []
  | '\\' :: c :: cs => (signs? cs).map (.escaped c :: ·)
  | c :: cs => if c = '\\' then none else (signs? cs).map (.bare c :: ·)

/-- What is relied on of an engine, which is given by the texts that it matches as a whole for a
pattern, extended or not: plain signs stand for themselves, but for those that an extended pattern
passes over. -/
structure TakesPlainSigns (matched : Bool → List Char → Set (List Char)) : Prop where
  plain : ∀ pattern signs, signs? pattern = some signs → (∀ s ∈ signs, s.IsPlain) →
    matched false pattern = {signs.map PatternSign.char}
  extended : ∀ pattern signs, signs? pattern = some signs → (∀ s ∈ signs, s.IsPlain) →
    matched true pattern = {(signs.filter (!·.isPassedOver)).map PatternSign.char}

/-- The sign that a search has for a character. -/
def literalSign (c : Char) : PatternSign := if c ∈ patternMarks then .escaped c else .bare c

theorem signs?_literal (cs : List Char) : signs? (literal cs) = some (cs.map literalSign) := by
  induction cs with
  | nil => rfl
  | cons c cs ih =>
    by_cases hc : c ∈ patternMarks
    · rw [literal, if_pos hc, signs?, ih, List.map_cons, literalSign, if_pos hc]
      rfl
    · have hne : c ≠ '\\' := fun h => hc (h ▸ by decide)
      rw [literal, if_neg hc, signs?, if_neg hne, ih, List.map_cons, literalSign, if_neg hc]
      · rfl
      · exact fun _ _ h => absurd h hne

theorem char_literalSign (c : Char) : (literalSign c).char = c := by
  unfold literalSign
  split <;> rfl

theorem map_char_literalSign (cs : List Char) :
    (cs.map literalSign).map PatternSign.char = cs := by
  simp [Function.comp_def, char_literalSign]

/-- Every mark is escaped, and marks are no word characters. -/
theorem isPlain_literalSign (c : Char) : (literalSign c).IsPlain := by
  unfold literalSign
  split
  · rename_i hc
    have hmarks : (patternMarks.all fun d => decide (¬ IsWordCharacter d)) = true := by decide
    have hword : ¬ IsWordCharacter c := of_decide_eq_true (List.all_eq_true.mp hmarks c hc)
    exact hword
  · rename_i hc
    have hmeta : metacharacters ⊆ patternMarks := by decide
    have hblank : asciiBlanks ⊆ patternMarks := by decide
    have hmark : ['#', '-', '&', '~'] ⊆ patternMarks := by decide
    exact ⟨fun h => hc (hmeta h), fun h => hc (hblank h), fun h => hc (hmark h)⟩

theorem isPlain_of_mem_literal {cs : List Char} {s : PatternSign} (h : s ∈ cs.map literalSign) :
    s.IsPlain := by
  obtain ⟨c, -, rfl⟩ := List.mem_map.mp h
  exact isPlain_literalSign c

/-- Of the white space of extended patterns, that of ASCII is escaped, and the rest is bare. -/
theorem isPassedOver_literalSign (c : Char) :
    (literalSign c).isPassedOver = decide (c ∈ patternBlanks) := by
  unfold literalSign
  split
  · rename_i hc
    have hmarks : (patternMarks.all fun d => decide (d ∉ patternBlanks)) = true := by decide
    have hblank : c ∉ patternBlanks := of_decide_eq_true (List.all_eq_true.mp hmarks c hc)
    simp [PatternSign.isPassedOver, hblank]
  · rename_i hc
    have hascii : asciiBlanks ⊆ patternMarks := by decide
    have hblank : c ∉ asciiBlanks := fun h => hc (hascii h)
    simp [PatternSign.isPassedOver, hblank]

theorem literal_injective : Function.Injective literal := by
  intro cs ds h
  have hsigns := congrArg signs? h
  rw [signs?_literal, signs?_literal, Option.some.injEq] at hsigns
  rw [← map_char_literalSign cs, hsigns, map_char_literalSign]

namespace TakesPlainSigns

variable {matched : Bool → List Char → Set (List Char)}

theorem matched_literal (h : TakesPlainSigns matched) (cs : List Char) :
    matched false (literal cs) = {cs} := by
  rw [h.plain _ _ (signs?_literal cs) fun _ => isPlain_of_mem_literal, map_char_literalSign]

theorem matched_extended_literal (h : TakesPlainSigns matched) (cs : List Char) :
    matched true (literal cs) = {cs.filter (· ∉ patternBlanks)} := by
  rw [h.extended _ _ (signs?_literal cs) fun _ => isPlain_of_mem_literal, List.filter_map,
    map_char_literalSign]
  simp [Function.comp_def, isPassedOver_literalSign]

theorem matched_extended_literal_iff (h : TakesPlainSigns matched) (cs : List Char) :
    matched true (literal cs) = {cs} ↔ ∀ c ∈ cs, c ∉ patternBlanks := by
  rw [h.matched_extended_literal, Set.singleton_eq_singleton_iff, List.filter_eq_self]
  simp

end TakesPlainSigns

namespace Rule

/-- The stage of a search for a text. -/
def searchStage (name : String) (options : Value) (text : List Char) : Stage :=
  .filter (.single (.text name) (.contains (String.ofList (literal text)) options))

theorem searchStage_inj {name : String} {options : Value} {cs ds : List Char} :
    searchStage name options cs = searchStage name options ds ↔ cs = ds := by
  simp [searchStage, Query.single, String.ofList_inj, literal_injective.eq_iff]

section

variable [Host] {f : Filters} {name : String}

theorem translate_search (zone : Except Error Zone) (options : Value)
    (hpresent : (f.value name).isPresent = true) :
    (search (.text name) options).translate zone f =
      (f.value name).write.map fun text => ⟨[searchStage name options text], [name]⟩ := by
  have hkeys : [name].filter f.contains = [name] := by
    simp [Filters.contains_of_isPresent hpresent]
  rw [translate]
  unfold searchMatch
  rw [resolve_text]
  change (if (!(f.value name).isPresent) = true then _ else _) = _
  rw [if_neg (by simp [hpresent])]
  change ((f.value name).write >>= fun text => Except.ok
    (Translation.of (searchStage name options text) ([name].filter f.contains))) = _
  rw [hkeys]
  cases (f.value name).write <;> rfl

/-- A search for a value that is set fails if the value cannot be written. Else its pattern is read
as the text of the value, sign by sign and without rest. All signs are plain, so that the pattern
matches this text alone, and it does so extended, too, exactly if there is no white space in the
text that is left bare. Different texts are searched for by different patterns. -/
theorem search_is_literal {matched : Bool → List Char → Set (List Char)}
    (hengine : TakesPlainSigns matched) (zone : Except Error Zone) (options : Value)
    (hpresent : (f.value name).isPresent = true) :
    ((f.value name).isWritable = false →
      (search (.text name) options).translate zone f = .error .tooManyDigits) ∧
    ((f.value name).isWritable = true → ∃ pattern signs,
      (search (.text name) options).translate zone f = .ok
        ⟨[.filter (.single (.text name) (.contains (String.ofList pattern) options))], [name]⟩ ∧
      signs? pattern = some signs ∧
      signs.map PatternSign.char = (f.value name).plainText ∧
      (∀ s ∈ signs, s.IsPlain) ∧
      matched false pattern = {(f.value name).plainText} ∧
      (matched true pattern = {(f.value name).plainText} ↔
        ∀ c ∈ (f.value name).plainText, c ∉ patternBlanks) ∧
      ∀ g : Filters, (g.value name).isPresent = true → (g.value name).isWritable = true →
        ((search (.text name) options).translate zone g =
            (search (.text name) options).translate zone f ↔
          (g.value name).plainText = (f.value name).plainText)) := by
  have htranslate (g : Filters) (hg : (g.value name).isPresent = true)
      (hwritable : (g.value name).isWritable = true) :
      (search (.text name) options).translate zone g =
        .ok ⟨[searchStage name options (g.value name).plainText], [name]⟩ := by
    rw [translate_search zone options hg, Value.write, if_pos hwritable]
    rfl
  constructor
  · intro hlong
    rw [translate_search zone options hpresent, Value.write, if_neg (by simp [hlong])]
    rfl
  · intro hwritable
    refine ⟨literal (f.value name).plainText, (f.value name).plainText.map literalSign,
      htranslate f hpresent hwritable, signs?_literal _, map_char_literalSign _,
      fun s => isPlain_of_mem_literal, hengine.matched_literal _,
      hengine.matched_extended_literal_iff _, fun g hg hgwritable => ?_⟩
    rw [htranslate g hg hgwritable, htranslate f hpresent hwritable]
    simp [searchStage_inj]

end

/-- An engine for patterns of plain signs. All other patterns match nothing. -/
def plainEngine (extended : Bool) (pattern : List Char) : Set (List Char) :=
  fun text => ∃ signs, signs? pattern = some signs ∧ (∀ s ∈ signs, s.IsPlain) ∧
    text = (signs.filter fun s => !(extended && s.isPassedOver)).map PatternSign.char

theorem takesPlainSigns_plainEngine : TakesPlainSigns plainEngine := by
  have hmatched (extended : Bool) (pattern : List Char) (signs : List PatternSign)
      (hsigns : signs? pattern = some signs) (hplain : ∀ s ∈ signs, s.IsPlain) :
      plainEngine extended pattern =
        {(signs.filter fun s => !(extended && s.isPassedOver)).map PatternSign.char} := by
    ext text
    constructor
    · rintro ⟨signs', hsigns', -, htext⟩
      rw [hsigns, Option.some.injEq] at hsigns'
      rw [htext, ← hsigns']
      rfl
    · intro htext
      exact ⟨signs, hsigns, hplain, htext⟩
  constructor
  · intro pattern signs hsigns hplain
    rw [hmatched false pattern signs hsigns hplain]
    simp
  · intro pattern signs hsigns hplain
    rw [hmatched true pattern signs hsigns hplain]
    simp

/-- A title that looks like a pattern and has been escaped before. -/
def escapedTitle : Filters := .ofList [("title", .text "a.*\\d #1")]

/-- What looks escaped is escaped once more. -/
theorem search_is_literal_escaped :
    TakesPlainSigns plainEngine ∧ (escapedTitle.value "title").isPresent = true ∧
    ∃ pattern : List Char, (search (.text "title") (.text "ix")).translate (.ok .utc) escapedTitle =
        .ok ⟨[.filter (.single (.text "title")
          (.contains (String.ofList pattern) (.text "ix")))], ["title"]⟩ ∧
      String.ofList pattern = "a\\.\\*\\\\d\\ \\#1" ∧
      plainEngine true pattern = {"a.*\\d #1".toList} := by
  have hpresent : (escapedTitle.value "title").isPresent = true := rfl
  obtain ⟨pattern, -, htranslate, -, -, -, -, hextended, -⟩ :=
    (search_is_literal takesPlainSigns_plainEngine (.ok .utc) (.text "ix") hpresent).2 rfl
  have hemitted : (search (.text "title") (.text "ix")).translate (.ok .utc) escapedTitle =
      .ok ⟨[.filter (.single (.text "title")
        (.contains "a\\.\\*\\\\d\\ \\#1" (.text "ix")))], ["title"]⟩ := rfl
  have hbare : ∀ c ∈ (escapedTitle.value "title").plainText, c ∉ patternBlanks := by
    rw [show (escapedTitle.value "title").plainText = "a.*\\d #1".toList from rfl]
    simp [patternBlanks]
  refine ⟨takesPlainSigns_plainEngine, hpresent, pattern, htranslate, ?_, hextended.mpr hbare⟩
  simpa [Query.single] using htranslate.symm.trans hemitted

/-- A title of two lines, with a mark of the end of a line beyond ASCII. -/
def twoLines : Filters := .ofList [("title", .text "a\u2028b")]

/-- A title that is an integer of too many digits. -/
def longTitle : Filters := .ofList [("title", .longInteger)]

/-- A search neither always matches its text if it is extended, nor does it always come to a
pattern. -/
theorem not_forall_search_literal :
    (¬ ∀ (matched : Bool → List Char → Set (List Char)) (name pattern : String) (options : Value)
        (f : Filters), TakesPlainSigns matched → (f.value name).isPresent = true →
      (search (.text name) options).translate (.ok .utc) f = .ok
        ⟨[.filter (.single (.text name) (.contains pattern options))], [name]⟩ →
      matched true pattern.toList = {(f.value name).plainText}) ∧
    ¬ ∀ (name : String) (options : Value) (f : Filters), (f.value name).isPresent = true →
      ∃ t, (search (.text name) options).translate (.ok .utc) f = .ok t := by
  constructor
  · intro h
    have hmatched := h plainEngine "title" "a\u2028b" (.text "x") twoLines
      takesPlainSigns_plainEngine rfl rfl
    have hpattern : "a\u2028b".toList = literal "a\u2028b".toList := by decide
    have hbare := (takesPlainSigns_plainEngine.matched_extended_literal_iff "a\u2028b".toList).mp
      (hpattern ▸ hmatched)
    exact hbare '\u2028' (by decide) (by decide)
  · intro h
    obtain ⟨t, ht⟩ := h "title" (.text "x") longTitle rfl
    have hlong : (longTitle.value "title").isWritable = false := Value.isWritable_longInteger
    rw [translate_search _ _ (show (longTitle.value "title").isPresent = true from rfl),
      Value.write, if_neg (by simp [hlong])] at ht
    cases ht

end Rule

end FilterPipeline
