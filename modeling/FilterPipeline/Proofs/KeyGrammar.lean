import FilterPipeline.Key
import Mathlib.Data.List.Nodup

/-!
The grammar of filter keys, read as a whole. A key is bare exactly if it has no dash, and
a bare key stands for an equality unless it is reserved. A key with a dash is taken apart at
the longest suffix that leaves a field. Putting the parts together again gives the key back.
The other way round some fields are misread: before "from" and "to" a field that ends in
"-time" gives that ending away.
-/

namespace FilterPipeline

namespace Operator

theorem mem_suffixed_iff (op : Operator) : op ∈ suffixed ↔ op ≠ .equal := by
  cases op <;> simp [suffixed]

theorem suffixed_sorted :
    suffixed.Pairwise fun op p => p.suffix.length ≤ op.suffix.length := by decide

/-- No two operators have the same suffix. -/
theorem eq_of_suffix_eq {op p : Operator} (hop : op ≠ .equal) (hp : p ≠ .equal)
    (h : op.suffix = p.suffix) : op = p := by
  have hnodup : (suffixed.map suffix).Nodup := by decide
  have hinj := List.inj_on_of_nodup_map hnodup
  exact hinj ((mem_suffixed_iff op).mpr hop) ((mem_suffixed_iff p).mpr hp) h

/-- Only the bounds of a time of day end in a dash and another suffix, the same bound of a
range. -/
theorem overlap {op p : Operator} (hop : op ≠ .equal) (hp : p ≠ .equal)
    (h : ('-' :: op.suffix.toList) <:+ p.suffix.toList) :
    (op = .rangeFrom ∨ op = .rangeTo) ∧ p.suffix = "time-" ++ op.suffix := by
  have hall : ∀ op ∈ suffixed, ∀ p ∈ suffixed, ('-' :: op.suffix.toList) <:+ p.suffix.toList →
      (op = .rangeFrom ∨ op = .rangeTo) ∧ p.suffix = "time-" ++ op.suffix := by
    decide +kernel
  exact hall op ((mem_suffixed_iff op).mpr hop) p ((mem_suffixed_iff p).mpr hp) h

/-- Both bounds of a range have such a counterpart. -/
theorem exists_overlap {op : Operator} (h : op = .rangeFrom ∨ op = .rangeTo) :
    ∃ p : Operator, p ≠ .equal ∧ p.suffix = "time-" ++ op.suffix := by
  rcases h with rfl | rfl
  · exact ⟨.timeFrom, by decide, by decide⟩
  · exact ⟨.timeTo, by decide, by decide⟩

end Operator

namespace Key

theorem parse?_of_bare {key : String} (h : '-' ∉ key.toList) : parse? key = some ⟨key, .equal⟩ := by
  rw [parse?, if_neg (by simpa using h)]

/-- A field that is not empty and an operator with a suffix, which make up a key. -/
structure Splits (key : String) (k : Key) : Prop where
  operator_ne : k.operator ≠ .equal
  field_ne : k.field ≠ ""
  key_eq : key = k.field ++ "-" ++ k.operator.suffix

/-- A way to take a key apart whose suffix is longer than that of every other way. -/
def IsLongestSplit (key : String) (k : Key) : Prop :=
  Splits key k ∧ ∀ l, Splits key l → l ≠ k → l.operator.suffix.length < k.operator.suffix.length

/-- The key taken apart at a given operator. -/
def cut? (key : String) (op : Operator) : Option Key :=
  (beforeTail? ('-' :: op.suffix.toList) key.toList).map fun front => ⟨String.ofList front, op⟩

theorem beforeTail?_eq_some_iff {tail cs front : List Char} :
    beforeTail? tail cs = some front ↔ front ≠ [] ∧ front ++ tail = cs := by
  simp only [beforeTail?, Option.ite_none_right_eq_some, Option.some.injEq]
  constructor
  · rintro ⟨h, rfl⟩
    exact h
  · rintro ⟨hne, rfl⟩
    simp [hne]

theorem eq_format_iff {key : String} {k : Key} :
    key = k.field ++ "-" ++ k.operator.suffix ↔
      k.field.toList ++ '-' :: k.operator.suffix.toList = key.toList := by
  rw [← String.toList_inj, String.toList_append, String.toList_append, List.append_assoc]
  exact eq_comm

namespace Splits

variable {key : String} {k l : Key}

theorem toList_eq (h : Splits key k) :
    k.field.toList ++ '-' :: k.operator.suffix.toList = key.toList := eq_format_iff.mp h.key_eq

theorem isSuffix (h : Splits key k) : ('-' :: k.operator.suffix.toList) <:+ key.toList :=
  ⟨k.field.toList, h.toList_eq⟩

theorem dash_mem (h : Splits key k) : '-' ∈ key.toList := h.isSuffix.mem (List.mem_cons_self ..)

theorem format_eq (h : Splits key k) : format k.field k.operator = key := by
  unfold format
  split
  · exact absurd ‹_› h.operator_ne
  · exact h.key_eq.symm

theorem eq_of_operator_eq (hk : Splits key k) (hl : Splits key l)
    (h : k.operator = l.operator) : k = l := by
  obtain ⟨field, op⟩ := k
  obtain ⟨other, p⟩ := l
  obtain rfl : op = p := h
  have hfield : field.toList = other.toList :=
    List.append_cancel_right (hk.toList_eq.trans hl.toList_eq.symm)
  rw [String.toList_inj.mp hfield]

/-- The shorter one of two suffixes of a key ends the longer one. -/
theorem isSuffix_of_length_le (hk : Splits key k) (hl : Splits key l)
    (h : k.operator.suffix.length ≤ l.operator.suffix.length) :
    ('-' :: k.operator.suffix.toList) <:+ ('-' :: l.operator.suffix.toList) := by
  apply List.suffix_of_suffix_length_le hk.isSuffix hl.isSuffix
  simpa [String.length_toList] using h

/-- No key is taken apart in two ways with suffixes of one length. -/
theorem eq_of_length_eq (hk : Splits key k) (hl : Splits key l)
    (h : k.operator.suffix.length = l.operator.suffix.length) : k = l := by
  have htail := (hk.isSuffix_of_length_le hl (Nat.le_of_eq h)).eq_of_length
    (by simpa [String.length_toList] using h)
  have hsuffix : k.operator.suffix = l.operator.suffix :=
    String.toList_inj.mp (List.cons.inj htail).2
  exact hk.eq_of_operator_eq hl
    (Operator.eq_of_suffix_eq hk.operator_ne hl.operator_ne hsuffix)

/-- The field of a bound of a range ends in "-time" where a time of day could be read. -/
theorem field_eq (hk : Splits key k) (hl : Splits key l)
    (h : l.operator.suffix = "time-" ++ k.operator.suffix) : k.field = l.field ++ "-time" := by
  have hkeys := hk.key_eq.symm.trans hl.key_eq
  rw [h, ← String.toList_inj] at hkeys
  have hlists : k.field.toList ++ '-' :: k.operator.suffix.toList =
      (l.field ++ "-time").toList ++ '-' :: k.operator.suffix.toList := by
    simpa using hkeys
  exact String.toList_inj.mp (List.append_cancel_right hlists)

/-- A key is taken apart at a longer suffix too only where a bound of a range is preceded by
the word "time". -/
theorem cases_of_ne (hk : Splits key k) (hl : Splits key l) (hne : l ≠ k)
    (hle : k.operator.suffix.length ≤ l.operator.suffix.length) :
    (k.operator = .rangeFrom ∨ k.operator = .rangeTo) ∧ k.field = l.field ++ "-time" := by
  have hoverlap : ('-' :: k.operator.suffix.toList) <:+ l.operator.suffix.toList := by
    rcases List.suffix_cons_iff.mp (hk.isSuffix_of_length_le hl hle) with hsame | hshorter
    · have hlength := congrArg List.length hsame
      have heq := hk.eq_of_length_eq hl (by simpa [String.length_toList] using hlength)
      exact absurd heq.symm hne
    · exact hshorter
  obtain ⟨hrange, hsuffix⟩ := Operator.overlap hk.operator_ne hl.operator_ne hoverlap
  exact ⟨hrange, hk.field_eq hl hsuffix⟩

end Splits

theorem IsLongestSplit.unique {key : String} {k l : Key} (hk : IsLongestSplit key k)
    (hl : IsLongestSplit key l) : k = l := by
  by_contra hne
  have hlt := hl.2 k hk.1 hne
  have hgt := hk.2 l hl.1 (Ne.symm hne)
  omega

theorem cut?_eq_some_iff {key : String} {op : Operator} {k : Key} (hop : op ≠ .equal) :
    cut? key op = some k ↔ k.operator = op ∧ Splits key k := by
  rw [cut?, Option.map_eq_some_iff]
  constructor
  · rintro ⟨front, hfront, rfl⟩
    obtain ⟨hne, htail⟩ := beforeTail?_eq_some_iff.mp hfront
    refine ⟨rfl, hop, ?_, ?_⟩
    · intro hempty
      exact hne (by simpa using congrArg String.toList hempty)
    · exact eq_format_iff.mpr (by simpa using htail)
  · rintro ⟨rfl, hk⟩
    refine ⟨k.field.toList, beforeTail?_eq_some_iff.mpr ⟨?_, hk.toList_eq⟩, ?_⟩
    · simpa using hk.field_ne
    · rw [String.ofList_toList]

theorem parse?_of_dash {key : String} (h : '-' ∈ key.toList) :
    parse? key = Operator.suffixed.findSome? (cut? key) := by
  rw [parse?, if_pos (by simpa using h)]
  rfl

theorem cut?_operator {key : String} {k : Key} (h : Splits key k) :
    cut? key k.operator = some k := (cut?_eq_some_iff h.operator_ne).mpr ⟨rfl, h⟩

theorem parse?_eq_none_iff {key : String} (hdash : '-' ∈ key.toList) :
    parse? key = none ↔ ∀ k, ¬ Splits key k := by
  rw [parse?_of_dash hdash, List.findSome?_eq_none_iff]
  constructor
  · intro hnone k hk
    have hcut := hnone k.operator ((Operator.mem_suffixed_iff _).mpr hk.operator_ne)
    rw [cut?_operator hk] at hcut
    exact absurd hcut (Option.some_ne_none k)
  · intro hnone op hop
    by_contra hcut
    obtain ⟨k, hk⟩ := Option.ne_none_iff_exists'.mp hcut
    exact hnone k ((cut?_eq_some_iff ((Operator.mem_suffixed_iff op).mp hop)).mp hk).2

theorem Splits.exists_parse? {key : String} {k : Key} (h : Splits key k) :
    ∃ l, parse? key = some l := by
  apply Option.ne_none_iff_exists'.mp
  intro hnone
  exact (parse?_eq_none_iff h.dash_mem).mp hnone k h

/-- The first operator of the table that fits is the one with the longest suffix. -/
theorem isLongestSplit_of_parse? {key : String} {k : Key} (hdash : '-' ∈ key.toList)
    (h : parse? key = some k) : IsLongestSplit key k := by
  rw [parse?_of_dash hdash, List.findSome?_eq_some_iff] at h
  obtain ⟨before, op, after, htable, hcut, hbefore⟩ := h
  have hop : op ≠ .equal := by
    rw [← Operator.mem_suffixed_iff, htable]
    simp
  obtain ⟨rfl, hk⟩ := (cut?_eq_some_iff hop).mp hcut
  have hsorted := Operator.suffixed_sorted
  rw [htable, List.pairwise_append, List.pairwise_cons] at hsorted
  refine ⟨hk, fun l hl hne => ?_⟩
  have hmem : l.operator ∈ before ++ k.operator :: after :=
    htable ▸ (Operator.mem_suffixed_iff _).mpr hl.operator_ne
  rw [List.mem_append, List.mem_cons] at hmem
  rcases hmem with hfront | hsame | hback
  · have hnone := hbefore _ hfront
    rw [cut?_operator hl] at hnone
    exact absurd hnone (Option.some_ne_none l)
  · exact absurd (hl.eq_of_operator_eq hk hsame) hne
  · have hle := hsorted.2.1.1 _ hback
    have hlength : l.operator.suffix.length ≠ k.operator.suffix.length := by
      intro heq
      exact hne (hl.eq_of_length_eq hk heq)
    omega

theorem parse?_eq_some_iff {key : String} (hdash : '-' ∈ key.toList) (k : Key) :
    parse? key = some k ↔ IsLongestSplit key k := by
  refine ⟨isLongestSplit_of_parse? hdash, fun hk => ?_⟩
  obtain ⟨l, hl⟩ := hk.1.exists_parse?
  rw [hl, (isLongestSplit_of_parse? hdash hl).unique hk]

theorem isBare_parse?_iff (key : String) :
    (parse? key).any isBare = true ↔ '-' ∉ key.toList := by
  constructor
  · intro h hdash
    obtain ⟨k, hk, hbare⟩ := (Option.any_eq_true _ _).mp h
    have hsplit := (isLongestSplit_of_parse? hdash hk).1
    exact hsplit.operator_ne (by simpa [isBare] using hbare)
  · intro h
    rw [parse?_of_bare h]
    rfl

theorem format_of_parse? {key : String} {k : Key} (h : parse? key = some k) :
    format k.field k.operator = key := by
  by_cases hdash : '-' ∈ key.toList
  · exact ((parse?_eq_some_iff hdash k).mp h).1.format_eq
  · rw [parse?_of_bare hdash, Option.some.injEq] at h
    rw [← h]
    rfl

theorem parse?_format_equal_iff (field : String) :
    parse? (format field .equal) = some ⟨field, .equal⟩ ↔ '-' ∉ field.toList := by
  refine ⟨fun h hdash => ?_, parse?_of_bare⟩
  exact ((parse?_eq_some_iff hdash _).mp h).1.operator_ne rfl

theorem splits_format {field : String} {op : Operator} (hop : op ≠ .equal) (hfield : field ≠ "") :
    Splits (format field op) ⟨field, op⟩ := by
  refine ⟨hop, hfield, ?_⟩
  unfold format
  split
  · exact absurd rfl hop
  · rfl

/-- Before the bounds of a range the last word "time" of a field counts as the operator's. -/
theorem exists_longer_split {g : String} {op : Operator} (hg : g ≠ "")
    (hop : op = .rangeFrom ∨ op = .rangeTo) :
    ∃ k, Splits (format (g ++ "-time") op) k ∧ op.suffix.length < k.operator.suffix.length := by
  obtain ⟨p, hp, hsuffix⟩ := Operator.exists_overlap hop
  have hne : op ≠ .equal := by rcases hop with rfl | rfl <;> decide
  have hformat : format (g ++ "-time") op = g ++ "-time" ++ "-" ++ op.suffix :=
    (splits_format hne (by simp)).key_eq
  refine ⟨⟨g, p⟩, ⟨hp, hg, ?_⟩, ?_⟩
  · rw [hformat, hsuffix]
    apply String.toList_inj.mp
    simp
  · rw [hsuffix, String.length_append]
    exact Nat.lt_add_of_pos_left (by decide)

theorem parse?_format_iff {field : String} {op : Operator} (hop : op ≠ .equal) :
    parse? (format field op) = some ⟨field, op⟩ ↔
      field ≠ "" ∧ ¬ ((op = .rangeFrom ∨ op = .rangeTo) ∧ ∃ g, g ≠ "" ∧ field = g ++ "-time") := by
  constructor
  · intro h
    have hlongest : IsLongestSplit (format field op) ⟨field, op⟩ := by
      by_cases hdash : '-' ∈ (format field op).toList
      · exact (parse?_eq_some_iff hdash _).mp h
      · rw [parse?_of_bare hdash, Option.some.injEq] at h
        exact absurd (congrArg Key.operator h).symm hop
    refine ⟨hlongest.1.field_ne, ?_⟩
    rintro ⟨hrange, g, hg, rfl⟩
    obtain ⟨k, hk, hlt⟩ := exists_longer_split hg hrange
    have hne : k ≠ ⟨g ++ "-time", op⟩ := by
      rintro rfl
      exact Nat.lt_irrefl _ hlt
    have hgt := hlongest.2 k hk hne
    exact Nat.lt_asymm hlt hgt
  · rintro ⟨hfield, htime⟩
    have hsplit := splits_format hop hfield
    refine (parse?_eq_some_iff hsplit.dash_mem _).mpr ⟨hsplit, fun l hl hne => ?_⟩
    by_contra hlonger
    obtain ⟨hrange, hend⟩ := hsplit.cases_of_ne hl hne (Nat.le_of_not_lt hlonger)
    exact htime ⟨hrange, l.field, hl.field_ne, hend⟩

theorem existsUnique_isLongestSplit {key : String} {k : Key} (h : Splits key k) :
    ∃! l, IsLongestSplit key l := by
  obtain ⟨l, hl⟩ := h.exists_parse?
  have hlongest := isLongestSplit_of_parse? h.dash_mem hl
  exact ⟨l, hlongest, fun m hm => hm.unique hlongest⟩

/-- The grammar of keys, exactly. A key without a dash is bare. Any other key is taken apart at
the longest suffix that leaves a field, of which there is one, and cannot be read if there is
none. What was read writes the key again. What was written is read again unless a bare field
has a dash, a field before an operator is empty, or the field of a bound of a range ends in
"-time" after something. -/
theorem reads_exactly :
    (∀ key k, parse? key = some k ↔
      ('-' ∉ key.toList ∧ k = ⟨key, .equal⟩) ∨ ('-' ∈ key.toList ∧ IsLongestSplit key k)) ∧
    (∀ key, parse? key = none ↔ '-' ∈ key.toList ∧ ∀ k, ¬ Splits key k) ∧
    (∀ key k, Splits key k → ∃! l, IsLongestSplit key l) ∧
    (∀ key k, parse? key = some k → format k.field k.operator = key) ∧
    (∀ field op, parse? (format field op) = some ⟨field, op⟩ ↔
      (op = .equal ∧ '-' ∉ field.toList) ∨
      (op ≠ .equal ∧ field ≠ "" ∧
        ¬ ((op = .rangeFrom ∨ op = .rangeTo) ∧ ∃ g, g ≠ "" ∧ field = g ++ "-time"))) := by
  refine ⟨fun key k => ?_, fun key => ?_, fun key k => existsUnique_isLongestSplit,
    fun key k => format_of_parse?, fun field op => ?_⟩
  · by_cases hdash : '-' ∈ key.toList
    · simp [parse?_eq_some_iff hdash, hdash]
    · simp [parse?_of_bare hdash, hdash, eq_comm]
  · by_cases hdash : '-' ∈ key.toList
    · simp [parse?_eq_none_iff hdash, hdash]
    · simp [parse?_of_bare hdash, hdash]
  · by_cases hop : op = .equal
    · subst hop
      simp [parse?_format_equal_iff]
    · simp [parse?_format_iff hop, hop]

/-- A bound of a range on "shift-time" is written like a bound on the time of day of "shift",
and read as that. -/
theorem reads_exactly_shiftTime :
    format "shift-time" .rangeFrom = "shift-time-from" ∧
    parse? "shift-time-from" = some ⟨"shift", .timeFrom⟩ ∧
    format "shift" .timeFrom = "shift-time-from" ∧
    (∃! l, IsLongestSplit "shift-time-from" l) ∧
    parse? (format "shift-time" .rangeFrom) ≠ some ⟨"shift-time", .rangeFrom⟩ := by
  have hread : parse? "shift-time-from" = some ⟨"shift", .timeFrom⟩ := by decide
  have hsplit : Splits "shift-time-from" ⟨"shift", .timeFrom⟩ := by constructor <;> decide
  obtain ⟨_, _, hlongest, hwrite, hback⟩ := reads_exactly
  refine ⟨by decide, hread, hwrite _ _ hread, hlongest _ _ hsplit, ?_⟩
  rw [ne_eq, hback]
  rintro (⟨hop, _⟩ | ⟨_, _, htime⟩)
  · exact absurd hop (by decide)
  · exact htime ⟨Or.inl rfl, "shift", by decide, by decide⟩

end Key

theorem isSweepable_iff (key : String) :
    isSweepable key = true ↔ '-' ∉ key.toList ∧ key ∉ reservedKeys := by
  rw [isSweepable, Bool.and_eq_true, Key.isBare_parse?_iff]
  simp

end FilterPipeline
