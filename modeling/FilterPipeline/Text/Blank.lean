import FilterPipeline.Text.Digit

/-!
White space. The class is the one of Unicode together with the four information
separators of ASCII; the zero width space and the byte order mark are not in it.
-/

namespace FilterPipeline.Text

def isBlank (c : Char) : Bool :=
  let n := c.toNat
  (0x09 ≤ n ∧ n ≤ 0x0d) ∨ (0x1c ≤ n ∧ n ≤ 0x20) ∨ n = 0x85 ∨ n = 0xa0 ∨ n = 0x1680 ∨
    (0x2000 ≤ n ∧ n ≤ 0x200a) ∨ n = 0x2028 ∨ n = 0x2029 ∨ n = 0x202f ∨ n = 0x205f ∨ n = 0x3000

def trimStart (cs : List Char) : List Char := cs.dropWhile isBlank

def trimEnd (cs : List Char) : List Char := (cs.reverse.dropWhile isBlank).reverse

/-- A text without the white space at its two ends. -/
def strip (cs : List Char) : List Char := trimEnd (trimStart cs)

theorem dropWhile_blank {front cs : List Char} (hfront : ∀ c ∈ front, isBlank c = true)
    (hcs : ∀ c ∈ cs.head?, isBlank c = false) : (front ++ cs).dropWhile isBlank = cs := by
  rw [List.dropWhile_append_of_pos hfront]
  cases cs with
  | nil => rfl
  | cons c cs => rw [List.dropWhile_cons_of_neg (by simp [hcs c rfl])]

/-- White space around a text without any is removed. -/
theorem strip_padded {front cs back : List Char} (hfront : ∀ c ∈ front, isBlank c = true)
    (hcs : ∀ c ∈ cs, isBlank c = false) (hback : ∀ c ∈ back, isBlank c = true) :
    strip (front ++ cs ++ back) = cs := by
  cases cs with
  | nil =>
    have hblank : ∀ c ∈ front ++ back, isBlank c = true :=
      List.forall_mem_append.mpr ⟨hfront, hback⟩
    have hstart : (front ++ back ++ []).dropWhile isBlank = [] :=
      dropWhile_blank hblank fun c hc => absurd hc (Option.not_mem_none c)
    rw [List.append_nil] at hstart
    rw [List.append_nil, strip, trimStart, hstart]
    rfl
  | cons c cs =>
    have hstart : trimStart (front ++ (c :: cs) ++ back) = c :: cs ++ back := by
      rw [List.append_assoc]
      exact dropWhile_blank hfront fun d hd => hcs d (by simp_all)
    have hend : (back.reverse ++ (c :: cs).reverse).dropWhile isBlank = (c :: cs).reverse := by
      refine dropWhile_blank (by simpa using hback) fun d hd => hcs d ?_
      rw [← List.mem_reverse]
      exact List.mem_of_mem_head? hd
    rw [strip, hstart, trimEnd, List.reverse_append, hend, List.reverse_reverse]

theorem isBlank_of_isAsciiDigit {c : Char} (h : isAsciiDigit c = true) : isBlank c = false := by
  have hrange : 48 ≤ c.toNat ∧ c.toNat ≤ 57 := of_decide_eq_true h
  simp only [isBlank, decide_eq_false_iff_not]
  omega

end FilterPipeline.Text
