import HttpDoctest.Console.Ansi

set_option autoImplicit false

/-! # Texts with colour sequences

Which texts are nothing but colour sequences, and what such a text does to one that follows it.
-/

namespace HttpDoctest.Ansi

theorem strip_of_afterSequence?_nil {code : List Char} (h : afterSequence? code = some []) :
    strip code = [] := by
  rw [strip_of_sequence h, strip_nil]

@[simp] theorem strip_red : strip red = [] := strip_of_afterSequence?_nil (by decide)

@[simp] theorem strip_green : strip green = [] := strip_of_afterSequence?_nil (by decide)

@[simp] theorem strip_cyan : strip cyan = [] := strip_of_afterSequence?_nil (by decide)

@[simp] theorem strip_reset : strip reset = [] := strip_of_afterSequence?_nil (by decide)

theorem afterSequence?_append {text rest : List Char} (h : afterSequence? text = some rest)
    (more : List Char) : afterSequence? (text ++ more) = some (rest ++ more) := by
  unfold afterSequence? at h
  split at h
  · next first tail =>
    split at h
    · next hfirst =>
      split at h
      · next found hdrop =>
        cases h
        have hmore : (tail ++ more).dropWhile isParameter = 'm' :: (rest ++ more) := by
          rw [List.dropWhile_append, hdrop]
          rfl
        simp only [List.cons_append, afterSequence?, hfirst, if_true, hmore]
      · cases h
    · cases h
  · cases h

/-- Codes in front of a text are not seen. -/
theorem strip_append_of_strip_eq_nil {codes : List Char} (h : strip codes = [])
    (text : List Char) : strip (codes ++ text) = strip text := by
  fun_induction strip codes with
  | case1 codes rest hcode _ ih => rw [strip_of_sequence (afterSequence?_append hcode text), ih h]
  | case2 => rfl
  | case3 => cases h

theorem afterSequence?_of_ne {c : Char} (h : c ≠ escape) (text : List Char) :
    afterSequence? (c :: text) = none := by
  unfold afterSequence?
  split
  · next heq =>
    cases heq
    rw [if_neg h]
  · rfl

/-- A character that cannot start a sequence stays. -/
theorem strip_cons_of_ne {c : Char} (h : c ≠ escape) (text : List Char) :
    strip (c :: text) = c :: strip text :=
  strip_cons_of_none (afterSequence?_of_ne h text)

/-- Whether a text starts with `mark`, in whatever colour. -/
def opensWith (mark text : List Char) : Bool :=
  mark.isPrefixOf (strip text)

theorem opensWith_of_strip_eq_nil {m : Char} {mark text : List Char} (h : strip text = []) :
    opensWith (m :: mark) text = false := by
  rw [opensWith, h]
  rfl

theorem opensWith_of_strip_eq_append {codes mark : List Char} (hcodes : strip codes = [])
    (hmark : escape ∉ mark) (text : List Char) :
    opensWith mark (codes ++ (mark ++ text)) = true := by
  have hstrip : ∀ mark, escape ∉ mark → strip (mark ++ text) = mark ++ strip text := by
    intro mark
    induction mark with
    | nil => intro _; rfl
    | cons c mark ih =>
        intro h
        rw [List.mem_cons, not_or] at h
        rw [List.cons_append, strip_cons_of_ne (Ne.symm h.1), ih h.2, List.cons_append]
  rw [opensWith, strip_append_of_strip_eq_nil hcodes, hstrip mark hmark]
  exact List.isPrefixOf_iff_prefix.2 (List.prefix_append _ _)

/-- A text that starts with another character than `mark`, in no colour, does not start with
`mark`. -/
theorem opensWith_cons_of_ne {m c : Char} (hc : c ≠ escape) (hm : m ≠ c) (mark text : List Char) :
    opensWith (m :: mark) (c :: text) = false := by
  rw [opensWith, strip_cons_of_ne hc, List.isPrefixOf, beq_false_of_ne hm, Bool.false_and]

end HttpDoctest.Ansi
