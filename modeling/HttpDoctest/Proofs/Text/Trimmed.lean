import HttpDoctest.Text.Blank
import Mathlib.Data.List.TakeWhile

set_option autoImplicit false

/-! # Trimmed texts

A trimmed text is one that has no blank at either end, and is not empty. Cutting blanks off a
trimmed text that stands between blanks gives that text (`trim_append_append`).
-/

namespace HttpDoctest.Text

/-- A text of blanks. -/
def Blank (text : List Char) : Prop :=
  ∀ c ∈ text, isBlank c = true

instance (text : List Char) : Decidable (Blank text) :=
  List.decidableBAll (fun c => isBlank c = true) text

theorem blank_nil : Blank [] := fun _ h => nomatch h

/-- A text that starts and ends with a character that is not blank. -/
structure Trimmed (text : List Char) : Prop where
  first : ∃ c rest, text = c :: rest ∧ isBlank c = false
  last : ∃ front c, text = front ++ [c] ∧ isBlank c = false

theorem trimmed_iff {text : List Char} :
    Trimmed text ↔ text.head?.any (!isBlank ·) = true ∧ text.getLast?.any (!isBlank ·) = true := by
  simp only [Option.any_eq_true, List.head?_eq_some_iff, List.getLast?_eq_some_iff,
    Bool.not_eq_true']
  constructor
  · rintro ⟨⟨c, rest, hfirst, hc⟩, ⟨front, d, hlast, hd⟩⟩
    exact ⟨⟨c, ⟨rest, hfirst⟩, hc⟩, ⟨d, ⟨front, hlast⟩, hd⟩⟩
  · rintro ⟨⟨c, ⟨rest, hfirst⟩, hc⟩, ⟨d, ⟨front, hlast⟩, hd⟩⟩
    exact ⟨⟨c, rest, hfirst, hc⟩, ⟨front, d, hlast, hd⟩⟩

instance (text : List Char) : Decidable (Trimmed text) :=
  decidable_of_iff _ trimmed_iff.symm

/-- A character of a class is none outside of it. -/
theorem ne_of_class {p : Char → Bool} {c d : Char} (hc : p c = false) (hd : p d = true) :
    c ≠ d := by
  rintro rfl
  exact absurd (hc.symm.trans hd) Bool.false_ne_true

theorem Trimmed.ne_nil {text : List Char} (h : Trimmed text) : text ≠ [] := by
  obtain ⟨c, rest, rfl, _⟩ := h.first
  exact List.cons_ne_nil c rest

theorem trimStart_append {before : List Char} (h : Blank before) (text : List Char) :
    trimStart (before ++ text) = trimStart text := by
  induction before with
  | nil => rfl
  | cons c before ih =>
      have hc : isBlank c = true := h c List.mem_cons_self
      have hrest : Blank before := fun d hd => h d (List.mem_cons_of_mem c hd)
      rw [List.cons_append, trimStart, List.dropWhile_cons_of_pos hc]
      exact ih hrest

theorem trimStart_cons {c : Char} (h : isBlank c = false) (text : List Char) :
    trimStart (c :: text) = c :: text := by
  rw [trimStart, List.dropWhile_cons_of_neg (Bool.not_eq_true _ ▸ h)]

theorem trimEnd_append {after : List Char} (h : Blank after) (text : List Char) :
    trimEnd (text ++ after) = trimEnd text := by
  have hreverse : Blank after.reverse := by
    intro c hc
    exact h c (List.mem_reverse.1 hc)
  rw [trimEnd, trimEnd, List.reverse_append]
  exact congrArg List.reverse (trimStart_append hreverse text.reverse)

theorem trimEnd_append_singleton {c : Char} (h : isBlank c = false) (text : List Char) :
    trimEnd (text ++ [c]) = text ++ [c] := by
  rw [trimEnd, List.reverse_append, List.reverse_singleton, List.singleton_append,
    List.dropWhile_cons_of_neg (Bool.not_eq_true _ ▸ h), List.reverse_cons, List.reverse_reverse]

/-- A trimmed text is what is left of it and the blanks around it. -/
theorem trim_append_append {before text after : List Char} (hbefore : Blank before)
    (htext : Trimmed text) (hafter : Blank after) : trim (before ++ text ++ after) = text := by
  obtain ⟨c, rest, hfirst, hc⟩ := htext.first
  obtain ⟨front, d, hlast, hd⟩ := htext.last
  have hstart : trimStart (before ++ text ++ after) = text ++ after := by
    rw [List.append_assoc, trimStart_append hbefore, hfirst]
    exact trimStart_cons hc (rest ++ after)
  calc trim (before ++ text ++ after)
      = trimEnd (text ++ after) := by rw [trim, hstart]
    _ = trimEnd (front ++ [d]) := by rw [trimEnd_append hafter, hlast]
    _ = front ++ [d] := trimEnd_append_singleton hd front
    _ = text := hlast.symm

/-- Blanks behind a trimmed text are cut off. -/
theorem Trimmed.trim_append {text after : List Char} (h : Trimmed text) (hafter : Blank after) :
    trim (text ++ after) = text :=
  trim_append_append blank_nil h hafter

/-- Blanks in front of a trimmed text are cut off. -/
theorem Trimmed.trim_append_left {before text : List Char} (hbefore : Blank before)
    (h : Trimmed text) : trim (before ++ text) = text := by
  have htrim := trim_append_append hbefore h blank_nil
  rwa [List.append_nil] at htrim

theorem Trimmed.trim_eq {text : List Char} (h : Trimmed text) : trim text = text := by
  have htrim := trim_append_append blank_nil h blank_nil
  rwa [List.nil_append, List.append_nil] at htrim

theorem trim_append {after : List Char} (h : Blank after) (text : List Char) :
    trim (text ++ after) = trim text := by
  rw [trim, trim, trimStart, trimStart, List.dropWhile_append]
  split
  · next hempty =>
    have hstart := trimStart_append h []
    rw [List.append_nil, trimStart] at hstart
    rw [List.isEmpty_iff.1 hempty, hstart]
    rfl
  · exact trimEnd_append h _

theorem trim_blank_append {before : List Char} (h : Blank before) (text : List Char) :
    trim (before ++ text) = trim text := by
  rw [trim, trimStart_append h, ← trim]

theorem trim_of_blank {text : List Char} (h : Blank text) : trim text = [] :=
  trim_append h []

theorem trimStart_sublist (text : List Char) : List.Sublist (trimStart text) text :=
  List.dropWhile_sublist isBlank

theorem trimEnd_sublist (text : List Char) : List.Sublist (trimEnd text) text := by
  have h : List.Sublist (text.reverse.dropWhile isBlank) text.reverse := trimStart_sublist _
  rw [← List.reverse_sublist, List.reverse_reverse] at h
  exact h

theorem trim_sublist (text : List Char) : List.Sublist (trim text) text :=
  (trimEnd_sublist (trimStart text)).trans (trimStart_sublist text)

/-! ## What is cut off -/

/-- Blanks are cut off at the start, and the next character is none. -/
theorem exists_blank_trimStart (text : List Char) :
    ∃ before, Blank before ∧ text = before ++ trimStart text :=
  ⟨text.takeWhile isBlank, fun _ hc => List.mem_takeWhile_imp hc,
    List.takeWhile_append_dropWhile.symm⟩

theorem isBlank_of_trimStart {text rest : List Char} {c : Char} (h : trimStart text = c :: rest) :
    isBlank c = false := by
  have hnone := List.head?_dropWhile_not isBlank text
  rw [← trimStart, h] at hnone
  exact hnone

theorem exists_trimEnd_blank (text : List Char) :
    ∃ after, Blank after ∧ text = trimEnd text ++ after := by
  obtain ⟨before, hbefore, hsplit⟩ := exists_blank_trimStart text.reverse
  refine ⟨before.reverse, fun c hc => hbefore c (List.mem_reverse.1 hc), ?_⟩
  rw [trimEnd, ← List.reverse_append, ← trimStart, ← hsplit, List.reverse_reverse]

/-- A text that starts with a character that is not blank is trimmed once its end is cut. -/
theorem trimmed_trimEnd {c : Char} (h : isBlank c = false) (rest : List Char) :
    Trimmed (trimEnd (c :: rest)) := by
  -- the last of the characters that stay is the first that stays of the reversed text
  cases hend : trimStart (c :: rest).reverse with
  | nil =>
      obtain ⟨before, hbefore, hsplit⟩ := exists_blank_trimStart (c :: rest).reverse
      rw [hend, List.append_nil] at hsplit
      have hc : isBlank c = true := hbefore c (hsplit ▸ List.mem_reverse.2 List.mem_cons_self)
      exact absurd (h.symm.trans hc) Bool.false_ne_true
  | cons d front =>
      have hkept : trimEnd (c :: rest) = front.reverse ++ [d] := by
        rw [trimEnd, ← trimStart, hend, List.reverse_cons]
      obtain ⟨after, -, hsplit⟩ := exists_trimEnd_blank (c :: rest)
      refine ⟨?_, front.reverse, d, hkept, isBlank_of_trimStart hend⟩
      cases hfirst : trimEnd (c :: rest) with
      | nil => simp [hfirst] at hkept
      | cons e kept =>
          rw [hfirst, List.cons_append] at hsplit
          obtain ⟨rfl, -⟩ := List.cons.inj hsplit
          exact ⟨c, kept, rfl, h⟩

/-- A text that is not blank is a trimmed one between blanks. -/
theorem exists_trimmed {text : List Char} (h : ¬Blank text) :
    ∃ before after, text = before ++ (trim text ++ after) ∧ Blank before ∧ Blank after ∧
      Trimmed (trim text) := by
  obtain ⟨before, hbefore, hsplit⟩ := exists_blank_trimStart text
  obtain ⟨after, hafter, hsplit'⟩ := exists_trimEnd_blank (trimStart text)
  refine ⟨before, after, by rw [trim, ← hsplit', ← hsplit], hbefore, hafter, ?_⟩
  cases hstart : trimStart text with
  | nil =>
      rw [hstart, List.append_nil] at hsplit
      exact absurd (hsplit ▸ hbefore) h
  | cons c rest =>
      rw [trim, hstart]
      exact trimmed_trimEnd (isBlank_of_trimStart hstart) rest

/-! ## What is not blank -/

/-- The number of characters that are not blank. -/
def inked (text : List Char) : Nat :=
  text.countP fun c => !isBlank c

theorem inked_append (text text' : List Char) : inked (text ++ text') = inked text + inked text' :=
  List.countP_append

theorem inked_eq_zero_iff {text : List Char} : inked text = 0 ↔ Blank text := by
  rw [inked, List.countP_eq_zero]
  simp only [Bool.not_eq_true', Bool.not_eq_false, Blank]

/-- Nothing is cut off but blanks. -/
theorem inked_trim (text : List Char) : inked (trim text) = inked text := by
  have hstart (text : List Char) : inked (trimStart text) = inked text := by
    induction text with
    | nil => rfl
    | cons c text ih =>
        by_cases hc : isBlank c = true
        · have hblank : Blank [c] := List.forall_mem_singleton.2 hc
          rw [← List.singleton_append, trimStart_append hblank, ih, inked_append,
            inked_eq_zero_iff.2 hblank, Nat.zero_add]
        · rw [trimStart_cons (Bool.eq_false_iff.2 hc)]
  have hreverse (text : List Char) : inked text.reverse = inked text := List.countP_reverse
  have hend : inked (trimEnd (trimStart text)) = inked (trimStart text).reverse := by
    rw [trimEnd, hreverse]
    exact hstart _
  rw [trim, hend, hreverse, hstart]

end HttpDoctest.Text
