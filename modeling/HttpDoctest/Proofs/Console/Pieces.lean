import HttpDoctest.Proofs.Console.Codes
import HttpDoctest.Text.Lines
import Mathlib.Data.List.TakeWhile

set_option autoImplicit false

/-! # The pieces of a coloured text

A text is made of characters that are seen and of complete colour sequences (`scan`). Chunks that
are written one after the other may not be scanned one after the other: an escape character at the
end of one chunk may start a sequence that the next chunk completes. A text in which nothing is
left open is `Whole`, and what is whole is scanned by itself, whatever follows. Whole are texts of
nothing but codes, and all texts that end in a character that no sequence goes over, such as a line
feed.
-/

namespace HttpDoctest.Ansi

/-- A piece of a text: a character that is seen, or a complete colour sequence. -/
inductive Piece where
  | visible (c : Char)
  | code (sequence : List Char)
deriving DecidableEq, Repr

/-- The pieces of a text, found from left to right. -/
def scan (text : List Char) : List Piece :=
  match h : afterSequence? text with
  | some rest =>
      have := length_of_afterSequence? h
      .code (text.take (text.length - rest.length)) :: scan rest
  | none => match text with
    | [] => []
    | c :: tail => .visible c :: scan tail
termination_by text.length

@[simp] theorem scan_nil : scan [] = [] := by
  rw [scan]; rfl

theorem scan_of_sequence {text rest : List Char} (h : afterSequence? text = some rest) :
    scan text = .code (text.take (text.length - rest.length)) :: scan rest := by
  rw [scan]
  split
  · next hr => rw [h] at hr; cases hr; rfl
  · next hn => rw [h] at hn; cases hn

theorem scan_cons_of_none {c : Char} {tail : List Char} (h : afterSequence? (c :: tail) = none) :
    scan (c :: tail) = .visible c :: scan tail := by
  rw [scan]
  split
  · next hr => rw [h] at hr; cases hr
  · rfl

/-- A sequence by itself is one piece. -/
theorem scan_of_afterSequence?_nil {code : List Char} (h : afterSequence? code = some []) :
    scan code = [.code code] := by
  rw [scan_of_sequence h, scan_nil, List.length_nil, Nat.sub_zero, List.take_length]

/-- What is seen of a piece. -/
def Piece.seen : Piece → Option Char
  | visible c => some c
  | code _ => none

/-- What remains of a text without its sequences is what is seen of its pieces. -/
theorem strip_eq_filterMap (text : List Char) : strip text = (scan text).filterMap Piece.seen := by
  fun_induction scan text with
  | case1 text rest hcode _ ih => rw [strip_of_sequence hcode, ih]; rfl
  | case2 hnone => exact strip_nil
  | case3 c tail hnone ih => rw [strip_cons_of_none hnone, ih]; rfl

/-! ## Whole texts -/

/-- Whether a text is scanned by itself, whatever follows it. -/
def Whole (text : List Char) : Prop :=
  ∀ more, scan (text ++ more) = scan text ++ scan more

theorem Whole.strip_append {text : List Char} (h : Whole text) (more : List Char) :
    strip (text ++ more) = strip text ++ strip more := by
  simp only [strip_eq_filterMap, h more, List.filterMap_append]

theorem whole_nil : Whole [] := fun more => by simp

theorem Whole.append {text text' : List Char} (h : Whole text) (h' : Whole text') :
    Whole (text ++ text') := by
  intro more
  rw [List.append_assoc, h, h', h, List.append_assoc]

theorem afterSequence?_suffix {text rest : List Char} (h : afterSequence? text = some rest) :
    rest <:+ text := by
  unfold afterSequence? at h
  split at h
  · next first tail =>
    split at h
    · split at h
      · next found hdrop =>
        cases h
        have hback : 'm' :: rest <:+ tail := hdrop ▸ List.dropWhile_suffix isParameter
        exact (List.suffix_cons _ _).trans
          (hback.trans ((List.suffix_cons _ _).trans (List.suffix_cons _ _)))
      · cases h
    · cases h
  · cases h

/-- Texts of nothing but codes are whole. -/
theorem whole_of_strip_eq_nil {codes : List Char} (h : strip codes = []) : Whole codes := by
  intro more
  fun_induction strip codes with
  | case1 codes rest hcode hlt ih =>
      -- the sequence at the front is as long as without the text behind it
      have hlength : (codes ++ more).length - (rest ++ more).length =
          codes.length - rest.length := by
        simp only [List.length_append]
        omega
      rw [scan_of_sequence hcode, scan_of_sequence (afterSequence?_append hcode more), hlength,
        List.take_append_of_le_length (Nat.sub_le _ _), ih h, List.cons_append]
  | case2 => simp
  | case3 => cases h

/-- Whether no sequence goes on behind `c`: it neither starts one nor stands inside one. -/
def breaksOff (c : Char) : Bool :=
  c != escape && c != '[' && !isParameter c

/-- Behind such a character nothing changes the sequence at the front of a text. -/
theorem afterSequence?_append_breaksOff {c : Char} (h : breaksOff c = true)
    (text more : List Char) :
    afterSequence? (text ++ [c] ++ more) = (afterSequence? (text ++ [c])).map (· ++ more) := by
  simp only [breaksOff, Bool.and_eq_true, bne_iff_ne, Bool.not_eq_true'] at h
  obtain ⟨⟨hescape, hbracket⟩, hparameter⟩ := h
  match text with
  | [] =>
      rw [List.nil_append, List.singleton_append, afterSequence?_of_ne hescape,
        afterSequence?_of_ne hescape, Option.map_none]
  | [first] => simp [afterSequence?, hbracket]
  | first :: second :: text =>
      by_cases hsecond : second = '['
      · subst hsecond
        have hne : (text ++ [c]).dropWhile isParameter ≠ [] := by
          intro hnil
          have hall := List.dropWhile_eq_nil_iff.1 hnil c (by simp)
          rw [hparameter] at hall
          cases hall
        have hdrop : (text ++ [c] ++ more).dropWhile isParameter =
            (text ++ [c]).dropWhile isParameter ++ more := by
          rw [List.dropWhile_append, if_neg (by simpa using hne)]
        simp only [List.cons_append, afterSequence?, hdrop]
        split
        · cases hfound : (text ++ [c]).dropWhile isParameter with
          | nil => exact absurd hfound hne
          | cons d found =>
              by_cases hd : d = 'm'
              · subst hd
                rfl
              · simp [hd]
        · rfl
      · simp [afterSequence?, hsecond]

theorem whole_append_breaksOff {c : Char} (h : breaksOff c = true) (text : List Char) :
    Whole (text ++ [c]) := by
  intro more
  induction hn : text.length using Nat.strongRecOn generalizing text with
  | ind n ih =>
    have hfront := afterSequence?_append_breaksOff h text more
    cases hcode : afterSequence? (text ++ [c]) with
    | none =>
        rw [hcode, Option.map_none] at hfront
        cases text with
        | nil =>
            have halone : scan [c] = .visible c :: scan [] := scan_cons_of_none hcode
            have hmore : scan (c :: more) = .visible c :: scan more := scan_cons_of_none hfront
            show scan (c :: more) = scan [c] ++ scan more
            rw [hmore, halone, scan_nil]
            rfl
        | cons first text =>
            have htail := ih text.length (hn ▸ Nat.lt_succ_self _) text rfl
            have halone : scan (first :: (text ++ [c])) = .visible first :: scan (text ++ [c]) :=
              scan_cons_of_none hcode
            have hmore : scan (first :: (text ++ [c] ++ more)) =
                .visible first :: scan (text ++ [c] ++ more) := scan_cons_of_none hfront
            show scan (first :: (text ++ [c] ++ more)) = scan (first :: (text ++ [c])) ++ scan more
            rw [hmore, halone, htail, List.cons_append]
    | some rest =>
        rw [hcode, Option.map_some] at hfront
        have hlt := length_of_afterSequence? hcode
        have hlength : (text ++ [c] ++ more).length - (rest ++ more).length =
            (text ++ [c]).length - rest.length := by
          simp only [List.length_append]
          omega
        -- what follows the sequence ends in the same character, or the sequence ends in it
        have hrest : scan (rest ++ more) = scan rest ++ scan more := by
          rcases List.suffix_concat_iff.1 (afterSequence?_suffix hcode) with rfl | ⟨back, rfl, -⟩
          · simp
          · refine ih back.length ?_ back rfl
            simp only [List.length_append] at hlt
            omega
        rw [scan_of_sequence hcode, scan_of_sequence hfront, hlength,
          List.take_append_of_le_length (Nat.sub_le _ _), hrest, List.cons_append]

/-- A text with its line feed is whole. -/
theorem whole_line (text : List Char) : Whole (text ++ ['\n']) :=
  whole_append_breaksOff (by decide) text

theorem whole_lineFeeds (count : Nat) : Whole (List.replicate count '\n') := by
  cases count with
  | zero => exact whole_nil
  | succ count =>
      rw [List.replicate_succ']
      exact whole_line _

/-! ## Texts without escape characters -/

theorem scan_append_of_not_mem {text : List Char} (h : escape ∉ text) (more : List Char) :
    scan (text ++ more) = text.map .visible ++ scan more := by
  induction text with
  | nil => rfl
  | cons c text ih =>
      rw [List.mem_cons, not_or] at h
      rw [List.cons_append, scan_cons_of_none (afterSequence?_of_ne (Ne.symm h.1) _), ih h.2]
      rfl

/-- A text without escape characters is seen as it is. -/
theorem scan_of_not_mem {text : List Char} (h : escape ∉ text) :
    scan text = text.map .visible := by
  have hscan := scan_append_of_not_mem h []
  rwa [List.append_nil, scan_nil, List.append_nil] at hscan

theorem strip_of_not_mem {text : List Char} (h : escape ∉ text) : strip text = text := by
  rw [strip_eq_filterMap, scan_of_not_mem h, List.filterMap_map]
  exact List.filterMap_some

theorem strip_lineFeeds (count : Nat) :
    strip (List.replicate count '\n') = List.replicate count '\n' := by
  refine strip_of_not_mem fun hmem => ?_
  exact absurd (List.eq_of_mem_replicate hmem) (by decide)

/-- Whether a string holds no escape character. -/
def EscapeFree (s : String) : Prop :=
  escape ∉ s.toList

instance (s : String) : Decidable (EscapeFree s) :=
  inferInstanceAs (Decidable (escape ∉ s.toList))

@[simp] theorem escapeFree_append (s t : String) :
    EscapeFree (s ++ t) ↔ EscapeFree s ∧ EscapeFree t := by
  rw [EscapeFree, String.toList_append, List.mem_append, not_or]
  rfl

@[simp] theorem escapeFree_ofList (text : List Char) :
    EscapeFree (String.ofList text) ↔ escape ∉ text := by
  rw [EscapeFree, String.toList_ofList]

end HttpDoctest.Ansi
