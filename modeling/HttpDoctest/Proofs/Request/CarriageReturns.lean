import HttpDoctest.Proofs.Request.Lines
import Mathlib.Data.List.Induction

set_option autoImplicit false

/-! # Carriage returns in front of line feeds

What the rules of a request block do once every line feed of a text has a carriage return in front
of it (`crlf`). Line ends, blank lines and trailer lines are found as before
(`readTrailers_crlf`). A header run is found as before unless the text starts with two line feeds
(`headerRun?_crlf`): then the first carriage return is a character in front of a blank line, and
makes a header run of nothing.
-/

namespace HttpDoctest.Request

/-- A text with a carriage return put in front of every line feed. -/
def crlf (text : List Char) : List Char :=
  text.flatMap fun c => if c = '\n' then ['\r', '\n'] else [c]

/-- A text with the carriage returns in front of line feeds left out. -/
def fromCrlf : List Char → List Char
  | '\r' :: '\n' :: text => '\n' :: fromCrlf text
  | c :: text => c :: fromCrlf text
  | [] => []

@[simp] theorem crlf_nil : crlf [] = [] := rfl

@[simp] theorem crlf_lineFeed (text : List Char) :
    crlf ('\n' :: text) = '\r' :: '\n' :: crlf text := rfl

theorem crlf_cons {c : Char} (h : c ≠ '\n') (text : List Char) :
    crlf (c :: text) = c :: crlf text := by
  rw [crlf, List.flatMap_cons, if_neg h]
  rfl

@[simp] theorem crlf_append (text text' : List Char) :
    crlf (text ++ text') = crlf text ++ crlf text' :=
  List.flatMap_append

theorem crlf_of_not_mem {text : List Char} (h : '\n' ∉ text) : crlf text = text := by
  induction text with
  | nil => rfl
  | cons c text ih =>
      rw [List.mem_cons, not_or] at h
      rw [crlf_cons (Ne.symm h.1), ih h.2]

theorem crlf_eq_nil_iff {text : List Char} : crlf text = [] ↔ text = [] := by
  cases text with
  | nil => exact ⟨fun _ => rfl, fun _ => rfl⟩
  | cons c text =>
      by_cases hn : c = '\n'
      · simp [hn]
      · simp [crlf_cons hn]

theorem mem_crlf {c : Char} (hr : c ≠ '\r') {text : List Char} : c ∈ crlf text ↔ c ∈ text := by
  induction text with
  | nil => exact Iff.rfl
  | cons d text ih =>
      by_cases hn : d = '\n'
      · subst hn
        rw [crlf_lineFeed, List.mem_cons, List.mem_cons, List.mem_cons, ih]
        exact or_iff_right hr
      · rw [crlf_cons hn, List.mem_cons, List.mem_cons, ih]

/-- A carriage return comes into a text with its line feeds only. -/
theorem return_mem_crlf {text : List Char} (h : '\n' ∈ text) : '\r' ∈ crlf text := by
  obtain ⟨before, behind, rfl⟩ := List.append_of_mem h
  rw [crlf_append, crlf_lineFeed]
  exact List.mem_append_right _ List.mem_cons_self

theorem fromCrlf_crlf {text : List Char} (h : '\r' ∉ text) : fromCrlf (crlf text) = text := by
  induction text with
  | nil => rfl
  | cons c text ih =>
      rw [List.mem_cons, not_or] at h
      by_cases hn : c = '\n'
      · subst hn
        rw [crlf_lineFeed, fromCrlf, ih h.2]
      · rw [crlf_cons hn, fromCrlf, ih h.2]
        rintro _ rfl
        exact absurd rfl h.1

/-! ## Classes of characters -/

section Classes

variable {p : Char → Bool} {text : List Char}

theorem forall_crlf (h : p '\r' = p '\n') :
    (∀ c ∈ crlf text, p c = true) ↔ ∀ c ∈ text, p c = true := by
  induction text with
  | nil => exact Iff.rfl
  | cons c text ih =>
      by_cases hn : c = '\n'
      · subst hn
        rw [crlf_lineFeed, List.forall_mem_cons, List.forall_mem_cons, List.forall_mem_cons, ih, h,
          ← and_assoc, and_self]
      · rw [crlf_cons hn, List.forall_mem_cons, List.forall_mem_cons, ih]

/-- A run of a class to which both characters of a line end belong, or neither. -/
theorem takeWhile_crlf (h : p '\r' = p '\n') :
    (crlf text).takeWhile p = crlf (text.takeWhile p) := by
  induction text with
  | nil => rfl
  | cons c text ih =>
      by_cases hn : c = '\n'
      · subst hn
        by_cases hp : p '\n' = true
        · rw [crlf_lineFeed, List.takeWhile_cons_of_pos (h.trans hp), List.takeWhile_cons_of_pos hp,
            List.takeWhile_cons_of_pos hp, ih, crlf_lineFeed]
        · rw [crlf_lineFeed, List.takeWhile_cons_of_neg (h ▸ hp), List.takeWhile_cons_of_neg hp,
            crlf_nil]
      · rw [crlf_cons hn]
        by_cases hp : p c = true
        · rw [List.takeWhile_cons_of_pos hp, List.takeWhile_cons_of_pos hp, ih, crlf_cons hn]
        · rw [List.takeWhile_cons_of_neg hp, List.takeWhile_cons_of_neg hp, crlf_nil]

theorem dropWhile_crlf (h : p '\r' = p '\n') :
    (crlf text).dropWhile p = crlf (text.dropWhile p) := by
  induction text with
  | nil => rfl
  | cons c text ih =>
      by_cases hn : c = '\n'
      · subst hn
        by_cases hp : p '\n' = true
        · rw [crlf_lineFeed, List.dropWhile_cons_of_pos (h.trans hp), List.dropWhile_cons_of_pos hp,
            List.dropWhile_cons_of_pos hp, ih]
        · rw [crlf_lineFeed, List.dropWhile_cons_of_neg (h ▸ hp), List.dropWhile_cons_of_neg hp,
            crlf_lineFeed]
      · rw [crlf_cons hn]
        by_cases hp : p c = true
        · rw [List.dropWhile_cons_of_pos hp, List.dropWhile_cons_of_pos hp, ih]
        · rw [List.dropWhile_cons_of_neg hp, List.dropWhile_cons_of_neg hp, crlf_cons hn]

theorem skipSpaces_crlf : skipSpaces (crlf text) = crlf (skipSpaces text) :=
  dropWhile_crlf rfl

theorem plain_crlf : Plain (crlf text) ↔ Plain text :=
  forall_crlf rfl

theorem blank_crlf : Text.Blank (crlf text) ↔ Text.Blank text :=
  forall_crlf rfl

theorem trim_crlf : Text.trim (crlf text) = crlf (Text.trim text) := by
  have hend (text : List Char) : Text.trimEnd (crlf text) = crlf (Text.trimEnd text) := by
    induction text using List.reverseRecOn with
    | nil => rfl
    | append_singleton text c ih =>
        by_cases hc : Text.isBlank c = true
        · have hblank : Text.Blank [c] := List.forall_mem_singleton.2 hc
          rw [crlf_append, Text.trimEnd_append (blank_crlf.2 hblank), ih,
            Text.trimEnd_append hblank]
        · have hc := Bool.eq_false_iff.2 hc
          have hn : c ≠ '\n' := Text.ne_of_class hc (by decide)
          rw [crlf_append, crlf_cons hn, crlf_nil, Text.trimEnd_append_singleton hc,
            Text.trimEnd_append_singleton hc, crlf_append, crlf_cons hn, crlf_nil]
  rw [Text.trim, Text.trim, Text.trimStart, dropWhile_crlf rfl, hend]
  rfl

end Classes

theorem Lines.crlf {text : List Char} (h : Lines text) : Lines (crlf text) := by
  refine ⟨plain_crlf.2 h.plain, ?_⟩
  rcases h.whole with rfl | ⟨front, rfl⟩
  · exact .inl rfl
  · refine .inr ⟨Request.crlf front ++ ['\r'], ?_⟩
    rw [crlf_append, List.append_assoc]
    rfl

/-! ## Line ends -/

section LineEnds

variable {text : List Char} (h : '\r' ∉ text)
include h

theorem lineEnd?_crlf :
    lineEnd? (crlf text) = (lineEnd? text).map fun (found, rest) => (crlf found, crlf rest) := by
  cases text with
  | nil => rfl
  | cons c text =>
      rw [List.mem_cons, not_or] at h
      by_cases hn : c = '\n'
      · subst hn
        rfl
      · rw [crlf_cons hn, lineEnd?_of_ne hn (Ne.symm h.1), lineEnd?_of_ne hn (Ne.symm h.1)]
        rfl

theorem eq_lineFeed_of_lineEnd? {found rest : List Char}
    (hend : lineEnd? text = some (found, rest)) : found = ['\n'] ∧ text = '\n' :: rest := by
  unfold lineEnd? at hend
  split at hend
  · cases hend
    exact ⟨rfl, rfl⟩
  · exact absurd List.mem_cons_self h
  · cases hend

theorem afterLineEnds_crlf : afterLineEnds (crlf text) = crlf (afterLineEnds text) := by
  induction hlength : text.length using Nat.strongRecOn generalizing text with
  | ind k ih =>
  cases hend : lineEnd? text with
  | none =>
      have hnone : lineEnd? (crlf text) = none := by
        rw [lineEnd?_crlf h, hend]
        rfl
      rw [afterLineEnds_of_none hend, afterLineEnds_of_none hnone]
  | some found =>
      obtain ⟨ending, rest⟩ := found
      obtain ⟨-, rfl⟩ := eq_lineFeed_of_lineEnd? h hend
      have hrest : '\r' ∉ rest := fun hmem => h (List.mem_cons_of_mem _ hmem)
      have hlf : afterLineEnds ('\n' :: rest) = afterLineEnds rest :=
        afterLineEnds_text_append .lf rest
      have hcrlf : afterLineEnds ('\r' :: '\n' :: crlf rest) = afterLineEnds (crlf rest) :=
        afterLineEnds_text_append .crlf (crlf rest)
      rw [crlf_lineFeed, hcrlf, hlf]
      exact ih rest.length (by rw [← hlength]; exact Nat.lt_succ_self _) hrest rfl

theorem skipBlankLines_crlf :
    RequestBlock.skipBlankLines (crlf text) = crlf (RequestBlock.skipBlankLines text) := by
  unfold RequestBlock.skipBlankLines
  rw [lineEnd?_crlf h]
  cases lineEnd? text with
  | none => rfl
  | some found => exact (congrArg skipSpaces (afterLineEnds_crlf h)).trans skipSpaces_crlf

end LineEnds

/-! ## What rules leave -/

theorem skipSpaces_suffix (text : List Char) : skipSpaces text <:+ text :=
  List.dropWhile_suffix _

theorem afterLineEnds_suffix (text : List Char) : afterLineEnds text <:+ text := by
  fun_induction afterLineEnds text with
  | case1 text ending rest h _ ih => exact ih.trans ⟨ending, append_of_lineEnd? h⟩
  | case2 => exact List.suffix_rfl

theorem skipBlankLines_suffix (text : List Char) : RequestBlock.skipBlankLines text <:+ text := by
  unfold RequestBlock.skipBlankLines
  split
  · exact (skipSpaces_suffix _).trans (afterLineEnds_suffix text)
  · exact List.suffix_rfl

theorem append_of_markedLine? {mark : Char} {text source rest : List Char}
    (h : markedLine? mark text = some (source, rest)) :
    ∃ ending, mark :: (source ++ (ending ++ rest)) = text := by
  unfold markedLine? at h
  split at h
  · cases h
  · next c text =>
    split at h
    · next hmark =>
      split at h
      · cases h
      · obtain ⟨⟨ending, rest⟩, hend, heq⟩ := Option.map_eq_some_iff.1 h
        cases heq
        refine ⟨ending, ?_⟩
        rw [append_of_lineEnd? hend, List.takeWhile_append_dropWhile, hmark]
    · cases h

/-- A trailer line has its mark and its source in front of what is left. -/
theorem suffix_of_trailerLine? {text rest : List Char} {trailer : Trailer}
    (h : RequestBlock.trailerLine? text = some (trailer, rest)) :
    rest <:+ text ∧ trailer.source.toList ⊆ text := by
  have hmarked {mark : Char} {source behind : List Char}
      (hline : markedLine? mark text = some (source, behind)) :
      skipSpaces behind <:+ text ∧ (String.ofList source).toList ⊆ text := by
    obtain ⟨ending, rfl⟩ := append_of_markedLine? hline
    refine ⟨(skipSpaces_suffix behind).trans ⟨mark :: (source ++ ending), ?_⟩, ?_⟩
    · rw [List.cons_append, List.append_assoc]
    · rw [String.toList_ofList]
      exact fun c hc => List.mem_cons_of_mem mark (List.mem_append_left _ hc)
  unfold RequestBlock.trailerLine? at h
  split at h
  · next hline =>
    cases h
    exact hmarked hline
  · split at h
    · next hline =>
      cases h
      exact hmarked hline
    · cases h

/-! ## Trailers -/

section Trailers

variable {text : List Char} (h : '\r' ∉ text)
include h

theorem markedLine?_crlf {mark : Char} (hmark : isPlain mark = false) :
    markedLine? mark (crlf text) =
      (markedLine? mark text).map fun (source, rest) => (source, crlf rest) := by
  cases text with
  | nil => rfl
  | cons c text =>
      have htext : '\r' ∉ text := fun hmem => h (List.mem_cons_of_mem _ hmem)
      have hr : '\r' ≠ mark := Ne.symm (Text.ne_of_class hmark (by decide))
      by_cases hc : c = mark
      · subst hc
        have hn : c ≠ '\n' := Text.ne_of_class hmark (by decide)
        have hline : '\n' ∉ text.takeWhile fun d => d != '\r' && d != '\n' := by
          intro hmem
          simpa using List.mem_takeWhile_imp hmem
        have hrest : '\r' ∉ text.dropWhile fun d => d != '\r' && d != '\n' :=
          fun hmem => htext ((List.dropWhile_sublist _).subset hmem)
        rw [crlf_cons hn, markedLine?, markedLine?, if_pos rfl, if_pos rfl, takeWhile_crlf rfl,
          dropWhile_crlf rfl, crlf_of_not_mem hline, lineEnd?_crlf hrest]
        split
        · rfl
        · rw [Option.map_map, Option.map_map]
          rfl
      · rw [markedLine?_of_ne hc]
        by_cases hn : c = '\n'
        · subst hn
          rw [crlf_lineFeed, markedLine?_of_ne hr]
          rfl
        · rw [crlf_cons hn, markedLine?_of_ne hc]
          rfl

theorem trailerLine?_crlf :
    RequestBlock.trailerLine? (crlf text) =
      (RequestBlock.trailerLine? text).map fun (trailer, rest) => (trailer, crlf rest) := by
  unfold RequestBlock.trailerLine?
  rw [markedLine?_crlf h (by decide), markedLine?_crlf h (by decide)]
  cases markedLine? '>' text with
  | some found => exact congrArg (fun rest => some (_, rest)) skipSpaces_crlf
  | none =>
      cases markedLine? '%' text with
      | some found => exact congrArg (fun rest => some (_, rest)) skipSpaces_crlf
      | none => rfl

/-- Trailers are read as before. -/
theorem readTrailers_crlf :
    RequestBlock.readTrailers (crlf text) = RequestBlock.readTrailers text := by
  induction hlength : text.length using Nat.strongRecOn generalizing text with
  | ind k ih =>
  have hskip : '\r' ∉ RequestBlock.skipBlankLines text :=
    fun hmem => h ((skipBlankLines_suffix text).subset hmem)
  have hline := trailerLine?_crlf hskip
  rw [← skipBlankLines_crlf h] at hline
  cases hfound : RequestBlock.trailerLine? (RequestBlock.skipBlankLines text) with
  | none =>
      rw [hfound] at hline
      rw [readTrailers_of_none hfound, readTrailers_of_none hline]
  | some found =>
      obtain ⟨trailer, rest⟩ := found
      rw [hfound] at hline
      have hlt : rest.length < k := by
        rw [← hlength]
        exact Nat.lt_of_lt_of_le (RequestBlock.length_of_trailerLine? hfound)
          (skipBlankLines_suffix text).length_le
      have hrest : '\r' ∉ rest := fun hmem =>
        hskip ((suffix_of_trailerLine? hfound).1.subset hmem)
      rw [readTrailers_of_some hfound, readTrailers_of_some hline, ih rest.length hlt hrest rfl]

end Trailers

/-! ## Header runs -/

section HeaderRuns

theorem doubleLineEnd?_crlf {text : List Char} (h : '\r' ∉ text) :
    doubleLineEnd? (crlf text) =
      (doubleLineEnd? text).map fun (found, rest) => (crlf found, crlf rest) := by
  rw [doubleLineEnd?, doubleLineEnd?, lineEnd?_crlf h]
  cases hend : lineEnd? text with
  | none => rfl
  | some found =>
      obtain ⟨ending, rest⟩ := found
      obtain ⟨-, rfl⟩ := eq_lineFeed_of_lineEnd? h hend
      have hrest : '\r' ∉ rest := fun hmem => h (List.mem_cons_of_mem _ hmem)
      simp only [Option.map_some, lineEnd?_crlf hrest, Option.map_map]
      congr 1
      funext found
      exact Prod.ext (crlf_append _ _).symm rfl

/-- Unless a text starts with a blank line, a header run is found as before. -/
theorem headerRun?_crlf {text : List Char} (h : '\r' ∉ text) (hfirst : doubleLineEnd? text = none) :
    headerRun? (crlf text) =
      (headerRun? text).map fun (run, rest) => (crlf run, crlf rest) := by
  induction text with
  | nil => rfl
  | cons c text ih =>
      have htext : '\r' ∉ text := fun hmem => h (List.mem_cons_of_mem _ hmem)
      by_cases hn : c = '\n'
      · -- neither the carriage return nor the line feed stands in front of a blank line
        subst hn
        have hnext : lineEnd? text = none := Option.map_eq_none_iff.1 hfirst
        have hnext' : lineEnd? (crlf text) = none := by rw [lineEnd?_crlf htext, hnext]; rfl
        have hdouble : doubleLineEnd? text = none := by rw [doubleLineEnd?, hnext]
        have hdouble' : doubleLineEnd? (crlf text) = none := by rw [doubleLineEnd?, hnext']
        have hfeed : doubleLineEnd? ('\n' :: crlf text) = none := by
          show (lineEnd? (crlf text)).map _ = none
          rw [hnext']
          rfl
        rw [crlf_lineFeed, headerRun?, if_pos (by decide), hfeed, headerRun?, if_pos (by decide),
          hdouble', headerRun?, if_pos (by decide), hdouble, ih htext hdouble]
        cases headerRun? text <;> rfl
      · rw [crlf_cons hn, headerRun?, headerRun?, doubleLineEnd?_crlf htext]
        by_cases hc : isPlain c = true
        · rw [if_pos hc, if_pos hc]
          cases hdouble : doubleLineEnd? text with
          | some found =>
              dsimp only [Option.map_some]
              rw [crlf_cons hn]
          | none =>
              rw [Option.map_none, ih htext hdouble]
              dsimp only
              rw [Option.map_map, Option.map_map]
              congr 1
              funext found
              exact Prod.ext (crlf_cons hn _).symm rfl
        · rw [if_neg hc, if_neg hc]
          rfl

/-- In front of a blank line a carriage return is a header run of its own. -/
theorem headerRun?_crlf_blank_line (text : List Char) :
    headerRun? (crlf ('\n' :: '\n' :: text)) =
      some (['\r', '\n', '\r', '\n'], crlf text) :=
  rfl

end HeaderRuns

end HttpDoctest.Request
