import HttpDoctest.Proofs.Request.CarriageReturns
import Mathlib.Data.List.DropRight

set_option autoImplicit false

/-! # Behind the headers

What is read of the text behind the headers of a block, its body and its trailers (`remains`). The
text falls apart into whole plain lines and what follows them (`exists_lines`): the body is read
from the former and the trailers from the latter (`remains_append`). So blank lines in front of
the text make no difference (`remains_blank_append`), and carriage returns in front of line feeds
only the one that they stand in the body as well (`remains_crlf`).
-/

namespace HttpDoctest.Request

/-- The body and the trailers that are read of a text. -/
def remains (text : List Char) : Option String × List Trailer :=
  let body := RequestBlock.readBody (skipSpaces text)
  (body.1, RequestBlock.readTrailers body.2)

/-! ## Lines and what follows them -/

theorem NoLine.lineEnd?_eq_none {text : List Char} (h : NoLine text) : lineEnd? text = none := by
  unfold lineEnd?
  split
  · exact absurd List.mem_cons_self h
  · exact absurd (List.mem_cons_of_mem _ List.mem_cons_self) h
  · rfl

theorem NoLine.skipSpaces {text : List Char} (h : NoLine text) : NoLine (skipSpaces text) := by
  induction text with
  | nil => exact h
  | cons c text ih =>
      by_cases hc : c = ' '
      · subst hc
        exact ih fun hmem => h (List.mem_cons_of_mem _ hmem)
      · rwa [skipSpaces_of_ne hc]

theorem NoLine.crlf {text : List Char} (h : NoLine text) : NoLine (crlf text) := by
  rwa [NoLine, takeWhile_crlf rfl, mem_crlf (by decide)]

theorem exists_lines (text : List Char) :
    ∃ lines behind, text = lines ++ behind ∧ Lines lines ∧ NoLine behind := by
  have hnil : Lines [] := ⟨plain_nil, .inl rfl⟩
  induction text with
  | nil => exact ⟨[], [], rfl, hnil, List.not_mem_nil⟩
  | cons c text ih =>
      obtain ⟨lines, behind, rfl, hlines, hbehind⟩ := ih
      by_cases hc : isPlain c = true
      · -- a plain character belongs to the line that follows, if there is one
        rcases hlines.whole with rfl | ⟨front, rfl⟩
        · by_cases hn : c = '\n'
          · subst hn
            exact ⟨['\n'], behind, rfl, lines_append_lineFeed plain_nil, hbehind⟩
          · refine ⟨[], c :: behind, rfl, hnil, ?_⟩
            rw [NoLine, List.takeWhile_cons_of_pos hc, List.mem_cons, not_or]
            exact ⟨Ne.symm hn, hbehind⟩
        · exact ⟨c :: (front ++ ['\n']), behind, rfl, hlines.cons hc (by simp), hbehind⟩
      · refine ⟨[], c :: (lines ++ behind), rfl, hnil, ?_⟩
        have hstops : Stops (c :: (lines ++ behind)) := Bool.eq_false_iff.2 hc
        exact hstops.noLine

/-! ## What is read of them -/

theorem skipSpaces_skipSpaces (text : List Char) :
    skipSpaces (skipSpaces text) = skipSpaces text :=
  List.dropWhile_idempotent _ _

theorem remains_skipSpaces (text : List Char) : remains (skipSpaces text) = remains text := by
  rw [remains, remains, skipSpaces_skipSpaces]

theorem skipSpaces_append_lineFeed (text rest : List Char) :
    skipSpaces (text ++ '\n' :: rest) = skipSpaces text ++ '\n' :: rest := by
  induction text with
  | nil => rfl
  | cons c text ih =>
      by_cases hc : c = ' '
      · subst hc
        exact ih
      · rw [List.cons_append, skipSpaces_of_ne hc, skipSpaces_of_ne hc, List.cons_append]

theorem bodyOf_blank_append {before : List Char} (h : Text.Blank before) (text : List Char) :
    bodyOf (before ++ text) = bodyOf text := by
  rw [bodyOf, bodyOf, Text.trim, Text.trim, Text.trimStart_append h]

theorem bodyOf_skipSpaces (text : List Char) : bodyOf (skipSpaces text) = bodyOf text := by
  have hspaces : Text.Blank (text.takeWhile (· == ' ')) := by
    intro c hc
    rw [eq_of_beq (List.mem_takeWhile_imp (p := (· == ' ')) hc)]
    decide
  rw [← bodyOf_blank_append hspaces, skipSpaces, List.takeWhile_append_dropWhile]

/-- The body is read from the whole lines, and the trailers from what follows. -/
theorem remains_append {lines behind : List Char} (h : Lines lines) (hbehind : NoLine behind) :
    remains (lines ++ behind) = (bodyOf lines, RequestBlock.readTrailers (skipSpaces behind)) := by
  rcases h.whole with rfl | ⟨front, rfl⟩
  · rw [remains, RequestBlock.readBody, List.nil_append, bodyRun?_of_noLine hbehind.skipSpaces]
    rfl
  · have hplain : Plain (skipSpaces front) := fun c hc =>
      h.plain c (List.mem_append_left _ ((skipSpaces_suffix front).subset hc))
    rw [remains, List.append_assoc, List.singleton_append, skipSpaces_append_lineFeed,
      ← bodyOf_skipSpaces, skipSpaces_append_lineFeed, RequestBlock.readBody,
      bodyRun?_append_line hplain hbehind]
    by_cases hspaces : skipSpaces front = []
    · -- a line feed alone is no body, and is skipped in front of the trailers
      have hskip : RequestBlock.skipBlankLines ('\n' :: behind) =
          RequestBlock.skipBlankLines (skipSpaces behind) := by
        have hlf : afterLineEnds ('\n' :: behind) = afterLineEnds behind :=
          afterLineEnds_text_append .lf behind
        have hnone := hbehind.skipSpaces.lineEnd?_eq_none
        rw [RequestBlock.skipBlankLines, RequestBlock.skipBlankLines, hnone]
        show skipSpaces (afterLineEnds ('\n' :: behind)) = _
        rw [hlf, afterLineEnds_of_none hbehind.lineEnd?_eq_none]
      rw [if_pos hspaces, hspaces]
      exact Prod.ext rfl (readTrailers_congr hskip)
    · rw [if_neg hspaces]
      rfl

theorem remains_blank_append {before : List Char} (h : Lines before) (hblank : Text.Blank before)
    (text : List Char) : remains (before ++ text) = remains text := by
  obtain ⟨lines, behind, rfl, hlines, hbehind⟩ := exists_lines text
  rw [← List.append_assoc, remains_append (h.append hlines) hbehind, remains_append hlines hbehind,
    bodyOf_blank_append hblank]

/-! ## Carriage returns -/

theorem bodyOf_crlf (text : List Char) :
    bodyOf (crlf text) =
      (bodyOf text).map fun body => String.ofList (crlf body.toList) := by
  unfold bodyOf
  rw [trim_crlf]
  by_cases hempty : Text.trim text = []
  · rw [hempty]
    rfl
  · rw [if_neg (by rwa [List.isEmpty_iff, crlf_eq_nil_iff]), if_neg (by rwa [List.isEmpty_iff]),
      Option.map_some, String.toList_ofList]

theorem remains_crlf {text : List Char} (h : '\r' ∉ text) :
    remains (crlf text) =
      ((remains text).1.map fun body => String.ofList (crlf body.toList), (remains text).2) := by
  obtain ⟨lines, behind, rfl, hlines, hbehind⟩ := exists_lines text
  have hreturn : '\r' ∉ skipSpaces behind :=
    fun hmem => h (List.mem_append_right _ ((skipSpaces_suffix behind).subset hmem))
  rw [crlf_append, remains_append hlines.crlf hbehind.crlf, remains_append hlines hbehind,
    bodyOf_crlf, skipSpaces_crlf, readTrailers_crlf hreturn]

end HttpDoctest.Request
