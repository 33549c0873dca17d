import HttpDoctest.Proofs.Request.Lines
import Mathlib.Data.List.Count

set_option autoImplicit false

/-! # Bodies without headers

In a block without headers a blank line separates the request line from the body. That blank line
can be the first character of a header run, and it is one as soon as another blank line follows,
in the body or behind it. Then the header run swallows the body up to there. So a body without
headers is read as written exactly if it holds no blank line, and none follows it
(`read_eq_written_iff_no_blank_line`).
-/

namespace HttpDoctest.Request

/-- A block without headers: a request line, a blank line, a body, blank lines, and trailer
lines. -/
structure BodyBlock where
  request : RequestLine
  body : String
  body_trimmed : Text.Trimmed body.toList
  body_plain : Plain body.toList
  blanks : List LineEnd
  lines : List TrailerLine

namespace BodyBlock

/-- The text from the separator to the trailers. -/
def content (block : BodyBlock) : List Char :=
  '\n' :: (block.body.toList ++ '\n' :: blankLines block.blanks)

/-- The characters of a block. -/
def text (block : BodyBlock) : List Char :=
  block.request.text ++ (block.content ++ block.lines.flatMap TrailerLine.text)

/-- What a block is meant to say. -/
def written (block : BodyBlock) : RequestBlock where
  method := block.request.method
  url := block.request.url
  headers := .empty
  body := some block.body
  trailers := block.lines.map (·.trailer)

theorem lines_content (block : BodyBlock) : Lines block.content := by
  have hsplit : block.content =
      ('\n' :: block.body.toList) ++ ['\n'] ++ blankLines block.blanks := by
    rw [List.append_assoc]
    rfl
  rw [hsplit]
  exact (lines_append_lineFeed (plain_cons.2 ⟨by decide, block.body_plain⟩)).append
    (lines_blankLines block.blanks)

theorem blank_behind (block : BodyBlock) : Text.Blank ('\n' :: blankLines block.blanks) :=
  List.forall_mem_cons.2 ⟨by decide, blank_blankLines block.blanks⟩

/-- The body is what is left of the content without the blanks around it. -/
theorem trim_content (block : BodyBlock) : Text.trim block.content = block.body.toList := by
  have hbefore : Text.Blank ['\n'] := by decide
  exact Text.trim_append_append hbefore block.body_trimmed block.blank_behind

/-- A header run starts at the separator exactly if a blank line follows somewhere. -/
theorem isSome_headerRun?_content (block : BodyBlock) :
    (headerRun? block.content).isSome =
      (hasBlankLine block.body.toList || !block.blanks.isEmpty) := by
  obtain ⟨front, c, hbody, hc⟩ := block.body_trimmed.last
  -- the last character of the body is no line end, so blank lines do not reach across it
  have hn : c ≠ '\n' := Text.ne_of_class hc (by decide)
  have hr : c ≠ '\r' := Text.ne_of_class hc (by decide)
  have hbehind : hasBlankLine ('\n' :: blankLines block.blanks) = !block.blanks.isEmpty := by
    cases block.blanks with
    | nil => rfl
    | cons ending endings =>
        show (lineEnd? (ending.text ++ blankLines endings)).isSome.or _ = true
        rw [lineEnd?_text_append]
        rfl
  have hlast : ∀ rest, hasBlankLine (c :: rest) = hasBlankLine rest := by
    intro rest
    rw [hasBlankLine, beq_false_of_ne hn, Bool.false_and, Bool.false_or]
  calc (headerRun? block.content).isSome
      = hasBlankLine (front ++ c :: '\n' :: blankLines block.blanks) := by
        rw [content, isSome_headerRun? block.lines_content.plain, hbody, List.append_assoc,
          List.singleton_append]
    _ = (hasBlankLine front || !block.blanks.isEmpty) := by
        rw [hasBlankLine_append (lineEnd?_of_ne hn hr _), hlast, hbehind]
    _ = (hasBlankLine (front ++ [c]) || !block.blanks.isEmpty) := by
        rw [hasBlankLine_append (lineEnd?_of_ne hn hr _), hlast, hasBlankLine, Bool.or_false]
    _ = (hasBlankLine block.body.toList || !block.blanks.isEmpty) := by rw [hbody]

theorem inked_content (block : BodyBlock) :
    Text.inked block.content = Text.inked block.body.toList := by
  rw [← Text.inked_trim, block.trim_content]

/-- Where a header run swallows the start of a body, what is left is not that body. -/
theorem bodyOf_ne_of_swallowed {block : BodyBlock} {run left text : List Char}
    (hrun : run ++ left = block.content) (hlength : 2 ≤ run.length) (hback : text <:+ left) :
    bodyOf text ≠ some block.body := by
  intro hbody
  obtain ⟨c, rest, hfirst, hc⟩ := block.body_trimmed.first
  -- the run holds the separator and the first character of the body
  obtain ⟨run', hswallowed⟩ : ∃ run', run = '\n' :: c :: run' := by
    match run, hlength with
    | a :: b :: run', _ =>
      rw [content, hfirst] at hrun
      simp only [List.cons_append, List.cons.injEq] at hrun
      exact ⟨run', by rw [hrun.1, hrun.2.1]⟩
  have hsome : 0 < Text.inked run := by
    refine List.countP_pos_iff.2 ⟨c, ?_, by rw [hc]; rfl⟩
    rw [hswallowed]
    exact List.mem_cons_of_mem _ List.mem_cons_self
  -- so at least one character of the body is missing from what is left
  have htotal : Text.inked run + Text.inked left = Text.inked block.body.toList := by
    rw [← inked_content, ← hrun]
    exact List.countP_append.symm
  have hbodyLe : Text.inked block.body.toList ≤ Text.inked text := by
    rw [← trim_eq_of_bodyOf hbody]
    exact (Text.trim_sublist text).countP_le
  have htextLe : Text.inked text ≤ Text.inked left := hback.sublist.countP_le
  omega

end BodyBlock

namespace BodyBlock

theorem skipSpaces_content (block : BodyBlock) (rest : List Char) :
    skipSpaces (block.content ++ rest) = block.content ++ rest :=
  skipSpaces_of_ne (by decide) _

theorem headerRun?_of_read {block : BodyBlock}
    (h : RequestBlock.read block.text = .ok block.written) : headerRun? block.content = none := by
  have hstops := stops_lines_nil block.lines
  have hread := block.request.read_text_append
    (block.content ++ block.lines.flatMap TrailerLine.text)
  rw [block.skipSpaces_content] at hread
  have hbody := congrArg RequestBlock.body (Except.ok.inj (hread.symm.trans h))
  have hrun := headerRun?_append block.lines_content.plain hstops
  cases hfound : headerRun? block.content with
  | none => rfl
  | some found =>
      obtain ⟨run, left⟩ := found
      obtain ⟨hfront, hlength⟩ := append_of_headerRun? hfound
      have hleft : Lines left := block.lines_content.back ⟨run, hfront⟩
      obtain ⟨behind, hskip, hbehind, hback⟩ := hleft.skipSpaces hstops
      obtain ⟨blanks, htaken⟩ := hbehind.readBody hstops
      rw [hfound] at hrun
      dsimp only at hbody
      rw [readHeaders_of_some hrun, hskip, htaken] at hbody
      exact absurd hbody (block.bodyOf_ne_of_swallowed hfront hlength hback)

/-- Where no header run starts at the separator, the block is read as it is written. -/
theorem read_of_headerRun? {block : BodyBlock} (h : headerRun? block.content = none) :
    RequestBlock.read block.text = .ok block.written := by
  have hstops := stops_lines_nil block.lines
  have hread := block.request.read_text_append
    (block.content ++ block.lines.flatMap TrailerLine.text)
  rw [block.skipSpaces_content] at hread
  have hbody := bodyOf_of_trim_eq block.body_trimmed block.trim_content
  have hrun := headerRun?_append block.lines_content.plain hstops
  obtain ⟨blanks, htaken⟩ := block.lines_content.readBody hstops
  rw [h] at hrun
  dsimp only at hread
  rw [readHeaders_of_none hrun, htaken, hbody, String.ofList_toList, readTrailers_lines_nil]
    at hread
  exact hread

end BodyBlock

/-- **Bodies without headers.** A block without headers is read as it is written exactly if its
body holds no blank line and none stands between it and the trailers. -/
theorem read_eq_written_iff_no_blank_line (block : BodyBlock) :
    RequestBlock.read block.text = .ok block.written ↔
      hasBlankLine block.body.toList = false ∧ block.blanks = [] := by
  have hsome := block.isSome_headerRun?_content
  constructor
  · intro hread
    rw [BodyBlock.headerRun?_of_read hread, Option.isSome_none, eq_comm,
      Bool.or_eq_false_iff] at hsome
    exact ⟨hsome.1, List.isEmpty_iff.1 (by simpa using hsome.2)⟩
  · rintro ⟨hblank, hblanks⟩
    rw [hblank, hblanks] at hsome
    exact BodyBlock.read_of_headerRun?
      (Option.isNone_iff_eq_none.1 (Option.isSome_eq_false_iff.1 hsome))

/-- A blank line between the body and the trailers makes a header run of the body. -/
theorem blank_line_behind_body_loses_body :
    ∃ block : BodyBlock, block.text = "POST http://x\n\nbody\n\n>true\n".toList ∧
      RequestBlock.read block.text ≠ .ok block.written := by
  let block : BodyBlock :=
    { request := .single .post "http://x" (by decide) (by decide)
      body := "body"
      body_trimmed := by decide
      body_plain := by decide
      blanks := [.lf]
      lines := [⟨.assertion "true", .lf, [], by decide⟩] }
  refine ⟨block, by decide +kernel, ?_⟩
  intro hread
  have hrun : headerRun? block.content ≠ none := by decide +kernel
  exact hrun (BodyBlock.headerRun?_of_read hread)

end HttpDoctest.Request
