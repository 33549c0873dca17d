import HttpDoctest.Proofs.Request.Lines

set_option autoImplicit false

/-! # Trailers are not lost

What stands between the request line and the trailers of a block, header lines, blank lines and a
body, is a text of whole lines without `>` and `%`. Whatever such a text is, the rules for headers
and body together take all of it but a line feed, so that all trailer lines are read behind it
(`readTrailers_behind_lines`). A trailer line counts if it has a line end: the only one that is
lost is a last line that the end of the block cuts off (`read_gives_all_trailers_iff`).
-/

namespace HttpDoctest.Request

/-- Whatever whole lines stand in front of them, trailer lines give their trailers in order. -/
theorem readTrailers_behind_lines {content tail : List Char} (h : Lines content)
    (htail : Stops tail) (lines : List TrailerLine) :
    RequestBlock.readTrailers (RequestBlock.readBody (RequestBlock.readHeaders
      (skipSpaces (content ++ (lines.flatMap TrailerLine.text ++ tail)))).2).2 =
      lines.map (·.trailer) ++ RequestBlock.readTrailers tail := by
  have hstops := stops_lines htail lines
  -- spaces, headers and body are taken off whole lines one after the other
  obtain ⟨between, hspaces, hbetween, _⟩ := h.skipSpaces hstops
  obtain ⟨behind, hheaders, hbehind⟩ := hbetween.readHeaders hstops
  obtain ⟨blanks, hbody⟩ := hbehind.readBody hstops
  rw [hspaces, hheaders, hbody]
  exact readTrailers_lines htail lines blanks

/-! ## Blocks with trailers -/

/-- A block with a request line, whole lines that hold neither `>` nor `%`, trailer lines, and
perhaps a last trailer line that the end of the block cuts off. -/
structure TrailedBlock where
  request : RequestLine
  content : List Char
  content_lines : Lines content
  lines : List TrailerLine
  last : Option Trailer
  last_oneLine : ∀ trailer ∈ last, trailer.OneLine

namespace TrailedBlock

/-- The characters of a last trailer line without a line end. -/
def lastText (block : TrailedBlock) : List Char :=
  block.last.elim [] fun trailer => trailer.mark :: trailer.source.toList

/-- The characters of a block. -/
def text (block : TrailedBlock) : List Char :=
  block.request.text ++ (block.content ++ (block.lines.flatMap TrailerLine.text ++ block.lastText))

/-- All trailers that are written in a block. -/
def trailers (block : TrailedBlock) : List Trailer :=
  block.lines.map (·.trailer) ++ block.last.toList

/-- Whether a block is read as the request that its request line names, with the given
trailers. -/
def Gives (block : TrailedBlock) (trailers : List Trailer) : Prop :=
  ∃ headers body, RequestBlock.read block.text =
    .ok ⟨block.request.method, block.request.url, headers, body, trailers⟩

theorem stops_lastText (block : TrailedBlock) : Stops block.lastText := by
  unfold lastText
  cases block.last with
  | none => trivial
  | some trailer => exact trailer.not_isPlain_mark

theorem readTrailers_lastText (block : TrailedBlock) :
    RequestBlock.readTrailers block.lastText = [] := by
  have hskip : RequestBlock.skipBlankLines block.lastText = block.lastText :=
    skipBlankLines_blankLines block.stops_lastText.bare []
  refine readTrailers_of_none ?_
  rw [hskip]
  unfold lastText
  cases hlast : block.last with
  | none => rfl
  | some trailer => exact trailerLine?_of_noLineEnd (block.last_oneLine trailer hlast)

/-- A block gives the trailers of those trailer lines that have a line end. -/
theorem gives_lines (block : TrailedBlock) : block.Gives (block.lines.map (·.trailer)) := by
  have htrailers :=
    readTrailers_behind_lines block.content_lines block.stops_lastText block.lines
  rw [block.readTrailers_lastText, List.append_nil] at htrailers
  have hread := block.request.read_text_append
    (block.content ++ (block.lines.flatMap TrailerLine.text ++ block.lastText))
  dsimp only at hread
  rw [htrailers] at hread
  exact ⟨_, _, hread⟩

theorem last_eq_none_of_gives {block : TrailedBlock} (h : block.Gives block.trailers) :
    block.last = none := by
  obtain ⟨headers, body, hread⟩ := h
  obtain ⟨headers', body', hread'⟩ := block.gives_lines
  have heq := congrArg RequestBlock.trailers (Except.ok.inj (hread.symm.trans hread'))
  have hlast : block.last.toList = [] :=
    List.append_cancel_left (heq.trans (List.append_nil _).symm)
  exact Option.toList_eq_nil_iff.1 hlast

end TrailedBlock

/-- **The trailers of a block.** The trailers that are read are those of the trailer lines with a
line end. These are all the trailers of the block exactly if none is cut off by its end. -/
theorem read_gives_all_trailers_iff (block : TrailedBlock) :
    block.Gives (block.lines.map (·.trailer)) ∧
      (block.Gives block.trailers ↔ block.last = none) := by
  refine ⟨block.gives_lines, ?_⟩
  constructor
  · intro hgives
    exact TrailedBlock.last_eq_none_of_gives hgives
  · intro hlast
    rw [TrailedBlock.trailers, hlast, Option.toList_none, List.append_nil]
    exact block.gives_lines

/-- The only assertion of a block is lost if the block ends with it and not with a line end. -/
theorem cut_off_assertion_is_lost :
    ∃ block : TrailedBlock, block.text = "GET http://x\n>false".toList ∧
      block.trailers = [.assertion "false"] ∧ ¬block.Gives block.trailers := by
  let block : TrailedBlock :=
    { request := .single .get "http://x" (by decide) (by decide)
      content := []
      content_lines := ⟨plain_nil, .inl rfl⟩
      lines := []
      last := some (.assertion "false")
      last_oneLine := by
        rintro trailer ⟨⟩
        decide }
  refine ⟨block, by decide +kernel, rfl, ?_⟩
  intro hgives
  exact Option.some_ne_none _ (TrailedBlock.last_eq_none_of_gives hgives)

end HttpDoctest.Request
