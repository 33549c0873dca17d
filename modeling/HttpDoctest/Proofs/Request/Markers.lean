import HttpDoctest.Proofs.Request.Lines
import HttpDoctest.Proofs.Table

set_option autoImplicit false

/-! # Markers inside headers and bodies

The characters `>` and `%` mark trailer lines at the start of a line. The rules for headers and
body stop at such a character wherever it stands, though, in the middle of a line as well. So a
block with headers and a body is read as written exactly if none of the two characters stands in
a header or in the body (`read_eq_written_iff_no_marker`).
-/

namespace HttpDoctest.Request

/-! ## Header lines -/

namespace HeaderLine

/-- A header line without `>` and `%`. -/
def IsPlain (line : HeaderLine) : Prop :=
  Plain line.name.toList ∧ Plain line.value.toList

theorem text_append (line : HeaderLine) (rest : List Char) :
    line.text ++ rest = line.content ++ '\n' :: rest := by
  rw [text, List.append_assoc, List.singleton_append]

theorem not_mem_content (line : HeaderLine) : '\n' ∉ line.content := by
  intro h
  rcases List.mem_append.1 h with hname | hvalue
  · exact line.name_line hname
  · rw [List.mem_cons, List.mem_cons] at hvalue
    rcases hvalue with hcolon | hspace | hvalue
    · exact absurd hcolon (by decide)
    · exact absurd hspace (by decide)
    · exact line.value_line hvalue

theorem isPlain_iff (line : HeaderLine) : line.IsPlain ↔ Plain line.text := by
  have hfeed : Plain ['\n'] := by decide
  have hcolon : isPlain ':' = true := by decide
  have hspace : isPlain ' ' = true := by decide
  rw [text, content, plain_append, plain_append, plain_cons, plain_cons]
  simp only [IsPlain, hfeed, hcolon, hspace, and_true, true_and]

theorem not_blank_content (line : HeaderLine) : ¬Text.Blank line.content := by
  intro hblank
  obtain ⟨c, tail, hname, hc⟩ := line.name_trimmed.first
  have hmem : c ∈ line.content := by
    rw [content, hname]
    exact List.mem_append_left _ List.mem_cons_self
  cases hc.symm.trans (hblank c hmem)

end HeaderLine

/-- The characters of header lines. -/
def headerText (headers : List HeaderLine) : List Char :=
  headers.flatMap HeaderLine.text

theorem headerText_cons (line : HeaderLine) (headers : List HeaderLine) :
    headerText (line :: headers) = line.text ++ headerText headers := rfl

theorem headerText_eq (headers : List HeaderLine) :
    headerText headers = lineText (headers.map HeaderLine.content) := by
  rw [headerText, lineText, List.flatMap_map]
  rfl

theorem content_not_blank (headers : List HeaderLine) :
    ∀ line ∈ headers.map HeaderLine.content, '\n' ∉ line ∧ ¬Text.Blank line := by
  rw [List.forall_mem_map]
  exact fun line _ => ⟨line.not_mem_content, line.not_blank_content⟩

/-- No header line is blank. -/
theorem hasBlankLine_headerText (headers : List HeaderLine) :
    hasBlankLine (headerText headers) = false := by
  rw [headerText_eq]
  exact hasBlankLine_lineText (content_not_blank headers)

theorem plain_headerText {headers : List HeaderLine} :
    Plain (headerText headers) ↔ ∀ line ∈ headers, line.IsPlain := by
  induction headers with
  | nil => simp [headerText, Plain]
  | cons line headers ih =>
      rw [headerText_cons, plain_append, ih, List.forall_mem_cons, line.isPlain_iff]

/-- Header lines give their headers. -/
theorem headerPairs_headerText (headers : List HeaderLine) {rest : List Char} (h : ':' ∉ rest) :
    headerPairs (headerText headers ++ rest) =
      headers.map fun line => (line.name.toList, ' ' :: line.value.toList) := by
  induction headers with
  | nil => exact headerPairs_of_not_mem h
  | cons line headers ih =>
      have hline : line.text ++ (headerText headers ++ rest) =
          line.name.toList ++ ':' ::
            ((' ' :: line.value.toList) ++ '\n' :: (headerText headers ++ rest)) := by
        rw [line.text_append, HeaderLine.content, List.append_assoc, List.cons_append]
      have hvalue : '\n' ∉ ' ' :: line.value.toList := by
        rw [List.mem_cons, not_or]
        exact ⟨by decide, line.value_line⟩
      rw [headerText_cons, List.append_assoc, hline,
        headerPairs_line line.name_trimmed.ne_nil line.name_colon (List.cons_ne_nil _ _) hvalue, ih]
      rfl

theorem skipSpaces_headerText {headers : List HeaderLine} (h : headers ≠ []) (rest : List Char) :
    skipSpaces (headerText headers ++ rest) = headerText headers ++ rest := by
  obtain ⟨line, headers, rfl⟩ := List.exists_cons_of_ne_nil h
  obtain ⟨c, tail, hname, hc⟩ := line.name_trimmed.first
  rw [headerText_cons, HeaderLine.text, HeaderLine.content, hname]
  exact skipSpaces_of_ne (Text.ne_of_class hc (by decide)) _

/-- Plain header lines are a header run with the blank line behind them. -/
theorem headerRun?_headerText {headers : List HeaderLine} (h : headers ≠ [])
    (hplain : Plain (headerText headers)) (rest : List Char) :
    headerRun? (headerText headers ++ '\n' :: rest) =
      some (headerText headers ++ ['\n'], rest) := by
  rw [headerText_eq] at hplain ⊢
  exact headerRun?_lineText (content_not_blank headers) (mt List.map_eq_nil_iff.1 h) hplain rest

/-- Header lines that hold a marker are no header run. -/
theorem headerRun?_headerText_of_not_plain {headers : List HeaderLine}
    (hmarker : ¬Plain (headerText headers)) (rest : List Char) :
    headerRun? (headerText headers ++ rest) = none := by
  obtain ⟨plain, stop, hsplit, hplain, hstop⟩ := exists_plain_append_stops (headerText headers)
  have hblank := hasBlankLine_headerText headers
  rw [hsplit] at hmarker hblank ⊢
  cases stop with
  | nil => exact absurd (plain_append.2 ⟨hplain, plain_nil⟩) hmarker
  | cons d stop =>
      have hstops : Stops (d :: stop ++ rest) := hstop
      -- no line in front of the marker is blank, so the rule finds no end for its run
      have hnone : headerRun? plain = none := by
        cases plain with
        | nil => rfl
        | cons c plain =>
            have hsome := isSome_headerRun? hplain
            rw [(Bool.or_eq_false_iff.1 (hasBlankLine_append_left hblank)).2] at hsome
            exact Option.isNone_iff_eq_none.1 (Option.isSome_eq_false_iff.1 hsome)
      rw [List.append_assoc, headerRun?_append hplain hstops, hnone]
      rfl

theorem headersOf_headerText {headers : List HeaderLine}
    (h : ((headers.map HeaderLine.entry).map Prod.fst).Nodup) :
    headersOf (headerText headers ++ ['\n']) = ⟨headers.map HeaderLine.entry, h⟩ := by
  have hfeed : ':' ∉ ['\n'] := by decide
  have htrim : ∀ line : HeaderLine,
      (String.ofList (Text.trim line.name.toList),
        String.ofList (Text.trim (' ' :: line.value.toList))) = line.entry := by
    intro line
    have hspace : Text.Blank [' '] := by decide
    have hvalue := line.value_trimmed.trim_append_left hspace
    rw [List.singleton_append] at hvalue
    rw [line.name_trimmed.trim_eq, hvalue, String.ofList_toList, String.ofList_toList,
      HeaderLine.entry]
  rw [headersOf, headerPairs_headerText headers hfeed, List.map_map]
  have hmap : headers.map HeaderLine.entry = headers.map _ :=
    List.map_congr_left fun line _ => (htrim line).symm
  exact (congrArg Table.ofList hmap.symm).trans (Table.ofList_of_nodup h)

/-! ## Blocks with headers and a body -/

/-- A block with headers and a body: a request line, header lines with pairwise different names,
a blank line, a body, and trailer lines. -/
structure HeadedBlock where
  request : RequestLine
  headers : List HeaderLine
  headers_ne_nil : headers ≠ []
  nodup_names : ((headers.map HeaderLine.entry).map Prod.fst).Nodup
  body : String
  body_trimmed : Text.Trimmed body.toList
  lines : List TrailerLine

namespace HeadedBlock

/-- The text behind the blank line. -/
def afterHeaders (block : HeadedBlock) : List Char :=
  block.body.toList ++ '\n' :: block.lines.flatMap TrailerLine.text

/-- The characters of a block. -/
def text (block : HeadedBlock) : List Char :=
  block.request.text ++ (headerText block.headers ++ '\n' :: block.afterHeaders)

/-- What a block is meant to say. -/
def written (block : HeadedBlock) : RequestBlock where
  method := block.request.method
  url := block.request.url
  headers := ⟨block.headers.map HeaderLine.entry, block.nodup_names⟩
  body := some block.body
  trailers := block.lines.map (·.trailer)

/-- Whether neither a header nor the body holds a marker. -/
def IsPlain (block : HeadedBlock) : Prop :=
  (∀ line ∈ block.headers, line.IsPlain) ∧ Plain block.body.toList

theorem skipSpaces_afterHeaders (block : HeadedBlock) :
    skipSpaces block.afterHeaders = block.afterHeaders := by
  obtain ⟨c, tail, hbody, hc⟩ := block.body_trimmed.first
  rw [afterHeaders, hbody]
  exact skipSpaces_of_ne (Text.ne_of_class hc (by decide)) _

/-- Headers without a marker are read, and all that follows the blank line is left. -/
theorem readHeaders_of_plain {block : HeadedBlock} (h : Plain (headerText block.headers)) :
    RequestBlock.readHeaders (headerText block.headers ++ '\n' :: block.afterHeaders) =
      (block.written.headers, block.afterHeaders) := by
  rw [readHeaders_of_some (headerRun?_headerText block.headers_ne_nil h _),
    headersOf_headerText block.nodup_names, block.skipSpaces_afterHeaders]
  rfl

/-- Headers with a marker are not read at all. -/
theorem readHeaders_of_not_plain {block : HeadedBlock} (h : ¬Plain (headerText block.headers)) :
    (RequestBlock.readHeaders (headerText block.headers ++ '\n' :: block.afterHeaders)).1 ≠
      block.written.headers := by
  rw [readHeaders_of_none (headerRun?_headerText_of_not_plain h _)]
  intro hempty
  have hentries : [] = block.headers.map HeaderLine.entry := congrArg Table.entries hempty
  exact block.headers_ne_nil (List.map_eq_nil_iff.1 hentries.symm)

theorem readBody_of_plain {block : HeadedBlock} (h : Plain block.body.toList) :
    ∃ blanks, RequestBlock.readBody block.afterHeaders =
      (some block.body, blankLines blanks ++ block.lines.flatMap TrailerLine.text) := by
  obtain ⟨blanks, hread⟩ := (lines_append_lineFeed h).readBody (stops_lines_nil block.lines)
  have hfeed : Text.Blank ['\n'] := by decide
  have htrim := block.body_trimmed.trim_append hfeed
  rw [bodyOf_of_trim_eq block.body_trimmed htrim, String.ofList_toList, List.append_assoc,
    List.singleton_append] at hread
  exact ⟨blanks, hread⟩

/-- A body that is read holds no marker. -/
theorem plain_of_readBody {block : HeadedBlock} {text : List Char}
    (h : (RequestBlock.readBody text).1 = some block.body) : Plain block.body.toList := by
  unfold RequestBlock.readBody at h
  split at h
  · next run rest hrun =>
    have hbody : Text.trim run = block.body.toList := trim_eq_of_bodyOf h
    intro c hc
    rw [← hbody] at hc
    exact (append_of_bodyRun? hrun).2 c ((Text.trim_sublist run).subset hc)
  · cases h

theorem isPlain_of_read {block : HeadedBlock}
    (h : RequestBlock.read block.text = .ok block.written) : block.IsPlain := by
  have hread := block.request.read_text_append
    (headerText block.headers ++ '\n' :: block.afterHeaders)
  rw [skipSpaces_headerText block.headers_ne_nil] at hread
  have heq := Except.ok.inj (hread.symm.trans h)
  have hplain : Plain (headerText block.headers) := by
    by_contra hmarker
    exact block.readHeaders_of_not_plain hmarker (congrArg RequestBlock.headers heq)
  exact ⟨plain_headerText.1 hplain, plain_of_readBody (congrArg RequestBlock.body heq)⟩

theorem read_of_isPlain {block : HeadedBlock} (h : block.IsPlain) :
    RequestBlock.read block.text = .ok block.written := by
  have hread := block.request.read_text_append
    (headerText block.headers ++ '\n' :: block.afterHeaders)
  obtain ⟨blanks, htaken⟩ := readBody_of_plain h.2
  rw [skipSpaces_headerText block.headers_ne_nil] at hread
  dsimp only at hread
  rw [readHeaders_of_plain (plain_headerText.2 h.1), htaken, readTrailers_lines_nil] at hread
  exact hread

end HeadedBlock

/-- **Markers inside headers and bodies.** A block with headers and a body is read as it is
written exactly if neither `>` nor `%` stands anywhere in its headers and its body. -/
theorem read_eq_written_iff_no_marker (block : HeadedBlock) :
    RequestBlock.read block.text = .ok block.written ↔ block.IsPlain := by
  constructor
  · intro hread
    exact HeadedBlock.isPlain_of_read hread
  · intro hplain
    exact HeadedBlock.read_of_isPlain hplain

/-- A body line with a `>` in its middle is lost. -/
theorem marker_in_body_line_loses_body :
    ∃ block : HeadedBlock, block.text = "POST http://x\nA: b\n\nx > y\n>true\n".toList ∧
      RequestBlock.read block.text ≠ .ok block.written := by
  let block : HeadedBlock :=
    { request := .single .post "http://x" (by decide) (by decide)
      headers := [⟨"A", "b", by decide, by decide, by decide, by decide, by decide⟩]
      headers_ne_nil := List.cons_ne_nil _ _
      nodup_names := by decide
      body := "x > y"
      body_trimmed := by decide
      lines := [⟨.assertion "true", .lf, [], by decide⟩] }
  refine ⟨block, by decide +kernel, ?_⟩
  intro hread
  have hbody : ¬Plain "x > y".toList := by decide
  exact hbody (HeadedBlock.isPlain_of_read hread).2

end HttpDoctest.Request
