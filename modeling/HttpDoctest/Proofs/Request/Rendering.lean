import HttpDoctest.Proofs.Request.Markers

set_option autoImplicit false

/-! # Writing requests down

A request whose parts fit the rules of a block can be written down: the request line, header
lines closed by a blank line, the body on lines of its own, and the trailer lines, with blank
lines around the trailers as one likes. Reading what was written gives the request back
(`read_render`).
-/

namespace HttpDoctest.RequestBlock

open Request

/-! ## What can be written -/

/-- A header that can be written on one line. -/
structure HeaderFits (entry : String × String) : Prop where
  name_trimmed : Text.Trimmed entry.1.toList
  name_line : '\n' ∉ entry.1.toList
  name_colon : ':' ∉ entry.1.toList
  name_plain : Plain entry.1.toList
  value_trimmed : Text.Trimmed entry.2.toList
  value_line : '\n' ∉ entry.2.toList
  value_plain : Plain entry.2.toList

/-- A body that can be written between headers and trailers. -/
structure BodyFits (body : String) : Prop where
  trimmed : Text.Trimmed body.toList
  plain : Plain body.toList

/-- A request that can be written down. A body needs a header in front of it: without one, the
blank line that separates the body could start a header run. -/
structure Representable (block : RequestBlock) : Prop where
  url_trimmed : Text.Trimmed block.url.toList
  url_line : '\n' ∉ block.url.toList
  headers : ∀ entry ∈ block.headers.entries, HeaderFits entry
  body : ∀ body ∈ block.body, BodyFits body
  headed : block.body.isSome = true → block.headers.entries ≠ []
  trailers : ∀ trailer ∈ block.trailers, trailer.OneLine

/-! ## How it is written -/

/-- The line of a header. -/
def renderHeader (entry : String × String) : List Char :=
  entry.1.toList ++ ':' :: ' ' :: (entry.2.toList ++ ['\n'])

/-- A line for each header, and a blank line behind them if there are any. -/
def renderHeaders (entries : List (String × String)) : List Char :=
  if entries.isEmpty then [] else entries.flatMap renderHeader ++ ['\n']

/-- The body with a line feed behind it. -/
def renderBody : Option String → List Char
  | none => []
  | some body => body.toList ++ ['\n']

/-- A line for each trailer. The blank lines of the first gap stand in front of the first
trailer, those of the next gap behind it, and so on. -/
def renderTrailers (gaps : Nat → List LineEnd) : List Trailer → List Char
  | [] => blankLines (gaps 0)
  | trailer :: trailers =>
      blankLines (gaps 0) ++ trailer.mark :: (trailer.source.toList ++
        '\n' :: renderTrailers (fun number => gaps (number + 1)) trailers)

/-- The characters of a request that is written down. -/
def render (gaps : Nat → List LineEnd) (block : RequestBlock) : List Char :=
  block.method.name.toList ++ ' ' :: (block.url.toList ++ '\n' ::
    (renderHeaders block.headers.entries ++
      (renderBody block.body ++ renderTrailers gaps block.trailers)))

/-! ## The lines of what is written -/

theorem exists_headerLines {entries : List (String × String)}
    (h : ∀ entry ∈ entries, HeaderFits entry) :
    ∃ headers : List HeaderLine, headers.map HeaderLine.entry = entries ∧
      (∀ line ∈ headers, line.IsPlain) ∧ entries.flatMap renderHeader = headerText headers := by
  induction entries with
  | nil => exact ⟨[], rfl, List.forall_mem_nil _, rfl⟩
  | cons entry entries ih =>
      obtain ⟨hentry, hrest⟩ := List.forall_mem_cons.1 h
      obtain ⟨headers, rfl, hplain, htext⟩ := ih hrest
      let line : HeaderLine :=
        ⟨entry.1, entry.2, hentry.name_trimmed, hentry.name_line, hentry.name_colon,
          hentry.value_trimmed, hentry.value_line⟩
      have hline : line.text = renderHeader entry := List.append_assoc ..
      refine ⟨line :: headers, rfl, ?_, ?_⟩
      · exact List.forall_mem_cons.2 ⟨⟨hentry.name_plain, hentry.value_plain⟩, hplain⟩
      · rw [List.flatMap_cons, htext, headerText_cons, hline]

theorem exists_trailerLines {trailers : List Trailer} (h : ∀ trailer ∈ trailers, trailer.OneLine)
    (gaps : Nat → List LineEnd) :
    ∃ lines : List TrailerLine, lines.map (·.trailer) = trailers ∧
      renderTrailers gaps trailers = blankLines (gaps 0) ++ lines.flatMap TrailerLine.text := by
  induction trailers generalizing gaps with
  | nil => exact ⟨[], rfl, (List.append_nil _).symm⟩
  | cons trailer trailers ih =>
      obtain ⟨htrailer, hrest⟩ := List.forall_mem_cons.1 h
      obtain ⟨lines, rfl, htext⟩ := ih hrest fun number => gaps (number + 1)
      -- the blank lines in front of the next trailer are those behind this one
      refine ⟨⟨trailer, .lf, gaps 1, htrailer⟩ :: lines, rfl, ?_⟩
      rw [renderTrailers, htext, List.flatMap_cons, TrailerLine.text_append]
      rfl

/-! ## Reading what is written -/

/-- Whole lines without a colon hold no header, whatever the header rule takes of them. -/
theorem readHeaders_of_no_colon {text rest : List Char} (h : Lines text) (hcolon : ':' ∉ text)
    (hrest : Stops rest) :
    ∃ left, readHeaders (text ++ rest) = (.empty, left ++ rest) ∧ Lines left ∧ left <:+ text := by
  have hrun := headerRun?_append h.plain hrest
  cases hfound : headerRun? text with
  | none =>
      rw [hfound] at hrun
      exact ⟨text, readHeaders_of_none hrun, h, List.suffix_rfl⟩
  | some found =>
      obtain ⟨run, left⟩ := found
      rw [hfound] at hrun
      have happend := (append_of_headerRun? hfound).1
      have hback : left <:+ text := ⟨run, happend⟩
      have hnone : ':' ∉ run := by
        intro hmem
        rw [← happend] at hcolon
        exact hcolon (List.mem_append_left left hmem)
      obtain ⟨behind, hspaces, hbehind, hsuffix⟩ := (h.back hback).skipSpaces hrest
      refine ⟨behind, ?_, hbehind, hsuffix.trans hback⟩
      rw [readHeaders_of_some hrun, hspaces, headersOf, headerPairs_of_not_mem hnone]
      rfl

theorem bodyOf_of_blank {text : List Char} (h : Text.Blank text) : bodyOf text = none := by
  rw [bodyOf, Text.trim_of_blank h]
  rfl

section

variable {block : RequestBlock} (h : block.Representable) (blanks : List LineEnd)
include h

theorem Representable.lines_body : Lines (renderBody block.body ++ blankLines blanks) := by
  refine Lines.append ?_ (lines_blankLines blanks)
  cases hbody : block.body with
  | none => exact ⟨plain_nil, .inl rfl⟩
  | some body => exact lines_append_lineFeed (h.body body hbody).plain

theorem Representable.bodyOf_body :
    bodyOf (renderBody block.body ++ blankLines blanks) = block.body := by
  have hblank := blank_blankLines blanks
  cases hbody : block.body with
  | none => exact bodyOf_of_blank hblank
  | some body =>
      have htrimmed := (h.body body hbody).trimmed
      have hbehind : Text.Blank ('\n' :: blankLines blanks) :=
        List.forall_mem_cons.2 ⟨by decide, hblank⟩
      rw [renderBody, List.append_assoc, List.singleton_append,
        bodyOf_of_trim_eq htrimmed (htrimmed.trim_append hbehind), String.ofList_toList]

theorem Representable.skipSpaces_body {rest : List Char} (hrest : Stops rest) :
    skipSpaces (renderBody block.body ++ blankLines blanks ++ rest) =
      renderBody block.body ++ blankLines blanks ++ rest := by
  cases hbody : block.body with
  | none => exact skipSpaces_blankLines hrest.bare.noSpaces blanks
  | some body =>
      obtain ⟨c, tail, hfirst, hc⟩ := (h.body body hbody).trimmed.first
      rw [renderBody, hfirst]
      exact skipSpaces_of_ne (Text.ne_of_class hc (by decide)) _

/-- The header rule gives the headers and leaves lines that give the body. -/
theorem Representable.readHeaders {rest : List Char} (hrest : Stops rest) :
    ∃ left, RequestBlock.readHeaders (skipSpaces (renderHeaders block.headers.entries ++
        (renderBody block.body ++ blankLines blanks ++ rest))) = (block.headers, left ++ rest) ∧
      Lines left ∧ bodyOf left = block.body := by
  obtain ⟨headers, hentries, hplain, htext⟩ := exists_headerLines h.headers
  cases headers with
  | nil =>
      -- there is no body either, so that only blank lines stand in front of the trailers
      have hnone : block.headers.entries = [] := hentries.symm
      have hbody : block.body = none := by
        by_contra hsome
        exact h.headed (Option.isSome_iff_ne_none.2 hsome) hnone
      have hempty : block.headers = .empty := Table.ext hnone
      have hblank := blank_blankLines blanks
      have hcolon : ':' ∉ blankLines blanks := fun hmem => absurd (hblank ':' hmem) (by decide)
      obtain ⟨left, hread, hlines, hback⟩ :=
        readHeaders_of_no_colon (lines_blankLines blanks) hcolon hrest
      refine ⟨left, ?_, hlines, ?_⟩
      · rw [hnone, hbody, hempty]
        show RequestBlock.readHeaders (skipSpaces (blankLines blanks ++ rest)) = _
        rw [skipSpaces_blankLines hrest.bare.noSpaces, hread]
      · rw [hbody]
        exact bodyOf_of_blank fun c hc => hblank c (hback.subset hc)
  | cons line headers =>
      have hne : line :: headers ≠ [] := List.cons_ne_nil line headers
      have hlines : renderHeaders block.headers.entries =
          headerText (line :: headers) ++ ['\n'] := by
        rw [renderHeaders, htext, ← hentries]
        rfl
      have hnodup := block.headers.nodup_keys
      rw [← hentries] at hnodup
      have hheaders : headersOf (headerText (line :: headers) ++ ['\n']) = block.headers := by
        rw [headersOf_headerText hnodup]
        exact Table.ext hentries
      refine ⟨renderBody block.body ++ blankLines blanks, ?_, h.lines_body blanks,
        h.bodyOf_body blanks⟩
      rw [hlines, List.append_assoc, List.singleton_append, skipSpaces_headerText hne,
        readHeaders_of_some (headerRun?_headerText hne (plain_headerText.2 hplain) _), hheaders,
        h.skipSpaces_body blanks hrest]

end

/-- **Reading gives back what was written.** A request that can be written down is read as it
was, whatever blank lines stand in front of its trailers, between them and behind them. -/
theorem read_render {block : RequestBlock} (h : block.Representable) (gaps : Nat → List LineEnd) :
    read (block.render gaps) = .ok block := by
  obtain ⟨lines, htrailers, htext⟩ := exists_trailerLines h.trailers gaps
  have hstops := stops_lines_nil lines
  let line : RequestLine := .single block.method block.url h.url_trimmed h.url_line
  have hrender : block.render gaps = line.text ++ (renderHeaders block.headers.entries ++
      (renderBody block.body ++ blankLines (gaps 0) ++ lines.flatMap TrailerLine.text)) := by
    rw [line.text_append, render, htext, List.append_assoc (renderBody block.body)]
    show _ = block.method.name.toList ++ ' ' :: (block.url.toList ++ [] ++ _)
    rw [List.append_nil]
  obtain ⟨left, hheaders, hleft, hbody⟩ := h.readHeaders (gaps 0) hstops
  obtain ⟨blanks, htaken⟩ := hleft.readBody hstops
  rw [hrender, line.read_text_append]
  dsimp only
  rw [hheaders, htaken, hbody, readTrailers_lines_nil, htrailers]
  rfl

/-- A request with everything: its URL holds markers, its body a colon and a blank line. -/
theorem read_render_everything :
    let block : RequestBlock :=
      { method := .post
        url := "http://x/{{id}}?a>b%20c"
        headers := ⟨[("Accept", "*/*"), ("X-Time", "12:30")], by decide⟩
        body := some "a: b\n\nc"
        trailers := [.assertion " this.status === 200", .sideEffect "store.id = 1"] }
    let gaps : Nat → List LineEnd := fun number => List.replicate (2 - number) .lf
    block.Representable ∧
      block.render gaps = ("POST http://x/{{id}}?a>b%20c\nAccept: */*\nX-Time: 12:30\n\n" ++
        "a: b\n\nc\n\n\n> this.status === 200\n\n%store.id = 1\n").toList ∧
      read (block.render gaps) = .ok block := by
  intro block gaps
  have hheaders : ∀ entry ∈ block.headers.entries, HeaderFits entry := by
    refine List.forall_mem_cons.2 ⟨?_, List.forall_mem_singleton.2 ?_⟩
    · constructor <;> decide
    · constructor <;> decide
  have hrepresentable : block.Representable :=
    { url_trimmed := by decide
      url_line := by decide
      headers := hheaders
      body := by
        rintro body ⟨⟩
        constructor <;> decide
      headed := fun _ => List.cons_ne_nil _ _
      trailers := by decide }
  exact ⟨hrepresentable, by decide +kernel, read_render hrepresentable gaps⟩

end HttpDoctest.RequestBlock
