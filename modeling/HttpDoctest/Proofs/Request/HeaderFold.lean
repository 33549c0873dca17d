import HttpDoctest.Proofs.Request.HeaderValues

set_option autoImplicit false

/-! # Headers that come again

A header run is a list of lines with a name and a value, and its headers are those of the lines one
after the other, a name that comes again keeping its place and getting its later value. But a line
that ends with its colon gives no header. So the headers are those of all lines where each has a
value (`HeaderBlock.lastWins_of_values`), and else exactly if the lines without one change neither
the order in which names first come nor the value that comes last of any name
(`headers_last_wins_iff`).
-/

namespace HttpDoctest.Request

/-! ## Lines of a header run -/

/-- A line of a header run: a name, perhaps between blanks, and behind a colon a value, which may be
empty. -/
structure NamedLine where
  name : List Char
  value : List Char
  name_inked : ¬Text.Blank name
  name_colon : ':' ∉ name
  name_line : '\n' ∉ name
  name_plain : Plain name
  value_line : '\n' ∉ value
  value_plain : Plain value

namespace NamedLine

/-- The characters of a line without its line feed. -/
def content (line : NamedLine) : List Char :=
  line.name ++ ':' :: line.value

/-- The header that a line stands for. -/
def entry (line : NamedLine) : String × String :=
  (String.ofList (Text.trim line.name), String.ofList (Text.trim line.value))

/-- Whether something stands behind the colon of a line. -/
def hasValue (line : NamedLine) : Bool :=
  !line.value.isEmpty

theorem content_not_blank (line : NamedLine) : '\n' ∉ line.content ∧ ¬Text.Blank line.content := by
  constructor
  · rw [content, List.mem_append, List.mem_cons, not_or, not_or]
    exact ⟨line.name_line, by decide, line.value_line⟩
  · exact fun hblank => line.name_inked fun c hc => hblank c (List.mem_append_left _ hc)

theorem plain_content (line : NamedLine) : Plain line.content :=
  plain_append.2 ⟨line.name_plain, plain_cons.2 ⟨by decide, line.value_plain⟩⟩

theorem name_ne_nil (line : NamedLine) : line.name ≠ [] := by
  intro hnil
  exact line.name_inked (hnil ▸ Text.blank_nil)

theorem exists_spaces (line : NamedLine) :
    ∃ spaces, Text.Blank spaces ∧ line.name = spaces ++ skipSpaces line.name := by
  refine ⟨line.name.takeWhile (· == ' '), fun c hc => ?_, List.takeWhile_append_dropWhile.symm⟩
  have hspace := List.mem_takeWhile_imp hc
  rw [eq_of_beq hspace]
  decide

/-- A line without the spaces in front of its name. -/
def stripped (line : NamedLine) : NamedLine :=
  have hsuffix : skipSpaces line.name <:+ line.name := List.dropWhile_suffix _
  { line with
    name := skipSpaces line.name
    name_inked := by
      obtain ⟨spaces, hspaces, hname⟩ := line.exists_spaces
      intro hblank
      exact line.name_inked (hname ▸ List.forall_mem_append.2 ⟨hspaces, hblank⟩)
    name_colon := fun hmem => line.name_colon (hsuffix.subset hmem)
    name_line := fun hmem => line.name_line (hsuffix.subset hmem)
    name_plain := fun c hc => line.name_plain c (hsuffix.subset hc) }

theorem entry_stripped (line : NamedLine) : line.stripped.entry = line.entry := by
  obtain ⟨spaces, hspaces, hname⟩ := line.exists_spaces
  have htrim : Text.trim line.name = Text.trim line.stripped.name :=
    (congrArg Text.trim hname).trans (Text.trim_blank_append hspaces line.stripped.name)
  exact Prod.ext (congrArg String.ofList htrim.symm) rfl

theorem skipSpaces_content_append (line : NamedLine) (rest : List Char) :
    skipSpaces (line.content ++ rest) = line.stripped.content ++ rest := by
  have hname : (line.name.dropWhile (· == ' ')).isEmpty = false :=
    List.isEmpty_eq_false_iff.2 line.stripped.name_ne_nil
  rw [content, List.append_assoc, skipSpaces, List.dropWhile_append, hname]
  exact (List.append_assoc ..).symm

end NamedLine

/-- The lines of a header run give the headers of those with a value. What stands in front of the
first name is cut off with the blanks around it. -/
theorem headerPairs_lineText (lines : List NamedLine) {lead : List Char} (hlead : Text.Blank lead) :
    ((headerPairs (lead ++ (lineText (lines.map NamedLine.content) ++ ['\n']))).map
      fun (name, value) => (String.ofList (Text.trim name), String.ofList (Text.trim value))) =
      (lines.filter NamedLine.hasValue).map NamedLine.entry := by
  have hfeed : Text.Blank ['\n'] := by decide
  induction lines generalizing lead with
  | nil =>
      have hblank : Text.Blank (lead ++ ['\n']) := List.forall_mem_append.2 ⟨hlead, hfeed⟩
      exact congrArg (List.map _) (headerPairs_of_not_mem (colon_not_mem_of_blank hblank))
  | cons line lines ih =>
      have hcolon : ':' ∉ lead ++ line.name := by
        rw [List.mem_append, not_or]
        exact ⟨colon_not_mem_of_blank hlead, line.name_colon⟩
      have hsplit : lead ++ (lineText ((line :: lines).map NamedLine.content) ++ ['\n']) =
          (lead ++ line.name) ++ ':' ::
            (line.value ++ '\n' :: (lineText (lines.map NamedLine.content) ++ ['\n'])) := by
        rw [List.map_cons, lineText_cons, NamedLine.content]
        simp only [List.append_assoc, List.cons_append]
      rw [hsplit]
      by_cases hvalue : line.value = []
      · have hnone : ¬line.hasValue = true := by simp [NamedLine.hasValue, hvalue]
        -- the search goes on at the line feed, which becomes a part of the next name
        rw [hvalue, List.nil_append, headerPairs_pass hcolon (.inr (.inr ⟨_, rfl⟩)),
          List.filter_cons_of_neg hnone]
        exact ih hfeed
      · have hsome : line.hasValue = true := by simp [NamedLine.hasValue, hvalue]
        have hname : lead ++ line.name ≠ [] :=
          List.append_ne_nil_of_right_ne_nil lead line.name_ne_nil
        rw [headerPairs_line hname hcolon hvalue line.value_line, List.filter_cons_of_pos hsome,
          List.map_cons, List.map_cons]
        have hentry := congrArg String.ofList (Text.trim_blank_append hlead line.name)
        exact congr (congrArg List.cons (Prod.ext hentry rfl)) (ih Text.blank_nil)

/-- Header lines are a header run with the blank line behind them. -/
theorem headerRun?_named {lines : List NamedLine} (hne : lines ≠ []) (rest : List Char) :
    headerRun? (lineText (lines.map NamedLine.content) ++ '\n' :: rest) =
      some (lineText (lines.map NamedLine.content) ++ ['\n'], rest) := by
  refine headerRun?_lineText ?_ (mt List.map_eq_nil_iff.1 hne) (plain_lineText ?_) rest
  · rw [List.forall_mem_map]
    exact fun line _ => line.content_not_blank
  · rw [List.forall_mem_map]
    exact fun line _ => line.plain_content

/-! ## Blocks -/

/-- A block with a header run of at least one line, closed by a blank line. -/
structure HeaderBlock where
  request : RequestLine
  lines : List NamedLine
  lines_ne_nil : lines ≠ []
  rest : List Char

namespace HeaderBlock

/-- The characters of a block. -/
def text (block : HeaderBlock) : List Char :=
  block.request.text ++ (lineText (block.lines.map NamedLine.content) ++ '\n' :: block.rest)

/-- The headers of all lines in order. -/
def entries (block : HeaderBlock) : List (String × String) :=
  block.lines.map NamedLine.entry

/-- The headers of the lines with a value in order. -/
def valued (block : HeaderBlock) : List (String × String) :=
  (block.lines.filter NamedLine.hasValue).map NamedLine.entry

/-- The headers of a block are those of its lines with a value, one after the other. -/
theorem exists_read (block : HeaderBlock) :
    ∃ read, RequestBlock.read block.text = .ok read ∧ read.method = block.request.method ∧
      read.url = block.request.url ∧ read.headers = Table.ofList block.valued := by
  have hread := block.request.read_text_append
    (lineText (block.lines.map NamedLine.content) ++ '\n' :: block.rest)
  obtain ⟨line, lines, hlines⟩ := List.exists_cons_of_ne_nil block.lines_ne_nil
  -- the spaces that are skipped behind the request line are part of the first name
  have hskip : skipSpaces (lineText (block.lines.map NamedLine.content) ++ '\n' :: block.rest) =
      lineText ((line.stripped :: lines).map NamedLine.content) ++ '\n' :: block.rest := by
    rw [hlines, List.map_cons, List.map_cons, lineText_cons, lineText_cons, List.append_assoc,
      List.append_assoc, line.skipSpaces_content_append]
  have hvalued : ((line.stripped :: lines).filter NamedLine.hasValue).map NamedLine.entry =
      block.valued := by
    rw [valued, hlines, List.filter_cons, List.filter_cons]
    show List.map _ (if line.hasValue = true then _ else _) = _
    split
    · rw [List.map_cons, List.map_cons, line.entry_stripped]
    · rfl
  rw [hskip, readHeaders_of_some (headerRun?_named (List.cons_ne_nil _ _) block.rest)] at hread
  refine ⟨_, hread, rfl, rfl, ?_⟩
  have hpairs := headerPairs_lineText (line.stripped :: lines) Text.blank_nil
  rw [hvalued] at hpairs
  exact congrArg Table.ofList hpairs

/-- Where every line has a value, all lines count. -/
theorem lastWins_of_values {block : HeaderBlock} (h : ∀ line ∈ block.lines, line.value ≠ []) :
    ∃ read, RequestBlock.read block.text = .ok read ∧
      Table.LastWins block.entries read.headers := by
  obtain ⟨read, hread, -, -, hheaders⟩ := block.exists_read
  have hall : block.lines.filter NamedLine.hasValue = block.lines :=
    List.filter_eq_self.2 fun line hmem => by simp [NamedLine.hasValue, h line hmem]
  rw [valued, hall] at hheaders
  exact ⟨read, hread, hheaders ▸ Table.lastWins_ofList block.entries⟩

end HeaderBlock

/-- **Headers that come again.** A block whose request line is followed by header lines and a blank
line has one header for each name, where the name first comes, with the value that comes last, but
lines without a value do not count. It is the same with all lines exactly if those without a value
change neither the order in which names first come nor the value that comes last of any name. -/
theorem headers_last_wins_iff (block : HeaderBlock) :
    ∃ read, RequestBlock.read block.text = .ok read ∧ read.method = block.request.method ∧
      read.url = block.request.url ∧ Table.LastWins block.valued read.headers ∧
      (Table.LastWins block.entries read.headers ↔
        (block.valued.map Prod.fst).eraseDups = (block.entries.map Prod.fst).eraseDups ∧
          ∀ key, block.valued.reverse.lookup key = block.entries.reverse.lookup key) := by
  obtain ⟨read, hread, hmethod, hurl, hheaders⟩ := block.exists_read
  have hlast : Table.LastWins block.valued read.headers := by
    rw [hheaders]
    exact Table.lastWins_ofList block.valued
  refine ⟨read, hread, hmethod, hurl, hlast, fun hall => ?_, fun ⟨hkeys, hvalues⟩ => ?_⟩
  · exact ⟨hlast.keys.symm.trans hall.keys, fun key => (hlast.get? key).symm.trans (hall.get? key)⟩
  · exact ⟨hlast.keys.trans hkeys, fun key => (hlast.get? key).trans (hvalues key)⟩

/-- A header without a value is lost. -/
theorem header_without_value_is_lost :
    ∃ block : HeaderBlock, block.text = "GET http://x\nA:\nB: c\n\n".toList ∧
      block.entries = [("A", ""), ("B", "c")] ∧
      ∃ read, RequestBlock.read block.text = .ok read ∧
        ¬Table.LastWins block.entries read.headers := by
  let block : HeaderBlock :=
    { request := .single .get "http://x" (by decide) (by decide)
      lines :=
        [⟨['A'], [], by decide, by decide, by decide, by decide, by decide, by decide⟩,
          ⟨['B'], " c".toList, by decide, by decide, by decide, by decide, by decide, by decide⟩]
      lines_ne_nil := List.cons_ne_nil _ _
      rest := [] }
  obtain ⟨read, hread, -, -, hheaders⟩ := block.exists_read
  have hentries : block.entries = [("A", ""), ("B", "c")] := by decide +kernel
  refine ⟨block, by decide +kernel, hentries, read, hread, fun hall => ?_⟩
  have hkeys := hall.keys
  rw [hheaders, hentries] at hkeys
  have hnone : (Table.ofList block.valued).keys ≠ ["A", "B"] := by decide +kernel
  exact hnone hkeys

end HttpDoctest.Request
