import HttpDoctest.Proofs.Request.Written

set_option autoImplicit false

/-! # Whole lines

What the rules for headers and body leave of a text of whole plain lines: either rule leaves whole
lines again, and both together at most a line feed. The body is what the header rule left, without
the blanks around it.
-/

namespace HttpDoctest.Request

/-- A text of plain lines, each with its line feed. -/
structure Lines (text : List Char) : Prop where
  plain : Plain text
  whole : text = [] ∨ ∃ front, text = front ++ ['\n']

theorem lines_append_lineFeed {text : List Char} (h : Plain text) : Lines (text ++ ['\n']) :=
  ⟨plain_append.2 ⟨h, by decide⟩, .inr ⟨text, rfl⟩⟩

/-- The back of a text of whole lines is one. -/
theorem Lines.back {text left : List Char} (h : Lines text) (hback : left <:+ text) :
    Lines left := by
  obtain ⟨front, rfl⟩ := hback
  refine ⟨(plain_append.1 h.plain).2, ?_⟩
  rcases List.eq_nil_or_concat left with hnil | ⟨init, c, rfl⟩
  · exact .inl hnil
  · rcases h.whole with hnil | ⟨lines, hlines⟩
    · rw [List.append_eq_nil_iff] at hnil
      exact .inl hnil.2
    · rw [List.concat_eq_append, ← List.append_assoc] at hlines
      have hc : c = '\n' := List.singleton_inj.1 (List.append_inj_right' hlines rfl)
      exact .inr ⟨init, by rw [hc, List.concat_eq_append]⟩

theorem Lines.append {text text' : List Char} (h : Lines text) (h' : Lines text') :
    Lines (text ++ text') := by
  refine ⟨plain_append.2 ⟨h.plain, h'.plain⟩, ?_⟩
  rcases h'.whole with rfl | ⟨front, rfl⟩
  · rw [List.append_nil]
    exact h.whole
  · exact .inr ⟨text ++ front, (List.append_assoc ..).symm⟩

theorem Lines.cons {c : Char} {text : List Char} (hc : isPlain c = true) (h : Lines text)
    (hne : text ≠ []) : Lines (c :: text) := by
  obtain ⟨front, rfl⟩ := h.whole.resolve_left hne
  exact lines_append_lineFeed (plain_cons.2 ⟨hc, (plain_append.1 h.plain).1⟩)

theorem isBlank_of_mem_blankLines {endings : List LineEnd} {c : Char}
    (h : c ∈ blankLines endings) : Text.isBlank c = true ∧ isPlain c = true := by
  obtain ⟨ending, _, hc⟩ := List.mem_flatMap.1 h
  cases ending with
  | lf =>
      rw [List.mem_singleton.1 hc]
      decide
  | crlf =>
      rcases List.mem_cons.1 hc with rfl | hc
      · decide
      · rw [List.mem_singleton.1 hc]
        decide

theorem blank_blankLines (endings : List LineEnd) : Text.Blank (blankLines endings) :=
  fun _ hc => (isBlank_of_mem_blankLines hc).1

theorem lines_blankLines (endings : List LineEnd) : Lines (blankLines endings) := by
  refine ⟨fun c hc => (isBlank_of_mem_blankLines hc).2, ?_⟩
  rcases List.eq_nil_or_concat endings with rfl | ⟨init, ending, rfl⟩
  · exact .inl rfl
  · refine .inr ?_
    rw [List.concat_eq_append, blankLines, List.flatMap_append, List.flatMap_singleton]
    cases ending with
    | lf => exact ⟨_, rfl⟩
    | crlf => exact ⟨_ ++ ['\r'], by rw [List.append_assoc]; rfl⟩

theorem eq_text_of_lineEnd? {text found rest : List Char}
    (h : lineEnd? text = some (found, rest)) : ∃ ending : LineEnd, found = ending.text := by
  unfold lineEnd? at h
  split at h
  · cases h
    exact ⟨.lf, rfl⟩
  · cases h
    exact ⟨.crlf, rfl⟩
  · cases h

theorem lines_of_doubleLineEnd? {text found rest : List Char}
    (h : doubleLineEnd? text = some (found, rest)) : Lines found := by
  unfold doubleLineEnd? at h
  split at h
  · next hfirst =>
    obtain ⟨⟨_, _⟩, hsecond, heq⟩ := Option.map_eq_some_iff.1 h
    cases heq
    obtain ⟨first, rfl⟩ := eq_text_of_lineEnd? hfirst
    obtain ⟨second, rfl⟩ := eq_text_of_lineEnd? hsecond
    have hlines := lines_blankLines [first, second]
    rwa [blankLines, List.flatMap_cons, List.flatMap_singleton] at hlines
  · cases h

/-- A header run is a text of whole lines. -/
theorem lines_of_headerRun? {text run left : List Char} (h : headerRun? text = some (run, left)) :
    Lines run := by
  induction text generalizing run with
  | nil => cases h
  | cons c text ih =>
      unfold headerRun? at h
      split at h
      · next hc =>
        split at h
        · next hdouble =>
          cases h
          exact (lines_of_doubleLineEnd? hdouble).cons hc (append_of_doubleLineEnd? hdouble).2
        · obtain ⟨⟨run, left⟩, hrun, heq⟩ := Option.map_eq_some_iff.1 h
          cases heq
          refine (ih hrun).cons hc ?_
          rintro rfl
          exact absurd (append_of_headerRun? hrun).2 (by decide)
      · cases h

/-! ## Lines that are not blank -/

/-- The characters of lines with a line feed behind each. -/
def lineText (lines : List (List Char)) : List Char :=
  lines.flatMap (· ++ ['\n'])

theorem lineText_cons (line : List Char) (lines : List (List Char)) :
    lineText (line :: lines) = line ++ '\n' :: lineText lines := by
  rw [lineText, List.flatMap_cons, ← lineText, List.append_assoc, List.singleton_append]

theorem plain_lineText {lines : List (List Char)} (h : ∀ line ∈ lines, Plain line) :
    Plain (lineText lines) := by
  intro c hc
  obtain ⟨line, hmem, hline⟩ := List.mem_flatMap.1 hc
  exact plain_append.2 ⟨h line hmem, by decide⟩ c hline

/-- No line end starts a line that is not blank. -/
theorem lineEnd?_of_not_blank {line : List Char} (hline : '\n' ∉ line) (hblank : ¬Text.Blank line)
    (rest : List Char) : lineEnd? (line ++ '\n' :: rest) = none := by
  cases line with
  | nil => exact absurd Text.blank_nil hblank
  | cons c line =>
      rw [List.mem_cons, not_or] at hline
      by_cases hr : c = '\r'
      · subst hr
        cases line with
        | nil => exact absurd (by decide) hblank
        | cons d line =>
            have hd : d ≠ '\n' := fun heq => hline.2 (heq ▸ List.mem_cons_self)
            simp [lineEnd?, hd]
      · exact lineEnd?_of_ne (Ne.symm hline.1) hr _

section

variable {lines : List (List Char)} (hlines : ∀ line ∈ lines, '\n' ∉ line ∧ ¬Text.Blank line)
include hlines

theorem hasBlankLine_lineText : hasBlankLine (lineText lines) = false := by
  induction lines with
  | nil => rfl
  | cons line lines ih =>
      rw [List.forall_mem_cons] at hlines
      have hnext : lineEnd? (lineText lines) = none := by
        cases lines with
        | nil => rfl
        | cons next lines =>
            obtain ⟨hline, hblank⟩ := hlines.2 next List.mem_cons_self
            rw [lineText_cons]
            exact lineEnd?_of_not_blank hline hblank (lineText lines)
      rw [lineText_cons, hasBlankLine_line_append hlines.1.1, hnext, ih hlines.2]
      rfl

/-- Plain lines are a header run with the blank line behind them. -/
theorem headerRun?_lineText (hne : lines ≠ []) (hplain : Plain (lineText lines))
    (rest : List Char) :
    headerRun? (lineText lines ++ '\n' :: rest) = some (lineText lines ++ ['\n'], rest) := by
  have hblank := hasBlankLine_lineText hlines
  obtain ⟨c, text, htext⟩ : ∃ c text, lineText lines = c :: (text ++ ['\n']) := by
    obtain hnil | ⟨init, last, rfl⟩ := List.eq_nil_or_concat lines
    · exact absurd hnil hne
    · rw [List.concat_eq_append] at hlines ⊢
      have hlast := hlines last (List.mem_append_right init List.mem_cons_self)
      have hfront : lineText init ++ last ≠ [] := by
        rw [Ne, List.append_eq_nil_iff]
        rintro ⟨-, rfl⟩
        exact hlast.2 Text.blank_nil
      obtain ⟨c, text, hcons⟩ := List.exists_cons_of_ne_nil hfront
      refine ⟨c, text, ?_⟩
      rw [lineText, List.flatMap_append, List.flatMap_singleton, ← List.append_assoc, ← lineText,
        hcons, List.cons_append]
  rw [htext] at hplain hblank ⊢
  have hfront : Plain (c :: text) := by
    rw [plain_cons, plain_append] at hplain
    exact plain_cons.2 ⟨hplain.1, hplain.2.1⟩
  have hrun := headerRun?_of_first hfront (Bool.or_eq_false_iff.1 hblank).2 rest
  simpa only [List.cons_append, List.append_assoc, List.singleton_append, List.nil_append]
    using hrun

end

/-! ## Headers and body -/

/-- The headers that a header run stands for. -/
def headersOf (run : List Char) : Headers :=
  Table.ofList ((headerPairs run).map fun (name, value) =>
    (String.ofList (Text.trim name), String.ofList (Text.trim value)))

theorem readHeaders_of_some {text run rest : List Char} (h : headerRun? text = some (run, rest)) :
    RequestBlock.readHeaders text = (headersOf run, skipSpaces rest) := by
  rw [RequestBlock.readHeaders, h]
  rfl

theorem readHeaders_of_none {text : List Char} (h : headerRun? text = none) :
    RequestBlock.readHeaders text = (.empty, text) := by
  rw [RequestBlock.readHeaders, h]

/-- The body that a text stands for. -/
def bodyOf (text : List Char) : Option String :=
  if (Text.trim text).isEmpty then none else some (String.ofList (Text.trim text))

theorem bodyOf_of_trim_eq {text body : List Char} (hbody : Text.Trimmed body)
    (h : Text.trim text = body) : bodyOf text = some (String.ofList body) := by
  have hne : body.isEmpty = false := List.isEmpty_eq_false_iff.2 hbody.ne_nil
  rw [bodyOf, h, hne]
  rfl

theorem trim_eq_of_bodyOf_eq {text text' : List Char} (h : bodyOf text = bodyOf text') :
    Text.trim text = Text.trim text' := by
  unfold bodyOf at h
  split at h
  · next hempty =>
    split at h
    · next hempty' => rw [List.isEmpty_iff.1 hempty, List.isEmpty_iff.1 hempty']
    · cases h
  · split at h
    · cases h
    · exact String.ofList_injective (Option.some.inj h)

theorem trim_eq_of_bodyOf {text : List Char} {body : String} (h : bodyOf text = some body) :
    Text.trim text = body.toList := by
  unfold bodyOf at h
  split at h
  · cases h
  · cases h
    exact String.toList_ofList.symm

section

variable {text rest : List Char} (h : Lines text) (hrest : Stops rest)
include h hrest

theorem Lines.skipSpaces :
    ∃ left, Request.skipSpaces (text ++ rest) = left ++ rest ∧ Lines left ∧ left <:+ text := by
  have hback : text.dropWhile (· == ' ') <:+ text := List.dropWhile_suffix _
  refine ⟨text.dropWhile (· == ' '), ?_, h.back hback, hback⟩
  rw [Request.skipSpaces, List.dropWhile_append]
  split
  · next hempty =>
    rw [List.isEmpty_iff.1 hempty]
    exact hrest.bare.noSpaces
  · rfl

theorem Lines.readHeaders :
    ∃ left, (RequestBlock.readHeaders (text ++ rest)).2 = left ++ rest ∧ Lines left := by
  have hrun := headerRun?_append h.plain hrest
  cases hfound : headerRun? text with
  | none =>
      rw [hfound] at hrun
      rw [readHeaders_of_none hrun]
      exact ⟨text, rfl, h⟩
  | some found =>
      obtain ⟨run, left⟩ := found
      rw [hfound] at hrun
      rw [readHeaders_of_some hrun]
      have hback : left <:+ text := ⟨run, (append_of_headerRun? hfound).1⟩
      obtain ⟨behind, hspaces, hbehind, _⟩ := (h.back hback).skipSpaces hrest
      exact ⟨behind, hspaces, hbehind⟩

/-- The body rule takes whole lines, all of them unless there is but a line feed. -/
theorem Lines.readBody :
    ∃ blanks, RequestBlock.readBody (text ++ rest) = (bodyOf text, blankLines blanks ++ rest) := by
  unfold RequestBlock.readBody
  rcases h.whole with rfl | ⟨front, rfl⟩
  · have hnone : bodyRun? ([] ++ rest) = none := by
      have htake : ([] ++ rest).takeWhile isPlain = [] := takeWhile_isPlain_append plain_nil hrest
      rw [bodyRun?, htake]
      rfl
    rw [hnone]
    exact ⟨[], rfl⟩
  · have hrun := bodyRun?_append (plain_append.1 h.plain).1 hrest
    rw [List.append_assoc, List.singleton_append, hrun]
    cases front with
    | nil =>
        -- a line feed alone is no body, it is left as a blank line
        exact ⟨[.lf], rfl⟩
    | cons c front =>
        refine ⟨[], Prod.ext rfl ?_⟩
        exact hrest.bare.noSpaces

end

end HttpDoctest.Request
