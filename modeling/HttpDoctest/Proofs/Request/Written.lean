import HttpDoctest.Proofs.Request.Rules

set_option autoImplicit false

/-! # The lines of a request block

How the lines of a request block are written, and what is read from each: a request line, header
lines, and trailer lines with the blank lines behind them. A block that starts with a request
line is read, whatever follows (`read_text_append`).
-/

namespace HttpDoctest.Request

/-! ## Request lines -/

/-- A request line: a method, a gap, and a URL, behind which there may be blanks. -/
structure RequestLine where
  method : Method
  gap : List Char
  url : String
  padding : List Char
  gap_ne_nil : gap ≠ []
  gap_blank : Text.Blank gap
  url_trimmed : Text.Trimmed url.toList
  url_line : '\n' ∉ url.toList
  padding_blank : Text.Blank padding
  padding_line : '\n' ∉ padding

namespace RequestLine

/-- A request line in its usual form, with one space between the method and the URL. -/
def single (method : Method) (url : String) (htrimmed : Text.Trimmed url.toList)
    (hline : '\n' ∉ url.toList) : RequestLine where
  method := method
  gap := [' ']
  url := url
  padding := []
  gap_ne_nil := List.cons_ne_nil ' ' []
  gap_blank := by decide
  url_trimmed := htrimmed
  url_line := hline
  padding_blank := Text.blank_nil
  padding_line := List.not_mem_nil

/-- The characters of a request line. -/
def text (line : RequestLine) : List Char :=
  line.method.name.toList ++ (line.gap ++ (line.url.toList ++ line.padding ++ ['\n']))

theorem text_append (line : RequestLine) (rest : List Char) :
    line.text ++ rest =
      line.method.name.toList ++
        (line.gap ++ (line.url.toList ++ line.padding ++ '\n' :: rest)) := by
  simp only [text, List.append_assoc, List.singleton_append]

theorem not_isUpper_of_isBlank {c : Char} (h : Text.isBlank c = true) : c.isUpper = false := by
  by_contra hupper
  have hrange : c.val ≥ 'A'.val ∧ c.val ≤ 'Z'.val :=
    of_decide_eq_true (Bool.not_eq_false _ ▸ hupper)
  simp only [Text.isBlank, Bool.or_eq_true, Bool.and_eq_true, decide_eq_true_eq,
    beq_iff_eq, Char.toNat] at h
  have hlow : 65 ≤ c.val.toNat := hrange.1
  have hhigh : c.val.toNat ≤ 90 := hrange.2
  omega

theorem isUpper_name (method : Method) : ∀ c ∈ method.name.toList, c.isUpper = true := by
  rw [← List.all_eq_true]
  cases method <;> decide

/-- A name of capital letters goes up to the first blank behind it. -/
theorem span_isUpper {name : List Char} (hname : ∀ c ∈ name, c.isUpper = true) {b : Char}
    (hb : Text.isBlank b = true) (rest : List Char) :
    (name ++ b :: rest).takeWhile Char.isUpper = name ∧
      (name ++ b :: rest).dropWhile Char.isUpper = b :: rest := by
  have hupper : ¬b.isUpper = true := Bool.eq_false_iff.1 (not_isUpper_of_isBlank hb)
  constructor
  · rw [List.takeWhile_append_of_pos hname, List.takeWhile_cons_of_neg hupper, List.append_nil]
  · rw [List.dropWhile_append_of_pos hname, List.dropWhile_cons_of_neg hupper]

theorem span_text_append (line : RequestLine) (rest : List Char) :
    (line.text ++ rest).takeWhile Char.isUpper = line.method.name.toList ∧
      (line.text ++ rest).dropWhile Char.isUpper =
        line.gap ++ (line.url.toList ++ line.padding ++ '\n' :: rest) := by
  obtain ⟨b, gap, hgap⟩ := List.exists_cons_of_ne_nil line.gap_ne_nil
  have hb : Text.isBlank b = true := line.gap_blank b (hgap ▸ List.mem_cons_self)
  rw [text_append, hgap]
  exact span_isUpper (isUpper_name line.method) hb _

theorem requestLine?_text_append (line : RequestLine) (rest : List Char) :
    requestLine? (line.text ++ rest) =
      some (line.method.name.toList, line.url.toList ++ line.padding, rest) := by
  obtain ⟨hname, hrest⟩ := line.span_text_append rest
  have hurl : ∃ c tail, line.url.toList ++ line.padding = c :: tail ∧ Text.isBlank c = false := by
    obtain ⟨c, tail, hurl, hc⟩ := line.url_trimmed.first
    exact ⟨c, tail ++ line.padding, by rw [hurl, List.cons_append], hc⟩
  have hline : '\n' ∉ line.url.toList ++ line.padding := by
    rw [List.mem_append]
    exact not_or.2 ⟨line.url_line, line.padding_line⟩
  obtain ⟨c, name, hcons⟩ : ∃ c name, line.method.name.toList = c :: name := by
    cases line.method <;> exact ⟨_, _, rfl⟩
  rw [requestLine?, hname, hrest,
    urlAfterBlanks?_append line.gap_ne_nil line.gap_blank hurl hline, hcons]
  rfl

/-- A block that starts with a request line is read, whatever follows. -/
theorem read_text_append (line : RequestLine) (rest : List Char) :
    RequestBlock.read (line.text ++ rest) =
      let head := RequestBlock.readHeaders (skipSpaces rest)
      let body := RequestBlock.readBody head.2
      .ok ⟨line.method, line.url, head.1, body.1, RequestBlock.readTrailers body.2⟩ := by
  have hmethod : Method.ofName (String.ofList line.method.name.toList) = .ok line.method := by
    rw [String.ofList_toList, Method.ofName, Method.ofName?_name]
  have hurl : String.ofList (Text.trim (line.url.toList ++ line.padding)) = line.url := by
    rw [line.url_trimmed.trim_append line.padding_blank, String.ofList_toList]
  rw [RequestBlock.read, requestLine?_text_append]
  dsimp only
  rw [hmethod, hurl]
  rfl

end RequestLine

/-! ## Header lines -/

/-- A header line: a name without a colon, and a value. -/
structure HeaderLine where
  name : String
  value : String
  name_trimmed : Text.Trimmed name.toList
  name_line : '\n' ∉ name.toList
  name_colon : ':' ∉ name.toList
  value_trimmed : Text.Trimmed value.toList
  value_line : '\n' ∉ value.toList

namespace HeaderLine

/-- The characters of a header line without its line feed. -/
def content (line : HeaderLine) : List Char :=
  line.name.toList ++ ':' :: ' ' :: line.value.toList

/-- The characters of a header line. -/
def text (line : HeaderLine) : List Char :=
  line.content ++ ['\n']

/-- The header that a header line stands for. -/
def entry (line : HeaderLine) : String × String :=
  (line.name, line.value)

end HeaderLine

/-! ## Trailer lines -/

end HttpDoctest.Request

namespace HttpDoctest.Trailer

/-- The character that a trailer line starts with. -/
def mark : Trailer → Char
  | .assertion _ => '>'
  | .sideEffect _ => '%'

/-- What is written behind the mark of a trailer line. -/
def source : Trailer → String
  | .assertion source => source
  | .sideEffect source => source

/-- A trailer that can be written on one line. -/
structure OneLine (trailer : Trailer) : Prop where
  ne_nil : trailer.source.toList ≠ []
  noLineEnd : ∀ c ∈ trailer.source.toList, (c != '\r' && c != '\n') = true

theorem oneLine_iff {trailer : Trailer} :
    trailer.OneLine ↔ trailer.source.toList ≠ [] ∧
      trailer.source.toList.all (fun c => c != '\r' && c != '\n') = true := by
  rw [List.all_eq_true]
  constructor
  · rintro ⟨hne, hline⟩
    exact ⟨hne, hline⟩
  · rintro ⟨hne, hline⟩
    exact ⟨hne, hline⟩

instance (trailer : Trailer) : Decidable trailer.OneLine :=
  decidable_of_iff _ oneLine_iff.symm

theorem not_isPlain_mark (trailer : Trailer) : Request.isPlain trailer.mark = false := by
  cases trailer <;> rfl

end HttpDoctest.Trailer

namespace HttpDoctest.Request

/-- A trailer line with its line end, and the blank lines behind it. -/
structure TrailerLine where
  trailer : Trailer
  ending : LineEnd
  after : List LineEnd
  oneLine : trailer.OneLine

/-- The characters of a trailer line and of the blank lines behind it. -/
def TrailerLine.text (line : TrailerLine) : List Char :=
  line.trailer.mark :: (line.trailer.source.toList ++ (line.ending.text ++ blankLines line.after))

theorem TrailerLine.text_append (line : TrailerLine) (rest : List Char) :
    line.text ++ rest =
      line.trailer.mark :: (line.trailer.source.toList ++
        (line.ending.text ++ (blankLines line.after ++ rest))) := by
  simp only [text, List.cons_append, List.append_assoc]

section MarkedLine

variable {mark : Char} {source : List Char} (hne : source ≠ [])
  (hline : ∀ c ∈ source, (c != '\r' && c != '\n') = true)
include hne hline

theorem markedLine?_text_append (ending : LineEnd) (rest : List Char) :
    markedLine? mark (mark :: (source ++ (ending.text ++ rest))) = some (source, rest) := by
  obtain ⟨s, tail, rfl⟩ := List.exists_cons_of_ne_nil hne
  have htake : (s :: tail ++ (ending.text ++ rest)).takeWhile
      (fun c => c != '\r' && c != '\n') = s :: tail := by
    rw [List.takeWhile_append_of_pos hline]
    cases ending <;> simp [LineEnd.text]
  have hdrop : (s :: tail ++ (ending.text ++ rest)).dropWhile
      (fun c => c != '\r' && c != '\n') = ending.text ++ rest := by
    rw [List.dropWhile_append_of_pos hline]
    cases ending <;> simp [LineEnd.text]
  rw [markedLine?, if_pos rfl, htake, hdrop, lineEnd?_text_append]
  rfl

theorem markedLine?_of_noLineEnd : markedLine? mark (mark :: source) = none := by
  obtain ⟨s, tail, rfl⟩ := List.exists_cons_of_ne_nil hne
  have htake : (s :: tail).takeWhile (fun c => c != '\r' && c != '\n') = s :: tail :=
    List.takeWhile_eq_self_iff.2 hline
  have hdrop : (s :: tail).dropWhile (fun c => c != '\r' && c != '\n') = [] :=
    List.dropWhile_eq_nil_iff.2 hline
  rw [markedLine?, if_pos rfl, htake, hdrop]
  rfl

end MarkedLine

theorem markedLine?_of_ne {mark c : Char} (h : c ≠ mark) (text : List Char) :
    markedLine? mark (c :: text) = none :=
  if_neg h

section

variable {trailer : Trailer} (h : trailer.OneLine)
include h

theorem trailerLine?_text_append (ending : LineEnd) (rest : List Char) :
    RequestBlock.trailerLine? (trailer.mark :: (trailer.source.toList ++ (ending.text ++ rest))) =
      some (trailer, skipSpaces rest) := by
  have hmarked : markedLine? trailer.mark _ = some (trailer.source.toList, rest) :=
    markedLine?_text_append h.ne_nil h.noLineEnd ending rest
  unfold RequestBlock.trailerLine?
  cases trailer with
  | assertion source =>
      rw [show markedLine? '>' _ = _ from hmarked]
      dsimp only [Trailer.source]
      rw [String.ofList_toList]
  | sideEffect source =>
      have hother : ∀ text, markedLine? '>' ((Trailer.sideEffect source).mark :: text) = none :=
        markedLine?_of_ne (show '%' ≠ '>' by decide)
      rw [hother, show markedLine? '%' _ = _ from hmarked]
      dsimp only [Trailer.source]
      rw [String.ofList_toList]

/-- A trailer line without a line end is none. -/
theorem trailerLine?_of_noLineEnd :
    RequestBlock.trailerLine? (trailer.mark :: trailer.source.toList) = none := by
  have hmarked : markedLine? trailer.mark _ = none :=
    markedLine?_of_noLineEnd h.ne_nil h.noLineEnd
  unfold RequestBlock.trailerLine?
  cases trailer with
  | assertion source =>
      have hother : ∀ text, markedLine? '%' ((Trailer.assertion source).mark :: text) = none :=
        markedLine?_of_ne (show '>' ≠ '%' by decide)
      rw [show markedLine? '>' _ = _ from hmarked, hother]
  | sideEffect source =>
      have hother : ∀ text, markedLine? '>' ((Trailer.sideEffect source).mark :: text) = none :=
        markedLine?_of_ne (show '%' ≠ '>' by decide)
      rw [hother, show markedLine? '%' _ = _ from hmarked]

end

theorem readTrailers_of_some {text rest : List Char} {trailer : Trailer}
    (h : RequestBlock.trailerLine? (RequestBlock.skipBlankLines text) = some (trailer, rest)) :
    RequestBlock.readTrailers text = trailer :: RequestBlock.readTrailers rest := by
  rw [RequestBlock.readTrailers]
  split
  · next heq =>
    cases h.symm.trans heq
    rfl
  · next heq =>
    rw [h] at heq
    cases heq

theorem readTrailers_of_none {text : List Char}
    (h : RequestBlock.trailerLine? (RequestBlock.skipBlankLines text) = none) :
    RequestBlock.readTrailers text = [] := by
  rw [RequestBlock.readTrailers]
  split
  · next heq =>
    rw [h] at heq
    cases heq
  · rfl

/-- Trailers are read from behind the blank lines in front of a text. -/
theorem readTrailers_congr {text text' : List Char}
    (h : RequestBlock.skipBlankLines text = RequestBlock.skipBlankLines text') :
    RequestBlock.readTrailers text = RequestBlock.readTrailers text' := by
  cases hline : RequestBlock.trailerLine? (RequestBlock.skipBlankLines text') with
  | none => rw [readTrailers_of_none hline, readTrailers_of_none (h ▸ hline)]
  | some found => rw [readTrailers_of_some hline, readTrailers_of_some (h ▸ hline)]

theorem stops_lines {tail : List Char} (h : Stops tail) (lines : List TrailerLine) :
    Stops (lines.flatMap TrailerLine.text ++ tail) := by
  cases lines with
  | nil => exact h
  | cons line lines => exact line.trailer.not_isPlain_mark

/-- Trailer lines give their trailers in order, up to what stands behind them. -/
theorem readTrailers_lines {tail : List Char} (h : Stops tail) (lines : List TrailerLine)
    (blanks : List LineEnd) :
    RequestBlock.readTrailers (blankLines blanks ++ (lines.flatMap TrailerLine.text ++ tail)) =
      lines.map (·.trailer) ++ RequestBlock.readTrailers tail := by
  induction lines generalizing blanks with
  | nil =>
      -- nothing is left but the blank lines, which are skipped in front of the tail as well
      have hskip : RequestBlock.skipBlankLines (blankLines blanks ++ tail) =
          RequestBlock.skipBlankLines tail :=
        (skipBlankLines_blankLines h.bare blanks).trans (skipBlankLines_blankLines h.bare []).symm
      exact readTrailers_congr hskip
  | cons line lines ih =>
      have hrest : Stops (lines.flatMap TrailerLine.text ++ tail) := stops_lines h lines
      have hspaces := skipSpaces_blankLines hrest.bare.noSpaces line.after
      have hskip := skipBlankLines_blankLines (stops_lines h (line :: lines)).bare blanks
      have hline : RequestBlock.trailerLine? (RequestBlock.skipBlankLines
          (blankLines blanks ++ ((line :: lines).flatMap TrailerLine.text ++ tail))) =
          some (line.trailer,
            blankLines line.after ++ (lines.flatMap TrailerLine.text ++ tail)) := by
        rw [hskip, List.flatMap_cons, List.append_assoc, TrailerLine.text_append,
          trailerLine?_text_append line.oneLine, hspaces]
      -- the blank lines behind this trailer stand in front of the next one
      rw [readTrailers_of_some hline, ih line.after]
      rfl

theorem stops_lines_nil (lines : List TrailerLine) :
    Stops (lines.flatMap TrailerLine.text) := by
  have hstops : Stops ([] : List Char) := trivial
  have h := stops_lines hstops lines
  rwa [List.append_nil] at h

theorem readTrailers_lines_nil (lines : List TrailerLine) (blanks : List LineEnd) :
    RequestBlock.readTrailers (blankLines blanks ++ lines.flatMap TrailerLine.text) =
      lines.map (·.trailer) := by
  have hstops : Stops ([] : List Char) := trivial
  have hnone : RequestBlock.readTrailers [] = [] := readTrailers_of_none rfl
  have h := readTrailers_lines hstops lines blanks
  rwa [List.append_nil, hnone, List.append_nil] at h

end HttpDoctest.Request
