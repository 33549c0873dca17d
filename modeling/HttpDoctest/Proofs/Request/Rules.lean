import HttpDoctest.Proofs.Text.Trimmed
import HttpDoctest.Request.Block
import Mathlib.Data.List.TakeWhile

set_option autoImplicit false

/-! # What the rules of a request block take

Each rule of a request block takes a piece off the front of a text. This module says of each
which piece that is. A header run and a body are taken from plain characters alone, so that what
these two rules do is decided by the text up to the first `>` or `%` (`headerRun?_append`,
`bodyRun?_append`). There is a header run exactly if that text has a blank line behind its first
character (`isSome_headerRun?`).
-/

namespace HttpDoctest.Request

/-! ## Line ends -/

/-- A line end as it may be written. -/
inductive LineEnd where
  | lf
  | crlf
deriving DecidableEq, Repr

/-- The characters of a line end. -/
def LineEnd.text : LineEnd → List Char
  | lf => ['\n']
  | crlf => ['\r', '\n']

/-- Blank lines with the given line ends. -/
def blankLines (endings : List LineEnd) : List Char :=
  endings.flatMap LineEnd.text

@[simp] theorem lineEnd?_text_append (ending : LineEnd) (rest : List Char) :
    lineEnd? (ending.text ++ rest) = some (ending.text, rest) := by
  cases ending <;> rfl

theorem lineEnd?_of_ne {c : Char} (hn : c ≠ '\n') (hr : c ≠ '\r') (text : List Char) :
    lineEnd? (c :: text) = none := by
  unfold lineEnd?
  split
  · next heq => exact absurd (List.cons.inj heq).1 hn
  · next heq => exact absurd (List.cons.inj heq).1 hr
  · rfl

theorem afterLineEnds_of_none {text : List Char} (h : lineEnd? text = none) :
    afterLineEnds text = text := by
  rw [afterLineEnds]
  split
  · next heq =>
    rw [h] at heq
    cases heq
  · rfl

theorem afterLineEnds_text_append (ending : LineEnd) (rest : List Char) :
    afterLineEnds (ending.text ++ rest) = afterLineEnds rest := by
  rw [afterLineEnds]
  split
  · next heq =>
    rw [lineEnd?_text_append] at heq
    cases heq
    rfl
  · next heq =>
    rw [lineEnd?_text_append] at heq
    cases heq

/-- A text that starts with neither a space nor a line end. -/
structure Bare (text : List Char) : Prop where
  noLineEnd : lineEnd? text = none
  noSpaces : skipSpaces text = text

theorem bare_nil : Bare [] := ⟨rfl, rfl⟩

theorem skipSpaces_of_ne {c : Char} (h : c ≠ ' ') (text : List Char) :
    skipSpaces (c :: text) = c :: text :=
  List.dropWhile_cons_of_neg (by simpa using h)

theorem bare_cons {c : Char} (hspace : c ≠ ' ') (hn : c ≠ '\n') (hr : c ≠ '\r')
    (text : List Char) : Bare (c :: text) :=
  ⟨lineEnd?_of_ne hn hr text, skipSpaces_of_ne hspace text⟩

theorem skipSpaces_blankLines {rest : List Char} (h : skipSpaces rest = rest)
    (endings : List LineEnd) :
    skipSpaces (blankLines endings ++ rest) = blankLines endings ++ rest := by
  cases endings with
  | nil => exact h
  | cons ending endings => cases ending <;> exact skipSpaces_of_ne (by decide) _

theorem skipBlankLines_blankLines {rest : List Char} (h : Bare rest) (endings : List LineEnd) :
    RequestBlock.skipBlankLines (blankLines endings ++ rest) = rest := by
  have hafter : afterLineEnds (blankLines endings ++ rest) = rest := by
    induction endings with
    | nil => exact afterLineEnds_of_none h.noLineEnd
    | cons ending endings ih =>
        show afterLineEnds (ending.text ++ blankLines endings ++ rest) = rest
        rw [List.append_assoc, afterLineEnds_text_append, ih]
  unfold RequestBlock.skipBlankLines
  split
  · rw [hafter, h.noSpaces]
  · next hnone => rw [← afterLineEnds_of_none hnone, hafter]

/-! ## Plain characters -/

/-- A text of plain characters. -/
def Plain (text : List Char) : Prop :=
  ∀ c ∈ text, isPlain c = true

/-- A text that does not go on with a plain character. -/
def Stops : List Char → Prop
  | [] => True
  | c :: _ => isPlain c = false

theorem plain_nil : Plain [] := fun _ h => nomatch h

theorem plain_append {text text' : List Char} :
    Plain (text ++ text') ↔ Plain text ∧ Plain text' :=
  List.forall_mem_append

theorem plain_cons {c : Char} {text : List Char} :
    Plain (c :: text) ↔ isPlain c = true ∧ Plain text :=
  List.forall_mem_cons

instance (text : List Char) : Decidable (Plain text) :=
  List.decidableBAll (fun c => isPlain c = true) text

theorem Stops.bare {rest : List Char} (h : Stops rest) : Bare rest := by
  cases rest with
  | nil => exact bare_nil
  | cons c rest =>
      exact bare_cons (Text.ne_of_class h (by decide)) (Text.ne_of_class h (by decide))
        (Text.ne_of_class h (by decide)) rest

theorem takeWhile_isPlain_append {plain rest : List Char} (hplain : Plain plain)
    (hrest : Stops rest) : (plain ++ rest).takeWhile isPlain = plain := by
  have hnone : rest.takeWhile isPlain = [] := by
    cases rest with
    | nil => rfl
    | cons c rest => exact List.takeWhile_cons_of_neg (Bool.not_eq_true _ ▸ hrest)
  rw [List.takeWhile_append_of_pos hplain, hnone, List.append_nil]

/-- Every text is plain up to where it stops. -/
theorem exists_plain_append_stops (text : List Char) :
    ∃ plain rest, text = plain ++ rest ∧ Plain plain ∧ Stops rest := by
  induction text with
  | nil => exact ⟨[], [], rfl, plain_nil, trivial⟩
  | cons c text ih =>
      by_cases hc : isPlain c = true
      · obtain ⟨plain, rest, rfl, hplain, hrest⟩ := ih
        exact ⟨c :: plain, rest, rfl, plain_cons.2 ⟨hc, hplain⟩, hrest⟩
      · exact ⟨[], c :: text, rfl, plain_nil, Bool.eq_false_iff.2 hc⟩

/-! ## Header runs -/

/-- A line end does not reach into a text that starts with none. -/
theorem lineEnd?_append {rest : List Char} (h : lineEnd? rest = none) (text : List Char) :
    lineEnd? (text ++ rest) = (lineEnd? text).map fun (found, left) => (found, left ++ rest) := by
  cases text with
  | nil => exact h
  | cons c text =>
      by_cases hn : c = '\n'
      · subst hn
        rfl
      by_cases hr : c = '\r'
      · subst hr
        cases text with
        | nil =>
            -- a carriage return at the seam would pair with a line feed behind it only
            cases rest with
            | nil => rfl
            | cons d rest =>
                have hd : d ≠ '\n' := by
                  rintro rfl
                  cases h
                simp [lineEnd?, hd]
        | cons d text =>
            by_cases hd : d = '\n'
            · subst hd
              rfl
            · simp [lineEnd?, hd]
      · rw [List.cons_append, lineEnd?_of_ne hn hr, lineEnd?_of_ne hn hr]
        rfl

theorem doubleLineEnd?_append {rest : List Char} (h : lineEnd? rest = none) (text : List Char) :
    doubleLineEnd? (text ++ rest) =
      (doubleLineEnd? text).map fun (found, left) => (found, left ++ rest) := by
  rw [doubleLineEnd?, doubleLineEnd?, lineEnd?_append h]
  cases lineEnd? text with
  | none => rfl
  | some first =>
      obtain ⟨first, between⟩ := first
      simp only [Option.map_some, lineEnd?_append h]
      cases lineEnd? between <;> rfl

/-- A header run does not reach beyond plain characters. -/
theorem headerRun?_append {plain rest : List Char} (hplain : Plain plain) (hrest : Stops rest) :
    headerRun? (plain ++ rest) =
      (headerRun? plain).map fun (run, left) => (run, left ++ rest) := by
  induction plain with
  | nil =>
      cases rest with
      | nil => rfl
      | cons c rest => exact if_neg (Bool.not_eq_true _ ▸ hrest)
  | cons c plain ih =>
      obtain ⟨hc, htail⟩ := plain_cons.1 hplain
      rw [List.cons_append, headerRun?, headerRun?, if_pos hc, if_pos hc,
        doubleLineEnd?_append hrest.bare.noLineEnd, ih htail]
      cases doubleLineEnd? plain with
      | some found => rfl
      | none => cases headerRun? plain <;> rfl

theorem append_of_lineEnd? {text found rest : List Char} (h : lineEnd? text = some (found, rest)) :
    found ++ rest = text := by
  unfold lineEnd? at h
  split at h <;> cases h <;> rfl

theorem append_of_doubleLineEnd? {text found rest : List Char}
    (h : doubleLineEnd? text = some (found, rest)) : found ++ rest = text ∧ found ≠ [] := by
  unfold doubleLineEnd? at h
  split at h
  · next first between hfirst =>
    obtain ⟨⟨second, left⟩, hsecond, heq⟩ := Option.map_eq_some_iff.1 h
    cases heq
    have hlength := length_of_lineEnd? hfirst
    rw [← append_of_lineEnd? hfirst, List.length_append] at hlength
    refine ⟨?_, ?_⟩
    · rw [List.append_assoc, append_of_lineEnd? hsecond, append_of_lineEnd? hfirst]
    · rintro hnil
      rw [(List.append_eq_nil_iff.1 hnil).1, List.length_nil] at hlength
      omega
  · cases h

/-- A header run is the front of its text, and holds more than one character. -/
theorem append_of_headerRun? {text run rest : List Char} (h : headerRun? text = some (run, rest)) :
    run ++ rest = text ∧ 2 ≤ run.length := by
  induction text generalizing run with
  | nil => cases h
  | cons c text ih =>
      unfold headerRun? at h
      split at h
      · split at h
        · next found left hfound =>
          cases h
          obtain ⟨happend, hne⟩ := append_of_doubleLineEnd? hfound
          have hpos : 0 < found.length := List.length_pos_iff.2 hne
          refine ⟨congrArg (c :: ·) happend, ?_⟩
          rw [List.length_cons]
          omega
        · obtain ⟨⟨run', left⟩, hrun, heq⟩ := Option.map_eq_some_iff.1 h
          cases heq
          obtain ⟨happend, hlength⟩ := ih hrun
          refine ⟨congrArg (c :: ·) happend, ?_⟩
          rw [List.length_cons]
          omega
      · cases h

/-- Whether a line of the text is followed by a blank one. -/
def hasBlankLine : List Char → Bool
  | [] => false
  | c :: text => c == '\n' && (lineEnd? text).isSome || hasBlankLine text

theorem hasBlankLine_of_doubleLineEnd? {text : List Char}
    (h : (doubleLineEnd? text).isSome = true) : hasBlankLine text = true := by
  unfold doubleLineEnd? at h
  split at h
  · next first between hfirst =>
    rw [Option.isSome_map] at h
    unfold lineEnd? at hfirst
    split at hfirst <;> cases hfirst <;> simp [hasBlankLine, h]
  · cases h

/-- A text has a header run exactly if there is a blank line behind its first character. -/
theorem isSome_headerRun? {c : Char} {text : List Char} (h : Plain (c :: text)) :
    (headerRun? (c :: text)).isSome = hasBlankLine text := by
  induction text generalizing c with
  | nil =>
      rw [headerRun?, if_pos (plain_cons.1 h).1]
      rfl
  | cons d text ih =>
      obtain ⟨hc, htext⟩ := plain_cons.1 h
      rw [headerRun?, if_pos hc]
      cases hdouble : doubleLineEnd? (d :: text) with
      | some found =>
          exact (hasBlankLine_of_doubleLineEnd? (hdouble ▸ rfl)).symm
      | none =>
          -- no run ends here, so the next character is no line feed in front of a line end
          have hnext : (d == '\n' && (lineEnd? text).isSome) = false := by
            by_cases hd : d = '\n'
            · subst hd
              have hmap : (lineEnd? text).map
                  (fun (second, rest) => ('\n' :: second, rest)) = none := hdouble
              rw [Option.map_eq_none_iff.1 hmap]
              rfl
            · rw [beq_false_of_ne hd, Bool.false_and]
          rw [hasBlankLine, hnext, Bool.false_or, ← ih htext]
          exact Option.isSome_map

theorem lineEnd?_append_of_some {text found left : List Char}
    (h : lineEnd? text = some (found, left)) (rest : List Char) :
    lineEnd? (text ++ rest) = some (found, left ++ rest) := by
  unfold lineEnd? at h
  split at h <;> cases h <;> rfl

theorem hasBlankLine_append_left {text rest : List Char}
    (h : hasBlankLine (text ++ rest) = false) : hasBlankLine text = false := by
  induction text with
  | nil => rfl
  | cons c text ih =>
      rw [List.cons_append, hasBlankLine, Bool.or_eq_false_iff] at h
      rw [hasBlankLine, ih h.2, Bool.or_false]
      cases hend : lineEnd? text with
      | none => exact Bool.and_false _
      | some found =>
          have hnext := h.1
          rwa [lineEnd?_append_of_some hend] at hnext

theorem hasBlankLine_append {rest : List Char} (h : lineEnd? rest = none) (text : List Char) :
    hasBlankLine (text ++ rest) = (hasBlankLine text || hasBlankLine rest) := by
  induction text with
  | nil => rfl
  | cons c text ih =>
      rw [List.cons_append, hasBlankLine, hasBlankLine, ih, lineEnd?_append h, Option.isSome_map,
        Bool.or_assoc]

/-- A line and its line feed are followed by a blank line if what comes next is a line end. -/
theorem hasBlankLine_line_append {line : List Char} (hline : '\n' ∉ line) (rest : List Char) :
    hasBlankLine (line ++ '\n' :: rest) = ((lineEnd? rest).isSome || hasBlankLine rest) := by
  induction line with
  | nil => rfl
  | cons c line ih =>
      rw [List.mem_cons, not_or] at hline
      rw [List.cons_append, hasBlankLine, beq_false_of_ne (Ne.symm hline.1), Bool.false_and,
        Bool.false_or, ih hline.2]

theorem lineEnd?_of_lineFeed {text : List Char} (h : lineEnd? (text ++ ['\n']) = none)
    (rest : List Char) : lineEnd? (text ++ '\n' :: rest) = none := by
  cases text with
  | nil => cases h
  | cons c text =>
      by_cases hn : c = '\n'
      · subst hn
        cases h
      by_cases hr : c = '\r'
      · subst hr
        cases text with
        | nil => cases h
        | cons d text =>
            by_cases hd : d = '\n'
            · subst hd
              cases h
            · simp [lineEnd?, hd]
      · exact lineEnd?_of_ne hn hr _

/-- Where there is no blank line so far, two line feeds are the first two line ends in a row. -/
theorem doubleLineEnd?_of_first {text : List Char} (h : hasBlankLine (text ++ ['\n']) = false)
    (rest : List Char) :
    doubleLineEnd? (text ++ '\n' :: '\n' :: rest) = none ∨
      doubleLineEnd? (text ++ '\n' :: '\n' :: rest) = some (text ++ ['\n', '\n'], rest) := by
  have hfeed : ∀ {line : List Char}, hasBlankLine ('\n' :: (line ++ ['\n'])) = false →
      lineEnd? (line ++ '\n' :: '\n' :: rest) = none := by
    intro line hline
    have hnext : lineEnd? (line ++ ['\n']) = none :=
      Option.isNone_iff_eq_none.1 (by simpa using (Bool.or_eq_false_iff.1 hline).1)
    exact lineEnd?_of_lineFeed hnext _
  cases text with
  | nil => exact .inr rfl
  | cons c text =>
      by_cases hn : c = '\n'
      · subst hn
        left
        show (lineEnd? (text ++ '\n' :: '\n' :: rest)).map _ = none
        rw [hfeed h]
        rfl
      by_cases hr : c = '\r'
      · subst hr
        cases text with
        | nil => exact .inr rfl
        | cons d text =>
            left
            by_cases hd : d = '\n'
            · subst hd
              show (lineEnd? (text ++ '\n' :: '\n' :: rest)).map _ = none
              rw [hfeed (Bool.or_eq_false_iff.1 h).2]
              rfl
            · simp [doubleLineEnd?, lineEnd?, hd]
      · left
        rw [List.cons_append, doubleLineEnd?, lineEnd?_of_ne hn hr]

/-- A header run goes up to the first blank line. -/
theorem headerRun?_of_first {c : Char} {text : List Char} (hplain : Plain (c :: text))
    (hfirst : hasBlankLine (text ++ ['\n']) = false) (rest : List Char) :
    headerRun? (c :: (text ++ '\n' :: '\n' :: rest)) =
      some (c :: (text ++ ['\n', '\n']), rest) := by
  induction text generalizing c with
  | nil =>
      rw [headerRun?, if_pos (plain_cons.1 hplain).1]
      rfl
  | cons d text ih =>
      obtain ⟨hc, htext⟩ := plain_cons.1 hplain
      rw [headerRun?, if_pos hc]
      -- two line ends that start here can only be the two line feeds, after a carriage return
      rcases doubleLineEnd?_of_first hfirst rest with hnone | hsome
      · rw [hnone]
        have hrun := ih htext (Bool.or_eq_false_iff.1 hfirst).2
        rw [List.cons_append, hrun]
        rfl
      · rw [hsome]

/-! ## Headers -/

theorem forall_bne_of_not_mem {c : Char} {text : List Char} (h : c ∉ text) :
    ∀ d ∈ text, (d != c) = true := by
  rintro d hd
  exact bne_iff_ne.2 fun heq => h (heq ▸ hd)

theorem takeWhile_ne_append {c : Char} {text : List Char} (h : c ∉ text) (rest : List Char) :
    (text ++ c :: rest).takeWhile (· != c) = text := by
  rw [List.takeWhile_append_of_pos (forall_bne_of_not_mem h),
    List.takeWhile_cons_of_neg (by simp), List.append_nil]

theorem dropWhile_ne_append {c : Char} {text : List Char} (h : c ∉ text) (rest : List Char) :
    (text ++ c :: rest).dropWhile (· != c) = c :: rest := by
  rw [List.dropWhile_append_of_pos (forall_bne_of_not_mem h), List.dropWhile_cons_of_neg (by simp)]

/-- A name and a value give a header, and the search goes on behind their line. -/
theorem headerPairs_line {name value : List Char} (hname : name ≠ []) (hcolon : ':' ∉ name)
    (hvalue : value ≠ []) (hline : '\n' ∉ value) (rest : List Char) :
    headerPairs (name ++ ':' :: (value ++ '\n' :: rest)) = (name, value) :: headerPairs rest := by
  rw [headerPairs]
  split
  · next heq =>
    rw [dropWhile_ne_append hcolon] at heq
    cases heq
  · next c after heq =>
    rw [dropWhile_ne_append hcolon] at heq
    cases heq
    have hkey := takeWhile_ne_append hcolon (value ++ '\n' :: rest)
    have hval := takeWhile_ne_append hline rest
    have hrest := dropWhile_ne_append hline rest
    dsimp only
    split
    · next heq₁ heq₂ heq₃ =>
      rw [hrest] at heq₂
      rw [hval] at heq₃
      rw [hkey, ← heq₃, (List.cons.inj heq₂).2]
    · next hnone =>
      -- name, line feed and value are all there, so the search cannot pass the colon over
      obtain ⟨n, ns, hname⟩ := List.exists_cons_of_ne_nil hname
      obtain ⟨v, vs, hvalue⟩ := List.exists_cons_of_ne_nil hvalue
      exact (hnone _ _ _ _ _ _ (hkey.trans hname) hrest (hval.trans hvalue)).elim

theorem headerPairs_of_not_mem {run : List Char} (h : ':' ∉ run) : headerPairs run = [] := by
  have hnone : run.dropWhile (· != ':') = [] :=
    List.dropWhile_eq_nil_iff.2 (forall_bne_of_not_mem h)
  rw [headerPairs]
  split
  · rfl
  · next heq =>
    rw [hnone] at heq
    cases heq

/-! ## Bodies -/

/-- A text that does not go on with a whole line of plain characters. -/
def NoLine (text : List Char) : Prop :=
  '\n' ∉ text.takeWhile isPlain

theorem Stops.noLine {rest : List Char} (h : Stops rest) : NoLine rest := by
  have hnone : rest.takeWhile isPlain = [] := takeWhile_isPlain_append plain_nil h
  rw [NoLine, hnone]
  exact List.not_mem_nil

/-- A body takes all plain characters up to the last line feed among them. -/
theorem bodyRun?_append_line {text rest : List Char} (hplain : Plain text) (hrest : NoLine rest) :
    bodyRun? (text ++ '\n' :: rest) =
      if text = [] then none else some (text ++ ['\n'], rest) := by
  have hall : Plain (text ++ ['\n']) := plain_append.2 ⟨hplain, by decide⟩
  have hsplit : text ++ '\n' :: rest = (text ++ ['\n']) ++ rest := by
    rw [List.append_assoc, List.singleton_append]
  have hrun : (((text ++ '\n' :: rest).takeWhile isPlain).reverse.dropWhile (· != '\n')).reverse =
      text ++ ['\n'] := by
    rw [hsplit, List.takeWhile_append_of_pos hall, List.append_assoc, List.singleton_append,
      List.reverse_append, List.reverse_cons, List.append_assoc, List.singleton_append,
      dropWhile_ne_append (mt List.mem_reverse.1 hrest), List.reverse_cons, List.reverse_reverse]
  rw [bodyRun?, hrun, hsplit, List.drop_left]
  cases text with
  | nil => rfl
  | cons c text => simp

/-- A body does not reach beyond plain characters. -/
theorem bodyRun?_append {text rest : List Char} (hplain : Plain text) (hrest : Stops rest) :
    bodyRun? (text ++ '\n' :: rest) =
      if text = [] then none else some (text ++ ['\n'], rest) :=
  bodyRun?_append_line hplain hrest.noLine

theorem bodyRun?_of_noLine {text : List Char} (h : NoLine text) : bodyRun? text = none := by
  have hnone : (text.takeWhile isPlain).reverse.dropWhile (· != '\n') = [] :=
    List.dropWhile_eq_nil_iff.2 (forall_bne_of_not_mem (mt List.mem_reverse.1 h))
  rw [bodyRun?, hnone]
  rfl

/-- A body is the front of its text, and plain. -/
theorem append_of_bodyRun? {text run rest : List Char} (h : bodyRun? text = some (run, rest)) :
    run ++ rest = text ∧ Plain run := by
  unfold bodyRun? at h
  dsimp only at h
  split at h
  · cases h
    have hline : List.IsPrefix ((text.takeWhile isPlain).reverse.dropWhile (· != '\n')).reverse
        (text.takeWhile isPlain) := by
      rw [← List.reverse_suffix, List.reverse_reverse]
      exact List.dropWhile_suffix _
    refine ⟨List.prefix_iff_eq_append.1 (hline.trans (List.takeWhile_prefix _)), ?_⟩
    intro c hc
    exact List.mem_takeWhile_imp (hline.subset hc)
  · cases h

/-! ## Request lines -/

theorem restOfLine?_append {line : List Char} (hne : line ≠ []) (hline : '\n' ∉ line)
    (rest : List Char) : restOfLine? (line ++ '\n' :: rest) = some (line, rest) := by
  obtain ⟨c, line, rfl⟩ := List.exists_cons_of_ne_nil hne
  rw [restOfLine?, takeWhile_ne_append hline, dropWhile_ne_append hline]
  rfl

theorem restOfLine?_of_not_mem {text : List Char} (h : '\n' ∉ text) : restOfLine? text = none := by
  have hdrop : text.dropWhile (· != '\n') = [] :=
    List.dropWhile_eq_nil_iff.2 (forall_bne_of_not_mem h)
  rw [restOfLine?, hdrop]
  split
  · rfl
  · next heq _ => cases heq
  · rfl

theorem urlAfterBlanks?_cons {c : Char} (h : Text.isBlank c = true) (text : List Char) :
    urlAfterBlanks? (c :: text) = (urlAfterBlanks? text).or (restOfLine? text) :=
  if_pos h

theorem urlAfterBlanks?_append {gap url rest : List Char} (hgap : gap ≠ [])
    (hblank : Text.Blank gap)
    (hurl : ∃ c tail, url = c :: tail ∧ Text.isBlank c = false) (hline : '\n' ∉ url) :
    urlAfterBlanks? (gap ++ (url ++ '\n' :: rest)) = some (url, rest) := by
  obtain ⟨c, tail, htail, hc⟩ := hurl
  have hstop : urlAfterBlanks? (url ++ '\n' :: rest) = none := by
    rw [htail]
    exact if_neg (Bool.eq_false_iff.1 hc)
  have hfound := restOfLine?_append (htail ▸ List.cons_ne_nil c tail) hline rest
  -- the run of blanks is tried in full length first, and there the rest of the rule applies
  induction gap with
  | nil => exact absurd rfl hgap
  | cons b gap ih =>
      rw [List.cons_append, urlAfterBlanks?_cons (hblank b List.mem_cons_self)]
      cases gap with
      | nil => rw [List.nil_append, hstop, hfound, Option.none_or]
      | cons b' gap =>
          have hrest : Text.Blank (b' :: gap) :=
            fun c hc => hblank c (List.mem_cons_of_mem b hc)
          rw [ih (List.cons_ne_nil b' gap) hrest, Option.some_or]

end HttpDoctest.Request
