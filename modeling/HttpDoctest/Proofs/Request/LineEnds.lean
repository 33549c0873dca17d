import HttpDoctest.Proofs.Request.FirstLine
import HttpDoctest.Proofs.Request.HeaderValues
import HttpDoctest.Proofs.Request.Remainder

set_option autoImplicit false

/-! # Blocks with either line end

What becomes of a block when a carriage return is put in front of each of its line feeds. It is
read as the same request unless one of the rules takes a carriage return for a character of what
it looks for: the URL (`UrlMissing`), the start of a header run (`Swallowed`), a part of a name or
the value of a header (`KeepsHeaders`). In these cases the two readings do differ (`read_crlf_alike_iff`).
-/

namespace HttpDoctest.Request

/-! ## Headers -/

/-- The headers that are read of a text, and the text that is left behind them. -/
def headed (text : List Char) : Headers × List Char :=
  match headerRun? text with
  | some (run, left) => (headersOf run, left)
  | none => (.empty, text)

/-- A text whose header run starts with the blank line at its front, goes on to the next one, and
is not blank. -/
def Swallowed (text : List Char) : Prop :=
  ∃ behind run left, text = '\n' :: '\n' :: behind ∧ lineEnd? behind = none ∧
    headerRun? behind = some (run, left) ∧ ¬Text.Blank run

/-- A text whose headers stay the same with carriage returns, and so does what is left behind
them. -/
structure KeepsHead (text : List Char) : Prop where
  notSwallowed : ¬Swallowed text
  headers : ∀ run left, headerRun? text = some (run, left) → KeepsHeaders run

theorem read_of_requestLine? {text name url rest : List Char} {method : Method}
    (h : requestLine? text = some (name, url, rest))
    (hmethod : Method.ofName? (String.ofList name) = some method) :
    RequestBlock.read text =
      let head := headed (skipSpaces rest)
      .ok ⟨method, String.ofList (Text.trim url), head.1, (remains head.2).1,
        (remains head.2).2⟩ := by
  have hname : Method.ofName (String.ofList name) = .ok method := by
    rw [Method.ofName, hmethod]
  rw [RequestBlock.read, h]
  dsimp only
  rw [hname, headed]
  cases hrun : headerRun? (skipSpaces rest) with
  | some found =>
      obtain ⟨run, left⟩ := found
      rw [readHeaders_of_some hrun]
      rfl
  | none =>
      rw [readHeaders_of_none hrun]
      dsimp only
      rw [remains, skipSpaces_skipSpaces]
      rfl

/-! ### What is read with carriage returns -/

theorem headed_of_some {text run left : List Char} (h : headerRun? text = some (run, left)) :
    headed text = (headersOf run, left) := by
  rw [headed, h]

theorem headed_of_none {text : List Char} (h : headerRun? text = none) :
    headed text = (.empty, text) := by
  rw [headed, h]

/-- Behind a header run that is not blank there is less to read. -/
theorem remains_ne_of_not_blank {run : List Char} (h : Lines run) (hblank : ¬Text.Blank run)
    (left : List Char) : remains (run ++ left) ≠ remains left := by
  obtain ⟨lines, behind, rfl, hlines, hbehind⟩ := exists_lines left
  rw [← List.append_assoc, remains_append (h.append hlines) hbehind, remains_append hlines hbehind]
  intro heq
  -- the two bodies would have equally many characters that are not blank
  have htrim : Text.trim (run ++ lines) = Text.trim lines :=
    trim_eq_of_bodyOf_eq (congrArg Prod.fst heq)
  have hinked := congrArg Text.inked htrim
  rw [Text.inked_trim, Text.inked_trim, Text.inked_append] at hinked
  exact hblank (Text.inked_eq_zero_iff.1 (by omega))

theorem keepsHead_of_blank {text : List Char} (hswallowed : ¬Swallowed text)
    (h : ∀ run left, headerRun? text = some (run, left) → Text.Blank run) : KeepsHead text :=
  ⟨hswallowed, fun run left hrun => keepsHeaders_of_blank (h run left hrun)⟩

theorem headed_of_blank {text : List Char}
    (h : ∀ run left, headerRun? text = some (run, left) → Text.Blank run) :
    (headed text).1 = .empty ∧ remains (headed text).2 = remains text := by
  cases hfound : headerRun? text with
  | none =>
      rw [headed_of_none hfound]
      exact ⟨rfl, rfl⟩
  | some found =>
      obtain ⟨run, left⟩ := found
      have hblank := h run left hfound
      have hleft := remains_blank_append (lines_of_headerRun? hfound) hblank left
      rw [(append_of_headerRun? hfound).1] at hleft
      rw [headed_of_some hfound]
      exact ⟨headersOf_of_blank hblank, hleft.symm⟩

theorem eq_lineFeeds_of_doubleLineEnd? {text found rest : List Char} (h : '\r' ∉ text)
    (hdouble : doubleLineEnd? text = some (found, rest)) : text = '\n' :: '\n' :: rest := by
  unfold doubleLineEnd? at hdouble
  split at hdouble
  · next hfirst =>
    obtain ⟨-, rfl⟩ := eq_lineFeed_of_lineEnd? h hfirst
    obtain ⟨⟨_, _⟩, hsecond, heq⟩ := Option.map_eq_some_iff.1 hdouble
    cases heq
    obtain ⟨-, rfl⟩ := eq_lineFeed_of_lineEnd? (mt (List.mem_cons_of_mem _) h) hsecond
    rfl
  · cases hdouble

/-- Where no blank line stands in front, the same header run is found, and its headers alone
decide. -/
theorem headed_crlf_of_none {text : List Char} (h : '\r' ∉ text)
    (hfirst : doubleLineEnd? text = none) :
    ∃ left, '\r' ∉ left ∧ (headed (crlf text)).2 = crlf left ∧
      ((headed (crlf text)).1 = (headed text).1 ∧ remains left = remains (headed text).2 ↔
        KeepsHead text) := by
  have hrun := headerRun?_crlf h hfirst
  have hswallowed : ¬Swallowed text := by
    rintro ⟨behind, run, left, rfl, -⟩
    cases hfirst
  cases hfound : headerRun? text with
  | none =>
      rw [hfound] at hrun
      rw [headed_of_none hrun, headed_of_none hfound]
      refine ⟨text, h, rfl, iff_of_true ⟨rfl, rfl⟩ (keepsHead_of_blank hswallowed ?_)⟩
      rintro run left heq
      cases hfound.symm.trans heq
  | some found =>
      obtain ⟨run, left⟩ := found
      rw [hfound] at hrun
      have hsplit := (append_of_headerRun? hfound).1
      rw [← hsplit, List.mem_append, not_or] at h
      rw [headed_of_some hrun, headed_of_some hfound]
      refine ⟨left, h.2, rfl, (and_iff_left rfl).trans ((headersOf_crlf_eq_iff h.1).trans ?_)⟩
      constructor
      · intro hheaders
        refine ⟨hswallowed, ?_⟩
        rintro run' left' heq
        cases hfound.symm.trans heq
        exact hheaders
      · intro hkeeps
        exact hkeeps.headers run left hfound

theorem headerRun?_blank_line {behind : List Char} (h : '\r' ∉ behind) :
    headerRun? ('\n' :: '\n' :: behind) =
      match lineEnd? behind with
      | some (_, left) => some (['\n', '\n', '\n'], left)
      | none => (headerRun? behind).map fun (run, left) => ('\n' :: '\n' :: run, left) := by
  cases hend : lineEnd? behind with
  | some found =>
      obtain ⟨ending, left⟩ := found
      obtain ⟨-, rfl⟩ := eq_lineFeed_of_lineEnd? h hend
      rfl
  | none =>
      have hdouble : doubleLineEnd? behind = none := by rw [doubleLineEnd?, hend]
      have hdouble' : doubleLineEnd? ('\n' :: behind) = none := by
        show (lineEnd? behind).map _ = none
        rw [hend]
        rfl
      rw [headerRun?, if_pos (by decide), hdouble', headerRun?, if_pos (by decide), hdouble]
      dsimp only
      rw [Option.map_map]
      rfl

/-- Where a blank line stands in front, nothing but it is taken with carriage returns. What is
taken without them makes a difference unless it is blank. -/
theorem headed_crlf_of_blank_line {behind : List Char} (h : '\r' ∉ behind) :
    (headed (crlf ('\n' :: '\n' :: behind))).1 = (headed ('\n' :: '\n' :: behind)).1 ∧
        remains behind = remains (headed ('\n' :: '\n' :: behind)).2 ↔
      KeepsHead ('\n' :: '\n' :: behind) := by
  have hreturns : headed (crlf ('\n' :: '\n' :: behind)) = (.empty, crlf behind) := by
    rw [headed_of_some (headerRun?_crlf_blank_line behind), headersOf_of_blank (by decide)]
  have hfeeds : remains ('\n' :: '\n' :: behind) = remains behind :=
    remains_blank_append (lines_replicate 2) (blank_replicate 2) behind
  have hrun := headerRun?_blank_line h
  rw [hreturns]
  by_cases hswallowed : Swallowed ('\n' :: '\n' :: behind)
  · refine iff_of_false ?_ fun hkeeps => hkeeps.notSwallowed hswallowed
    obtain ⟨_, run, left, ⟨⟩, hend, hfound, hinked⟩ := hswallowed
    rw [hend, hfound] at hrun
    rintro ⟨-, heq⟩
    rw [headed_of_some hrun, ← (append_of_headerRun? hfound).1] at heq
    exact remains_ne_of_not_blank (lines_of_headerRun? hfound) hinked left heq
  · have hblank : ∀ run left, headerRun? ('\n' :: '\n' :: behind) = some (run, left) →
        Text.Blank run := by
      intro run left hfound
      rw [hrun] at hfound
      split at hfound
      · cases hfound
        decide
      · next hend =>
        obtain ⟨⟨run, left⟩, hfound, heq⟩ := Option.map_eq_some_iff.1 hfound
        cases heq
        have hblank : Text.Blank run :=
          by_contra fun hinked => hswallowed ⟨behind, run, left, rfl, hend, hfound, hinked⟩
        exact List.forall_mem_cons.2 ⟨by decide, List.forall_mem_cons.2 ⟨by decide, hblank⟩⟩
    obtain ⟨hempty, hrest⟩ := headed_of_blank hblank
    exact iff_of_true ⟨hempty.symm, hfeeds.symm.trans hrest.symm⟩
      (keepsHead_of_blank hswallowed hblank)

/-- How the headers of a text and what is left behind them compare to those of the same text with
carriage returns. -/
theorem headed_crlf {text : List Char} (h : '\r' ∉ text) :
    ∃ left, '\r' ∉ left ∧ (headed (crlf text)).2 = crlf left ∧
      ((headed (crlf text)).1 = (headed text).1 ∧ remains left = remains (headed text).2 ↔
        KeepsHead text) := by
  cases hfirst : doubleLineEnd? text with
  | none => exact headed_crlf_of_none h hfirst
  | some found =>
      obtain ⟨ends, behind⟩ := found
      obtain rfl := eq_lineFeeds_of_doubleLineEnd? h hfirst
      have hbehind : '\r' ∉ behind := fun hmem =>
        h (List.mem_cons_of_mem _ (List.mem_cons_of_mem _ hmem))
      refine ⟨behind, hbehind, ?_, headed_crlf_of_blank_line hbehind⟩
      rw [headed_of_some (headerRun?_crlf_blank_line behind)]

/-! ### Behind line feeds that no line follows -/

theorem blank_of_lines {line left feeds text : List Char} (h : Lines line)
    (hfeeds : Text.Blank feeds) (htext : '\n' ∉ text) (hback : line ++ left <:+ feeds ++ text) :
    Text.Blank line := by
  obtain ⟨before, hsplit⟩ := hback
  rcases h.whole with rfl | ⟨front, rfl⟩
  · exact Text.blank_nil
  -- the line feed at the end of the line is none of the text, so that the line ends before it
  rw [← List.append_assoc, List.append_eq_append_iff] at hsplit
  have hfront {between : List Char} (heq : feeds = before ++ (front ++ ['\n']) ++ between) :
      Text.Blank (front ++ ['\n']) := fun c hc => hfeeds c (by
    rw [heq]
    exact List.mem_append_left _ (List.mem_append_right _ hc))
  rcases hsplit with ⟨between, heq, -⟩ | ⟨between, heq, rfl⟩
  · exact hfront heq
  · rcases List.eq_nil_or_concat between with rfl | ⟨init, c, rfl⟩
    · rw [List.append_nil] at heq
      exact hfront ((List.append_nil _).trans heq).symm
    · rw [List.concat_eq_append, ← List.append_assoc, ← List.append_assoc] at heq
      have hc : '\n' = c := List.singleton_inj.1 (List.append_inj_right' heq rfl)
      rw [← hc, List.concat_eq_append] at htext
      exact absurd (List.mem_append_left _ (List.mem_append_right _ List.mem_cons_self)) htext

theorem headed_of_feeds {feeds text : List Char} (hfeeds : Lines feeds)
    (hblank : Text.Blank feeds) (htext : '\n' ∉ text) :
    (headed (skipSpaces (feeds ++ text))).1 = .empty ∧
      remains (headed (skipSpaces (feeds ++ text))).2 = remains text ∧
      KeepsHead (skipSpaces (feeds ++ text)) := by
  have hback := skipSpaces_suffix (feeds ++ text)
  have hrest : remains (skipSpaces (feeds ++ text)) = remains text :=
    (remains_skipSpaces _).trans (remains_blank_append hfeeds hblank text)
  -- whatever header run is found is blank
  have hrun : ∀ text' run left, text' <:+ feeds ++ text →
      headerRun? text' = some (run, left) → Text.Blank run := by
    intro text' run left hsuffix hfound
    rw [← (append_of_headerRun? hfound).1] at hsuffix
    exact blank_of_lines (lines_of_headerRun? hfound) hblank htext hsuffix
  have hswallowed : ¬Swallowed (skipSpaces (feeds ++ text)) := by
    rintro ⟨behind, run, left, heq, -, hfound, hinked⟩
    rw [heq] at hback
    exact hinked (hrun _ run left ((List.suffix_append ['\n', '\n'] behind).trans hback) hfound)
  have hruns := fun run left => hrun _ run left hback
  obtain ⟨hempty, hleft⟩ := headed_of_blank hruns
  exact ⟨hempty, hleft.trans hrest, keepsHead_of_blank hswallowed hruns⟩

theorem headed_follows {rest rest' : List Char} (h : '\r' ∉ rest) (hfollows : Follows rest rest') :
    ∃ left, '\r' ∉ left ∧ remains (headed (skipSpaces rest')).2 = remains (crlf left) ∧
      ((headed (skipSpaces rest')).1 = (headed (skipSpaces rest)).1 ∧
        remains left = remains (headed (skipSpaces rest)).2 ↔ KeepsHead (skipSpaces rest)) := by
  obtain ⟨feeds, text, rfl, rfl, hlines, hblank, rfl | htext⟩ := hfollows
  · rw [List.nil_append] at h ⊢
    obtain ⟨left, hleft, heq, hiff⟩ :=
      headed_crlf (mt (fun hmem => (skipSpaces_suffix text).subset hmem) h)
    rw [skipSpaces_crlf, heq]
    exact ⟨left, hleft, rfl, hiff⟩
  · have hreturn : '\r' ∉ text := fun hmem => h (List.mem_append_right _ hmem)
    obtain ⟨hempty, hrest, hkeeps⟩ := headed_of_feeds hlines hblank htext
    obtain ⟨hempty', hrest', -⟩ :=
      headed_of_feeds ⟨plain_nil, .inl rfl⟩ Text.blank_nil htext
    rw [List.nil_append] at hempty' hrest'
    rw [crlf_of_not_mem htext, hempty, hrest, hempty', hrest']
    refine ⟨text, hreturn, ?_, iff_of_true ⟨rfl, rfl⟩ hkeeps⟩
    rw [crlf_of_not_mem htext]

/-! ## Blocks -/

/-- The same request, up to the carriage returns in the body of the second one. -/
def SameRequest (block block' : RequestBlock) : Prop :=
  block'.method = block.method ∧ block'.url = block.url ∧ block'.headers = block.headers ∧
    block'.body.map (fun body => String.ofList (fromCrlf body.toList)) = block.body ∧
    block'.trailers = block.trailers

/-- Whether two readings are alike: errors of the same kind, or the same request up to the
carriage returns in the body of the second one. -/
def Alike : Except BlockError RequestBlock → Except BlockError RequestBlock → Prop
  | .error (.missingRequestLine _), .error (.missingRequestLine _) => True
  | .error (.unsupportedMethod _), .error (.unsupportedMethod _) => True
  | .ok block, .ok block' => SameRequest block block'
  | _, _ => False

theorem return_not_mem_remains {text : List Char} (h : '\r' ∉ text) {body : String}
    (hbody : (remains text).1 = some body) : '\r' ∉ body.toList := by
  obtain ⟨lines, behind, rfl, hlines, hbehind⟩ := exists_lines text
  rw [remains_append hlines hbehind] at hbody
  rw [← trim_eq_of_bodyOf hbody]
  exact fun hmem => h (List.mem_append_left _ ((Text.trim_sublist lines).subset hmem))

/-- Without the carriage returns the same is read as before. -/
theorem fromCrlf_remains_crlf {text : List Char} (h : '\r' ∉ text) :
    (remains (crlf text)).1.map (fun body => String.ofList (fromCrlf body.toList)) =
      (remains text).1 := by
  rw [remains_crlf h]
  cases hbody : (remains text).1 with
  | none => rfl
  | some body =>
      rw [Option.map_some, Option.map_some, String.toList_ofList,
        fromCrlf_crlf (return_not_mem_remains h hbody), String.ofList_toList]

theorem read_of_requestLine?_none {text : List Char} (h : requestLine? text = none) :
    RequestBlock.read text = .error (.missingRequestLine (RequestBlock.context text)) := by
  rw [RequestBlock.read, h]

theorem read_of_ofName?_none {text name url rest : List Char}
    (h : requestLine? text = some (name, url, rest))
    (hmethod : Method.ofName? (String.ofList name) = none) :
    RequestBlock.read text = .error (.unsupportedMethod (String.ofList name)) := by
  rw [RequestBlock.read, h]
  dsimp only
  rw [Method.ofName, hmethod]
  rfl

/-- Whether carriage returns in front of its line feeds leave a block as it is: the request line
does not lack its URL, and the headers behind it, if its method is known, stay the same. -/
def KeepsLines (text : List Char) : Prop :=
  ¬UrlMissing text ∧ ∀ name url rest method, requestLine? text = some (name, url, rest) →
    Method.ofName? (String.ofList name) = some method → KeepsHead (skipSpaces rest)

/-- **Line ends.** A block without carriage returns is read alike with a carriage return in front
of each line feed exactly if its request line does not lack the URL and its headers stay the
same. -/
theorem read_crlf_alike_iff {text : List Char} (h : '\r' ∉ text) :
    Alike (RequestBlock.read text) (RequestBlock.read (crlf text)) ↔ KeepsLines text := by
  obtain ⟨hnone, hnone'⟩ | ⟨hmissing, hnone, name, rest, hsome⟩ |
    ⟨name, url, rest, url', rest', hsome, hsome', htrim, hfollows⟩ := requestLine?_crlf text
  · rw [read_of_requestLine?_none hnone, read_of_requestLine?_none hnone']
    refine iff_of_true trivial ⟨fun hmissing => hmissing.requestLine?.2 hnone', ?_⟩
    intro name url rest method hsome
    cases hnone.symm.trans hsome
  · -- the first reading is an error over the request line, the second one is none
    refine iff_of_false ?_ fun hkeeps => hkeeps.1 hmissing
    rw [read_of_requestLine?_none hnone]
    cases hmethod : Method.ofName? (String.ofList name) with
    | none =>
        rw [read_of_ofName?_none hsome hmethod]
        exact id
    | some method =>
        rw [read_of_requestLine? hsome hmethod]
        exact id
  · have hpresent : ¬UrlMissing text := fun hmissing =>
      nomatch hmissing.requestLine?.1.symm.trans hsome
    cases hmethod : Method.ofName? (String.ofList name) with
    | none =>
        rw [read_of_ofName?_none hsome hmethod, read_of_ofName?_none hsome' hmethod]
        refine iff_of_true trivial ⟨hpresent, ?_⟩
        intro name' url' rest' method' hsome' hmethod'
        cases hsome.symm.trans hsome'
        cases hmethod.symm.trans hmethod'
    | some method =>
        have hrest : '\r' ∉ rest := fun hmem => h ((suffix_of_requestLine? hsome).subset
          (List.mem_append_right _ (List.mem_cons_of_mem _ hmem)))
        obtain ⟨left, hleft, heq, hiff⟩ := headed_follows hrest hfollows
        have htrailers : (remains (crlf left)).2 = (remains left).2 := by rw [remains_crlf hleft]
        have hkeeps : KeepsLines text ↔ KeepsHead (skipSpaces rest) := by
          refine ⟨fun hkeeps => hkeeps.2 name url rest method hsome hmethod, fun hhead => ?_⟩
          refine ⟨hpresent, ?_⟩
          intro name' url' rest' method' hsome' _
          cases hsome.symm.trans hsome'
          exact hhead
        rw [read_of_requestLine? hsome hmethod, read_of_requestLine? hsome' hmethod, hkeeps, ← hiff]
        dsimp only [Alike, SameRequest]
        rw [heq, htrim, fromCrlf_remains_crlf hleft, htrailers]
        constructor
        · rintro ⟨-, -, hheaders, hbody, htrailers⟩
          exact ⟨hheaders, Prod.ext hbody htrailers⟩
        · rintro ⟨hheaders, hremains⟩
          exact ⟨rfl, rfl, hheaders, congrArg Prod.fst hremains, congrArg Prod.snd hremains⟩

/-- A block with a header and a body is read alike with either line end. -/
theorem read_crlf_alike_of_header_and_body :
    Alike (RequestBlock.read "POST http://x\na: b\n\nfoo\n>true\n".toList)
      (RequestBlock.read (crlf "POST http://x\na: b\n\nfoo\n>true\n".toList)) := by
  have hrequest : requestLine? "POST http://x\na: b\n\nfoo\n>true\n".toList =
      some ("POST".toList, "http://x".toList, "a: b\n\nfoo\n>true\n".toList) := by
    decide +kernel
  have hrun : headerRun? (skipSpaces "a: b\n\nfoo\n>true\n".toList) =
      some ("a".toList ++ ':' :: (" b".toList ++ '\n' :: ['\n']), "foo\n>true\n".toList) := by
    decide +kernel
  have hpairs : fullPairs ("a".toList ++ ':' :: (" b".toList ++ '\n' :: ['\n'])) =
      [("a".toList, " b".toList)] := by
    rw [fullPairs_line (by decide) (by decide) (by decide), fullPairs_of_not_mem (by decide)]
  refine (read_crlf_alike_iff (by decide)).2 ⟨?_, ?_⟩
  · intro hmissing
    cases hmissing.requestLine?.1.symm.trans hrequest
  · intro name url rest method hfound _
    cases hrequest.symm.trans hfound
    refine ⟨?_, ?_⟩
    · rintro ⟨_, _, _, heq, -⟩
      have hfirst : (skipSpaces "a: b\n\nfoo\n>true\n".toList).head? = some 'a' := by decide
      cases hfirst.symm.trans (congrArg List.head? heq)
    · rintro run left heq
      cases hrun.symm.trans heq
      refine keepsHeaders_of_values ?_
      rw [hpairs, List.forall_mem_singleton]
      decide

/-- Where the URL is missing, a carriage return is taken for it. -/
theorem carriage_return_becomes_url :
    ¬Alike (RequestBlock.read "GET \n".toList) (RequestBlock.read (crlf "GET \n".toList)) := by
  have hnone : requestLine? "GET \n".toList = none := by decide +kernel
  have hsome : requestLine? (crlf "GET \n".toList) = some ("GET".toList, ['\r'], []) := by
    decide +kernel
  have hmethod : Method.ofName? (String.ofList "GET".toList) = some .get := by decide
  rw [read_of_requestLine?_none hnone, read_of_requestLine? hsome hmethod]
  exact id

end HttpDoctest.Request
