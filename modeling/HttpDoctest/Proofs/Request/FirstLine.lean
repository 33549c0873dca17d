import HttpDoctest.Proofs.Request.CarriageReturns

set_option autoImplicit false

/-! # Carriage returns in request lines

What the rule for the request line does once every line feed has a carriage return in front of it.
It finds the same method and the same URL, up to blanks at its ends, unless there is no URL: then
the carriage return of a line end behind the method is taken for one (`requestLine?_crlf`).
-/

namespace HttpDoctest.Request

/-- A block whose request line names a method but no URL, and ends in one or more line feeds, with
no line feed behind them. -/
def UrlMissing (text : List Char) : Prop :=
  ∃ name c feeds behind, text = name ++ c :: (List.replicate (feeds + 1) '\n' ++ behind) ∧
    name ≠ [] ∧ (∀ d ∈ name, d.isUpper = true) ∧ Text.isBlank c = true ∧ '\n' ∉ behind

/-- The text behind a request line, and behind the same line with carriage returns. It is the same
text but for line feeds that are left in front of it where no line follows. -/
def Follows (rest rest' : List Char) : Prop :=
  ∃ feeds text, rest = feeds ++ text ∧ rest' = crlf text ∧ Lines feeds ∧ Text.Blank feeds ∧
    (feeds = [] ∨ '\n' ∉ text)

/-! ## Lines -/

/-- With a carriage return in it every line has a character in front of its line feed. -/
theorem restOfLine?_crlf {line : List Char} (hline : '\n' ∉ line) (rest : List Char) :
    restOfLine? (crlf (line ++ '\n' :: rest)) = some (line ++ ['\r'], crlf rest) := by
  have hreturn : '\n' ∉ line ++ ['\r'] := by
    rw [List.mem_append, not_or]
    exact ⟨hline, by decide⟩
  rw [crlf_append, crlf_of_not_mem hline, crlf_lineFeed,
    ← restOfLine?_append (by simp) hreturn (crlf rest), List.append_assoc]
  rfl

/-! ## URLs behind blanks -/

theorem urlAfterBlanks?_crlf_cons {c : Char} (h : Text.isBlank c = true) (text : List Char) :
    urlAfterBlanks? (crlf (c :: text)) =
      (urlAfterBlanks? (crlf text)).or (restOfLine? (crlf text)) := by
  by_cases hn : c = '\n'
  · subst hn
    have hnone : restOfLine? ('\n' :: crlf text) = none := rfl
    rw [crlf_lineFeed, urlAfterBlanks?_cons (by decide), urlAfterBlanks?_cons (by decide), hnone,
      Option.or_none]
  · rw [crlf_cons hn, urlAfterBlanks?_cons h]

theorem urlAfterBlanks?_of_not_mem {text : List Char} (h : '\n' ∉ text) :
    urlAfterBlanks? text = none := by
  induction text with
  | nil => rfl
  | cons c text ih =>
      have htext : '\n' ∉ text := fun hmem => h (List.mem_cons_of_mem _ hmem)
      rw [urlAfterBlanks?, ih htext, restOfLine?_of_not_mem htext, Option.or_none, ite_self]

theorem urlAfterBlanks?_feeds {behind : List Char} (h : '\n' ∉ behind) (feeds : Nat) :
    urlAfterBlanks? (List.replicate feeds '\n' ++ behind) = none := by
  induction feeds with
  | zero => exact urlAfterBlanks?_of_not_mem h
  | succ feeds ih =>
      rw [List.replicate_succ, List.cons_append, urlAfterBlanks?_cons (by decide), ih,
        Option.none_or]
      cases feeds with
      | zero => exact restOfLine?_of_not_mem h
      | succ feeds => rfl

theorem lines_replicate (feeds : Nat) : Lines (List.replicate feeds '\n') := by
  cases feeds with
  | zero => exact ⟨plain_nil, .inl rfl⟩
  | succ feeds =>
      rw [List.replicate_succ']
      refine lines_append_lineFeed ?_
      intro c hc
      rw [List.eq_of_mem_replicate hc]
      decide

theorem blank_replicate (feeds : Nat) : Text.Blank (List.replicate feeds '\n') := by
  intro c hc
  rw [List.eq_of_mem_replicate hc]
  decide

/-- What the rule for the URL finds of a text, and of the same text with carriage returns. -/
inductive UrlsFound (text : List Char) : Prop
  | neither (hnone : urlAfterBlanks? text = none) (hnone' : urlAfterBlanks? (crlf text) = none)
  | missing {c : Char} {feeds : Nat} {behind : List Char}
      (htext : text = c :: (List.replicate (feeds + 1) '\n' ++ behind))
      (hblank : Text.isBlank c = true) (hbehind : '\n' ∉ behind)
      (hnone : urlAfterBlanks? text = none)
      (hsome : urlAfterBlanks? (crlf text) = some (['\r'], behind))
  | both {url rest url' rest' : List Char} (hsome : urlAfterBlanks? text = some (url, rest))
      (hsome' : urlAfterBlanks? (crlf text) = some (url', rest'))
      (htrim : Text.trim url' = Text.trim url) (hrest : Follows rest rest')

/-- Where no URL is found behind more blanks, the text behind the first one is looked at. -/
theorem urlsFound_of_none {c : Char} {text : List Char} (hc : Text.isBlank c = true)
    (hnone : urlAfterBlanks? text = none) (hnone' : urlAfterBlanks? (crlf text) = none) :
    UrlsFound (c :: text) := by
  have hcons := urlAfterBlanks?_cons hc text
  have hcons' := urlAfterBlanks?_crlf_cons hc text
  rw [hnone, Option.none_or] at hcons
  rw [hnone', Option.none_or] at hcons'
  by_cases hmem : '\n' ∈ text
  · obtain ⟨line, rest, rfl, hline⟩ := List.eq_append_cons_of_mem hmem
    rw [restOfLine?_crlf hline] at hcons'
    by_cases hempty : line = []
    · subst hempty
      -- behind an empty line no line follows, or its carriage return would be found before
      have hrest : '\n' ∉ rest := by
        intro hmem
        obtain ⟨line, rest, rfl, hline⟩ := List.eq_append_cons_of_mem hmem
        rw [List.nil_append, urlAfterBlanks?_crlf_cons (by decide), restOfLine?_crlf hline,
          Option.or_eq_none_iff] at hnone'
        cases hnone'.2
      rw [crlf_of_not_mem hrest] at hcons'
      have hsplit : c :: '\n' :: rest = c :: (List.replicate (0 + 1) '\n' ++ rest) := rfl
      exact .missing hsplit hc hrest hcons hcons'
    · have hreturn : Text.Blank ['\r'] := by decide
      rw [restOfLine?_append hempty hline] at hcons
      exact .both hcons hcons' (Text.trim_append hreturn line)
        ⟨[], rest, rfl, rfl, ⟨plain_nil, .inl rfl⟩, Text.blank_nil, .inl rfl⟩
  · have hrest : restOfLine? (crlf text) = none := by
      rw [crlf_of_not_mem hmem, restOfLine?_of_not_mem hmem]
    exact .neither (hcons.trans (restOfLine?_of_not_mem hmem)) (hcons'.trans hrest)

/-- The induction is on the blanks in front of the URL. The rule tries the longest run of them
first, so that what it finds behind one blank more is what it has found before, if anything. -/
theorem urlsFound (text : List Char) : UrlsFound text := by
  induction text with
  | nil => exact .neither rfl rfl
  | cons c text ih =>
      by_cases hc : Text.isBlank c = true
      · have hcons := urlAfterBlanks?_cons hc text
        have hcons' := urlAfterBlanks?_crlf_cons hc text
        cases ih with
        | neither hnone hnone' => exact urlsFound_of_none hc hnone hnone'
        | @missing d feeds behind htext hd hbehind hnone hsome =>
            rw [hnone, Option.none_or] at hcons
            rw [hsome, Option.some_or] at hcons'
            subst htext
            by_cases hn : d = '\n'
            · subst hn
              have hsplit : c :: '\n' :: (List.replicate (feeds + 1) '\n' ++ behind) =
                  c :: (List.replicate (feeds + 2) '\n' ++ behind) := rfl
              exact .missing hsplit hc hbehind hcons hcons'
            · -- a blank that is no line feed is itself taken for the URL
              have hline : '\n' ∉ [d] := mt List.mem_singleton.1 (Ne.symm hn)
              have hfound := restOfLine?_append (List.cons_ne_nil d []) hline
                (List.replicate feeds '\n' ++ behind)
              have hblank : Text.Blank [d] := List.forall_mem_singleton.2 hd
              have htrim : Text.trim ['\r'] = Text.trim [d] := (Text.trim_of_blank hblank).symm
              exact .both (hcons.trans hfound) hcons' htrim
                ⟨_, behind, rfl, (crlf_of_not_mem hbehind).symm, lines_replicate feeds,
                  blank_replicate feeds, .inr hbehind⟩
        | both hsome hsome' htrim hrest =>
            rw [hsome, Option.some_or] at hcons
            rw [hsome', Option.some_or] at hcons'
            exact .both hcons hcons' htrim hrest
      · have hn : c ≠ '\n' := Text.ne_of_class (Bool.eq_false_iff.2 hc) (by decide)
        refine .neither (if_neg hc) ?_
        rw [crlf_cons hn]
        exact if_neg hc

/-! ## The request line -/

theorem requestLine?_eq_none_iff {text : List Char} (h : text.takeWhile Char.isUpper ≠ []) :
    requestLine? text = none ↔ urlAfterBlanks? (text.dropWhile Char.isUpper) = none := by
  rw [requestLine?]
  split
  · next heq => exact absurd heq h
  · exact Option.map_eq_none_iff

theorem requestLine?_of_urlAfterBlanks? {text url rest : List Char}
    (h : text.takeWhile Char.isUpper ≠ [])
    (hurl : urlAfterBlanks? (text.dropWhile Char.isUpper) = some (url, rest)) :
    requestLine? text = some (text.takeWhile Char.isUpper, url, rest) := by
  rw [requestLine?, hurl]
  split
  · next heq => exact absurd heq h
  · rfl

/-- What carriage returns do to a request line. They make a URL of a line end where there was
none, and else leave method and URL as they are. -/
theorem requestLine?_crlf (text : List Char) :
    (requestLine? text = none ∧ requestLine? (crlf text) = none) ∨
    (UrlMissing text ∧ requestLine? text = none ∧
      ∃ name rest, requestLine? (crlf text) = some (name, ['\r'], rest)) ∨
    ∃ name url rest url' rest', requestLine? text = some (name, url, rest) ∧
      requestLine? (crlf text) = some (name, url', rest') ∧ Text.trim url' = Text.trim url ∧
      Follows rest rest' := by
  have hname : '\n' ∉ text.takeWhile Char.isUpper := fun hmem =>
    absurd (List.mem_takeWhile_imp hmem) (by decide)
  have htake : (crlf text).takeWhile Char.isUpper = text.takeWhile Char.isUpper :=
    (takeWhile_crlf rfl).trans (crlf_of_not_mem hname)
  have hdrop : (crlf text).dropWhile Char.isUpper = crlf (text.dropWhile Char.isUpper) :=
    dropWhile_crlf rfl
  by_cases hempty : text.takeWhile Char.isUpper = []
  · rw [requestLine?, requestLine?, htake, hempty]
    exact .inl ⟨rfl, rfl⟩
  have hempty' : (crlf text).takeWhile Char.isUpper ≠ [] := htake ▸ hempty
  cases urlsFound (text.dropWhile Char.isUpper) with
  | neither hnone hnone' =>
      rw [← hdrop] at hnone'
      exact .inl ⟨(requestLine?_eq_none_iff hempty).2 hnone,
        (requestLine?_eq_none_iff hempty').2 hnone'⟩
  | @missing c feeds behind hsplit hc hbehind hnone hsome =>
      rw [← hdrop] at hsome
      refine .inr (.inl ⟨⟨text.takeWhile Char.isUpper, c, feeds, behind, ?_, hempty, ?_, hc,
        hbehind⟩, (requestLine?_eq_none_iff hempty).2 hnone, _, _,
        requestLine?_of_urlAfterBlanks? hempty' hsome⟩)
      · rw [← hsplit, List.takeWhile_append_dropWhile]
      · exact fun d hd => List.mem_takeWhile_imp hd
  | @both url rest url' rest' hsome hsome' htrim hrest =>
      rw [← hdrop] at hsome'
      have hfound' := requestLine?_of_urlAfterBlanks? hempty' hsome'
      rw [htake] at hfound'
      exact .inr (.inr ⟨_, url, rest, url', rest', requestLine?_of_urlAfterBlanks? hempty hsome,
        hfound', htrim, hrest⟩)

theorem append_of_restOfLine? {text line rest : List Char}
    (h : restOfLine? text = some (line, rest)) : line ++ '\n' :: rest = text := by
  unfold restOfLine? at h
  split at h
  · cases h
  · next hdrop _ =>
    cases h
    rw [← hdrop]
    exact List.takeWhile_append_dropWhile
  · cases h

theorem suffix_of_urlAfterBlanks? {text url rest : List Char}
    (h : urlAfterBlanks? text = some (url, rest)) : url ++ '\n' :: rest <:+ text := by
  induction text with
  | nil => cases h
  | cons c text ih =>
      unfold urlAfterBlanks? at h
      split at h
      · refine List.IsSuffix.trans ?_ (List.suffix_cons c text)
        rcases Option.or_eq_some_iff.1 h with h | ⟨-, h⟩
        · exact ih h
        · exact append_of_restOfLine? h ▸ List.suffix_rfl
      · cases h

theorem suffix_of_requestLine? {text name url rest : List Char}
    (h : requestLine? text = some (name, url, rest)) : url ++ '\n' :: rest <:+ text := by
  unfold requestLine? at h
  split at h
  · cases h
  · obtain ⟨_, hurl, heq⟩ := Option.map_eq_some_iff.1 h
    cases heq
    exact (suffix_of_urlAfterBlanks? hurl).trans (List.dropWhile_suffix _)

theorem UrlMissing.requestLine? {text : List Char} (h : UrlMissing text) :
    requestLine? text = none ∧ requestLine? (crlf text) ≠ none := by
  obtain ⟨name, c, feeds, behind, rfl, hname, hupper, hc, hbehind⟩ := h
  have hspan := RequestLine.span_isUpper hupper hc
  have hfeed : '\n' ∉ name := fun hmem => absurd (hupper _ hmem) (by decide)
  constructor
  · rw [requestLine?_eq_none_iff (by rwa [(hspan _).1]), (hspan _).2, urlAfterBlanks?_cons hc,
      urlAfterBlanks?_feeds hbehind, Option.none_or]
    rfl
  · have htake' : (crlf (name ++ c :: (List.replicate (feeds + 1) '\n' ++ behind))).takeWhile
        Char.isUpper = name := by
      rw [takeWhile_crlf rfl, (hspan _).1, crlf_of_not_mem hfeed]
    have hdrop' : (crlf (name ++ c :: (List.replicate (feeds + 1) '\n' ++ behind))).dropWhile
        Char.isUpper = crlf (c :: (List.replicate (feeds + 1) '\n' ++ behind)) := by
      rw [dropWhile_crlf rfl, (hspan _).2]
    rw [Ne, requestLine?_eq_none_iff (by rwa [htake']), hdrop', urlAfterBlanks?_crlf_cons hc,
      Option.or_eq_none_iff, List.replicate_succ, List.cons_append]
    rintro ⟨-, hnone⟩
    have hsome := restOfLine?_crlf List.not_mem_nil (List.replicate feeds '\n' ++ behind)
    cases hnone.symm.trans hsome

end HttpDoctest.Request
