import HttpDoctest.Proofs.Execution
import HttpDoctest.Proofs.Request.FirstLine

set_option autoImplicit false

/-! # The line that the URL stands on

The blanks between a method and its URL may go over line ends. So the URL of a block that is read
stands on the first line exactly if something other than blanks does, behind the method
(`onFirstLine_iff`). Else it is the text of a later line, or empty (`url_of_blank_line`).
-/

namespace HttpDoctest.Request

open Text (Blank)

/-- Whether the first line of a block is a request line, with this method and this URL. -/
def OnFirstLine (text : List Char) (method : Method) (url : String) : Prop :=
  ∃ line : RequestLine, line.method = method ∧ line.url = url ∧ '\n' ∉ line.gap ∧
    line.text <+: text

/-- What stands on the first line behind the capital letters that it starts with. -/
def behindMethod (text : List Char) : List Char :=
  (text.dropWhile Char.isUpper).takeWhile (· != '\n')

section

variable {text gap url rest : List Char}
  (hsplit : text.dropWhile Char.isUpper = gap ++ (url ++ '\n' :: rest))
include hsplit

theorem behindMethod_eq (hgap : '\n' ∉ gap) (hurl : '\n' ∉ url) :
    behindMethod text = gap ++ url := by
  have hline : '\n' ∉ gap ++ url := by
    rw [List.mem_append, not_or]
    exact ⟨hgap, hurl⟩
  rw [behindMethod, hsplit, ← List.append_assoc, takeWhile_ne_append hline]

/-- Where a line ends among the blanks nothing but blanks stands in front of its end. -/
theorem blank_behindMethod (hgap : '\n' ∈ gap) (hblank : Blank gap) :
    Blank (behindMethod text) := by
  obtain ⟨front, back, rfl, hfront⟩ := List.eq_append_cons_of_mem hgap
  rw [behindMethod, hsplit, List.append_assoc, List.cons_append, takeWhile_ne_append hfront]
  exact fun c hc => hblank c (List.mem_append_left _ hc)

end

theorem OnFirstLine.not_blank {text : List Char} {method : Method} {url : String}
    (h : OnFirstLine text method url) : ¬Blank (behindMethod text) := by
  obtain ⟨line, rfl, rfl, hgap, rest, rfl⟩ := h
  have hurl : '\n' ∉ line.url.toList ++ line.padding := by
    rw [List.mem_append, not_or]
    exact ⟨line.url_line, line.padding_line⟩
  rw [behindMethod_eq (line.span_text_append rest).2 hgap hurl]
  intro hblank
  obtain ⟨c, tail, hcons, hc⟩ := line.url_trimmed.first
  have hmem : c ∈ line.gap ++ (line.url.toList ++ line.padding) := by
    rw [hcons]
    exact List.mem_append_right _ List.mem_cons_self
  cases hc.symm.trans (hblank c hmem)

/-! ## Blanks and a URL -/

theorem not_mem_of_restOfLine? {text line rest : List Char}
    (h : restOfLine? text = some (line, rest)) : '\n' ∉ line := by
  unfold restOfLine? at h
  split at h
  · cases h
  · cases h
    exact fun hmem => absurd (List.mem_takeWhile_imp hmem) (by decide)
  · cases h

/-- Where the URL is found there are blanks in front of it. -/
theorem gap_of_urlAfterBlanks? {text url rest : List Char}
    (h : urlAfterBlanks? text = some (url, rest)) :
    ∃ gap, text = gap ++ (url ++ '\n' :: rest) ∧ gap ≠ [] ∧ Blank gap ∧ '\n' ∉ url := by
  induction text with
  | nil => cases h
  | cons c text ih =>
      unfold urlAfterBlanks? at h
      split at h
      · next hc =>
        rcases Option.or_eq_some_iff.1 h with h | ⟨-, h⟩
        · obtain ⟨gap, rfl, -, hblank, hline⟩ := ih h
          exact ⟨c :: gap, rfl, List.cons_ne_nil c gap, List.forall_mem_cons.2 ⟨hc, hblank⟩, hline⟩
        · have hgap : Blank [c] := List.forall_mem_singleton.2 hc
          have hsplit : c :: text = [c] ++ (url ++ '\n' :: rest) :=
            congrArg (c :: ·) (append_of_restOfLine? h).symm
          exact ⟨[c], hsplit, List.cons_ne_nil c [], hgap, not_mem_of_restOfLine? h⟩
      · cases h

/-! ## The lines of what is read -/

theorem name_of_ofName {name : String} {method : Method} (h : Method.ofName name = .ok method) :
    method.name = name := by
  unfold Method.ofName at h
  split at h
  · next hfound =>
    cases h
    have hname := List.find?_some hfound
    exact eq_of_beq hname
  · cases h

/-- A block that is read has its method and its URL with blanks between them. -/
theorem requestLine_of_read {text : List Char} {block : RequestBlock}
    (h : RequestBlock.read text = .ok block) :
    ∃ gap url rest, text.dropWhile Char.isUpper = gap ++ (url ++ '\n' :: rest) ∧
      text.takeWhile Char.isUpper = block.method.name.toList ∧
      gap ≠ [] ∧ Blank gap ∧ '\n' ∉ url ∧ block.url = String.ofList (Text.trim url) := by
  unfold RequestBlock.read at h
  split at h
  · cases h
  · next name url rest hline =>
    obtain ⟨method, hmethod, h⟩ := bind_eq_ok_iff.1 h
    cases h
    unfold requestLine? at hline
    split at hline
    · cases hline
    · obtain ⟨_, hurl, heq⟩ := Option.map_eq_some_iff.1 hline
      cases heq
      obtain ⟨gap, hsplit, hgap, hblank, hfeed⟩ := gap_of_urlAfterBlanks? hurl
      have hname : text.takeWhile Char.isUpper = method.name.toList := by
        rw [name_of_ofName hmethod, String.toList_ofList]
      exact ⟨gap, _, _, hsplit, hname, hgap, hblank, hfeed, rfl⟩

/-- A method, blanks and a text that is not blank make up a request line. The blanks at the start of
the text are blanks behind the method. -/
theorem exists_requestLine {gap written : List Char} (method : Method) (hgap : gap ≠ [])
    (hblank : Blank gap) (hinked : ¬Blank written) (hfeed : '\n' ∉ written) :
    ∃ line : RequestLine, line.method = method ∧ line.url = String.ofList (Text.trim written) ∧
      (∀ c ∈ line.gap, c ∈ gap ∨ c ∈ written) ∧
      line.text = method.name.toList ++ (gap ++ (written ++ ['\n'])) := by
  obtain ⟨before, after, hwritten, hbefore, hafter, htrimmed⟩ := Text.exists_trimmed hinked
  have hlist : (String.ofList (Text.trim written)).toList = Text.trim written :=
    String.toList_ofList
  have hlines := hfeed
  rw [hwritten, List.mem_append, not_or, List.mem_append, not_or] at hlines
  let line : RequestLine :=
    { method := method
      gap := gap ++ before
      url := String.ofList (Text.trim written)
      padding := after
      gap_ne_nil := List.append_ne_nil_of_left_ne_nil hgap before
      gap_blank := List.forall_mem_append.2 ⟨hblank, hbefore⟩
      url_trimmed := hlist.symm ▸ htrimmed
      url_line := hlist.symm ▸ hlines.2.1
      padding_blank := hafter
      padding_line := hlines.2.2 }
  refine ⟨line, rfl, rfl, fun c hc => ?_, ?_⟩
  · refine (List.mem_append.1 hc).imp_right fun hbefore => ?_
    rw [hwritten]
    exact List.mem_append_left _ hbefore
  · rw [RequestLine.text, hlist]
    simp only [line, List.append_assoc]
    rw [← List.append_assoc (Text.trim written), ← List.append_assoc before, ← hwritten]

/-- The URL of a block stands on its first line exactly if the block is read, with that URL, and
something other than blanks stands on the first line behind the method. -/
theorem onFirstLine_iff (text : List Char) (method : Method) (url : String) :
    OnFirstLine text method url ↔ ¬Blank (behindMethod text) ∧
      ∃ block, RequestBlock.read text = .ok block ∧ block.method = method ∧ block.url = url := by
  constructor
  · intro h
    refine ⟨h.not_blank, ?_⟩
    obtain ⟨line, rfl, rfl, -, rest, rfl⟩ := h
    exact ⟨_, line.read_text_append rest, rfl, rfl⟩
  · rintro ⟨hbehind, block, hread, rfl, rfl⟩
    obtain ⟨gap, written, rest, hsplit, hname, hgap, hblank, hfeed, hurl⟩ :=
      requestLine_of_read hread
    have hline : '\n' ∉ gap := fun hmem => hbehind (blank_behindMethod hsplit hmem hblank)
    rw [behindMethod_eq hsplit hline hfeed] at hbehind
    have hinked : ¬Blank written := fun hnone =>
      hbehind (List.forall_mem_append.2 ⟨hblank, hnone⟩)
    obtain ⟨line, hmethod, hlineUrl, hlineGap, htext⟩ :=
      exists_requestLine block.method hgap hblank hinked hfeed
    refine ⟨line, hmethod, hlineUrl.trans hurl.symm, ?_, rest, ?_⟩
    · exact fun hmem => (hlineGap _ hmem).elim hline hfeed
    · rw [htext, ← List.takeWhile_append_dropWhile (p := Char.isUpper) (l := text), hname, hsplit]
      simp only [List.append_assoc, List.singleton_append]

/-- The URL of the second line is read as that of a method without one. -/
theorem url_of_second_line :
    (∃ block, RequestBlock.read "GET\nhttp://x\n".toList = .ok block ∧ block.method = .get ∧
      block.url = "http://x") ∧
    ¬OnFirstLine "GET\nhttp://x\n".toList .get "http://x" := by
  let line : RequestLine :=
    { RequestLine.single .get "http://x" (by decide) (by decide) with
      gap := ['\n']
      gap_ne_nil := List.cons_ne_nil _ _
      gap_blank := by decide }
  have htext : line.text ++ [] = "GET\nhttp://x\n".toList := by decide +kernel
  have hblank : Blank (behindMethod "GET\nhttp://x\n".toList) := by decide +kernel
  exact ⟨⟨_, htext ▸ line.read_text_append [], rfl, rfl⟩, fun h => h.not_blank hblank⟩

/-- Where nothing but blanks stands on the first line behind the method, the URL is empty or that
of a later line. -/
theorem url_of_blank_line {text : List Char} {block : RequestBlock}
    (h : RequestBlock.read text = .ok block) (hblank : Blank (behindMethod text)) :
    block.url = "" ∨ ∃ front url rest, text = front ++ (url ++ '\n' :: rest) ∧ '\n' ∈ front ∧
      '\n' ∉ url ∧ block.url = String.ofList (Text.trim url) := by
  obtain ⟨gap, url, rest, hsplit, -, -, -, hfeed, hurl⟩ := requestLine_of_read h
  by_cases hline : '\n' ∈ gap
  · refine .inr ⟨text.takeWhile Char.isUpper ++ gap, url, rest, ?_,
      List.mem_append_right _ hline, hfeed, hurl⟩
    rw [List.append_assoc, ← hsplit, List.takeWhile_append_dropWhile]
  · rw [behindMethod_eq hsplit hline hfeed, Blank, List.forall_mem_append] at hblank
    rw [hurl, Text.trim_of_blank hblank.2]
    exact .inl rfl

end HttpDoctest.Request
