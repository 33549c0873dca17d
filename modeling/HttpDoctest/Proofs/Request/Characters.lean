import HttpDoctest.Proofs.Execution
import HttpDoctest.Proofs.Json.Characters
import HttpDoctest.Proofs.Request.FirstLine
import HttpDoctest.Proofs.Request.HeaderValues
import HttpDoctest.Proofs.Template.Missing

set_option autoImplicit false

/-! # The characters of a request

Every character of what is read of a block stands in the block (`RequestBlock.subset_of_read`), and
every character of a filled text stands in the text or in a value that is stored. So an escape
character in a request comes from the block or from the store (`RequestBlock.escapeFree_of_ofString`,
`Template.escapeFree_of_interpolate`).
-/

namespace HttpDoctest

open Ansi (escape EscapeFree)
open Template (namesAndValues)

theorem Template.mem_namesAndValues {entries : List (String × String)} {text : String} :
    text ∈ namesAndValues entries ↔ ∃ entry ∈ entries, text = entry.1 ∨ text = entry.2 := by
  simp only [namesAndValues, List.mem_flatMap, List.mem_cons, List.not_mem_nil, or_false]

/-! ## What is read of a block -/

namespace Request

theorem subset_of_mem_headersOf {run : List Char} {text : String}
    (h : text ∈ namesAndValues (headersOf run).entries) : text.toList ⊆ run := by
  obtain ⟨entry, hentry, heq⟩ := Template.mem_namesAndValues.1 h
  obtain ⟨pair, hpair, rfl⟩ := List.mem_map.1 (Table.mem_of_mem_ofList hentry)
  obtain ⟨hname, hvalue⟩ := subset_of_mem_headerPairs hpair
  rcases heq with rfl | rfl
  · rw [String.toList_ofList]
    exact fun c hc => hname ((Text.trim_sublist pair.1).subset hc)
  · rw [String.toList_ofList]
    exact fun c hc => hvalue ((Text.trim_sublist pair.2).subset hc)

/-- Headers are read from the front of a text. -/
theorem subset_readHeaders (text : List Char) :
    (∀ part ∈ namesAndValues (RequestBlock.readHeaders text).1.entries, part.toList ⊆ text) ∧
      (RequestBlock.readHeaders text).2 <:+ text := by
  cases hrun : headerRun? text with
  | none =>
      rw [readHeaders_of_none hrun]
      exact ⟨List.forall_mem_nil _, List.suffix_rfl⟩
  | some found =>
      obtain ⟨run, rest⟩ := found
      obtain ⟨rfl, -⟩ := append_of_headerRun? hrun
      rw [readHeaders_of_some hrun]
      refine ⟨fun part hpart => ?_, (skipSpaces_suffix rest).trans (List.suffix_append run rest)⟩
      exact fun c hc => List.mem_append_left rest (subset_of_mem_headersOf hpart hc)

/-- A body is read from the front of a text. -/
theorem subset_readBody (text : List Char) :
    (∀ body ∈ (RequestBlock.readBody text).1, body.toList ⊆ text) ∧
      (RequestBlock.readBody text).2 <:+ text := by
  unfold RequestBlock.readBody
  split
  · next run rest hrun =>
    obtain ⟨rfl, -⟩ := append_of_bodyRun? hrun
    refine ⟨fun body hbody => ?_, (skipSpaces_suffix rest).trans (List.suffix_append run rest)⟩
    rw [← trim_eq_of_bodyOf hbody]
    exact fun c hc => List.mem_append_left rest ((Text.trim_sublist run).subset hc)
  · exact ⟨nofun, List.suffix_rfl⟩

theorem subset_readTrailers (text : List Char) :
    ∀ trailer ∈ RequestBlock.readTrailers text, trailer.source.toList ⊆ text := by
  fun_induction RequestBlock.readTrailers text with
  | case1 text trailer rest hfound _ _ ih =>
      obtain ⟨hrest, hsource⟩ := suffix_of_trailerLine? hfound
      have hskip := (skipBlankLines_suffix text).subset
      rw [List.forall_mem_cons]
      refine ⟨fun c hc => hskip (hsource hc), fun later hlater c hc => ?_⟩
      exact hskip (hrest.subset (ih later hlater hc))
  | case2 => exact List.forall_mem_nil _

end Request

namespace RequestBlock

open Request

/-- All texts of a block: those in which placeholders may stand, and its trailers. -/
def texts (block : RequestBlock) : List String :=
  block.templates ++ block.trailers.map Trailer.source

theorem forall_mem_texts {block : RequestBlock} {p : String → Prop} :
    (∀ text ∈ block.texts, p text) ↔
      p block.url ∧ (∀ part ∈ namesAndValues block.headers.entries, p part) ∧
        (∀ body ∈ block.body, p body) ∧ ∀ trailer ∈ block.trailers, p trailer.source := by
  simp only [texts, templates, List.forall_mem_append, List.forall_mem_cons, Option.mem_toList,
    List.forall_mem_map, and_assoc, Option.mem_def]

/-- Each rule takes its text from what the rules in front of it leave of the block. -/
theorem subset_of_read {text : List Char} {block : RequestBlock} (h : read text = .ok block) :
    ∀ part ∈ block.texts, part.toList ⊆ text := by
  unfold read at h
  split at h
  · cases h
  · next name url rest hline =>
    obtain ⟨method, -, h⟩ := bind_eq_ok_iff.1 h
    cases h
    -- the URL and what is left behind the request line make up the end of the block
    have hfront := (suffix_of_requestLine? hline).subset
    obtain ⟨hheaders, hhead⟩ := subset_readHeaders (skipSpaces rest)
    obtain ⟨hbody, htail⟩ := subset_readBody (readHeaders (skipSpaces rest)).2
    have hrest : rest ⊆ text := fun c hc =>
      hfront (List.mem_append_right _ (List.mem_cons_of_mem _ hc))
    have hspaces : skipSpaces rest ⊆ text := fun c hc =>
      hrest ((skipSpaces_suffix rest).subset hc)
    have hbehind : (readHeaders (skipSpaces rest)).2 ⊆ text := fun c hc =>
      hspaces (hhead.subset hc)
    refine forall_mem_texts.2 ⟨?_, ?_, ?_, ?_⟩
    · rw [String.toList_ofList]
      exact fun c hc => hfront (List.mem_append_left _ ((Text.trim_sublist url).subset hc))
    · exact fun part hpart c hc => hspaces (hheaders part hpart hc)
    · exact fun body hmem c hc => hbehind (hbody body hmem hc)
    · exact fun trailer hmem c hc =>
        hbehind (htail.subset (subset_readTrailers _ trailer hmem hc))

theorem escapeFree_of_ofString {text : String} {block : RequestBlock} (h : ofString text = .ok block)
    (htext : EscapeFree text) : ∀ part ∈ block.texts, EscapeFree part :=
  fun part hpart hmem => htext (subset_of_read h part hpart hmem)

end RequestBlock

/-! ## What is filled in -/

/-- Whether no string that is stored holds an escape character. -/
def Store.EscapeFree (store : Store) : Prop :=
  ∀ key s, store.get? key = some (.string s) → Ansi.EscapeFree s

namespace Template

theorem mem_of_literal_mem_pieces {c : Char} {text : List Char} (h : .literal c ∈ pieces text) :
    c ∈ text := by
  fun_induction pieces text with
  | case1 text key rest hkey _ ih =>
      obtain ⟨written, -, rfl⟩ := exists_writes hkey
      rcases List.mem_cons.1 h with heq | h
      · cases heq
      · exact List.mem_append_right written (ih h)
  | case2 => cases h
  | case3 d tail _ ih =>
      rcases List.mem_cons.1 h with heq | h
      · cases heq
        exact List.mem_cons_self
      · exact List.mem_cons_of_mem d (ih h)

/-- A character of a filled text is one of the text, or of a value for one of its placeholders. -/
theorem mem_of_mem_fill {store : Store} {c : Char} {text : List Char} (h : c ∈ fill store text) :
    c ∈ text ∨ ∃ key, c ∈ (shown store key).toList := by
  obtain ⟨piece, hpiece, hc⟩ := List.mem_flatMap.1 h
  cases piece with
  | literal d =>
      cases List.mem_singleton.1 hc
      exact .inl (mem_of_literal_mem_pieces hpiece)
  | placeholder key =>
      rw [fill_placeholder] at hc
      exact .inr ⟨key, hc⟩

section Filled

variable {mode : MissingValue} {store : Store} (hstore : store.EscapeFree)
include hstore

theorem escapeFree_shown (key : String) : EscapeFree (shown store key) := by
  unfold shown
  split
  · next value hvalue =>
    refine Value.escapeFree_text fun s hs => hstore key s ?_
    rw [hvalue, hs]
  · decide

theorem escapeFree_of_interpolate {text filled : String} (htext : EscapeFree text)
    (h : interpolate mode store text = .ok filled) : EscapeFree filled := by
  have hfilled : filled = String.ofList (fill store text.toList) := by
    unfold interpolate at h
    split at h
    · cases h
    · cases h
      rfl
  rw [hfilled, Ansi.escapeFree_ofList]
  intro hmem
  rcases mem_of_mem_fill hmem with hmem | ⟨key, hmem⟩
  · exact htext hmem
  · exact escapeFree_shown hstore key hmem

theorem escapeFree_of_interpolate? {text filled : Option String}
    (htext : ∀ s ∈ text, EscapeFree s) (h : interpolate? mode store text = .ok filled) :
    ∀ s ∈ filled, EscapeFree s := by
  cases text with
  | none =>
      cases h
      exact fun _ h => nomatch h
  | some text =>
      obtain ⟨s, hfill, hsome⟩ := bind_eq_ok_iff.1 h
      cases hsome
      rintro _ ⟨⟩
      exact escapeFree_of_interpolate hstore (htext text rfl) hfill

theorem escapeFree_of_interpolateEntries {entries filled : List (String × String)}
    (hentries : ∀ text ∈ namesAndValues entries, EscapeFree text)
    (h : interpolateEntries mode store entries = .ok filled) :
    ∀ text ∈ namesAndValues filled, EscapeFree text := by
  induction entries generalizing filled with
  | nil =>
      cases h
      exact List.forall_mem_nil _
  | cons entry entries ih =>
      obtain ⟨name, value⟩ := entry
      obtain ⟨name', hname, h⟩ := bind_eq_ok_iff.1 h
      obtain ⟨value', hvalue, h⟩ := bind_eq_ok_iff.1 h
      obtain ⟨rest, hrest, h⟩ := bind_eq_ok_iff.1 h
      cases h
      have hfront : EscapeFree name ∧ EscapeFree value ∧
          ∀ text ∈ namesAndValues entries, EscapeFree text := by
        simpa [namesAndValues] using hentries
      have hname' := escapeFree_of_interpolate hstore hfront.1 hname
      have hvalue' := escapeFree_of_interpolate hstore hfront.2.1 hvalue
      exact List.forall_mem_cons.2
        ⟨hname', List.forall_mem_cons.2 ⟨hvalue', ih hfront.2.2 hrest⟩⟩

theorem escapeFree_of_interpolateHeaders {headers filled : Headers}
    (hheaders : ∀ text ∈ namesAndValues headers.entries, EscapeFree text)
    (h : interpolateHeaders mode store headers = .ok filled) :
    ∀ text ∈ namesAndValues filled.entries, EscapeFree text := by
  obtain ⟨entries, hentries, h⟩ := bind_eq_ok_iff.1 h
  cases h
  -- entries that are put under one name replace each other, and no other entry comes in
  intro text htext
  obtain ⟨entry, hentry, heq⟩ := mem_namesAndValues.1 htext
  exact escapeFree_of_interpolateEntries hstore hheaders hentries text
    (mem_namesAndValues.2 ⟨entry, Table.mem_of_mem_ofList hentry, heq⟩)

end Filled

end Template

end HttpDoctest
