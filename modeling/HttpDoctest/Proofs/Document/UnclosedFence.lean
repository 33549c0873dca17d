import HttpDoctest.Proofs.Document.Decomposition

set_option autoImplicit false

/-! # Fences that are never closed

A block whose fence is missing ends at the next opening tag, since a tag starts with the characters
of a fence. So the unfinished block is always reported, and the block behind it has lost its tag:
the search goes on behind the characters of the fence that the tag started with, and comes to the
fence at the end of that block (`requestBlocks_of_unclosed_fence`).
-/

namespace HttpDoctest.Document

/-- What an opening tag has behind the characters of a fence. -/
def tagEnd : List Char := "http request\n".toList

theorem fence_append_tagEnd : fence ++ tagEnd = opening ++ ['\n'] := by decide +kernel

/-- A document in which a block is not closed and another block follows. Neither the text in front
nor the unfinished block holds a fence or runs into the tag behind it, and the other block goes up
to the first fence behind its tag. -/
structure UnclosedFence where
  before : String
  unfinished : String
  body : String
  behind : String
  before_noFence : ¬fence <:+: before.toList
  before_end : before.toList.getLast? ≠ some '\x60'
  unfinished_noFence : ¬fence <:+: unfinished.toList
  unfinished_end : unfinished.toList.getLast? ≠ some '\x60'
  body_closed : First [fence] body.toList fence []

/-- What follows both blocks, with the fence at the end of the second. -/
def UnclosedFence.remainder (document : UnclosedFence) : String :=
  String.ofList fence ++ document.behind

/-- The document as written. -/
def UnclosedFence.text (document : UnclosedFence) : String :=
  document.before ++ String.ofList (opening ++ ['\n']) ++ document.unfinished ++
    String.ofList (opening ++ ['\n']) ++ document.body ++ document.remainder

/-- Whether the unfinished block is not reported, and the one behind it is. -/
def UnclosedFence.CostsOnlyItself (document : UnclosedFence) : Prop :=
  document.body ∈ requestBlocks document.text ∧ document.unfinished ∉ requestBlocks document.text

section First

variable {marks : List (List Char)} {front mark back : List Char}

/-- A mark that starts like a fence stands behind a text without fences, unless the text ends in a
character of a fence. -/
theorem first_of_not_infix (hmarks : ∀ mark ∈ marks, fence <+: mark) (hmark : mark ∈ marks)
    (hfront : ¬fence <:+: front) (hend : front.getLast? ≠ some '\x60') (back : List Char) :
    First marks front mark back := by
  refine ⟨hmark, fun front' mark' back' hmark' heq => ?_⟩
  by_contra hlt
  obtain ⟨inner, rfl⟩ := hmarks mark' hmark'
  -- the mark would start among the last characters of the text, of which the last is no part of it
  have hsplit : front ++ (mark ++ back) = front' ++ (fence ++ (inner ++ back')) := by
    rw [heq, List.append_assoc]
  rcases List.append_eq_append_iff.1 hsplit with ⟨excess, rfl, -⟩ | ⟨excess, rfl, hexcess⟩
  · simp at hlt
  · rcases excess with _ | ⟨c, _ | ⟨d, _ | ⟨e, excess⟩⟩⟩
    · simp at hlt
    · simp only [fence, List.cons_append, List.cons.injEq] at hexcess
      obtain ⟨rfl, -⟩ := hexcess
      simp at hend
    · simp only [fence, List.cons_append, List.cons.injEq] at hexcess
      obtain ⟨-, rfl, -⟩ := hexcess
      simp at hend
    · simp only [fence, List.cons_append, List.cons.injEq] at hexcess
      obtain ⟨rfl, rfl, rfl, -⟩ := hexcess
      exact hfront ⟨front', excess, by simp [fence]⟩

/-- What follows a fence does not matter for whether it is the first. -/
theorem First.append_back (h : First [fence] front fence []) (back : List Char) :
    First [fence] front fence back := by
  refine ⟨h.mem, fun front' mark' back' hmark' heq => ?_⟩
  obtain rfl := List.mem_singleton.1 hmark'
  by_contra hlt
  obtain ⟨between, hback⟩ : ∃ between, back' = between ++ back := by
    have hlength := congrArg List.length heq
    simp only [List.length_append] at hlength
    have hfirst : back <:+ front ++ (fence ++ back) := ⟨front ++ fence, by simp⟩
    have hsecond : back' <:+ front ++ (fence ++ back) :=
      ⟨front' ++ fence, by rw [heq, List.append_assoc]⟩
    have hsuffix : back <:+ back' := List.suffix_of_suffix_length_le hfirst hsecond (by omega)
    exact hsuffix.imp fun _ hbetween => hbetween.symm
  have hclosed : front ++ (fence ++ []) = front' ++ (fence ++ between) := by
    refine List.append_cancel_right (?_ : _ ++ back = _ ++ back)
    simpa [hback] using heq
  exact hlt (h.le front' fence between (by simp) hclosed)

theorem First.append_front (h : First [fence] front fence back) {text : List Char}
    (htext : '\x60' ∉ text) : First [fence] (text ++ front) fence back := by
  induction text with
  | nil => exact h
  | cons c text ih =>
      rw [List.mem_cons, not_or] at htext
      refine (ih htext.2).cons fun mark hmark hprefix => ?_
      obtain rfl := List.mem_singleton.1 hmark
      exact htext.1 (List.cons_prefix_cons.1 hprefix).1

/-- Where there is no fence, there is no block. -/
theorem blocks_append_of_first (h : First [fence] front fence back) :
    blocks (front ++ (fence ++ back)) = blocks (fence ++ back) := by
  induction front with
  | nil => rfl
  | cons c front ih =>
      have hnone : blockHere? (c :: (front ++ (fence ++ back))) = none := by
        cases hblock : blockHere? (c :: (front ++ (fence ++ back))) with
        | none => rfl
        | some found =>
            obtain ⟨inner, hopens, -⟩ := Option.bind_eq_some_iff.1 hblock
            obtain ⟨tag, htag, heq⟩ := exists_tag_of_afterTag? hopens
            obtain ⟨more, rfl⟩ := fence_prefix_of_mem_tags htag
            have hle := h.le [] fence (more ++ inner) (by simp) (by simpa using heq)
            simp at hle
      rw [List.cons_append, blocks_cons_of_none hnone, ih h.tail]

end First

theorem UnclosedFence.toList_text (document : UnclosedFence) :
    document.text.toList = document.before.toList ++ (opening ++ ['\n'] ++
      (document.unfinished.toList ++ (fence ++
        (tagEnd ++ document.body.toList ++ (fence ++ document.behind.toList))))) := by
  have htag : opening ++ '\n' :: (document.body.toList ++ (fence ++ document.behind.toList)) =
      fence ++ (tagEnd ++ (document.body.toList ++ (fence ++ document.behind.toList))) := by
    rw [← List.append_assoc fence, fence_append_tagEnd, List.append_assoc, List.singleton_append]
  simp [text, remainder, htag]

theorem UnclosedFence.requestBlocks_text (document : UnclosedFence) :
    requestBlocks document.text = document.unfinished :: requestBlocks document.remainder := by
  have htag (back : List Char) : First tags document.before.toList (opening ++ ['\n']) back :=
    first_of_not_infix (fun _ => fence_prefix_of_mem_tags) (by simp [tags])
      document.before_noFence document.before_end back
  have hfence (back : List Char) : First [fence] document.unfinished.toList fence back :=
    first_of_not_infix (by simp) (by simp) document.unfinished_noFence document.unfinished_end back
  have htagEnd : '\x60' ∉ tagEnd := by decide +kernel
  have hlost := blocks_append_of_first
    ((document.body_closed.append_back document.behind.toList).append_front htagEnd)
  rw [requestBlocks, document.toList_text, blocks_of_first (htag _) (hfence _), hlost,
    List.map_cons, String.ofList_toList, requestBlocks, remainder, String.toList_append,
    String.toList_ofList]

/-- **A block that is not closed costs the next one.** The unfinished block is reported up to the
tag that follows it, and the next block is passed over up to its fence: it is reported only if it
is the same as the unfinished one, or if it stands once more in what follows. So never is the
unfinished block left out. -/
theorem requestBlocks_of_unclosed_fence (document : UnclosedFence) :
    requestBlocks document.text = document.unfinished :: requestBlocks document.remainder ∧
      (document.body ∈ requestBlocks document.text ↔
        document.body = document.unfinished ∨
          document.body ∈ requestBlocks document.remainder) ∧
      ¬document.CostsOnlyItself := by
  have hblocks := document.requestBlocks_text
  refine ⟨hblocks, ?_, ?_⟩
  · rw [hblocks, List.mem_cons]
  · rintro ⟨-, hunfinished⟩
    rw [hblocks] at hunfinished
    exact hunfinished List.mem_cons_self

/-- The request whose block is closed is lost, and the one whose block is not is reported. -/
theorem closed_block_behind_unclosed_is_lost :
    ∃ document : UnclosedFence,
      document.text = "```http request\nGET http://a\n```http request\nGET http://b\n```\n" ∧
      document.unfinished = "GET http://a\n" ∧ document.body = "GET http://b\n" ∧
      requestBlocks document.text = ["GET http://a\n"] ∧ ¬document.CostsOnlyItself := by
  let document : UnclosedFence :=
    { before := ""
      unfinished := "GET http://a\n"
      body := "GET http://b\n"
      behind := "\n"
      before_noFence := by decide +kernel
      before_end := by decide +kernel
      unfinished_noFence := by decide +kernel
      unfinished_end := by decide +kernel
      body_closed := by decide +kernel }
  have hblocks : requestBlocks document.text = ["GET http://a\n"] := by decide +kernel
  refine ⟨document, by decide +kernel, rfl, rfl, hblocks, ?_⟩
  rintro ⟨-, hunfinished⟩
  rw [hblocks] at hunfinished
  exact hunfinished List.mem_cons_self

end HttpDoctest.Document
