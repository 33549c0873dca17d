import HttpDoctest.Document
import Mathlib.Data.List.Infix

set_option autoImplicit false

/-! # How a document falls apart into blocks

A document is a list of segments and a rest. A segment is a text in front, an opening tag, a body
and a fence, where the tag is the first one behind the fence of the segment in front of it, and the
fence is the first one behind the tag. In the rest no opening tag has a fence behind it
(`Splits`). Every document falls apart in exactly one such way, and the request blocks are the
bodies of the segments (`requestBlocks_of_unique_decomposition`).
-/

namespace HttpDoctest

namespace Document

/-! ## The first of some marks -/

/-- Whether a text that is made up of `front`, `mark` and `back` has the first of its `marks` right
behind `front`, and that is `mark`. -/
structure First (marks : List (List Char)) (front mark back : List Char) : Prop where
  mem : mark ∈ marks
  le : ∀ front' mark' back', mark' ∈ marks →
    front ++ (mark ++ back) = front' ++ (mark' ++ back') → front.length ≤ front'.length

section First

variable {marks : List (List Char)} {front mark back : List Char}

theorem first_iff_forall_drop :
    First marks front mark back ↔ mark ∈ marks ∧ ∀ n < front.length, ∀ mark' ∈ marks,
      ¬mark' <+: (front ++ (mark ++ back)).drop n := by
  constructor
  · rintro ⟨hmem, hle⟩
    refine ⟨hmem, fun n hn mark' hmark' ⟨back', hback'⟩ => ?_⟩
    have hlength := hle ((front ++ (mark ++ back)).take n) mark' back' hmark'
      (by rw [hback', List.take_append_drop])
    rw [List.length_take] at hlength
    omega
  · rintro ⟨hmem, hnone⟩
    refine ⟨hmem, fun front' mark' back' hmark' heq => ?_⟩
    by_contra hlt
    refine hnone front'.length (by omega) mark' hmark' ?_
    rw [heq, List.drop_left]
    exact List.prefix_append mark' back'

instance : Decidable (First marks front mark back) :=
  decidable_of_iff _ first_iff_forall_drop.symm

theorem first_nil (h : mark ∈ marks) : First marks [] mark back :=
  ⟨h, fun _ _ _ _ _ => Nat.zero_le _⟩

/-- A character at which no mark starts stands in front of the first one. -/
theorem First.cons {c : Char} (h : First marks front mark back)
    (hnone : ∀ mark' ∈ marks, ¬mark' <+: c :: (front ++ (mark ++ back))) :
    First marks (c :: front) mark back := by
  refine ⟨h.mem, fun front' mark' back' hmark' heq => ?_⟩
  cases front' with
  | nil => exact absurd ⟨back', heq.symm⟩ (hnone mark' hmark')
  | cons d front' =>
      rw [List.cons_append, List.cons_append, List.cons.injEq] at heq
      exact Nat.succ_le_succ (h.le front' mark' back' hmark' heq.2)

theorem First.tail {c : Char} (h : First marks (c :: front) mark back) :
    First marks front mark back := by
  refine ⟨h.mem, fun front' mark' back' hmark' heq => ?_⟩
  have hle := h.le (c :: front') mark' back' hmark' (by rw [List.cons_append, heq]; rfl)
  rw [List.length_cons, List.length_cons] at hle
  omega

theorem First.length_unique {front' mark' back' : List Char} (h : First marks front mark back)
    (h' : First marks front' mark' back')
    (heq : front ++ (mark ++ back) = front' ++ (mark' ++ back')) :
    front.length = front'.length :=
  Nat.le_antisymm (h.le front' mark' back' h'.mem heq) (h'.le front mark back h.mem heq.symm)

end First

/-! ## Tags and fences -/

/-- The two ways to write an opening tag. -/
def tags : List (List Char) := [opening ++ ['\n'], opening ++ ['\r', '\n']]

theorem tags_cases {tag : List Char} (h : tag ∈ tags) :
    tag = opening ++ ['\n'] ∨ tag = opening ++ ['\r', '\n'] := by
  simpa [tags] using h

theorem length_of_mem_tags {tag : List Char} (h : tag ∈ tags) :
    opening.length < tag.length ∧ tag.length ≤ opening.length + 2 := by
  rcases tags_cases h with rfl | rfl <;> simp

theorem fence_prefix_of_mem_tags {tag : List Char} (h : tag ∈ tags) : fence <+: tag := by
  rcases tags_cases h with rfl | rfl <;>
    exact (List.prefix_append fence _).trans (List.prefix_append opening _)

/-- At one place stands one tag. -/
theorem tags_unique {tag tag' rest rest' : List Char} (h : tag ∈ tags) (h' : tag' ∈ tags)
    (heq : tag ++ rest = tag' ++ rest') : tag = tag' := by
  rcases tags_cases h with rfl | rfl <;> rcases tags_cases h' with rfl | rfl
  · rfl
  · simp at heq
  · simp at heq
  · rfl

theorem afterTag?_append {tag : List Char} (h : tag ∈ tags) (rest : List Char) :
    afterTag? (tag ++ rest) = some rest := by
  rcases tags_cases h with rfl | rfl
  · rw [List.append_assoc, afterTag?, Text.afterPrefix?_append]
    rfl
  · rw [List.append_assoc, afterTag?, Text.afterPrefix?_append]
    rfl

theorem exists_tag_of_afterTag? {text rest : List Char} (h : afterTag? text = some rest) :
    ∃ tag ∈ tags, text = tag ++ rest := by
  unfold afterTag? at h
  split at h
  · next more hmore =>
    cases h
    exact ⟨opening ++ ['\n'], by simp [tags], by simp [← Text.append_of_afterPrefix? hmore]⟩
  · next more hmore =>
    cases h
    exact ⟨opening ++ ['\r', '\n'], by simp [tags], by simp [← Text.append_of_afterPrefix? hmore]⟩
  · cases h

theorem exists_afterPrefix?_of_prefix {start text : List Char} (h : start <+: text) :
    ∃ rest, Text.afterPrefix? start text = some rest := by
  obtain ⟨rest, rfl⟩ := h
  exact ⟨rest, Text.afterPrefix?_append start rest⟩

theorem first_of_untilFence? {text body rest : List Char}
    (h : untilFence? text = some (body, rest)) :
    text = body ++ (fence ++ rest) ∧ First [fence] body fence rest := by
  induction text generalizing body rest with
  | nil => cases h
  | cons c text ih =>
      unfold untilFence? at h
      split at h
      · next rest' hrest' =>
        cases h
        exact ⟨(Text.append_of_afterPrefix? hrest').symm, first_nil (by simp)⟩
      · next hnone =>
        obtain ⟨⟨body', rest'⟩, hfound, heq⟩ := Option.map_eq_some_iff.1 h
        cases heq
        obtain ⟨rfl, hfirst⟩ := ih hfound
        refine ⟨rfl, hfirst.cons fun mark hmark hprefix => ?_⟩
        obtain rfl := List.mem_singleton.1 hmark
        obtain ⟨_, hsome⟩ := exists_afterPrefix?_of_prefix hprefix
        cases hnone.symm.trans hsome

theorem untilFence?_eq_none {text : List Char} (h : untilFence? text = none) :
    ¬fence <:+: text := by
  induction text with
  | nil => exact fun hinfix => absurd (List.eq_nil_of_infix_nil hinfix) (by decide)
  | cons c text ih =>
      unfold untilFence? at h
      split at h
      · cases h
      · next hnone =>
        intro hinfix
        rcases List.infix_cons_iff.1 hinfix with hprefix | hinfix
        · obtain ⟨_, hsome⟩ := exists_afterPrefix?_of_prefix hprefix
          cases hnone.symm.trans hsome
        · exact ih (Option.map_eq_none_iff.1 h) hinfix

/-- A body is free of fences. -/
theorem First.not_infix {body rest : List Char} (h : First [fence] body fence rest) :
    ¬fence <:+: body := by
  rintro ⟨front, back, rfl⟩
  have hle := h.le front fence (back ++ (fence ++ rest)) (by simp) (by simp)
  simp only [List.length_append] at hle
  have hfence : 0 < fence.length := by decide
  omega

/-! ## Segments -/

/-- A part of a document with one block: what stands in front of the opening tag, the tag, and what
stands between the tag and the fence. -/
structure Segment where
  before : List Char
  tag : List Char
  body : List Char

/-- A segment as written, with the fence at its end. -/
def Segment.text (segment : Segment) : List Char :=
  segment.before ++ (segment.tag ++ (segment.body ++ fence))

/-- `Splits text segments last`: the text is made up of the segments and `last`, where every tag
and every fence is the first that can be. -/
inductive Splits : List Char → List Segment → List Char → Prop where
  /-- No opening tag has a fence behind it. -/
  | last {text : List Char} :
      (∀ front tag back, tag ∈ tags → text = front ++ (tag ++ back) → ¬fence <:+: back) →
      Splits text [] text
  /-- The first opening tag, and the first fence behind it. What follows is split in turn. -/
  | block {before tag body rest last : List Char} {segments : List Segment} :
      First tags before tag (body ++ (fence ++ rest)) → First [fence] body fence rest →
      Splits rest segments last →
      Splits (before ++ (tag ++ (body ++ (fence ++ rest)))) (⟨before, tag, body⟩ :: segments) last

section Splits

variable {text last : List Char} {segments : List Segment}

theorem Splits.text_eq (h : Splits text segments last) :
    text = segments.flatMap Segment.text ++ last := by
  induction h with
  | last => rfl
  | block _ _ _ ih =>
      conv => lhs; rw [ih]
      simp [Segment.text]

theorem fence_infix_append (body rest : List Char) : fence <:+: body ++ (fence ++ rest) :=
  ⟨body, rest, by rw [List.append_assoc]⟩

theorem Splits.unique (h : Splits text segments last) {segments' : List Segment}
    {last' : List Char} (h' : Splits text segments' last') :
    segments = segments' ∧ last = last' := by
  induction h generalizing segments' last' with
  | last hnone =>
      cases h' with
      | last => exact ⟨rfl, rfl⟩
      | block hfirst' _ _ =>
          exact absurd (fence_infix_append _ _) (hnone _ _ _ hfirst'.mem rfl)
  | @block before tag body rest last segments hfirst hfence _ ih =>
      generalize htext : before ++ (tag ++ (body ++ (fence ++ rest))) = text at h'
      cases h' with
      | last hnone =>
          exact absurd (fence_infix_append _ _) (hnone _ _ _ hfirst.mem htext.symm)
      | block hfirst' hfence' hrest' =>
          obtain ⟨rfl, htail⟩ := List.append_inj htext (hfirst.length_unique hfirst' htext)
          obtain rfl := tags_unique hfirst.mem hfirst'.mem htail
          have hbody := List.append_cancel_left htail
          obtain ⟨rfl, hrest⟩ := List.append_inj hbody (hfence.length_unique hfence' hbody)
          obtain rfl := List.append_cancel_left hrest
          obtain ⟨rfl, rfl⟩ := ih hrest'
          exact ⟨rfl, rfl⟩

theorem Splits.not_infix (h : Splits text segments last) {segment : Segment}
    (hmem : segment ∈ segments) : ¬fence <:+: segment.body := by
  induction h with
  | last => cases hmem
  | block _ hfence _ ih =>
      rcases List.mem_cons.1 hmem with rfl | hmem
      · exact hfence.not_infix
      · exact ih hmem

end Splits

theorem blockHere?_eq_none {text : List Char} (h : blockHere? text = none) {tag back : List Char}
    (htag : tag ∈ tags) (htext : text = tag ++ back) : ¬fence <:+: back := by
  rw [blockHere?, htext, afterTag?_append htag, Option.bind_some] at h
  exact untilFence?_eq_none h

/-- The bodies of the segments are the blocks. The induction is along the search for blocks; a
character that is passed over comes to the front of the first segment. -/
theorem exists_splits (text : List Char) :
    ∃ segments last, Splits text segments last ∧ blocks text = segments.map Segment.body := by
  fun_induction blocks text with
  | case1 text body rest hblock _ ih =>
      obtain ⟨segments, last, hsplits, hblocks⟩ := ih
      obtain ⟨inner, hopens, hfence⟩ := Option.bind_eq_some_iff.1 hblock
      obtain ⟨tag, htag, rfl⟩ := exists_tag_of_afterTag? hopens
      obtain ⟨rfl, hfirst⟩ := first_of_untilFence? hfence
      exact ⟨⟨[], tag, body⟩ :: segments, last, .block (first_nil htag) hfirst hsplits,
        by rw [hblocks]; rfl⟩
  | case2 =>
      refine ⟨[], [], .last fun front tag back htag heq => ?_, rfl⟩
      have hlength := congrArg List.length heq
      have := (length_of_mem_tags htag).1
      simp only [List.length_append, List.length_nil] at hlength
      omega
  | case3 c tail hnone ih =>
      obtain ⟨segments, last, hsplits, hblocks⟩ := ih
      cases hsplits with
      | last hlast =>
          refine ⟨[], c :: tail, .last fun front tag back htag heq => ?_, hblocks⟩
          cases front with
          | nil => exact blockHere?_eq_none hnone htag heq
          | cons d front => exact hlast front tag back htag (List.cons.inj heq).2
      | @block before tag body rest _ segments hfirst hfence hrest =>
          refine ⟨⟨c :: before, tag, body⟩ :: segments, last, .block (hfirst.cons ?_) hfence hrest,
            hblocks⟩
          rintro tag' htag' ⟨back', hback'⟩
          -- a tag that starts at `c` ends in front of the fence behind the tag that follows
          have hlong : (fence ++ rest).length ≤ back'.length := by
            have hlength := congrArg List.length hback'
            have h₁ := (length_of_mem_tags htag').2
            have h₂ := (length_of_mem_tags hfirst.mem).1
            simp only [List.length_append, List.length_cons] at hlength ⊢
            omega
          have hsuffix : fence ++ rest <:+ back' :=
            List.suffix_of_suffix_length_le
              ⟨c :: (before ++ (tag ++ body)), by simp⟩ ⟨tag', hback'⟩ hlong
          exact blockHere?_eq_none hnone htag' hback'.symm
            ((List.prefix_append fence rest).isInfix.trans hsuffix.isInfix)

/-- What is split off a document is its first block. -/
theorem blocks_of_first {before tag body rest : List Char}
    (htag : First tags before tag (body ++ (fence ++ rest)))
    (hfence : First [fence] body fence rest) :
    blocks (before ++ (tag ++ (body ++ (fence ++ rest)))) = body :: blocks rest := by
  obtain ⟨segments, last, hsplits, hblocks⟩ := exists_splits rest
  obtain ⟨segments', last', hsplits', hblocks'⟩ :=
    exists_splits (before ++ (tag ++ (body ++ (fence ++ rest))))
  obtain ⟨rfl, rfl⟩ := hsplits'.unique (.block htag hfence hsplits)
  rw [hblocks', hblocks]
  rfl

/-- A way in which a text falls apart. -/
structure Decomposition (text : List Char) where
  segments : List Segment
  last : List Char
  splits : Splits text segments last

theorem Decomposition.eq {text : List Char} (d e : Decomposition text) : d = e := by
  obtain ⟨segments, last, hd⟩ := d
  obtain ⟨segments', last', he⟩ := e
  obtain ⟨rfl, rfl⟩ := hd.unique he
  rfl

/-! ## Places -/

/-- The blocks of segments that start `offset` characters into a document, each with the number of
characters in front of it. -/
def places (offset : Nat) : List Segment → List (Nat × List Char)
  | [] => []
  | segment :: segments =>
      (offset + segment.before.length + segment.tag.length, segment.body) ::
        places (offset + segment.text.length) segments

theorem length_text (segment : Segment) :
    segment.text.length =
      segment.before.length + segment.tag.length + segment.body.length + fence.length := by
  simp [Segment.text, Nat.add_assoc]

theorem le_of_mem_places {offset : Nat} {segments : List Segment} {place : Nat × List Char}
    (h : place ∈ places offset segments) : offset ≤ place.1 := by
  induction segments generalizing offset with
  | nil => cases h
  | cons segment segments ih =>
      rcases List.mem_cons.1 h with rfl | h
      · exact Nat.le_trans (Nat.le_add_right _ _) (Nat.le_add_right _ _)
      · exact Nat.le_trans (Nat.le_add_right _ _) (ih h)

/-- One block ends in front of where the next one starts. -/
theorem pairwise_places (offset : Nat) (segments : List Segment) :
    (places offset segments).Pairwise fun place next => place.1 + place.2.length < next.1 := by
  induction segments generalizing offset with
  | nil => exact .nil
  | cons segment segments ih =>
      refine .cons (fun next hnext => ?_) (ih _)
      have hle := le_of_mem_places hnext
      have hfence : 0 < fence.length := by decide
      rw [length_text] at hle
      dsimp only
      omega

theorem prefix_of_mem_places {front : List Char} {segments : List Segment} (last : List Char)
    {place : Nat × List Char} (h : place ∈ places front.length segments) :
    place.2 <+: (front ++ (segments.flatMap Segment.text ++ last)).drop place.1 := by
  induction segments generalizing front with
  | nil => cases h
  | cons segment segments ih =>
      rcases List.mem_cons.1 h with rfl | h
      · refine ⟨fence ++ (segments.flatMap Segment.text ++ last), ?_⟩
        have hsplit : front ++ ((segment :: segments).flatMap Segment.text ++ last) =
            front ++ segment.before ++ segment.tag ++
              (segment.body ++ (fence ++ (segments.flatMap Segment.text ++ last))) := by
          simp [Segment.text]
        rw [hsplit, List.drop_left' (by simp [Nat.add_assoc])]
      · rw [← List.length_append] at h
        have hprefix := ih h
        rwa [List.append_assoc, ← List.append_assoc segment.text] at hprefix

theorem map_snd_places (offset : Nat) (segments : List Segment) :
    (places offset segments).map Prod.snd = segments.map Segment.body := by
  induction segments generalizing offset with
  | nil => rfl
  | cons segment segments ih => rw [places, List.map_cons, List.map_cons, ih]

/-- **The request blocks of a document.** A document falls apart in exactly one way. The bodies of
its segments, in order, are the request blocks. So no block holds a fence, and the blocks stand in
the document one behind the other, with something between the end of one and the start of the
next. -/
theorem requestBlocks_of_unique_decomposition (document : String) :
    ∃ d : Decomposition document.toList, (∀ other : Decomposition document.toList, other = d) ∧
      document.toList = d.segments.flatMap Segment.text ++ d.last ∧
      requestBlocks document = d.segments.map (fun segment => String.ofList segment.body) ∧
      (∀ block ∈ requestBlocks document, ¬fence <:+: block.toList) ∧
      ∃ found : List (Nat × List Char),
        found.map (fun place => String.ofList place.2) = requestBlocks document ∧
        (∀ place ∈ found, place.2 <+: document.toList.drop place.1) ∧
        found.Pairwise fun place next => place.1 + place.2.length < next.1 := by
  obtain ⟨segments, last, hsplits, hblocks⟩ := exists_splits document.toList
  have hbodies : requestBlocks document =
      segments.map fun segment => String.ofList segment.body := by
    rw [requestBlocks, hblocks, List.map_map]
    rfl
  refine ⟨⟨segments, last, hsplits⟩, fun other => other.eq _, hsplits.text_eq, hbodies, ?_,
    places 0 segments, ?_, ?_, pairwise_places 0 segments⟩
  · intro block hblock
    rw [hbodies] at hblock
    obtain ⟨segment, hsegment, rfl⟩ := List.mem_map.1 hblock
    rw [String.toList_ofList]
    exact hsplits.not_infix hsegment
  · rw [requestBlocks, hblocks, ← map_snd_places 0, List.map_map]
    rfl
  · intro place hplace
    have hprefix : place.2 <+: ([] ++ (segments.flatMap Segment.text ++ last)).drop place.1 :=
      prefix_of_mem_places last hplace
    rwa [List.nil_append, ← hsplits.text_eq] at hprefix

/-- An empty block, a block with the other kind of tag right behind its fence, and a tag without a
fence behind it. -/
theorem requestBlocks_of_adjacent_fences :
    let document := "```http request\n``````http request\r\nGET http://a\n```\n```http request\n"
    requestBlocks document = ["", "GET http://a\n"] ∧ ¬fence <:+: "GET http://a\n".toList := by
  intro document
  have hblocks : requestBlocks document = ["", "GET http://a\n"] := by decide +kernel
  obtain ⟨_, _, _, _, hfree, _⟩ := requestBlocks_of_unique_decomposition document
  exact ⟨hblocks, hfree "GET http://a\n" (by rw [hblocks]; decide)⟩

end Document

end HttpDoctest
