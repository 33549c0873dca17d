import HttpDoctest.Text.Search

set_option autoImplicit false

/-! # Documents

The request blocks of a markdown document. A block stands between an opening tag, which is
`opening` and a line end, and the next `fence`. The search for the next block goes on behind
that fence. An opening tag with no fence after it opens nothing.
-/

namespace HttpDoctest.Document

/-- The mark that ends a block. -/
def fence : List Char := ['\x60', '\x60', '\x60']

/-- The mark that opens a block, up to its line end. -/
def opening : List Char := fence ++ "http request".toList

/-- What follows an opening tag at the front of the text: the mark, then a line feed with or
without a carriage return in front of it. -/
def afterTag? (text : List Char) : Option (List Char) :=
  match Text.afterPrefix? opening text with
  | some ('\n' :: rest) => some rest
  | some ('\r' :: '\n' :: rest) => some rest
  | _ => none

/-- The text up to the first fence, and the text behind that fence. -/
def untilFence? : List Char → Option (List Char × List Char)
  | [] => none
  | c :: text =>
      match Text.afterPrefix? fence (c :: text) with
      | some rest => some ([], rest)
      | none => (untilFence? text).map fun (body, rest) => (c :: body, rest)

/-- The block that opens at the very front of the text, and the text behind its fence. -/
def blockHere? (text : List Char) : Option (List Char × List Char) :=
  (afterTag? text).bind untilFence?

theorem length_of_afterPrefix? {start text rest : List Char}
    (h : Text.afterPrefix? start text = some rest) :
    rest.length + start.length = text.length := by
  rw [← Text.append_of_afterPrefix? h, List.length_append, Nat.add_comm]

theorem length_of_afterTag? {text rest : List Char} (h : afterTag? text = some rest) :
    rest.length < text.length := by
  unfold afterTag? at h
  split at h
  · next r hr =>
      have := length_of_afterPrefix? hr
      simp only [List.length_cons] at this
      cases h; omega
  · next r hr =>
      have := length_of_afterPrefix? hr
      simp only [List.length_cons] at this
      cases h; omega
  · cases h

theorem length_of_untilFence? {text body rest : List Char}
    (h : untilFence? text = some (body, rest)) : rest.length ≤ text.length := by
  induction text generalizing body rest with
  | nil => cases h
  | cons c text ih =>
      unfold untilFence? at h
      split at h
      · next r hr =>
          have := length_of_afterPrefix? hr
          cases h; omega
      · obtain ⟨⟨b, r⟩, hbr, he⟩ := Option.map_eq_some_iff.1 h
        cases he
        have := ih hbr
        simp only [List.length_cons]; omega

theorem length_of_blockHere? {text body rest : List Char}
    (h : blockHere? text = some (body, rest)) : rest.length < text.length := by
  obtain ⟨t, ht, hu⟩ := Option.bind_eq_some_iff.1 h
  exact Nat.lt_of_le_of_lt (length_of_untilFence? hu) (length_of_afterTag? ht)

/-- The contents of all request blocks in document order. -/
def blocks (text : List Char) : List (List Char) :=
  match h : blockHere? text with
  | some (body, rest) =>
      have := length_of_blockHere? h
      body :: blocks rest
  | none => match text with
    | [] => []
    | _ :: tail => blocks tail
termination_by text.length

/-- A character at which no block opens is passed over. -/
theorem blocks_cons_of_none {c : Char} {tail : List Char} (h : blockHere? (c :: tail) = none) :
    blocks (c :: tail) = blocks tail := by
  rw [blocks]
  split
  · next hr => rw [h] at hr; cases hr
  · rfl

/-- The request blocks of a document. -/
def requestBlocks (document : String) : List String :=
  (blocks document.toList).map String.ofList

end HttpDoctest.Document
