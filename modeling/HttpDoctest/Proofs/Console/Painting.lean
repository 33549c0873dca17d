import HttpDoctest.Proofs.Console.Appearance

set_option autoImplicit false

/-! # Painted texts

A terminal shows each character in the colour that is active where it is written (`paint`). A
console holds codes back, so a code may be written behind line feeds that were asked for later, but
never behind anything else: but for line feeds, what actions print is painted as if every code was
written at once (`Open.ink_printed`).
-/

namespace HttpDoctest

namespace Ansi

/-- A colour, named by the code that switches to it, or the colour of plain text. -/
abbrev Colour := Option (List Char)

/-- The colour that a code switches to. -/
def colourOf (code : List Char) : Colour :=
  if code = reset then none else some code

/-- The code that a piece is. -/
def Piece.code? : Piece → Option (List Char)
  | visible _ => none
  | code sequence => some sequence

/-- The codes among pieces. -/
def codesOf (pieces : List Piece) : List (List Char) :=
  pieces.filterMap Piece.code?

/-- The characters among pieces, each in the colour that is active where it is written. -/
def paint (colour : Colour) : List Piece → List (Char × Colour)
  | [] => []
  | .visible c :: pieces => (c, colour) :: paint colour pieces
  | .code sequence :: pieces => paint (colourOf sequence) pieces

/-- The colour that is active behind codes. -/
def colourAfter (colour : Colour) (codes : List (List Char)) : Colour :=
  codes.foldl (fun _ code => colourOf code) colour

theorem codesOf_append (pieces pieces' : List Piece) :
    codesOf (pieces ++ pieces') = codesOf pieces ++ codesOf pieces' :=
  List.filterMap_append

theorem paint_append (colour : Colour) (pieces pieces' : List Piece) :
    paint colour (pieces ++ pieces') =
      paint colour pieces ++ paint (colourAfter colour (codesOf pieces)) pieces' := by
  induction pieces generalizing colour with
  | nil => rfl
  | cons piece pieces ih =>
      cases piece with
      | visible c =>
          rw [List.cons_append, paint, paint, ih]
          rfl
      | code sequence =>
          rw [List.cons_append, paint, paint, ih]
          rfl

/-- Characters without codes are in one colour. -/
theorem paint_visible (colour : Colour) (text : List Char) :
    paint colour (text.map .visible) = text.map (·, colour) := by
  induction text with
  | nil => rfl
  | cons c text ih => rw [List.map_cons, paint, ih, List.map_cons]

theorem codesOf_visible (text : List Char) : codesOf (text.map .visible) = [] := by
  simp [codesOf, Piece.code?]

/-- The codes that switch to a colour. -/
def colours : List (List Char) := [red, green, cyan]

theorem scan_colour {colour : List Char} (h : colour ∈ colours) : scan colour = [.code colour] := by
  apply scan_of_afterSequence?_nil
  simp only [colours, List.mem_cons, List.not_mem_nil, or_false] at h
  rcases h with rfl | rfl | rfl <;> decide

theorem strip_colour {colour : List Char} (h : colour ∈ colours) : strip colour = [] := by
  rw [strip_eq_filterMap, scan_colour h]
  rfl

theorem scan_reset : scan reset = [.code reset] :=
  scan_of_afterSequence?_nil (by decide)

theorem colourOf_colour {colour : List Char} (h : colour ∈ colours) :
    colourOf colour = some colour := by
  simp only [colours, List.mem_cons, List.not_mem_nil, or_false] at h
  rcases h with rfl | rfl | rfl <;> decide

/-- A text between the code of a colour and a reset, and line feeds behind it. -/
def between (colour text : List Char) (feeds : Nat) : List Piece :=
  .code colour :: (text.map .visible ++ .code reset :: (List.replicate feeds '\n').map .visible)

theorem codesOf_between (colour text : List Char) (feeds : Nat) :
    codesOf (between colour text feeds) = [colour, reset] := by
  have htail : codesOf (.code reset :: (List.replicate feeds '\n').map .visible) = [reset] :=
    congrArg (reset :: ·) (codesOf_visible _)
  show colour :: codesOf (text.map .visible ++ _) = _
  rw [codesOf_append, codesOf_visible, htail]
  rfl

theorem paint_between {colour : List Char} (h : colour ∈ colours) (text : List Char) (feeds : Nat) :
    paint none (between colour text feeds) =
      text.map (·, some colour) ++ (List.replicate feeds '\n').map (·, none) := by
  rw [between, paint, colourOf_colour h, paint_append, codesOf_visible, paint_visible]
  exact congrArg _ (paint_visible none _)

/-! ### Pairs of codes -/

/-- Whether every code but a reset is a colour, and is followed by a reset. -/
inductive Paired : List (List Char) → Prop where
  | nil : Paired []
  | pair {colour : List Char} {codes : List (List Char)} :
      colour ∈ colours → Paired codes → Paired (colour :: reset :: codes)

theorem Paired.append {codes codes' : List (List Char)} (h : Paired codes) (h' : Paired codes') :
    Paired (codes ++ codes') := by
  induction h with
  | nil => exact h'
  | pair hcolour _ ih => exact .pair hcolour ih

/-- Behind pairs no colour is active. -/
theorem Paired.colourAfter {codes : List (List Char)} (h : Paired codes) :
    colourAfter none codes = none := by
  induction h with
  | nil => rfl
  | pair _ _ ih => exact ih

/-! ### Line feeds -/

/-- Whether a piece is anything but a line feed. -/
def Piece.isInk (piece : Piece) : Bool :=
  piece != .visible '\n'

/-- The pieces that are no line feeds. -/
def ink (pieces : List Piece) : List Piece :=
  pieces.filter Piece.isInk

theorem ink_append (pieces pieces' : List Piece) :
    ink (pieces ++ pieces') = ink pieces ++ ink pieces' :=
  List.filter_append ..

theorem ink_lineFeeds (count : Nat) : ink (scan (List.replicate count '\n')) = [] := by
  have hfeeds : escape ∉ List.replicate count '\n' := fun hmem =>
    absurd (List.eq_of_mem_replicate hmem) (by decide)
  rw [scan_of_not_mem hfeeds, List.map_replicate, ink, List.filter_replicate]
  rfl

theorem codesOf_ink (pieces : List Piece) : codesOf (ink pieces) = codesOf pieces := by
  induction pieces with
  | nil => rfl
  | cons piece pieces ih =>
      cases piece with
      | visible c =>
          unfold ink at ih ⊢
          rw [List.filter_cons]
          split <;> exact ih
      | code sequence => exact congrArg (sequence :: ·) ih

theorem paint_ink (colour : Colour) (pieces : List Piece) :
    paint colour (ink pieces) = (paint colour pieces).filter (·.1 != '\n') := by
  induction pieces generalizing colour with
  | nil => rfl
  | cons piece pieces ih =>
      cases piece with
      | visible c =>
          have hink : (Piece.visible c).isInk = (c != '\n') := by
            by_cases hc : c = '\n'
            · subst hc
              rfl
            · rw [bne_iff_ne.2 hc]
              exact bne_iff_ne.2 fun heq => hc (Piece.visible.inj heq)
          rw [paint, List.filter_cons, ← ih, ink, List.filter_cons, hink]
          split <;> rfl
      | code sequence => exact ih (colourOf sequence)

end Ansi

namespace Console

open Ansi (scan ink)

/-- The pieces that an action writes, or holds to be written. -/
def Action.pieces (color : Bool) : Action → List Ansi.Piece
  | log text => scan (text ++ ['\n'])
  | format sequence => scan (if color then sequence else [])
  | _ => []

/-- But for line feeds an action on an open console writes the codes held and its own pieces, and
holds those of its codes that it does not write. -/
theorem Open.ink_chunks {console : Console} (h : console.Open) (action : Action) :
    ink (scan (action.chunks console).flatten) ++ ink (scan (console.after action).held) =
      ink (scan console.held) ++ ink (action.pieces console.color) := by
  rw [held_after h.takesAll]
  cases action with
  | log text =>
      rw [Action.chunks, Action.held, List.flatten_cons, List.flatten_singleton, h.whole_held,
        Ansi.scan_nil, Ansi.ink_append]
      exact List.append_nil _
  | insertLineFeeds count =>
      rw [Action.chunks, Action.held, List.flatten_singleton, Ansi.ink_lineFeeds]
      exact (List.append_nil _).symm
  | format sequence =>
      rw [Action.chunks, Action.held, List.flatten_nil, Ansi.scan_nil, h.whole_held,
        Ansi.ink_append]
      rfl
  | flush =>
      rw [Action.chunks, Action.held, List.flatten_singleton, Ansi.scan_nil]
      rfl
  | reset =>
      rw [Action.chunks, Action.held, List.flatten_singleton, Ansi.scan_nil]
      rfl

/-- But for line feeds, what actions print and hold at the end is what was held at first and what
each of them writes or holds, in order. -/
theorem Open.ink_printed {console : Console} (h : console.Open) {actions : List Action}
    (hcolours : ∀ action ∈ actions, action.Colours) :
    ink (scan (console.printed actions)) ++ ink (scan (console.afterAll actions).held) =
      ink (scan console.held) ++ ink (actions.flatMap (Action.pieces console.color)) := by
  induction actions generalizing console with
  | nil =>
      rw [printed, Ansi.scan_nil]
      exact (List.append_nil _).symm
  | cons action actions ih =>
      -- what the first action holds is written by the others, so both are taken together
      have hnext : (console.after action).Open := h.after (hcolours action List.mem_cons_self)
      have hrest := ih hnext fun a ha => hcolours a (List.mem_cons_of_mem _ ha)
      rw [color_after h.takesAll] at hrest
      rw [printed, h.whole_chunks action, Ansi.ink_append, List.append_assoc, afterAll_cons, hrest,
        ← List.append_assoc, h.ink_chunks, List.append_assoc, ← Ansi.ink_append,
        List.flatMap_cons]

end Console

end HttpDoctest
