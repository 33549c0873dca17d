set_option autoImplicit false

/-! # Greedy splits

A source is split greedily if what is split off its front is the longest text of a class. A text of
the class that is shorter than what is split off then goes on in the source, with a character that
such texts go on with (`Greedy`). Runs of characters are split off greedily, and so are texts made
of greedy ones: an optional text behind a first character (`Greedy.optional`), and two texts one
after the other if the second never starts as the first goes on (`Greedy.append`).
-/

namespace HttpDoctest.Text

variable {C D : List Char → Prop} {B B' : Char → Prop}
  {split split' : List Char → List Char × List Char}

/-- Whether `split` takes the longest text of the class `C` off the front of a source. `B` are the
characters that a shorter text of the class can be followed by. -/
structure Greedy (C : List Char → Prop) (B : Char → Prop)
    (split : List Char → List Char × List Char) : Prop where
  append_eq : ∀ source, (split source).1 ++ (split source).2 = source
  mem : ∀ source, C (split source).1
  longest : ∀ {text : List Char} (rest : List Char), C text →
    split (text ++ rest) = (text, rest) ∨
      text.length < (split (text ++ rest)).1.length ∧ ∃ c behind, rest = c :: behind ∧ B c

namespace Greedy

theorem length_le (h : Greedy C B split) {text source : List Char} (htext : C text)
    (hfront : text <+: source) : text.length ≤ (split source).1.length := by
  obtain ⟨rest, rfl⟩ := hfront
  rcases h.longest rest htext with heq | ⟨hlt, -⟩
  · exact Nat.le_of_eq (congrArg (fun found => found.1.length) heq).symm
  · exact Nat.le_of_lt hlt

/-- A split may be told in another way. -/
theorem congr (h : Greedy C B split) (hsplit : ∀ source, split' source = split source) :
    Greedy C B split' := by
  obtain rfl : split' = split := funext hsplit
  exact h

theorem nothing : Greedy (· = []) (fun _ => False) fun source => ([], source) where
  append_eq _ := rfl
  mem _ := rfl
  longest := by
    rintro _ rest rfl
    exact .inl rfl

/-- The longest run of characters. -/
theorem run (p : Char → Bool) :
    Greedy (fun text => ∀ c ∈ text, p c = true) (fun c => p c = true)
      fun source => (source.takeWhile p, source.dropWhile p) where
  append_eq _ := List.takeWhile_append_dropWhile
  mem source := by
    rw [← List.all_eq_true]
    exact List.all_takeWhile
  longest := by
    intro text rest htext
    rw [List.takeWhile_append_of_pos htext, List.dropWhile_append_of_pos htext]
    cases rest with
    | nil => exact .inl (by simp)
    | cons c rest =>
        by_cases hc : p c = true
        · refine .inr ⟨?_, c, rest, rfl, hc⟩
          rw [List.takeWhile_cons_of_pos hc, List.length_append, List.length_cons]
          omega
        · rw [List.takeWhile_cons_of_neg hc, List.dropWhile_cons_of_neg hc, List.append_nil]
          exact .inl rfl

end Greedy

/-! ## Texts behind a first character -/

/-- Nothing, or a text of the class `C` behind one of the characters `L`. -/
inductive Optionally (L : Char → Prop) (C : List Char → Prop) : List Char → Prop
  | absent : Optionally L C []
  | present {c : Char} {text : List Char} : L c → C text → Optionally L C (c :: text)

section

variable (L : Char → Prop) [DecidablePred L]

/-- Splits behind the first character if it is one of `L`. -/
def splitBehind (split : List Char → List Char × List Char) :
    List Char → List Char × List Char
  | [] => ([], [])
  | c :: source => if L c then (c :: (split source).1, (split source).2) else ([], c :: source)

theorem Greedy.optional (h : Greedy C B split) :
    Greedy (Optionally L C) (fun c => L c ∨ B c) (splitBehind L split) where
  append_eq source := by
    cases source with
    | nil => rfl
    | cons c source =>
        rw [splitBehind]
        split
        · exact congrArg (c :: ·) (h.append_eq source)
        · rfl
  mem source := by
    cases source with
    | nil => exact .absent
    | cons c source =>
        rw [splitBehind]
        split
        · next hc => exact .present hc (h.mem source)
        · exact .absent
  longest := by
    intro text rest htext
    cases htext with
    | absent =>
        cases rest with
        | nil => exact .inl rfl
        | cons c rest =>
            rw [List.nil_append, splitBehind]
            split
            · next hc => exact .inr ⟨Nat.zero_lt_succ _, c, rest, rfl, .inl hc⟩
            · exact .inl rfl
    | @present c text hc htext =>
        rw [List.cons_append, splitBehind, if_pos hc]
        rcases h.longest rest htext with heq | ⟨hlt, d, behind, hrest, hd⟩
        · rw [heq]
          exact .inl rfl
        · exact .inr ⟨Nat.succ_lt_succ hlt, d, behind, hrest, .inr hd⟩

end

/-! ## Texts one after the other -/

/-- A text of the class `C` with one of the class `D` behind it. -/
def Joined (C D : List Char → Prop) (text : List Char) : Prop :=
  ∃ first second, text = first ++ second ∧ C first ∧ D second

/-- Splits off two texts one after the other. -/
def splitTwice (split split' : List Char → List Char × List Char) (source : List Char) :
    List Char × List Char :=
  ((split source).1 ++ (split' (split source).2).1, (split' (split source).2).2)

theorem Greedy.append (h : Greedy C B split) (h' : Greedy D B' split')
    (hstart : ∀ c text, D (c :: text) → ¬B c) :
    Greedy (Joined C D) (fun c => B c ∨ B' c) (splitTwice split split') where
  append_eq source := by
    rw [splitTwice, List.append_assoc, h'.append_eq, h.append_eq]
  mem source := ⟨_, _, rfl, h.mem source, h'.mem _⟩
  longest := by
    rintro _ rest ⟨first, second, rfl, hfirst, hsecond⟩
    rw [List.append_assoc, splitTwice]
    rcases h.longest (second ++ rest) hfirst with heq | ⟨hlt, c, behind, hrest, hc⟩
    · rw [heq]
      dsimp only
      rcases h'.longest rest hsecond with heq' | ⟨hlt', c, behind, hrest, hc⟩
      · rw [heq']
        exact .inl rfl
      · refine .inr ⟨?_, c, behind, hrest, .inr hc⟩
        rw [List.length_append, List.length_append]
        omega
    · -- the first text goes on, and so there is no second one
      cases second with
      | nil =>
          refine .inr ⟨?_, c, behind, hrest, .inl hc⟩
          rw [List.append_nil, List.length_append]
          omega
      | cons d second =>
          obtain ⟨rfl, -⟩ := List.cons.inj hrest
          exact absurd hc (hstart d second hsecond)

end HttpDoctest.Text
