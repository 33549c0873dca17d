import HttpDoctest.Proofs.Text.Trimmed
import HttpDoctest.Template

set_option autoImplicit false

/-! # Placeholders that stand in a text

A placeholder has opening braces at its start only, so no two placeholders of a text share a
character (`Writes.apart`). Around a placeholder a text therefore falls apart into three: its
pieces are those of what is in front, the placeholder, and those of what is behind
(`pieces_append`), and filling it is filling the two others (`interpolate_around_placeholder`).
-/

namespace HttpDoctest.Template

open Text (Blank Trimmed)

/-- Whether `written` is a placeholder for `key`: the key between double braces, with blanks
around it as one likes. A key holds no brace, and is not empty and without blanks at its ends. -/
structure Writes (key : String) (written : List Char) : Prop where
  trimmed : Trimmed key.toList
  noBrace : '{' ∉ key.toList ∧ '}' ∉ key.toList
  text : ∃ before after, Blank before ∧ Blank after ∧
    written = '{' :: '{' :: (before ++ key.toList ++ after ++ ['}', '}'])

/-- Whether a placeholder for `key` stands in `text` right behind `front`. -/
def Stands (key : String) (front text : List Char) : Prop :=
  ∃ written back, Writes key written ∧ text = front ++ written ++ back

/-! ## Reading a placeholder -/

theorem isKeyChar_iff {c : Char} : isKeyChar c = true ↔ c ≠ '{' ∧ c ≠ '}' := by
  simp [isKeyChar]

theorem isKeyChar_of_isBlank {c : Char} (h : Text.isBlank c = true) : isKeyChar c = true := by
  rw [isKeyChar_iff]
  constructor
  · rintro rfl
    exact absurd h (by decide)
  · rintro rfl
    exact absurd h (by decide)

theorem Writes.isKeyChar_of_mem {key : String} {written : List Char} (h : Writes key written)
    {c : Char} (hc : c ∈ key.toList) : isKeyChar c = true := by
  rw [isKeyChar_iff]
  constructor
  · rintro rfl
    exact h.noBrace.1 hc
  · rintro rfl
    exact h.noBrace.2 hc

/-- A placeholder is read as one, whatever follows it. -/
theorem Writes.placeholder?_append {key : String} {written : List Char} (h : Writes key written)
    (rest : List Char) : placeholder? (written ++ rest) = some (key, rest) := by
  obtain ⟨before, after, hbefore, hafter, rfl⟩ := h.text
  obtain ⟨c, tail, hkey, hc⟩ := h.trimmed.first
  have hinner : ∀ d ∈ key.toList ++ after, isKeyChar d = true := by
    intro d hd
    rcases List.mem_append.1 hd with hd | hd
    · exact h.isKeyChar_of_mem hd
    · exact isKeyChar_of_isBlank (hafter d hd)
  have hstart : Text.trimStart (before ++ key.toList ++ after ++ ['}', '}'] ++ rest) =
      key.toList ++ after ++ '}' :: '}' :: rest := by
    simp only [List.append_assoc, Text.trimStart_append hbefore]
    rw [hkey]
    exact Text.trimStart_cons hc _
  have htake : (key.toList ++ after ++ '}' :: '}' :: rest).takeWhile isKeyChar =
      key.toList ++ after := by
    rw [List.takeWhile_append_of_pos hinner, List.takeWhile_cons_of_neg (by decide),
      List.append_nil]
  have hdrop : (key.toList ++ after ++ '}' :: '}' :: rest).dropWhile isKeyChar =
      '}' :: '}' :: rest := by
    rw [List.dropWhile_append_of_pos hinner, List.dropWhile_cons_of_neg (by decide)]
  have hend : Text.trimEnd (key.toList ++ after) = c :: tail := by
    obtain ⟨init, d, hlast, hd⟩ := h.trimmed.last
    rw [Text.trimEnd_append hafter, hlast, Text.trimEnd_append_singleton hd, ← hlast, hkey]
  simp only [List.cons_append, placeholder?, hstart, htake, hdrop, hend]
  rw [← hkey, String.ofList_toList]

/-- What is read as a placeholder starts with two braces and ends with two. -/
theorem exists_run_of_placeholder? {text rest : List Char} {key : String}
    (h : placeholder? text = some (key, rest)) :
    ∃ tail c name, text = '{' :: '{' :: tail ∧ key = String.ofList (c :: name) ∧
      Text.trimEnd ((Text.trimStart tail).takeWhile isKeyChar) = c :: name ∧
      (Text.trimStart tail).dropWhile isKeyChar = '}' :: '}' :: rest := by
  unfold placeholder? at h
  split at h
  · next tail =>
    dsimp only at h
    split at h
    · next c name rest hname hclose =>
      cases h
      exact ⟨tail, c, name, rfl, rfl, hname, hclose⟩
    · cases h
  · cases h

/-- What is read as a placeholder is one. -/
theorem exists_writes {text rest : List Char} {key : String}
    (h : placeholder? text = some (key, rest)) :
    ∃ written, Writes key written ∧ text = written ++ rest := by
  obtain ⟨tail, c, name, rfl, rfl, hname, hclose⟩ := exists_run_of_placeholder? h
  obtain ⟨before, hbefore, htail⟩ := Text.exists_blank_trimStart tail
  obtain ⟨after, hafter, hrun⟩ :=
    Text.exists_trimEnd_blank ((Text.trimStart tail).takeWhile isKeyChar)
  rw [hname] at hrun
  have hsplit : Text.trimStart tail = c :: name ++ after ++ '}' :: '}' :: rest := by
    rw [← hrun, ← hclose, List.takeWhile_append_dropWhile]
  have hchars : ∀ d ∈ c :: name, d ≠ '{' ∧ d ≠ '}' := by
    intro d hd
    have hd' : d ∈ (Text.trimStart tail).takeWhile isKeyChar :=
      hrun ▸ List.mem_append_left after hd
    exact isKeyChar_iff.1 (List.mem_takeWhile_imp hd')
  have htrimmed : Trimmed (c :: name) := by
    have hc : Text.isBlank c = false := Text.isBlank_of_trimStart hsplit
    rw [← hname, hrun]
    exact Text.trimmed_trimEnd hc (name ++ after)
  refine ⟨'{' :: '{' :: (before ++ (c :: name) ++ after ++ ['}', '}']), ?_, ?_⟩
  · refine ⟨?_, ?_, before, after, hbefore, hafter, ?_⟩
    · rwa [String.toList_ofList]
    · rw [String.toList_ofList]
      exact ⟨fun hmem => (hchars _ hmem).1 rfl, fun hmem => (hchars _ hmem).2 rfl⟩
    · rw [String.toList_ofList]
  · rw [htail, hsplit]
    simp

/-- What starts no placeholder of a text starts none of its front. -/
theorem placeholder?_eq_none_of_append {text more : List Char}
    (h : placeholder? (text ++ more) = none) : placeholder? text = none := by
  cases hsome : placeholder? text with
  | none => rfl
  | some found =>
      obtain ⟨written, hwritten, rfl⟩ := exists_writes hsome
      rw [List.append_assoc, hwritten.placeholder?_append] at h
      cases h

/-! ## Two placeholders -/

theorem Writes.opening {key : String} {written : List Char} (h : Writes key written) :
    ∃ inner, written = '{' :: '{' :: inner ∧ inner ≠ [] ∧ '{' ∉ inner := by
  obtain ⟨before, after, hbefore, hafter, rfl⟩ := h.text
  have hblank (blanks : List Char) (hblanks : Blank blanks) : '{' ∉ blanks := by
    intro hmem
    exact absurd (hblanks '{' hmem) (by decide)
  refine ⟨_, rfl, by simp, ?_⟩
  simp [hblank before hbefore, hblank after hafter, h.noBrace.1]

/-- A placeholder that starts in front of another one ends in front of it. -/
theorem Writes.apart {key key' : String} {written written' : List Char} (h : Writes key written)
    (h' : Writes key' written') {front back rest : List Char} (hfront : front ≠ [])
    (heq : front ++ written ++ back = written' ++ rest) :
    ∃ between, front = written' ++ between := by
  obtain ⟨inner, rfl, -, -⟩ := h.opening
  obtain ⟨inner', rfl, hinner', hbrace⟩ := h'.opening
  rw [List.append_assoc, List.append_eq_append_iff] at heq
  rcases heq with ⟨overlap, hwritten', hrest⟩ | ⟨between, rfl, -⟩
  · -- a brace that opens the one behind would stand among the characters of the one in front
    cases overlap with
    | nil => exact ⟨[], by rw [hwritten', List.append_nil, List.append_nil]⟩
    | cons o overlap =>
        simp only [List.cons_append, List.cons.injEq] at hrest
        obtain ⟨rfl, hrest⟩ := hrest
        rcases front with _ | ⟨c, _ | ⟨d, front⟩⟩
        · exact absurd rfl hfront
        · simp only [List.cons_append, List.nil_append, List.cons.injEq] at hwritten'
          obtain ⟨-, -, rfl⟩ := hwritten'
          cases inner' with
          | nil => exact absurd rfl hinner'
          | cons p inner' =>
              simp only [List.cons_append, List.cons.injEq] at hrest
              exact absurd (hrest.1 ▸ List.mem_cons_self) hbrace
        · simp only [List.cons_append, List.cons.injEq] at hwritten'
          obtain ⟨-, -, rfl⟩ := hwritten'
          exact absurd (List.mem_append_right front List.mem_cons_self) hbrace
  · exact ⟨between, rfl⟩

/-! ## The pieces of a text -/

/-- Around a placeholder a text falls apart. -/
theorem pieces_append {key : String} {written : List Char} (h : Writes key written)
    (front back : List Char) :
    pieces (front ++ written ++ back) = pieces front ++ .placeholder key :: pieces back := by
  fun_induction pieces front with
  | case1 front other rest hother _ ih =>
      obtain ⟨written', h', rfl⟩ := exists_writes hother
      rw [List.append_assoc, List.append_assoc, ← List.append_assoc rest,
        pieces_of_placeholder (h'.placeholder?_append _), ih, List.cons_append]
  | case2 =>
      rw [List.nil_append, pieces_of_placeholder (h.placeholder?_append back), List.nil_append]
  | case3 c tail hnone ih =>
      -- a placeholder that starts at `c` would stand in what is in front
      have hliteral : placeholder? (c :: (tail ++ written ++ back)) = none := by
        cases hsome : placeholder? (c :: (tail ++ written ++ back)) with
        | none => rfl
        | some found =>
            obtain ⟨written', h', heq⟩ := exists_writes hsome
            have hfront : c :: tail ≠ [] := List.cons_ne_nil c tail
            obtain ⟨between, hfront⟩ := h.apart h' hfront heq
            rw [hfront, h'.placeholder?_append between] at hnone
            cases hnone
      rw [List.cons_append, List.cons_append, pieces_cons_of_none hliteral, ih, List.cons_append]

/-- A placeholder among the pieces of a text stands in the text, behind what the pieces in front
of it make up. -/
theorem exists_stands_of_pieces_eq {text : List Char} {key : String} {front back : List Piece}
    (h : pieces text = front ++ .placeholder key :: back) :
    ∃ before, Stands key before text ∧ pieces before = front := by
  fun_induction pieces text generalizing front with
  | case1 text other rest hother _ ih =>
      obtain ⟨written, hwritten, rfl⟩ := exists_writes hother
      cases front with
      | nil =>
          obtain ⟨hkey, -⟩ := List.cons.inj h
          cases hkey
          exact ⟨[], ⟨written, rest, hwritten, rfl⟩, pieces_nil⟩
      | cons piece front =>
          obtain ⟨rfl, hrest⟩ := List.cons.inj h
          obtain ⟨before, ⟨written', back, hwritten', rfl⟩, hbefore⟩ := ih hrest
          refine ⟨written ++ before, ⟨written', back, hwritten', by simp⟩, ?_⟩
          rw [pieces_of_placeholder (hwritten.placeholder?_append before), hbefore]
  | case2 => cases front <;> cases h
  | case3 c tail hnone ih =>
      cases front with
      | nil => cases h
      | cons piece front =>
          obtain ⟨rfl, hrest⟩ := List.cons.inj h
          obtain ⟨before, ⟨written, back, hwritten, rfl⟩, hbefore⟩ := ih hrest
          refine ⟨c :: before, ⟨written, back, hwritten, rfl⟩, ?_⟩
          have hliteral : placeholder? (c :: before) = none := by
            rw [List.append_assoc, ← List.cons_append] at hnone
            exact placeholder?_eq_none_of_append hnone
          rw [pieces_cons_of_none hliteral, hbefore]

theorem placeholder_mem_pieces_iff {text : List Char} {key : String} :
    .placeholder key ∈ pieces text ↔ ∃ front, Stands key front text := by
  constructor
  · intro hmem
    obtain ⟨front, back, h⟩ := List.append_of_mem hmem
    obtain ⟨before, hstands, -⟩ := exists_stands_of_pieces_eq h
    exact ⟨before, hstands⟩
  · rintro ⟨front, written, back, hwritten, rfl⟩
    rw [pieces_append hwritten]
    exact List.mem_append_right _ List.mem_cons_self

/-- The texts without placeholders are those that fall into their characters. -/
theorem pieces_eq_literals_iff {text : List Char} :
    pieces text = text.map .literal ↔ ∀ key front, ¬Stands key front text := by
  constructor
  · intro h key front hstands
    have hmem := placeholder_mem_pieces_iff.2 ⟨front, hstands⟩
    rw [h] at hmem
    obtain ⟨c, -, hc⟩ := List.mem_map.1 hmem
    cases hc
  · intro h
    fun_induction pieces text with
    | case1 text key rest hkey _ _ =>
        obtain ⟨written, hwritten, rfl⟩ := exists_writes hkey
        exact absurd ⟨written, rest, hwritten, rfl⟩ (h key [])
    | case2 => rfl
    | case3 c tail _ ih =>
        rw [List.map_cons, ih]
        rintro key front ⟨written, back, hwritten, rfl⟩
        exact h key (c :: front) ⟨written, back, hwritten, rfl⟩

/-! ## Filling -/

/-- What a placeholder for `key` becomes: the text of the value that is stored, or the text of
`undefined`. -/
def shown (store : Store) (key : String) : String :=
  match store.get? key with
  | some value => value.text
  | none => "undefined"

theorem fill_placeholder (store : Store) (key : String) :
    (Piece.placeholder key).fill store = (shown store key).toList := by
  rw [Piece.fill, shown]
  cases store.get? key <;> rfl

theorem fill_append {key : String} {written : List Char} (h : Writes key written) (store : Store)
    (front back : List Char) :
    fill store (front ++ written ++ back) =
      fill store front ++ (shown store key).toList ++ fill store back := by
  rw [fill, pieces_append h, List.flatMap_append, List.flatMap_cons, fill_placeholder,
    ← List.append_assoc]
  rfl

theorem fill_of_no_placeholder {text : List Char} (h : ∀ key front, ¬Stands key front text)
    (store : Store) : fill store text = text := by
  rw [fill, pieces_eq_literals_iff.2 h, List.flatMap_map]
  exact List.flatMap_singleton' text

theorem interpolate_lenient (store : Store) (text : String) :
    interpolate .lenient store text = .ok (String.ofList (fill store text.toList)) := rfl

/-- A placeholder alone becomes the text of its value. -/
theorem interpolate_of_writes {key written : String} (h : Writes key written.toList)
    {store : Store} {value : Value} (hvalue : store.get? key = some value) (mode : MissingValue) :
    interpolate mode store written = .ok value.text := by
  have hpieces : pieces written.toList = [.placeholder key] := by
    have hsplit := pieces_append h [] []
    rwa [List.nil_append, List.append_nil, pieces_nil, List.nil_append] at hsplit
  have hmissing : missing? store written.toList = none := by
    simp [missing?, hpieces, Piece.missing?, Table.contains, hvalue]
  have hfill : fill store written.toList = value.text.toList := by
    simp [fill, hpieces, Piece.fill, hvalue]
  unfold interpolate
  rw [hmissing, hfill, String.ofList_toList]
  cases mode <;> rfl

/-- **Filling is done in one pass.** A text without placeholders stays as it is. A text in which a
placeholder stands becomes what its front becomes, the value of the placeholder as it is, and what
its back becomes, whatever braces stand in the front, in the value and in the back. -/
theorem interpolate_in_one_pass (store : Store) :
    (∀ text : String, (∀ key front, ¬Stands key front text.toList) →
      interpolate .lenient store text = .ok text) ∧
    ∀ (front written back key : String), Writes key written.toList →
      ∃ front' back', interpolate .lenient store front = .ok front' ∧
        interpolate .lenient store back = .ok back' ∧
        interpolate .lenient store (front ++ written ++ back) =
          .ok (front' ++ shown store key ++ back') := by
  constructor
  · intro text h
    rw [interpolate_lenient, fill_of_no_placeholder h, String.ofList_toList]
  · intro front written back key h
    refine ⟨_, _, interpolate_lenient store front, interpolate_lenient store back, ?_⟩
    rw [interpolate_lenient, String.toList_append, String.toList_append, fill_append h,
      String.ofList_append, String.ofList_append, String.ofList_toList]

/-- Half a placeholder on either side of a placeholder, the value of which is a placeholder
again, and blanks between braces, which are no placeholder. -/
theorem interpolate_among_stray_braces :
    let store : Store := .ofList [("id", .string "{{id}}")]
    let front := "\x7b\x7bid\x7d\x7b"
    let written := "\x7b\x7b\t id\u00a0\x7d\x7d"
    let back := "\x7d\x7d\x7b\x7b \x7d\x7d"
    (∀ key before, ¬Stands key before front.toList) ∧
      (∀ key before, ¬Stands key before back.toList) ∧
      Writes "id" written.toList ∧
      interpolate .lenient store (front ++ written ++ back) = .ok (front ++ "{{id}}" ++ back) := by
  intro store front written back
  -- braces that make no placeholder fall into characters
  have hfront : ∀ key before, ¬Stands key before front.toList :=
    pieces_eq_literals_iff.1 (by decide +kernel)
  have hback : ∀ key before, ¬Stands key before back.toList :=
    pieces_eq_literals_iff.1 (by decide +kernel)
  have hwritten : Writes "id" written.toList :=
    ⟨by decide, by decide, ['\t', ' '], ['\u00a0'], by decide, by decide, by decide⟩
  have hpass := interpolate_in_one_pass store
  obtain ⟨front', back', hfront', hback', hall⟩ := hpass.2 front written back "id" hwritten
  cases (hpass.1 front hfront).symm.trans hfront'
  cases (hpass.1 back hback).symm.trans hback'
  exact ⟨hfront, hback, hwritten, hall⟩

end HttpDoctest.Template
