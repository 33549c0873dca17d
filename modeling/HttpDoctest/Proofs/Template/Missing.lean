import HttpDoctest.Proofs.Template.Placeholders
import HttpDoctest.Runner

set_option autoImplicit false

/-! # Placeholders without a value

A lenient pass never fails. A strict pass over several texts gives what the lenient pass gives if
every placeholder that stands in one of them has a value, and else fails with the key of the first
one that has none: in the first text with such a placeholder, the leftmost (`FirstMissing`). This
is carried from one text over all texts of a block (`resolve_strict_or_missing`).
-/

namespace HttpDoctest

namespace Template

/-- Whether every placeholder that stands in a text has a value. -/
def Stored (store : Store) (text : String) : Prop :=
  ∀ key front, Stands key front text.toList → ∃ value, store.get? key = some value

/-- Whether a text has placeholders without a value, and `key` is the key of the leftmost. -/
def Misses (store : Store) (text key : String) : Prop :=
  store.get? key = none ∧ ∃ front, Stands key front text.toList ∧
    ∀ other before, Stands other before text.toList → store.get? other = none →
      front.length ≤ before.length

/-- Whether `key` is the first key without a value in texts that are gone through in order. -/
def FirstMissing (store : Store) (texts : List String) (key : String) : Prop :=
  ∃ front text back, texts = front ++ text :: back ∧ (∀ other ∈ front, Stored store other) ∧
    Misses store text key

/-! ## One text -/

/-- A placeholder left of another one stands in what is in front of that one. -/
theorem Stands.of_length_lt {key other : String} {front before text : List Char}
    (h : Stands key front text) (hother : Stands other before text)
    (hlt : before.length < front.length) : Stands other before front := by
  obtain ⟨written, back, hwritten, rfl⟩ := h
  obtain ⟨written', back', hwritten', heq⟩ := hother
  rw [List.append_assoc, List.append_assoc, List.append_eq_append_iff] at heq
  rcases heq with ⟨more, rfl, -⟩ | ⟨middle, rfl, hback⟩
  · rw [List.length_append] at hlt
    omega
  · have hmiddle : middle ≠ [] := by
      rintro rfl
      rw [List.append_nil] at hlt
      exact absurd hlt (Nat.lt_irrefl _)
    obtain ⟨between, rfl⟩ :=
      hwritten.apart hwritten' hmiddle ((List.append_assoc ..).trans hback.symm)
    exact ⟨written', between, hwritten', (List.append_assoc ..).symm⟩

/-- At one place of a text stands one placeholder. -/
theorem Stands.key_eq {key other : String} {front before text : List Char}
    (h : Stands key front text) (hother : Stands other before text)
    (hlength : front.length = before.length) : key = other := by
  obtain ⟨written, back, hwritten, rfl⟩ := h
  obtain ⟨written', back', hwritten', heq⟩ := hother
  rw [List.append_assoc, List.append_assoc] at heq
  obtain ⟨-, heq⟩ := List.append_inj heq hlength
  have hread := hwritten.placeholder?_append back
  rw [heq, hwritten'.placeholder?_append] at hread
  cases hread
  rfl

theorem Piece.missing?_eq_some_iff {store : Store} {piece : Piece} {key : String} :
    piece.missing? store = some key ↔ piece = .placeholder key ∧ store.get? key = none := by
  cases piece with
  | literal c => simp [Piece.missing?]
  | placeholder other =>
      rw [Piece.missing?, Table.contains]
      cases hget : store.get? other with
      | none =>
          constructor
          · rintro ⟨⟩
            exact ⟨rfl, hget⟩
          · rintro ⟨⟨⟩, -⟩
            rfl
      | some value =>
          constructor
          · rintro ⟨⟩
          · rintro ⟨⟨⟩, hnone⟩
            cases hget.symm.trans hnone

theorem missing?_eq_none_iff {store : Store} {text : String} :
    missing? store text.toList = none ↔ Stored store text := by
  rw [missing?, List.findSome?_eq_none_iff]
  constructor
  · intro h key front hstands
    cases hget : store.get? key with
    | some value => exact ⟨value, rfl⟩
    | none =>
        have hnone := h _ (placeholder_mem_pieces_iff.2 ⟨front, hstands⟩)
        rw [Piece.missing?_eq_some_iff.2 ⟨rfl, hget⟩] at hnone
        cases hnone
  · intro h piece hpiece
    cases hsome : piece.missing? store with
    | none => rfl
    | some key =>
        obtain ⟨rfl, hget⟩ := Piece.missing?_eq_some_iff.1 hsome
        obtain ⟨front, hstands⟩ := placeholder_mem_pieces_iff.1 hpiece
        obtain ⟨value, hvalue⟩ := h key front hstands
        cases hget.symm.trans hvalue

theorem misses_of_missing? {store : Store} {text key : String}
    (h : missing? store text.toList = some key) : Misses store text key := by
  obtain ⟨pieces, piece, back, hpieces, hpiece, hfront⟩ := List.findSome?_eq_some_iff.1 h
  obtain ⟨rfl, hget⟩ := Piece.missing?_eq_some_iff.1 hpiece
  obtain ⟨front, hstands, rfl⟩ := exists_stands_of_pieces_eq hpieces
  refine ⟨hget, front, hstands, fun other before hother hmissing => ?_⟩
  -- one further left would be among the pieces in front, all of which have values
  by_contra hlt
  have hmem := placeholder_mem_pieces_iff.2
    ⟨before, hstands.of_length_lt hother (Nat.lt_of_not_le hlt)⟩
  have hnone := hfront _ hmem
  rw [Piece.missing?_eq_some_iff.2 ⟨rfl, hmissing⟩] at hnone
  cases hnone

theorem missing?_eq_some_iff {store : Store} {text key : String} :
    missing? store text.toList = some key ↔ Misses store text key := by
  refine ⟨misses_of_missing?, ?_⟩
  rintro ⟨hget, front, hstands, hleftmost⟩
  cases h : missing? store text.toList with
  | none =>
      obtain ⟨value, hvalue⟩ := missing?_eq_none_iff.1 h key front hstands
      cases hget.symm.trans hvalue
  | some other =>
      obtain ⟨hother, before, hbefore, hleftmost'⟩ := misses_of_missing? h
      have hlength := Nat.le_antisymm (hleftmost other before hbefore hother)
        (hleftmost' key front hstands hget)
      rw [hstands.key_eq hbefore hlength]

/-! ## Several texts -/

/-- The first key without a value in texts that are gone through in order. -/
def firstMissing? (store : Store) (texts : List String) : Option String :=
  texts.findSome? (missing? store ·.toList)

theorem firstMissing?_eq_none_iff {store : Store} {texts : List String} :
    firstMissing? store texts = none ↔ ∀ text ∈ texts, Stored store text := by
  simp only [firstMissing?, List.findSome?_eq_none_iff, missing?_eq_none_iff]

theorem firstMissing?_eq_some_iff {store : Store} {texts : List String} {key : String} :
    firstMissing? store texts = some key ↔ FirstMissing store texts key := by
  simp only [firstMissing?, List.findSome?_eq_some_iff, missing?_eq_none_iff, missing?_eq_some_iff,
    FirstMissing]
  constructor
  · rintro ⟨front, text, back, hsplit, hmisses, hfront⟩
    exact ⟨front, text, back, hsplit, hfront, hmisses⟩
  · rintro ⟨front, text, back, hsplit, hfront, hmisses⟩
    exact ⟨front, text, back, hsplit, hmisses, hfront⟩

/-- Whether `fill` fills `texts` in order: leniently it gives a value, and strictly the same value,
unless there is a first missing key, with which it fails. -/
def FillsInOrder {α : Type} (store : Store) (texts : List String)
    (fill : MissingValue → Except UndefinedPlaceholder α) : Prop :=
  ∃ value, fill .lenient = .ok value ∧
    fill .strict = (firstMissing? store texts).elim (.ok value) fun key => .error ⟨key⟩

namespace FillsInOrder

variable {α β : Type} {store : Store}

theorem pure (value : α) : FillsInOrder store [] fun _ => .ok value :=
  ⟨value, rfl, rfl⟩

theorem bind {texts texts' : List String} {first : MissingValue → Except UndefinedPlaceholder α}
    {next : α → MissingValue → Except UndefinedPlaceholder β}
    (hfirst : FillsInOrder store texts first)
    (hnext : ∀ value, FillsInOrder store texts' (next value)) :
    FillsInOrder store (texts ++ texts')
      fun mode => first mode >>= fun value => next value mode := by
  obtain ⟨value, hlenient, hstrict⟩ := hfirst
  obtain ⟨value', hlenient', hstrict'⟩ := hnext value
  refine ⟨value', ?_, ?_⟩
  · dsimp only
    rw [hlenient]
    exact hlenient'
  · have happend : firstMissing? store (texts ++ texts') =
        (firstMissing? store texts).or (firstMissing? store texts') := List.findSome?_append
    dsimp only
    rw [hstrict, happend]
    cases firstMissing? store texts with
    | none => exact hstrict'
    | some key => rfl

end FillsInOrder

variable (store : Store)

theorem interpolate_fillsInOrder (text : String) :
    FillsInOrder store [text] fun mode => interpolate mode store text := by
  refine ⟨_, interpolate_lenient store text, ?_⟩
  rw [firstMissing?, List.findSome?_singleton]
  unfold interpolate
  cases missing? store text.toList <;> rfl

theorem interpolate?_fillsInOrder (text : Option String) :
    FillsInOrder store text.toList fun mode => interpolate? mode store text := by
  cases text with
  | none => exact .pure none
  | some text => exact (interpolate_fillsInOrder store text).bind fun value => .pure (some value)

/-- The names and values of header entries, each name in front of its value. -/
def namesAndValues (entries : List (String × String)) : List String :=
  entries.flatMap fun entry => [entry.1, entry.2]

theorem interpolateEntries_fillsInOrder (entries : List (String × String)) :
    FillsInOrder store (namesAndValues entries)
      fun mode => interpolateEntries mode store entries := by
  induction entries with
  | nil => exact .pure []
  | cons entry entries ih =>
      have hrest (name value : String) : FillsInOrder store (namesAndValues entries ++ []) _ :=
        ih.bind fun filled => .pure ((name, value) :: filled)
      rw [List.append_nil] at hrest
      exact (interpolate_fillsInOrder store entry.1).bind fun name =>
        (interpolate_fillsInOrder store entry.2).bind (hrest name)

theorem interpolateHeaders_fillsInOrder (headers : Headers) :
    FillsInOrder store (namesAndValues headers.entries)
      fun mode => interpolateHeaders mode store headers := by
  have h := (interpolateEntries_fillsInOrder store headers.entries).bind
    fun entries => .pure (Table.ofList entries)
  rwa [List.append_nil] at h

end Template

open Template

/-- The texts of a block in which placeholders may stand, in the order in which they are filled. -/
def RequestBlock.templates (block : RequestBlock) : List String :=
  block.url :: (namesAndValues block.headers.entries ++ block.body.toList)

theorem RequestBlock.resolve_fillsInOrder (block : RequestBlock) (store : Store) :
    FillsInOrder store block.templates fun mode => block.resolve mode store := by
  have h := (interpolate_fillsInOrder store block.url).bind fun url =>
    (interpolateHeaders_fillsInOrder store block.headers).bind fun headers =>
      (interpolate?_fillsInOrder store block.body).bind fun body =>
        .pure (⟨block.method, url, headers, body⟩ : Request)
  rwa [List.append_nil] at h

/-- **Strict filling refuses exactly what lacks a value.** Leniently a block can always be filled.
Strictly it is filled if and only if every placeholder of its texts has a value, and then becomes
the same request; and it fails with a key if and only if that is the first key without a value:
in the URL, then in the headers in order, name before value, then in the body, and in each text
the leftmost. -/
theorem resolve_strict_or_missing (block : RequestBlock) (store : Store) :
    ∃ request, block.resolve .lenient store = .ok request ∧
      (∀ filled, block.resolve .strict store = .ok filled ↔
        (∀ text ∈ block.templates, Stored store text) ∧ filled = request) ∧
      ∀ key, block.resolve .strict store = .error ⟨key⟩ ↔
        FirstMissing store block.templates key := by
  obtain ⟨request, hlenient, hstrict⟩ := block.resolve_fillsInOrder store
  dsimp only at hstrict
  refine ⟨request, hlenient, fun filled => ?_, fun key => ?_⟩
  · rw [hstrict, ← firstMissing?_eq_none_iff]
    cases firstMissing? store block.templates with
    | none => simp [eq_comm]
    | some key => simp
  · rw [hstrict, ← firstMissing?_eq_some_iff]
    cases firstMissing? store block.templates <;> simp

end HttpDoctest
