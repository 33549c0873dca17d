import HttpDoctest.Expression.Lexeme
import HttpDoctest.Proofs.Text.Greedy

set_option autoImplicit false

/-! # The forms of lexemes

What lexemes look like, told without a scanner: identifiers, numerals, string literals and symbols
(`Form`), and which token a text of one of these forms stands for (`Denotes`). The first character
tells the form (`Form.by_first`). A numeral has no value exactly if its exponent lacks digits
(`Numeral.ofText?_text`).
-/

namespace HttpDoctest

/-! ## Identifiers -/

/-- A letter of ASCII, an underscore or a dollar sign. -/
def IsLetter (c : Char) : Prop :=
  c.isAlpha = true ∨ c = '_' ∨ c = '$'

/-- A letter, and then letters and digits. -/
def IsIdentifier (text : List Char) : Prop :=
  ∃ c behind, text = c :: behind ∧ IsLetter c ∧ ∀ d ∈ behind, IsLetter d ∨ d.isDigit = true

theorem isIdentifierStart_iff {c : Char} : Lexeme.isIdentifierStart c = true ↔ IsLetter c := by
  rw [Lexeme.isIdentifierStart, Bool.or_eq_true, Bool.or_eq_true, beq_iff_eq, beq_iff_eq, or_assoc]
  rfl

theorem isIdentifierPart_iff {c : Char} :
    Lexeme.isIdentifierPart c = true ↔ IsLetter c ∨ c.isDigit = true := by
  rw [Lexeme.isIdentifierPart, Bool.or_eq_true, isIdentifierStart_iff]

/-! ## Numerals -/

/-- A text of digits. -/
def Digits (text : List Char) : Prop :=
  ∀ c ∈ text, c.isDigit = true

/-- A mark, a sign if there is one, and digits, which may be none. -/
structure Exponent where
  mark : Char
  sign : Option Char
  digits : List Char
  mark_eq : mark = 'e' ∨ mark = 'E'
  sign_eq : ∀ c ∈ sign, c = '+' ∨ c = '-'
  digits_digits : Digits digits

/-- The characters of an exponent. -/
def Exponent.text (exponent : Exponent) : List Char :=
  exponent.mark :: (exponent.sign.toList ++ exponent.digits)

/-- The power of ten that an exponent stands for. -/
def Exponent.value (exponent : Exponent) : Int :=
  if exponent.sign = some '-' then -(Number.ofDigits exponent.digits : Int)
  else Number.ofDigits exponent.digits

/-- Digits, then perhaps a point and digits, which may be none, then perhaps an exponent. -/
structure Numeral where
  whole : List Char
  places : Option (List Char)
  exponent : Option Exponent
  whole_ne_nil : whole ≠ []
  whole_digits : Digits whole
  places_digits : ∀ ds ∈ places, Digits ds

namespace Numeral

/-- The places of a numeral with their point. -/
def placesText (numeral : Numeral) : List Char :=
  numeral.places.elim [] ('.' :: ·)

/-- The characters of the exponent of a numeral. -/
def exponentText (numeral : Numeral) : List Char :=
  numeral.exponent.elim [] Exponent.text

/-- The characters of a numeral. -/
def text (numeral : Numeral) : List Char :=
  numeral.whole ++ (numeral.placesText ++ numeral.exponentText)

/-- A numeral with an exponent that has no digits. -/
def Bare (numeral : Numeral) : Prop :=
  ∃ exponent, numeral.exponent = some exponent ∧ exponent.digits = []

/-- The double closest to what a numeral says. -/
def value (numeral : Numeral) : Float :=
  let places := numeral.places.getD []
  Number.ofDecimal (Number.ofDigits (numeral.whole ++ places))
    (numeral.exponent.elim 0 Exponent.value - places.length)

end Numeral

/-! ## String literals -/

/-- The characters that a string literal may open with. -/
def IsQuote (c : Char) : Prop :=
  c = '"' ∨ c = '\x27'

/-- The character that stands behind a backslash, and the one that the two stand for. Behind a
backslash every character stands for itself but four. -/
inductive Escape : (written meant : Char) → Prop
  | lineFeed : Escape 'n' '\n'
  | carriageReturn : Escape 'r' '\r'
  | tab : Escape 't' '\t'
  | null : Escape '0' '\x00'
  | itself {c : Char} : c ∉ ['n', 'r', 't', '0'] → Escape c c

/-- What stands behind an opening quote, up to and with the first `quote` that no backslash
escapes, and the characters that it stands for. -/
inductive Quoted (quote : Char) : (value inner : List Char) → Prop
  | close : Quoted quote [] [quote]
  | escaped {written meant : Char} {value inner : List Char} :
      Escape written meant → Quoted quote value inner →
        Quoted quote (meant :: value) ('\\' :: written :: inner)
  | plain {c : Char} {value inner : List Char} :
      c ≠ quote → c ≠ '\\' → Quoted quote value inner → Quoted quote (c :: value) (c :: inner)

/-! ## All forms -/

/-- The texts that are lexemes. -/
inductive Form : List Char → Prop
  | identifier {text : List Char} : IsIdentifier text → Form text
  | numeral (numeral : Numeral) : Form numeral.text
  | literal {quote : Char} {value inner : List Char} :
      IsQuote quote → Quoted quote value inner → Form (quote :: inner)
  | symbol (sign : Symbol) : Form sign.text.toList

/-- The texts that stand for a kind of token. -/
inductive Denotes : TokenKind → List Char → Prop
  | identifier {text : List Char} :
      IsIdentifier text → Denotes (.identifier (String.ofList text)) text
  | number {numeral : Numeral} : ¬numeral.Bare → Denotes (.number numeral.value) numeral.text
  | string {quote : Char} {value inner : List Char} :
      IsQuote quote → Quoted quote value inner →
        Denotes (.string (String.ofList value)) (quote :: inner)
  | symbol (sign : Symbol) : Denotes (.symbol sign) sign.text.toList

theorem Denotes.form {kind : TokenKind} {text : List Char} (h : Denotes kind text) : Form text := by
  cases h with
  | identifier h => exact .identifier h
  | number => exact .numeral _
  | string hquote h => exact .literal hquote h
  | symbol sign => exact .symbol sign

/-! ## First characters -/

/-- What holds of the ten digits holds of every digit. -/
theorem of_isDigit {p : Char → Bool} (hp : ∀ n < 10, p (Char.ofNat (48 + n)) = true) {c : Char}
    (h : c.isDigit = true) : p c = true := by
  rw [Char.isDigit, Bool.and_eq_true, decide_eq_true_eq, decide_eq_true_eq] at h
  have hlow : 48 ≤ c.toNat := h.1
  have hhigh : c.toNat ≤ 57 := h.2
  have hc : Char.ofNat (48 + (c.toNat - 48)) = c := by
    rw [Nat.add_sub_cancel' hlow, Char.ofNat_toNat]
  have hdigit := hp (c.toNat - 48) (by omega)
  rwa [hc] at hdigit

theorem isIdentifierStart_of_isDigit {c : Char} (h : c.isDigit = true) :
    Lexeme.isIdentifierStart c = false := by
  have hnone : (!Lexeme.isIdentifierStart c) = true :=
    of_isDigit (p := fun c => !Lexeme.isIdentifierStart c) (by decide) h
  rwa [Bool.not_eq_true'] at hnone

theorem ne_of_isDigit {c d : Char} (h : c.isDigit = true) (hd : d.isDigit = false) : c ≠ d := by
  rintro rfl
  cases h.symm.trans hd

theorem not_isQuote_of_isDigit {c : Char} (h : c.isDigit = true) : ¬IsQuote c := by
  rintro (rfl | rfl)
  · cases h
  · cases h

theorem not_isQuote_of_isIdentifierStart {c : Char} (h : Lexeme.isIdentifierStart c = true) :
    ¬IsQuote c := by
  rintro (rfl | rfl)
  · cases h
  · cases h

/-- No symbol starts as a lexeme of another form does. -/
theorem Symbol.first_text {sign : Symbol} {c : Char} {behind : List Char}
    (h : sign.text.toList = c :: behind) :
    c.isDigit = false ∧ ¬IsQuote c ∧ Lexeme.isIdentifierStart c = false := by
  have hfirst : (sign.text.toList.head?.all fun d =>
      !d.isDigit && !(d == '"' || d == '\x27') && !Lexeme.isIdentifierStart d) = true := by
    cases sign <;> decide
  rw [h, List.head?_cons, Option.all_some] at hfirst
  simp only [Bool.and_eq_true, Bool.not_eq_true', Bool.or_eq_false_iff, beq_eq_false_iff_ne]
    at hfirst
  exact ⟨hfirst.1.1, not_or.2 hfirst.1.2, hfirst.2⟩

theorem Numeral.first_text {numeral : Numeral} {c : Char} {behind : List Char}
    (h : numeral.text = c :: behind) : c.isDigit = true := by
  obtain ⟨d, whole, hwhole⟩ := List.exists_cons_of_ne_nil numeral.whole_ne_nil
  rw [Numeral.text, hwhole, List.cons_append] at h
  obtain ⟨rfl, -⟩ := List.cons.inj h
  exact numeral.whole_digits d (hwhole ▸ List.mem_cons_self)

theorem Form.ne_nil {text : List Char} (h : Form text) : text ≠ [] := by
  cases h with
  | identifier h =>
      obtain ⟨c, behind, rfl, -⟩ := h
      exact List.cons_ne_nil c behind
  | numeral numeral =>
      rw [Numeral.text, Ne, List.append_eq_nil_iff]
      exact fun hnil => numeral.whole_ne_nil hnil.1
  | literal => exact List.cons_ne_nil _ _
  | symbol sign => exact Lexeme.toList_text_ne_nil sign

section First

variable {c : Char} {behind : List Char} (h : Form (c :: behind))
include h

/-- What the first character of a lexeme tells of its form. -/
theorem Form.by_first :
    (c.isDigit = true ∧ ∃ numeral : Numeral, numeral.text = c :: behind) ∨
    (IsQuote c ∧ ∃ value, Quoted c value behind) ∨
    (Lexeme.isIdentifierStart c = true ∧ IsIdentifier (c :: behind)) ∨
    ((c.isDigit = false ∧ ¬IsQuote c ∧ Lexeme.isIdentifierStart c = false) ∧
      ∃ sign : Symbol, sign.text.toList = c :: behind) := by
  generalize htext : c :: behind = text at h
  cases h with
  | identifier h =>
      obtain ⟨d, more, rfl, hd, -⟩ := id h
      obtain ⟨rfl, rfl⟩ := List.cons.inj htext
      exact .inr (.inr (.inl ⟨isIdentifierStart_iff.2 hd, h⟩))
  | numeral numeral => exact .inl ⟨Numeral.first_text htext.symm, numeral, rfl⟩
  | literal hquote h =>
      obtain ⟨rfl, rfl⟩ := List.cons.inj htext
      exact .inr (.inl ⟨hquote, _, h⟩)
  | symbol sign => exact .inr (.inr (.inr ⟨Symbol.first_text htext.symm, sign, rfl⟩))

theorem Form.exists_numeral (hc : c.isDigit = true) :
    ∃ numeral : Numeral, numeral.text = c :: behind := by
  obtain ⟨-, hnumeral⟩ | ⟨hquote, -⟩ | ⟨hstart, -⟩ | ⟨⟨hnone, -⟩, -⟩ := h.by_first
  · exact hnumeral
  · exact absurd hquote (not_isQuote_of_isDigit hc)
  · cases hstart.symm.trans (isIdentifierStart_of_isDigit hc)
  · cases hc.symm.trans hnone

theorem Form.exists_quoted (hc : IsQuote c) : ∃ value, Quoted c value behind := by
  obtain ⟨hdigit, -⟩ | ⟨-, hquoted⟩ | ⟨hstart, -⟩ | ⟨⟨-, hnone, -⟩, -⟩ := h.by_first
  · exact absurd hc (not_isQuote_of_isDigit hdigit)
  · exact hquoted
  · exact absurd hc (not_isQuote_of_isIdentifierStart hstart)
  · exact absurd hc hnone

theorem Form.isIdentifier (hc : Lexeme.isIdentifierStart c = true) :
    IsIdentifier (c :: behind) := by
  obtain ⟨hdigit, -⟩ | ⟨hquote, -⟩ | ⟨-, hidentifier⟩ | ⟨⟨-, -, hnone⟩, -⟩ := h.by_first
  · cases hc.symm.trans (isIdentifierStart_of_isDigit hdigit)
  · exact absurd hquote (not_isQuote_of_isIdentifierStart hc)
  · exact hidentifier
  · cases hc.symm.trans hnone

theorem Form.exists_symbol (hdigit : c.isDigit = false) (hquote : ¬IsQuote c)
    (hstart : Lexeme.isIdentifierStart c = false) :
    ∃ sign : Symbol, sign.text.toList = c :: behind := by
  obtain ⟨h, -⟩ | ⟨h, -⟩ | ⟨h, -⟩ | ⟨-, hsymbol⟩ := h.by_first
  · cases h.symm.trans hdigit
  · exact absurd h hquote
  · cases h.symm.trans hstart
  · exact hsymbol

end First

/-! ## Scanning numerals -/

namespace Numeral

open Text (Greedy Optionally Joined splitBehind splitTwice)

/-- What stands in a numeral behind its first digit. -/
def Tail : List Char → Prop :=
  Joined Digits (Joined (Optionally (· = '.') Digits)
    (Optionally (fun c => c = 'e' ∨ c = 'E')
      (Joined (Optionally (fun c => c = '+' ∨ c = '-') (· = [])) Digits)))

theorem greedy_digits :
    Greedy Digits (fun c => c.isDigit = true)
      fun source => (source.takeWhile Char.isDigit, source.dropWhile Char.isDigit) :=
  .run Char.isDigit

theorem splitPlaces_eq (source : List Char) :
    Lexeme.splitPlaces source =
      splitBehind (· = '.')
        (fun source => (source.takeWhile Char.isDigit, source.dropWhile Char.isDigit)) source := by
  unfold Lexeme.splitPlaces
  split
  · rfl
  · next hnone =>
    cases source with
    | nil => rfl
    | cons c source =>
        have hc : c ≠ '.' := by
          rintro rfl
          exact hnone source rfl
        rw [splitBehind, if_neg hc]

theorem splitSign_eq (source : List Char) :
    Lexeme.splitSign source =
      splitBehind (fun c => c = '+' ∨ c = '-') (fun source => ([], source)) source := by
  unfold Lexeme.splitSign
  split
  · rfl
  · rfl
  · next hplus hminus =>
    cases source with
    | nil => rfl
    | cons c source =>
        have hc : ¬(c = '+' ∨ c = '-') := by
          rintro (rfl | rfl)
          · exact hplus source rfl
          · exact hminus source rfl
        rw [splitBehind, if_neg hc]

theorem splitExponent_eq (source : List Char) :
    Lexeme.splitExponent source =
      splitBehind (fun c => c = 'e' ∨ c = 'E')
        (splitTwice (splitBehind (fun c => c = '+' ∨ c = '-') fun source => ([], source))
          fun source => (source.takeWhile Char.isDigit, source.dropWhile Char.isDigit))
        source := by
  cases source with
  | nil => rfl
  | cons c source =>
      rw [Lexeme.splitExponent, splitBehind, splitTwice, ← splitSign_eq]
      rfl

/-- What the scanner splits off behind the first digit is the longest text that may stand there:
no part of a numeral starts as the part in front of it goes on. -/
theorem greedy_splitNumeral : ∃ B, Greedy Tail B Lexeme.splitNumeral := by
  have hsign : Greedy _ _ _ := Greedy.nothing.optional fun c => c = '+' ∨ c = '-'
  have hexponent : Greedy _ _ _ :=
    (hsign.append greedy_digits (by
      rintro c text hdigits (hc | hnone)
      · have hdigit : c.isDigit = true := hdigits c List.mem_cons_self
        rcases hc with rfl | rfl <;> cases hdigit
      · exact hnone)).optional fun c => c = 'e' ∨ c = 'E'
  have hplaces : Greedy _ _ _ := greedy_digits.optional (· = '.')
  have hbehind : Greedy _ _ _ := hplaces.append hexponent (by
    intro c text hmark
    cases hmark with
    | present hc =>
        rintro (rfl | hdigit)
        · rcases hc with hc | hc <;> cases hc
        · rcases hc with rfl | rfl <;> cases hdigit)
  have htail : Greedy Tail _ _ := greedy_digits.append hbehind (by
    rintro c text ⟨first, second, htext, hfirst, hsecond⟩ hdigit
    cases hfirst with
    | present hc =>
        obtain ⟨rfl, -⟩ := List.cons.inj htext
        cases hc
        cases hdigit
    | absent =>
        rw [List.nil_append] at htext
        subst htext
        cases hsecond with
        | present hc => rcases hc with rfl | rfl <;> cases hdigit)
  refine ⟨_, htail.congr fun source => ?_⟩
  rw [Lexeme.splitNumeral, splitPlaces_eq, splitExponent_eq, List.append_assoc]
  rfl

theorem exists_text_eq_cons_iff {c : Char} {behind : List Char} :
    (∃ numeral : Numeral, numeral.text = c :: behind) ↔ c.isDigit = true ∧ Tail behind := by
  constructor
  · rintro ⟨numeral, htext⟩
    refine ⟨first_text htext, ?_⟩
    obtain ⟨d, whole, hwhole⟩ := List.exists_cons_of_ne_nil numeral.whole_ne_nil
    rw [text, hwhole, List.cons_append] at htext
    obtain ⟨-, rfl⟩ := List.cons.inj htext
    refine ⟨whole, _, rfl, fun e he => ?_, _, _, rfl, ?_, ?_⟩
    · exact numeral.whole_digits e (hwhole ▸ List.mem_cons_of_mem d he)
    · rw [placesText]
      cases hplaces : numeral.places with
      | none => exact .absent
      | some ds => exact .present rfl (numeral.places_digits ds hplaces)
    · rw [exponentText]
      cases numeral.exponent with
      | none => exact .absent
      | some exponent =>
          refine .present exponent.mark_eq ⟨_, _, rfl, ?_, exponent.digits_digits⟩
          cases hsign : exponent.sign with
          | none => exact .absent
          | some sign => exact .present (exponent.sign_eq sign hsign) rfl
  · rintro ⟨hc, whole, _, rfl, hwhole, places, exponent, rfl, hplaces, hexponent⟩
    have hdigits : Digits (c :: whole) := List.forall_mem_cons.2 ⟨hc, hwhole⟩
    obtain ⟨places', hplaces', rfl⟩ : ∃ places' : Option (List Char),
        (∀ ds ∈ places', Digits ds) ∧ places = places'.elim [] ('.' :: ·) := by
      cases hplaces with
      | absent => exact ⟨none, nofun, rfl⟩
      | present hpoint hds =>
          cases hpoint
          exact ⟨some _, fun _ hmem => Option.some.inj hmem ▸ hds, rfl⟩
    obtain ⟨exponent', rfl⟩ : ∃ exponent' : Option Exponent,
        exponent = exponent'.elim [] Exponent.text := by
      cases hexponent with
      | absent => exact ⟨none, rfl⟩
      | present hmark htail =>
          obtain ⟨sign, ds, rfl, hsign, hds⟩ := htail
          cases hsign with
          | absent => exact ⟨some ⟨_, none, ds, hmark, nofun, hds⟩, rfl⟩
          | present hsign hnil =>
              subst hnil
              exact ⟨some ⟨_, some _, ds, hmark, fun _ hmem => Option.some.inj hmem ▸ hsign, hds⟩,
                rfl⟩
    exact ⟨⟨c :: whole, places', exponent', List.cons_ne_nil c whole, hdigits, hplaces'⟩, rfl⟩

/-! ## Values of numerals -/

theorem takeWhile_digits_append {ds rest : List Char} (h : Digits ds)
    (hrest : ∀ c ∈ rest.head?, c.isDigit = false) :
    (ds ++ rest).takeWhile Char.isDigit = ds ∧ (ds ++ rest).dropWhile Char.isDigit = rest := by
  rw [List.takeWhile_append_of_pos h, List.dropWhile_append_of_pos h]
  cases rest with
  | nil => simp
  | cons c rest =>
      have hc : ¬c.isDigit = true := Bool.eq_false_iff.1 (hrest c rfl)
      rw [List.takeWhile_cons_of_neg hc, List.dropWhile_cons_of_neg hc, List.append_nil]
      exact ⟨rfl, rfl⟩

end Numeral

/-- A mark and a sign are read with the digits behind them, if there are any. -/
theorem exponentOfText?_digits {mark : Char} (hmark : mark = 'e' ∨ mark = 'E') {ds : List Char}
    (hds : Digits ds) :
    Number.exponentOfText? (mark :: ds) =
        (if ds = [] then none else some (Number.ofDigits ds : Int)) ∧
      Number.exponentOfText? (mark :: '+' :: ds) =
        (if ds = [] then none else some (Number.ofDigits ds : Int)) ∧
      Number.exponentOfText? (mark :: '-' :: ds) =
        (if ds = [] then none else some (-(Number.ofDigits ds : Int))) := by
  have hall : ds.all Char.isDigit = true := List.all_eq_true.2 hds
  refine ⟨?_, ?_, ?_⟩
  · cases ds with
    | nil => simp [Number.exponentOfText?]
    | cons d ds =>
        have hplus : d ≠ '+' := ne_of_isDigit (hds d List.mem_cons_self) rfl
        have hminus : d ≠ '-' := ne_of_isDigit (hds d List.mem_cons_self) rfl
        simp [Number.exponentOfText?, hmark, hplus, hminus, hall]
  · simp [Number.exponentOfText?, hmark, hall]
  · simp [Number.exponentOfText?, hmark, hall]

/-- An exponent has a value if it has digits. -/
theorem Exponent.exponentOfText?_text (exponent : Exponent) :
    Number.exponentOfText? exponent.text =
      if exponent.digits = [] then none else some exponent.value := by
  obtain ⟨mark, sign, ds, hmark, hsign, hds⟩ := exponent
  obtain ⟨hnone, hplus, hminus⟩ := exponentOfText?_digits hmark hds
  cases sign with
  | none => exact hnone
  | some sign =>
      rcases hsign sign rfl with rfl | rfl
      · exact hplus
      · exact hminus

section Decimals

variable {whole rest : List Char} (hne : whole ≠ []) (hwhole : Digits whole)
  (hrest : ∀ c ∈ rest.head?, c.isDigit = false)
include hne hwhole hrest

theorem decimalOfText?_whole (hpoint : ∀ c ∈ rest.head?, c ≠ '.') :
    Number.decimalOfText? (whole ++ rest) =
      (Number.exponentOfText? rest).map fun exponent =>
        Number.ofDecimal (Number.ofDigits (whole ++ [])) (exponent - ([] : List Char).length) := by
  obtain ⟨htake, hdrop⟩ := Numeral.takeWhile_digits_append hwhole hrest
  rw [Number.decimalOfText?, htake, hdrop, List.isEmpty_eq_false_iff.2 hne]
  split
  · next hsplit =>
    split at hsplit
    · exact absurd rfl (hpoint '.' rfl)
    · cases hsplit
      rfl

theorem decimalOfText?_places {ds : List Char} (hds : Digits ds) :
    Number.decimalOfText? (whole ++ '.' :: (ds ++ rest)) =
      (Number.exponentOfText? rest).map fun exponent =>
        Number.ofDecimal (Number.ofDigits (whole ++ ds)) (exponent - ds.length) := by
  have hpoint : ∀ c ∈ ('.' :: (ds ++ rest)).head?, c.isDigit = false := by
    rintro _ ⟨⟩
    rfl
  obtain ⟨htake, hdrop⟩ := Numeral.takeWhile_digits_append hwhole hpoint
  obtain ⟨htake', hdrop'⟩ := Numeral.takeWhile_digits_append hds hrest
  simp only [Number.decimalOfText?, htake, hdrop, htake', hdrop',
    List.isEmpty_eq_false_iff.2 hne, Bool.false_and]
  rfl

end Decimals

namespace Numeral

theorem head?_exponentText (numeral : Numeral) :
    ∀ c ∈ numeral.exponentText.head?, c = 'e' ∨ c = 'E' := by
  rw [exponentText]
  cases numeral.exponent with
  | none => nofun
  | some exponent =>
      intro c hc
      cases hc
      exact exponent.mark_eq

theorem decimalOfText?_value (numeral : Numeral) :
    Number.decimalOfText? numeral.text =
      (Number.exponentOfText? numeral.exponentText).map fun exponent =>
        Number.ofDecimal (Number.ofDigits (numeral.whole ++ numeral.places.getD []))
          (exponent - (numeral.places.getD []).length) := by
  have hrest : ∀ c ∈ numeral.exponentText.head?, c.isDigit = false := by
    intro c hc
    rcases numeral.head?_exponentText c hc with rfl | rfl <;> rfl
  have hpoint : ∀ c ∈ numeral.exponentText.head?, c ≠ '.' := by
    intro c hc
    rcases numeral.head?_exponentText c hc with rfl | rfl <;> decide
  rw [text, placesText]
  cases hplaces : numeral.places with
  | none => exact decimalOfText?_whole numeral.whole_ne_nil numeral.whole_digits hrest hpoint
  | some ds =>
      exact decimalOfText?_places numeral.whole_ne_nil numeral.whole_digits hrest
        (numeral.places_digits ds hplaces)

/-- A numeral is no number exactly if it is bare, and else the double closest to what it says. -/
theorem decimalOfText?_text (numeral : Numeral) :
    (numeral.Bare → Number.decimalOfText? numeral.text = none) ∧
      (¬numeral.Bare → Number.decimalOfText? numeral.text = some numeral.value) := by
  rw [decimalOfText?_value, exponentText, value, Bare]
  cases numeral.exponent with
  | none => exact ⟨by simp, fun _ => rfl⟩
  | some exponent =>
      rw [Option.elim_some, exponent.exponentOfText?_text]
      constructor
      · rintro ⟨_, ⟨⟩, hnil⟩
        rw [if_pos hnil]
        rfl
      · intro hdigits
        rw [if_neg fun hnil => hdigits ⟨exponent, rfl, hnil⟩]
        rfl

/-- Nothing that starts with a digit is read as anything but a decimal number. -/
theorem ofText?_cons {c : Char} (h : c.isDigit = true) (behind : List Char) :
    Number.ofText? (c :: behind) = Number.decimalOfText? (c :: behind) := by
  have hlower : c.toLower = c := by
    have heq : (c.toLower == c) = true := of_isDigit (p := fun c => c.toLower == c) (by decide) h
    exact eq_of_beq heq
  have hname {name : String} (hfirst : name.toList.head?.all (!Char.isDigit ·) = true) :
      String.ofList ((c :: behind).map Char.toLower) ≠ name := by
    rintro rfl
    rw [String.toList_ofList, List.map_cons, hlower, List.head?_cons, Option.all_some, h] at hfirst
    cases hfirst
  have hsigned : Number.ofText? (c :: behind) = Number.unsignedOfText? (c :: behind) := by
    unfold Number.ofText?
    split
    · next heq =>
      obtain ⟨rfl, -⟩ := List.cons.inj heq
      cases h
    · next heq =>
      obtain ⟨rfl, -⟩ := List.cons.inj heq
      cases h
    · rfl
  rw [hsigned, Number.unsignedOfText?, if_neg, if_neg]
  · exact hname (by decide)
  · rintro (hinf | hinf)
    · exact hname (by decide) hinf
    · exact hname (by decide) hinf

theorem ofText?_text (numeral : Numeral) :
    (numeral.Bare → Number.ofText? numeral.text = none) ∧
      (¬numeral.Bare → Number.ofText? numeral.text = some numeral.value) := by
  cases htext : numeral.text with
  | nil => exact absurd htext (Form.numeral numeral).ne_nil
  | cons c behind =>
      rw [ofText?_cons (first_text htext), ← htext]
      exact numeral.decimalOfText?_text

end Numeral

end HttpDoctest
