import HttpDoctest.Json.Printer
import HttpDoctest.Proofs.Console.Pieces
import HttpDoctest.Value.Text

set_option autoImplicit false

/-! # The characters of numbers and of JSON text

Numbers are written in digits, signs, points and letters, and JSON text writes control characters
by their code points. So neither holds an escape character, whatever the strings inside hold
(`Json.escapeFree_pretty`), and of all values only strings have texts that do
(`Value.escapeFree_text`).
-/

namespace HttpDoctest

open Ansi (escape EscapeFree)

/-! ## Numbers -/

namespace Number

theorem escape_not_mem_digits (n : Nat) : escape ∉ digits n := by
  intro hmem
  exact absurd (Nat.isDigit_of_mem_toDigits (by decide) (by decide) hmem) (by decide)

theorem escape_not_mem_intText (n : Int) : escape ∉ intText n := by
  cases n with
  | ofNat n => exact escape_not_mem_digits n
  | negSucc n =>
      rw [intText, List.mem_cons, not_or]
      exact ⟨by decide, escape_not_mem_digits _⟩

theorem escape_not_mem_signText (sign : Float.Model.UnpackedFloat.Sign) :
    escape ∉ signText sign := by
  cases sign <;> decide

/-! ### Decimals -/

namespace Decimal

variable (d : Decimal)

theorem escape_not_mem_positional : escape ∉ d.positional := by
  have hdigits := escape_not_mem_digits d.significand
  have hpoint : escape ≠ '.' := by decide
  have hzero : escape ≠ '0' := by decide
  unfold positional
  dsimp only
  split
  · simp [hdigits, hzero]
  · split
    · have htake : ∀ places, escape ∉ (digits d.significand).take places :=
        fun places hmem => hdigits (List.mem_of_mem_take hmem)
      have hdrop : ∀ places, escape ∉ (digits d.significand).drop places :=
        fun places hmem => hdigits (List.mem_of_mem_drop hmem)
      simp [htake, hdrop, hpoint]
    · simp [hdigits, hpoint, hzero]

theorem escape_not_mem_scientific : escape ∉ d.scientific := by
  have hdigits := escape_not_mem_digits d.significand
  have hexponent := escape_not_mem_digits d.leadingExponent.natAbs
  have hsign : ∀ negative : Prop, [Decidable negative] →
      escape ≠ if negative then '-' else '+' := by
    intro negative _
    split <;> decide
  have hpower : escape ∉ 'e' :: (if d.leadingExponent < 0 then '-' else '+') ::
      digits d.leadingExponent.natAbs := by
    rw [List.mem_cons, List.mem_cons, not_or, not_or]
    exact ⟨by decide, hsign _, hexponent⟩
  unfold scientific
  dsimp only
  rw [List.mem_append, not_or]
  refine ⟨?_, hpower⟩
  split
  · exact List.not_mem_nil
  · next digit heq => rwa [heq] at hdigits
  · next digit more _ heq =>
    rw [heq, List.mem_cons, not_or] at hdigits
    rw [List.mem_cons, List.mem_cons, not_or, not_or]
    exact ⟨hdigits.1, by decide, hdigits.2⟩

theorem escape_not_mem_jsonText : escape ∉ d.jsonText := by
  have hplaces : escape ∉ ['.', '0'] := by decide
  unfold jsonText
  dsimp only
  split
  · split
    · rw [List.mem_append, not_or]
      exact ⟨d.escape_not_mem_positional, hplaces⟩
    · exact d.escape_not_mem_positional
  · exact d.escape_not_mem_scientific

end Decimal

theorem escape_not_mem_plain (x : Float) : escape ∉ plain x := by
  unfold plain
  split
  · decide
  · rw [List.mem_append, not_or]
    exact ⟨escape_not_mem_signText _, by decide⟩
  · rw [List.mem_append, not_or]
    exact ⟨escape_not_mem_signText _, by decide⟩
  · rw [List.mem_append, not_or]
    exact ⟨escape_not_mem_signText _, Decimal.escape_not_mem_positional _⟩

theorem escape_not_mem_jsonText (x : Float) : escape ∉ jsonText x := by
  unfold jsonText
  split
  · decide
  · decide
  · rw [List.mem_append, not_or]
    exact ⟨escape_not_mem_signText _, by decide⟩
  · rw [List.mem_append, not_or]
    exact ⟨escape_not_mem_signText _, Decimal.escape_not_mem_jsonText _⟩

end Number

/-! ## JSON text -/

namespace Json

theorem escape_not_mem_controlEscape {c : Char} (h : c.toNat < 0x20) :
    escape ∉ controlEscape c := by
  -- there are few control characters, so each of them is looked at
  have hall : ∀ n < 0x20, escape ∉ controlEscape (Char.ofNat n) := by decide +kernel
  have hcode := hall c.toNat h
  rwa [Char.ofNat_toNat] at hcode

/-- An escape character is a control character, and these are written by their code points. -/
theorem escape_not_mem_stringChar (c : Char) : escape ∉ stringChar c := by
  unfold stringChar
  split
  · next hmark =>
    rcases hmark with rfl | rfl <;> decide
  split
  · decide
  split
  · decide
  split
  · decide
  split
  · decide
  split
  · decide
  split
  · next hcontrol => exact escape_not_mem_controlEscape hcontrol
  · next hcontrol =>
    rw [List.mem_singleton]
    rintro rfl
    exact hcontrol (by decide)

theorem escape_not_mem_stringText (s : String) : escape ∉ stringText s := by
  have hchars : escape ∉ s.toList.flatMap stringChar := by
    rw [List.mem_flatMap]
    rintro ⟨c, -, hmem⟩
    exact escape_not_mem_stringChar c hmem
  simp [stringText, hchars, (by decide : escape ≠ '"')]

theorem escape_not_mem_numberText (n : JsonNumber) : escape ∉ numberText n := by
  cases n with
  | integer n => exact Number.escape_not_mem_intText n
  | double x => exact Number.escape_not_mem_jsonText x

/-- Whether what a style puts between the tokens of a text holds no escape character. -/
structure Style.EscapeFree (style : Style) : Prop where
  lineBreak : ∀ depth, escape ∉ style.lineBreak depth
  colon : escape ∉ style.colon

theorem Style.escapeFree_compact : Style.compact.EscapeFree where
  lineBreak _ := List.not_mem_nil
  colon := by decide

theorem Style.escapeFree_pretty : Style.pretty.EscapeFree where
  lineBreak depth := by
    rw [pretty, List.mem_cons, not_or]
    exact ⟨by decide, fun hmem => absurd (List.eq_of_mem_replicate hmem) (by decide)⟩
  colon := by decide

section Write

variable {style : Style} (h : style.EscapeFree)
include h

mutual

theorem escape_not_mem_write (depth : Nat) : ∀ json : Json, escape ∉ write style depth json
  | .null => by rw [write]; decide
  | .bool true => by rw [write]; decide
  | .bool false => by rw [write]; decide
  | .number n => by rw [write]; exact escape_not_mem_numberText n
  | .string s => by rw [write]; exact escape_not_mem_stringText s
  | .array [] => by rw [write]; decide
  | .array (item :: items) => by
      have hitem := escape_not_mem_write (depth + 1) item
      have hitems := escape_not_mem_writeItems (depth + 1) items
      have hopen : escape ≠ '[' := by decide
      have hclose : escape ≠ ']' := by decide
      simp [write, h.lineBreak, hitem, hitems, hopen, hclose]
  | .object [] => by rw [write]; decide
  | .object ((name, value) :: fields) => by
      have hvalue := escape_not_mem_write (depth + 1) value
      have hfields := escape_not_mem_writeFields (depth + 1) fields
      have hopen : escape ≠ '{' := by decide
      have hclose : escape ≠ '}' := by decide
      simp [write, h.lineBreak, h.colon, escape_not_mem_stringText name, hvalue, hfields, hopen,
        hclose]

theorem escape_not_mem_writeItems (depth : Nat) :
    ∀ items : List Json, escape ∉ writeItems style depth items
  | [] => by rw [writeItems]; decide
  | item :: items => by
      have hitem := escape_not_mem_write depth item
      have hitems := escape_not_mem_writeItems depth items
      have hcomma : escape ≠ ',' := by decide
      simp [writeItems, h.lineBreak, hitem, hitems, hcomma]

theorem escape_not_mem_writeFields (depth : Nat) :
    ∀ fields : List (String × Json), escape ∉ writeFields style depth fields
  | [] => by rw [writeFields]; decide
  | (name, value) :: fields => by
      have hvalue := escape_not_mem_write depth value
      have hfields := escape_not_mem_writeFields depth fields
      have hcomma : escape ≠ ',' := by decide
      simp [writeFields, h.lineBreak, h.colon, escape_not_mem_stringText name, hvalue, hfields,
        hcomma]

end

end Write

/-- No JSON text holds an escape character, whatever the strings in it hold. -/
theorem escapeFree_pretty (json : Json) : EscapeFree json.pretty := by
  rw [pretty, Ansi.escapeFree_ofList]
  exact escape_not_mem_write Style.escapeFree_pretty 0 json

theorem escapeFree_compact (json : Json) : EscapeFree json.compact := by
  rw [compact, Ansi.escapeFree_ofList]
  exact escape_not_mem_write Style.escapeFree_compact 0 json

end Json

/-! ## Texts of values -/

namespace Value

theorem escape_not_mem_textOfNumber (x : Float) : escape ∉ textOfNumber x := by
  unfold textOfNumber
  split
  · decide
  · rw [List.mem_append, not_or]
    exact ⟨Number.escape_not_mem_signText _, by decide⟩
  · split
    · split
      · exact Number.escape_not_mem_intText _
      · exact Number.escape_not_mem_plain x
    · exact Number.escape_not_mem_plain x

/-- A value whose text holds an escape character is a string. -/
theorem escapeFree_text {value : Value} (h : ∀ s, value = .string s → EscapeFree s) :
    EscapeFree value.text := by
  cases value with
  | undefined => decide
  | null => decide
  | bool b => cases b <;> decide
  | number x =>
      rw [text, Ansi.escapeFree_ofList]
      exact escape_not_mem_textOfNumber x
  | string s => exact h s rfl
  | array items => exact Json.escapeFree_compact _
  | object fields => exact Json.escapeFree_compact _

end Value

end HttpDoctest
