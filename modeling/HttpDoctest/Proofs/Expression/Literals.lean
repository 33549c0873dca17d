import HttpDoctest.Proofs.Expression.Munch

set_option autoImplicit false

/-! # Writing string literals

Every text can be written as a string literal: between two quotes of either kind, with a backslash
in front of each quote of that kind and of each backslash (`Lexeme.literal`). The literal stands for
the text and ends at its last quote, whatever follows: it is one token, and what follows has the
tokens, or the error, that it has alone, at places moved behind the literal
(`tokens_behind_literal`).
-/

namespace HttpDoctest

open Text (byteLength)

namespace Lexeme

/-! ## Escapes -/

/-- A character as it stands in a literal between two of `quote`. -/
def escaped (quote c : Char) : List Char :=
  if c = quote ∨ c = '\\' then ['\\', c] else [c]

/-- The literal between two of `quote` that stands for a text. -/
def literal (quote : Char) (text : List Char) : List Char :=
  quote :: (text.flatMap (escaped quote) ++ [quote])

/-- What is escaped in a literal is none of the letters that a backslash changes. -/
theorem escape_of_escaped {quote c : Char} (hquote : IsQuote quote) (hc : c = quote ∨ c = '\\') :
    Escape c c := by
  refine .itself ?_
  rcases hc with rfl | rfl
  · rcases hquote with rfl | rfl <;> decide
  · decide

/-- The characters of a literal are read back, and none of them closes it. -/
theorem quoted_flatMap_escaped {quote : Char} (hquote : IsQuote quote) (text : List Char) :
    Quoted quote text (text.flatMap (escaped quote) ++ [quote]) := by
  induction text with
  | nil => exact .close
  | cons c text ih =>
      rw [List.flatMap_cons, List.append_assoc, escaped]
      by_cases hc : c = quote ∨ c = '\\'
      · rw [if_pos hc]
        exact .escaped (escape_of_escaped hquote hc) ih
      · rw [if_neg hc]
        obtain ⟨hne, hslash⟩ := not_or.1 hc
        exact .plain hne hslash ih

/-! ## Literals in front of a source -/

/-- The literal at the front of a source is its first lexeme. -/
theorem first_literal {quote : Char} (hquote : IsQuote quote) (offset : Nat)
    (text rest : List Char) :
    ∃ lexeme : Lexeme (quote :: (text.flatMap (escaped quote) ++ [quote] ++ rest)),
      first offset quote (text.flatMap (escaped quote) ++ [quote] ++ rest) = .ok lexeme ∧
        lexeme.kind = .string (String.ofList text) ∧ lexeme.text = literal quote text ∧
        lexeme.rest = rest := by
  have hread := quotation?_of_quoted hquote.ne_backslash (quoted_flatMap_escaped hquote text) rest
  have hdigit : ¬quote.isDigit = true := fun h => not_isQuote_of_isDigit h hquote
  have hopen : quote = '"' ∨ quote = '\x27' := hquote
  rw [first, if_neg hdigit, if_pos hopen]
  unfold string
  split
  · next q hq =>
    cases hread.symm.trans hq
    exact ⟨_, rfl, rfl, rfl, rfl⟩
  · next hnone => cases hread.symm.trans hnone

end Lexeme

namespace Token

open Lexeme (literal)

/-- A literal in front of a source is one token, and the tokens of the source follow it. -/
theorem scan_literal {quote : Char} (hquote : IsQuote quote) (offset : Nat)
    (text rest : List Char) :
    scan offset (literal quote text ++ rest) =
      (scan (offset + byteLength (literal quote text)) rest).map
        (⟨.string (String.ofList text), offset⟩ :: ·) := by
  have hblank : Text.isBlank quote = false := by
    rcases hquote with rfl | rfl <;> decide
  obtain ⟨lexeme, hfirst, hkind, htext, hrest⟩ := Lexeme.first_literal hquote offset text rest
  rw [literal, List.cons_append, scan_cons hblank, hfirst]
  show (scan (offset + byteLength lexeme.text) lexeme.rest).map (⟨lexeme.kind, offset⟩ :: ·) = _
  rw [hkind, htext, hrest, literal]

end Token

/-- A text written as a literal is one token that stands for it, whatever follows. The tokens of
what follows are those that it has alone, at places moved by the bytes of the literal, and so is the
place of its error if it has no tokens. -/
theorem tokens_behind_literal {quote : Char} (hquote : IsQuote quote) (text rest : String) :
    (∀ tokens, Token.ofSource rest = .ok tokens →
      Token.ofSource (String.ofList (Lexeme.literal quote text.toList) ++ rest) =
        .ok (⟨.string text, 0⟩ ::
          tokens.map (Token.shift (byteLength (Lexeme.literal quote text.toList))))) ∧
    ∀ error, Token.ofSource rest = .error error →
      Token.ofSource (String.ofList (Lexeme.literal quote text.toList) ++ rest) =
        .error (error.shift (byteLength (Lexeme.literal quote text.toList))) := by
  have hsource : Token.ofSource (String.ofList (Lexeme.literal quote text.toList) ++ rest) =
      (((Token.ofSource rest).map (List.map
        (Token.shift (byteLength (Lexeme.literal quote text.toList))))).mapError
        (ExprError.shift (byteLength (Lexeme.literal quote text.toList)))).map
        (⟨.string text, 0⟩ :: ·) := by
    rw [Token.ofSource, String.toList_append, String.toList_ofList, Token.scan_literal hquote,
      String.ofList_toList, Token.scan_shift]
    rfl
  constructor
  · intro tokens htokens
    rw [hsource, htokens]
    rfl
  · intro error herror
    rw [hsource, herror]
    rfl

/-- A literal of two bytes for one character, with a quote and a backslash in it, in front of an
operator and in front of a character that no token starts with. -/
theorem tokens_behind_escaped_literal :
    (IsQuote '\x27' ∧
      Token.ofSource (String.ofList (Lexeme.literal '\x27' "é'\\n".toList) ++ "+1") =
        .ok [⟨.string "é'\\n", 0⟩, ⟨.symbol .plus, 9⟩, ⟨.number (Number.ofInt 1), 10⟩]) ∧
    Token.ofSource (String.ofList (Lexeme.literal '\x27' "é'\\n".toList) ++ " #") =
      .error (.unexpectedCharacter '#' 10) := by
  have hquote : IsQuote '\x27' := .inr rfl
  have hplus : Token.ofSource "+1" = .ok [⟨.symbol .plus, 0⟩, ⟨.number (Number.ofInt 1), 1⟩] := by
    decide +kernel
  have hhash : Token.ofSource " #" = .error (.unexpectedCharacter '#' 1) := by
    decide +kernel
  exact ⟨⟨hquote, (tokens_behind_literal hquote "é'\\n" "+1").1 _ hplus⟩,
    (tokens_behind_literal hquote "é'\\n" " #").2 _ hhash⟩

end HttpDoctest
