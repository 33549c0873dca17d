import HttpDoctest.Expression.Error
import HttpDoctest.Expression.Token
import HttpDoctest.Number.Reader
import HttpDoctest.Text.Blank
import HttpDoctest.Text.Search

set_option autoImplicit false

/-! # Lexemes

A source is split into lexemes, each the longest text of its class at its place, with blanks
between them. A lexeme keeps its text, so that nothing of the source is lost: the text of a
lexeme and what follows it make up what the source was from there on.
-/

namespace HttpDoctest

/-- A token taken off the front of a source. -/
structure Lexeme (source : List Char) where
  kind : TokenKind
  /-- The text of the token. -/
  text : List Char
  /-- What follows it. -/
  rest : List Char
  text_append_rest : text ++ rest = source
  text_ne_nil : text ≠ []

namespace Lexeme

theorem length_rest_lt {source : List Char} (lexeme : Lexeme source) :
    lexeme.rest.length < source.length := by
  have := congrArg List.length lexeme.text_append_rest
  have := List.length_pos_iff.2 lexeme.text_ne_nil
  rw [List.length_append] at *
  omega

/-! ## Identifiers -/

/-- Whether an identifier may start with `c`. -/
def isIdentifierStart (c : Char) : Bool :=
  c.isAlpha || c == '_' || c == '$'

/-- Whether `c` may stand in an identifier. -/
def isIdentifierPart (c : Char) : Bool :=
  isIdentifierStart c || c.isDigit

/-- The identifier that starts with `c`. -/
def identifier (c : Char) (source : List Char) : Lexeme (c :: source) where
  kind := .identifier (String.ofList (c :: source.takeWhile isIdentifierPart))
  text := c :: source.takeWhile isIdentifierPart
  rest := source.dropWhile isIdentifierPart
  text_append_rest := by simp
  text_ne_nil := by simp

/-! ## Numerals -/

/-- Splits off a point and the digits behind it. -/
def splitPlaces : List Char → List Char × List Char
  | '.' :: source => ('.' :: source.takeWhile Char.isDigit, source.dropWhile Char.isDigit)
  | source => ([], source)

theorem splitPlaces_append (source : List Char) :
    (splitPlaces source).1 ++ (splitPlaces source).2 = source := by
  unfold splitPlaces
  split <;> simp

/-- Splits off a sign. -/
def splitSign : List Char → List Char × List Char
  | '+' :: source => (['+'], source)
  | '-' :: source => (['-'], source)
  | source => ([], source)

theorem splitSign_append (source : List Char) :
    (splitSign source).1 ++ (splitSign source).2 = source := by
  unfold splitSign
  split <;> simp

/-- Splits off an exponent: its mark, a sign if there is one, and the digits that follow, which
may be none. -/
def splitExponent : List Char → List Char × List Char
  | [] => ([], [])
  | c :: source =>
      if c = 'e' ∨ c = 'E' then
        let sign := splitSign source
        (c :: sign.1 ++ sign.2.takeWhile Char.isDigit, sign.2.dropWhile Char.isDigit)
      else ([], c :: source)

theorem splitExponent_append (source : List Char) :
    (splitExponent source).1 ++ (splitExponent source).2 = source := by
  unfold splitExponent
  split
  · rfl
  · split
    · simp [splitSign_append]
    · simp

/-- Splits off a numeral behind its first digit: more digits, places and an exponent. -/
def splitNumeral (source : List Char) : List Char × List Char :=
  let places := splitPlaces (source.dropWhile Char.isDigit)
  let exponent := splitExponent places.2
  (source.takeWhile Char.isDigit ++ places.1 ++ exponent.1, exponent.2)

theorem splitNumeral_append (source : List Char) :
    (splitNumeral source).1 ++ (splitNumeral source).2 = source := by
  simp [splitNumeral, splitExponent_append, splitPlaces_append]

/-- The numeral that starts with the digit `c`. It is none if its exponent has no digits. -/
def numeral (offset : Nat) (c : Char) (source : List Char) :
    Except ExprError (Lexeme (c :: source)) :=
  match Number.ofText? (c :: (splitNumeral source).1) with
  | some x => .ok {
      kind := .number x
      text := c :: (splitNumeral source).1
      rest := (splitNumeral source).2
      text_append_rest := by rw [List.cons_append, splitNumeral_append]
      text_ne_nil := by simp }
  | none => .error (.invalidNumber (String.ofList (c :: (splitNumeral source).1)) offset)

/-! ## Strings -/

/-- The character that a backslash and `c` stand for. -/
def unescape (c : Char) : Char :=
  if c = 'n' then '\n'
  else if c = 'r' then '\r'
  else if c = 't' then '\t'
  else if c = '0' then '\x00'
  else c

/-- What stands in front of the first closing quote: the characters meant, the text with the
quote, and what follows. -/
structure Quotation where
  value : List Char
  text : List Char
  rest : List Char

/-- Reads a string literal behind its opening quote. -/
def quotation? (quote : Char) : List Char → Option Quotation
  | [] => none
  | c :: source =>
      if c = quote then some ⟨[], [c], source⟩
      else if c = '\\' then
        match source with
        | [] => none
        | e :: source => (quotation? quote source).map fun q =>
            ⟨unescape e :: q.value, c :: e :: q.text, q.rest⟩
      else (quotation? quote source).map fun q => ⟨c :: q.value, c :: q.text, q.rest⟩

theorem text_append_rest_of_quotation? {quote : Char} {source : List Char} {q : Quotation}
    (h : quotation? quote source = some q) : q.text ++ q.rest = source := by
  fun_induction quotation? quote source generalizing q with
  | case1 => cases h
  | case2 => cases h; rfl
  | case3 => cases h
  | case4 e tail _ ih =>
    obtain ⟨p, hp, rfl⟩ := Option.map_eq_some_iff.1 h
    simp [ih hp]
  | case5 c source _ _ ih =>
    obtain ⟨p, hp, rfl⟩ := Option.map_eq_some_iff.1 h
    simp [ih hp]

/-- The string literal that opens with `quote`. -/
def string (offset : Nat) (quote : Char) (source : List Char) :
    Except ExprError (Lexeme (quote :: source)) :=
  match h : quotation? quote source with
  | some q => .ok {
      kind := .string (String.ofList q.value)
      text := quote :: q.text
      rest := q.rest
      text_append_rest := by rw [List.cons_append, text_append_rest_of_quotation? h]
      text_ne_nil := by simp }
  | none => .error (.unterminatedString offset)

/-! ## Symbols -/

/-- The first of the given symbols that the source starts with, and what follows it. -/
def firstSymbol? (symbols : List Symbol) (source : List Char) : Option (Symbol × List Char) :=
  symbols.findSome? fun symbol =>
    (Text.afterPrefix? symbol.text.toList source).map fun rest => (symbol, rest)

theorem append_of_firstSymbol? {symbols : List Symbol} {source rest : List Char}
    {symbol : Symbol} (h : firstSymbol? symbols source = some (symbol, rest)) :
    symbol.text.toList ++ rest = source := by
  obtain ⟨s, _, hs⟩ := List.exists_of_findSome?_eq_some h
  obtain ⟨r, hr, he⟩ := Option.map_eq_some_iff.1 hs
  cases he
  exact Text.append_of_afterPrefix? hr

theorem toList_text_ne_nil (symbol : Symbol) : symbol.text.toList ≠ [] := by
  cases symbol <;> decide

/-- The longest symbol at the front of a source that starts with `c`. -/
def symbol (offset : Nat) (c : Char) (source : List Char) :
    Except ExprError (Lexeme (c :: source)) :=
  match h : firstSymbol? Symbol.longestFirst (c :: source) with
  | some (symbol, rest) => .ok {
      kind := .symbol symbol
      text := symbol.text.toList
      rest := rest
      text_append_rest := append_of_firstSymbol? h
      text_ne_nil := toList_text_ne_nil symbol }
  | none => .error (.unexpectedCharacter c offset)

/-! ## The source -/

/-- The lexeme at the front of a source that starts with `c`, which is no blank. -/
def first (offset : Nat) (c : Char) (source : List Char) :
    Except ExprError (Lexeme (c :: source)) :=
  if c.isDigit then numeral offset c source
  else if c = '"' ∨ c = '\x27' then string offset c source
  else if isIdentifierStart c then .ok (identifier c source)
  else symbol offset c source

end Lexeme

namespace Token

/-- The tokens of a source that starts `offset` bytes into the whole. -/
def scan (offset : Nat) : (source : List Char) → Except ExprError (List Token)
  | [] => .ok []
  | c :: source =>
      if Text.isBlank c then scan (offset + c.utf8Size) source
      else do
        let lexeme ← Lexeme.first offset c source
        have : lexeme.rest.length ≤ source.length := Nat.le_of_lt_succ lexeme.length_rest_lt
        let tokens ← scan (offset + Text.byteLength lexeme.text) lexeme.rest
        return ⟨lexeme.kind, offset⟩ :: tokens
termination_by source => source.length

/-- The tokens of a source. -/
def ofSource (source : String) : Except ExprError (List Token) :=
  scan 0 source.toList

end Token

end HttpDoctest
