import HttpDoctest.Number.Layout
import HttpDoctest.Text.Quoted

set_option autoImplicit false

/-! # Tokens

The units that the source of an expression is made of: numerals, string literals, identifiers
and symbols. A token knows at which byte of the source it starts.
-/

namespace HttpDoctest

/-- A mark of punctuation or an operator sign. -/
inductive Symbol where
  | strictEqual
  | strictNotEqual
  | equal
  | notEqual
  | lessEqual
  | greaterEqual
  | and
  | or
  | openParen
  | closeParen
  | openBracket
  | closeBracket
  | dot
  | comma
  | question
  | colon
  | semicolon
  | bang
  | less
  | greater
  | plus
  | minus
  | star
  | slash
  | percent
  | assign
deriving DecidableEq, Repr

namespace Symbol

/-- A symbol as written. -/
def text : Symbol → String
  | strictEqual => "==="
  | strictNotEqual => "!=="
  | equal => "=="
  | notEqual => "!="
  | lessEqual => "<="
  | greaterEqual => ">="
  | and => "&&"
  | or => "||"
  | openParen => "("
  | closeParen => ")"
  | openBracket => "["
  | closeBracket => "]"
  | dot => "."
  | comma => ","
  | question => "?"
  | colon => ":"
  | semicolon => ";"
  | bang => "!"
  | less => "<"
  | greater => ">"
  | plus => "+"
  | minus => "-"
  | star => "*"
  | slash => "/"
  | percent => "%"
  | assign => "="

/-- All symbols, none behind one that it starts with. -/
def longestFirst : List Symbol :=
  [strictEqual, strictNotEqual, equal, notEqual, lessEqual, greaterEqual, and, or, openParen,
    closeParen, openBracket, closeBracket, dot, comma, question, colon, semicolon, bang, less,
    greater, plus, minus, star, slash, percent, assign]

theorem mem_longestFirst (symbol : Symbol) : symbol ∈ longestFirst := by
  cases symbol <;> decide

end Symbol

/-- What a token is. -/
inductive TokenKind where
  | number (x : Float)
  | string (s : String)
  | identifier (name : String)
  | symbol (sign : Symbol)
deriving DecidableEq

/-- A token, and the number of bytes in front of it. -/
structure Token where
  kind : TokenKind
  offset : Nat
deriving DecidableEq

/-- A token as an error shows it: a string in quotes, a number with all its places. -/
def TokenKind.describe : TokenKind → String
  | number x => String.ofList (Number.plain x)
  | string s => String.ofList (Text.quoted s.toList)
  | identifier name => name
  | symbol sign => sign.text

end HttpDoctest
