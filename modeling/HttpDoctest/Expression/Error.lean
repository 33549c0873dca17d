import HttpDoctest.Text.Quoted

set_option autoImplicit false

/-! # Errors of expressions

What can go wrong when an expression is read and when it is evaluated. Places in the source
are counted in bytes of UTF-8.
-/

namespace HttpDoctest

/-- Why an expression cannot be read or has no value. -/
inductive ExprError where
  /-- No token starts with this character. -/
  | unexpectedCharacter (character : Char) (offset : Nat)
  /-- A string literal has no closing quote. -/
  | unterminatedString (offset : Nat)
  /-- A numeral has an exponent mark without digits. -/
  | invalidNumber (literal : String) (offset : Nat)
  /-- A token stands where the grammar does not allow it. -/
  | unexpectedToken (found : String) (offset : Nat)
  /-- The tokens end too early. -/
  | unexpectedEnd
  /-- A name stands for nothing. -/
  | unknownIdentifier (name : String)
  /-- Something other than a member of `this` or of the store is assigned to. -/
  | invalidAssignmentTarget
  /-- A part of the response is assigned to. -/
  | readOnlyProperty (name : String)
  /-- A property of `undefined` or `null` is read. -/
  | propertyOfNothing (property object : String)
  /-- A value has no method of this name. -/
  | notAFunction (name : String)
  /-- Something other than a method is called. -/
  | unsupportedCall
deriving DecidableEq, Repr

/-- The text of an error. -/
def ExprError.message : ExprError → String
  | unexpectedCharacter character offset =>
      "Unexpected character '" ++ String.ofList (Text.asciiChar character) ++ "' at offset " ++
        toString offset
  | unterminatedString offset =>
      "Unterminated string literal starting at offset " ++ toString offset
  | invalidNumber literal offset =>
      "Invalid number literal \"" ++ literal ++ "\" at offset " ++ toString offset
  | unexpectedToken found offset =>
      "Unexpected token \"" ++ found ++ "\" at offset " ++ toString offset
  | unexpectedEnd => "Unexpected end of expression"
  | unknownIdentifier name => name ++ " is not defined"
  | invalidAssignmentTarget => "Only store.<key>, store[<key>] and this.<key> can be assigned"
  | readOnlyProperty name => "this." ++ name ++ " is read-only"
  | propertyOfNothing property object =>
      "Cannot read property '" ++ property ++ "' of " ++ object
  | notAFunction name => name ++ " is not a function"
  | unsupportedCall => "Only method calls like a.includes(b) are supported"

end HttpDoctest
