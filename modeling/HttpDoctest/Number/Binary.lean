set_option autoImplicit false

/-! # Exact arithmetic on doubles

A finite double is a sign, a natural mantissa and a power of two. On that form it is decided
exactly whether a double is an integer and what the remainder of a division is; no rounding
takes part.
-/

namespace HttpDoctest.Number

open Float.Model (UnpackedFloat Format)

/-- A double taken apart into its sign, mantissa and exponent of two. -/
def unpack (x : Float) : UnpackedFloat :=
  x.toModel.unpack

/-- The double that stands for a number taken apart. -/
def pack (u : UnpackedFloat) : Float :=
  .ofModel (.pack u)

/-- The double closest to an integer, a tie going to the even mantissa. -/
def ofInt (n : Int) : Float :=
  .ofModel (.ofInt n)

/-- The double closest to `m * 10 ^ e`, a tie going to the even mantissa. -/
def ofDecimal (m : Nat) (e : Int) : Float :=
  .ofModel (.ofScientific m e)

/-- The value that is not a number. -/
def nan : Float := pack .notANumber

/-- The value above all numbers. -/
def infinity : Float := pack (.infinity .positive)

/-- The zero with a sign. -/
def zero (sign : UnpackedFloat.Sign) : Float := pack (.zero sign)

/-- The integer `m * 2 ^ e`, if it is one. -/
def scaled? (m : Nat) (e : Int) : Option Nat :=
  if 0 ≤ e then some (m * Nat.pow 2 e.toNat)
  else if m % Nat.pow 2 (-e).toNat = 0 then some (m / Nat.pow 2 (-e).toNat) else none

/-- The integer that a double is, if it is one. Both zeros are the integer zero. -/
def toInt? (x : Float) : Option Int :=
  match unpack x with
  | .zero _ => some 0
  | .finite sign m e _ => (scaled? m e).map fun n => sign.apply n
  | .infinity _ => none
  | .notANumber => none

/-- What is left of `x` after taking away `y` as many whole times as it fits, with the sign of
`x`. -/
def remainder (x y : Float) : Float :=
  match unpack x, unpack y with
  | .finite sign m e _, .finite _ n f _ =>
      let low := min e f
      let r := (m * Nat.pow 2 (e - low).toNat) % (n * Nat.pow 2 (f - low).toNat)
      if r = 0 then zero sign else pack (UnpackedFloat.round Format.binary64 sign r low)
  | .finite .., .infinity _ => x
  | .zero _, .finite .. => x
  | .zero _, .infinity _ => x
  | _, _ => nan

end HttpDoctest.Number
