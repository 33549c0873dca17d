set_option autoImplicit false

/-! # Readings

What a reader takes off the front of a list. A reading carries a bound on what it leaves, so
that a reader that calls itself on the rest is seen to end.
-/

namespace HttpDoctest

/-- A value read off the front of a list, and the rest of the list, of length below `bound`. -/
structure Reading (τ α : Type) (bound : Nat) where
  value : α
  rest : List τ
  rest_lt : rest.length < bound

namespace Reading

variable {τ α β : Type} {m n : Nat}

/-- The same reading under a larger bound. -/
def weaken (r : Reading τ α m) (h : m ≤ n) : Reading τ α n where
  value := r.value
  rest := r.rest
  rest_lt := Nat.lt_of_lt_of_le r.rest_lt h

/-- The same reading with its value changed. -/
def map (f : α → β) (r : Reading τ α n) : Reading τ β n where
  value := f r.value
  rest := r.rest
  rest_lt := r.rest_lt

end Reading

end HttpDoctest
