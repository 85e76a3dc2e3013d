/-!
# Reading 64-bit integers

A signed 64-bit integer is written as an optional `+` or `-` and at least one decimal digit.
Digits are read from the left, and the first fault met is the one reported: a character that is
not a digit, or a value that leaves the range `-2^63` to `2^63 - 1`.
-/

namespace PostRules.Decimal

/-- Why a text is not a 64-bit integer. -/
inductive IntError where
  | empty
  | invalidDigit
  | tooLarge
  | tooSmall
  deriving DecidableEq, Repr, Inhabited

/-- The text of a failure. -/
def IntError.message : IntError → String
  | .empty => "cannot parse integer from empty string"
  | .invalidDigit => "invalid digit found in string"
  | .tooLarge => "number too large to fit in target type"
  | .tooSmall => "number too small to fit in target type"

/-- Accumulates digits from the left into a magnitude, failing at the first character that is
not a digit or when the magnitude passes `bound`. -/
def accumulate (bound : Nat) (overflow : IntError) : Nat → List Char → Except IntError Nat
  | acc, [] => .ok acc
  | acc, c :: cs =>
    if c.isDigit then
      let acc := acc * 10 + (c.toNat - '0'.toNat)
      if acc > bound then .error overflow else accumulate bound overflow acc cs
    else .error .invalidDigit

/-- Reads a signed 64-bit integer. -/
def readInt64 (s : String) : Except IntError Int :=
  match s.toList with
  | [] => .error .empty
  | ['+'] | ['-'] => .error .invalidDigit
  | '-' :: ds => do
    let m ← accumulate (Nat.pow 2 63) .tooSmall 0 ds
    pure (-(m : Int))
  | '+' :: ds => do
    let m ← accumulate (Nat.pow 2 63 - 1) .tooLarge 0 ds
    pure (m : Int)
  | ds => do
    let m ← accumulate (Nat.pow 2 63 - 1) .tooLarge 0 ds
    pure (m : Int)

end PostRules.Decimal
