/-!
# Reading decimals

The grammar of a floating-point literal: an optional sign, then `inf`, `infinity` or `nan` in
any case, or digits with an optional point (at least one digit on one of its sides) and an
optional exponent `e` or `E` with its own optional sign. The value is the correctly rounded
binary64 value of the decimal; exponents far outside the binary64 range give zero or infinity
without computing the power.
-/

namespace PostRules.Decimal

/-- The digits at the front of a list of characters, and the rest. -/
def spanDigits (cs : List Char) : List Char × List Char :=
  (cs.takeWhile Char.isDigit, cs.dropWhile Char.isDigit)

/-- The value of a list of decimal digits. -/
def digitValue (ds : List Char) : Nat :=
  ds.foldl (fun acc c => acc * 10 + (c.toNat - '0'.toNat)) 0

/-- The binary64 value nearest to `m * 10^e`. -/
def scientific (m : Nat) (e : Int) : Float :=
  if m == 0 then 0.0
  else
    let size : Int := (Nat.toDigits 10 m).length
    if size + e > 311 then 1.0 / 0.0
    else if size + e < -330 then 0.0
    else if e < 0 then Float.ofScientific m true e.natAbs
    else Float.ofScientific m false e.toNat

/-- The unsigned part of a literal: digits, point and exponent, as mantissa and exponent. -/
def unsignedDecimal (cs : List Char) : Option (Nat × Int) :=
  let (whole, rest) := spanDigits cs
  let (frac, rest, hasPoint) := match rest with
    | '.' :: r => let (f, r) := spanDigits r; (f, r, true)
    | r => ([], r, false)
  let _ := hasPoint
  if whole.isEmpty && frac.isEmpty then none
  else
    let expPart : Option Int := match rest with
      | [] => some 0
      | c :: r =>
        if c == 'e' || c == 'E' then
          let (neg, r) := match r with
            | '-' :: r' => (true, r')
            | '+' :: r' => (false, r')
            | r' => (false, r')
          let (ds, r) := spanDigits r
          if ds.isEmpty || !r.isEmpty then none
          else some (if neg then -(digitValue ds : Int) else digitValue ds)
        else none
    expPart.map fun e => (digitValue (whole ++ frac), e - frac.length)

/-- Reads a floating-point literal. -/
def readFloat (s : String) : Option Float :=
  let cs := s.toList
  let (neg, body) := match cs with
    | '-' :: r => (true, r)
    | '+' :: r => (false, r)
    | r => (false, r)
  let lower := String.ofList (body.map Char.toLower)
  let magnitude : Option Float :=
    if lower == "inf" || lower == "infinity" then some (1.0 / 0.0)
    else if lower == "nan" then some (0.0 / 0.0)
    else (unsignedDecimal body).map fun (m, e) => scientific m e
  magnitude.map fun x => if neg then -x else x

end PostRules.Decimal
