import PostRules.Decimal.Shortest

/-!
# Writing decimals

A decimal `digits * 10^exp` is written either positionally (`1500.0`, `0.0015`) or with an
exponent (`1.5e20`). Where the point falls decides which: with `n` digits, the point stands
`n + exp` places after the first digit, and a layout says for which places positional notation
is used. A float format adds the shortest-digit tie rule and the texts of NaN and infinity.
-/

namespace PostRules.Decimal

/-- How a decimal is laid out as text. -/
structure Layout where
  /-- Positional notation is used when the point position is above this bound... -/
  pointAbove : Int
  /-- ...and at most this one, if there is one. -/
  pointAtMost : Option Int
  /-- Whether a whole number is written with `.0`. -/
  pointZero : Bool
  /-- Whether a positive exponent is written with `+`. -/
  plusExponent : Bool

/-- A string of `n` zeros. -/
def zeros (n : Nat) : String :=
  String.ofList (List.replicate n '0')

/-- The text of a non-negative decimal under a layout. -/
def Layout.render (l : Layout) (d : Dec) : String :=
  if d.digits == 0 then (if l.pointZero then "0.0" else "0") else
  let ds := Nat.toDigits 10 d.digits
  let n := ds.length
  let point : Int := n + d.exp
  let positional := l.pointAbove < point && (match l.pointAtMost with
    | some top => point ≤ top
    | none => true)
  if positional then
    if d.exp ≥ 0 then
      String.ofList ds ++ zeros d.exp.toNat ++ (if l.pointZero then ".0" else "")
    else if point > 0 then
      String.ofList (ds.take point.toNat) ++ "." ++ String.ofList (ds.drop point.toNat)
    else
      "0." ++ zeros (-point).toNat ++ String.ofList ds
  else
    let e := point - 1
    let expText := if e < 0 then "-" ++ toString e.natAbs
      else (if l.plusExponent then "+" else "") ++ toString e.natAbs
    match ds with
    | [c] => String.singleton c ++ "e" ++ expText
    | c :: rest => String.singleton c ++ "." ++ String.ofList rest ++ "e" ++ expText
    | [] => "0"

/-- How a binary64 value is written: the layout of its shortest digits, the tie rule, and the
texts of NaN and of positive infinity (negative infinity takes a `-` before it). -/
structure FloatFormat where
  layout : Layout
  tie : Tie
  nan : String
  infinity : String

/-- Whether the bits of a binary64 value are those of NaN. -/
def isNaNBits (b : UInt64) : Bool :=
  (b >>> 52) &&& 0x7FF == 0x7FF && b &&& 0xFFFFFFFFFFFFF != 0

/-- Whether the bits of a binary64 value are those of an infinity. -/
def isInfBits (b : UInt64) : Bool :=
  (b >>> 52) &&& 0x7FF == 0x7FF && b &&& 0xFFFFFFFFFFFFF == 0

/-- The text of a binary64 value given by its bits. -/
def FloatFormat.renderBits (f : FloatFormat) (b : UInt64) : String :=
  let negative := b >>> 63 == 1
  let sign := if negative then "-" else ""
  if isNaNBits b then f.nan
  else if isInfBits b then sign ++ f.infinity
  else
    let x := Binary.ofBits b
    if x.m == 0 then sign ++ f.layout.render ⟨0, 0⟩
    else sign ++ f.layout.render (x.shortest f.tie)

/-- The text of a binary64 value. -/
def FloatFormat.render (f : FloatFormat) (x : Float) : String :=
  f.renderBits x.toBits

end PostRules.Decimal
