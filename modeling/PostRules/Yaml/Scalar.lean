import PostRules.Yaml.Value
import PostRules.Decimal.Read

/-!
# What a scalar means

A plain scalar without a tag is read by its form, in this order:

* empty, `~`, `null`, `Null`, `NULL`: null;
* `true`, `True`, `TRUE`, `false`, `False`, `FALSE`: a boolean;
* an integer: decimal, or hexadecimal, octal or binary after `0x`, `0o`, `0b`, with an optional
  sign; digits after a leading zero make a string instead;
* a float: decimal literal with a finite value, or `.inf`, `-.inf`, `.nan` in three spellings;
* anything else: a string.

A scalar tagged `!!bool`, `!!int`, `!!float` or `!!null` must have that form; quoted scalars
and other tags give strings.
-/

namespace PostRules.Yaml

/-- A scalar as it is handed on: its kind and value. Integers beyond 64 bits are kept apart,
because few readers take them. -/
inductive Scalar where
  | unit
  | bool (b : Bool)
  | nonNeg (n : Nat)
  | neg (i : Int)
  | wideNonNeg (n : Nat)
  | wideNeg (i : Int)
  | float (x : Float)
  | str (s : String)
  deriving Inhabited

/-- The full name of a tag of the core schema. -/
def coreTag (name : String) : String :=
  "tag:yaml.org,2002:" ++ name

/-- Whether a scalar spells null. -/
def spellsNull (s : String) : Bool :=
  s == "null" || s == "Null" || s == "NULL" || s == "~"

/-- The boolean a scalar spells. -/
def spellsBool (s : String) : Option Bool :=
  if s == "true" || s == "True" || s == "TRUE" then some true
  else if s == "false" || s == "False" || s == "FALSE" then some false
  else none

/-- The value of a digit in a radix. -/
def digitIn (radix : Nat) (c : Char) : Option Nat :=
  let v :=
    if '0' ≤ c && c ≤ '9' then some (c.toNat - '0'.toNat)
    else if 'a' ≤ c && c ≤ 'z' then some (c.toNat - 'a'.toNat + 10)
    else if 'A' ≤ c && c ≤ 'Z' then some (c.toNat - 'A'.toNat + 10)
    else none
  v.bind fun d => if d < radix then some d else none

/-- An integer numeral in a radix: an optional `+` (or `-`, when `signed`), then at least one
digit. -/
def readRadix (s : String) (radix : Nat) (signed : Bool) : Option Int :=
  let (neg, body) := match s.toList with
    | '+' :: r => (false, r)
    | '-' :: r => if signed then (true, r) else (false, '-' :: r)
    | r => (false, r)
  if body.isEmpty then none
  else
    let digits := body.mapM (digitIn radix)
    digits.map fun ds =>
      let v : Int := ds.foldl (fun (acc : Int) (d : Nat) => acc * radix + d) 0
      if neg then -v else v

/-- Whether a scalar is a leading zero followed by more digits (after an optional sign). -/
def leadingZeroDigits (s : String) : Bool :=
  let body := match s.toList with
    | '-' :: r => r
    | '+' :: r => r
    | r => r
  match body with
  | '0' :: rest => !rest.isEmpty && rest.all Char.isDigit
  | _ => false

/-- Whether a text starts with a sign. -/
def startsWithSign (s : String) : Bool :=
  s.startsWith "+" || s.startsWith "-"

/-- The radix prefixes, in the order they are tried. -/
def radixPrefixes : List (String × Nat) :=
  [("0x", 16), ("0o", 8), ("0b", 2)]

/-- A non-negative integer below `bound`, in any radix, with an optional leading `+`. -/
def readUnsigned (s : String) (bound : Nat) : Option Nat :=
  let inRange := fun (v : Int) => if 0 ≤ v && v < bound then some v.toNat else none
  let body := if s.startsWith "+" then (s.drop 1).toString else s
  let viaPrefix := radixPrefixes.findSome? fun (pre, radix) =>
    if body.startsWith pre then
      let rest := (body.drop pre.length).toString
      if startsWithSign rest then some none
      else (readRadix rest radix false).bind inRange |>.map some
    else none
  match viaPrefix with
  | some r => r
  | none =>
    if startsWithSign body || leadingZeroDigits s then none
    else (readRadix body 10 false).bind inRange

/-- A negative (or any) integer not below `-bound` and below `bound`, in any radix after a
`-` prefix, or in decimal. -/
def readSigned (s : String) (bound : Nat) : Option Int :=
  let inRange := fun (v : Int) => if -(bound : Int) ≤ v && v < bound then some v else none
  let viaPrefix := radixPrefixes.findSome? fun (pre, radix) =>
    if s.startsWith ("-" ++ pre) then
      (readRadix ("-" ++ (s.drop (pre.length + 1)).toString) radix true).bind inRange
    else none
  match viaPrefix with
  | some v => some v
  | none => if leadingZeroDigits s then none else (readRadix s 10 true).bind inRange

/-- A float scalar: the three spellings of infinity and NaN, or a decimal literal whose value
is finite. -/
def readYamlFloat (s : String) : Option Float :=
  let unsigned := if s.startsWith "+" then (s.drop 1).toString else s
  if s.startsWith "+" && startsWithSign unsigned then none
  else if unsigned == ".inf" || unsigned == ".Inf" || unsigned == ".INF" then some (1.0 / 0.0)
  else if s == "-.inf" || s == "-.Inf" || s == "-.INF" then some (-(1.0 / 0.0))
  else if s == ".nan" || s == ".NaN" || s == ".NAN" then some (0.0 / 0.0)
  else match Decimal.readFloat unsigned with
    | some x => if x.isFinite then some x else none
    | none => none

/-- An integer scalar, tried as 64-bit unsigned, 64-bit signed, then 128 bits. -/
def readInteger (s : String) : Option Scalar :=
  match readUnsigned s (Nat.pow 2 64) with
  | some n => some (.nonNeg n)
  | none =>
    match readSigned s (Nat.pow 2 63) with
    | some i => some (if i < 0 then .neg i else .nonNeg i.toNat)
    | none =>
      match readUnsigned s (Nat.pow 2 128) with
      | some n => some (.wideNonNeg n)
      | none => (readSigned s (Nat.pow 2 127)).map .wideNeg

/-- What a plain scalar without a tag means. -/
def resolvePlain (s : String) : Scalar :=
  if s.isEmpty || spellsNull s then .unit
  else match spellsBool s with
    | some b => .bool b
    | none =>
      match readInteger s with
      | some v => v
      | none =>
        if leadingZeroDigits s then .str s
        else match readYamlFloat s with
          | some x => .float x
          | none => .str s

end PostRules.Yaml
