import PostRules.Decimal.Text
import PostRules.Text.Quote

/-!
# YAML values

A YAML value is null, a boolean, a number, a string, a sequence, a mapping from values to
values in document order, or a value under a tag. A number is a non-negative integer below
`2^64`, a negative integer not below `-2^63`, or a binary64 float.

Two numbers are equal when they are the same kind of number with equal values; all NaNs are
equal to each other, and `0.0` equals `-0.0`. Two mappings are equal when they hold the same
keys with equal values, in any order. Tags are compared without a leading `!`.

Numbers are written as integers in decimal, and floats by their shortest digits: positionally
when the point falls within sixteen places, with an exponent otherwise, `.inf`, `-.inf` and
`.nan` for the special values.
-/

namespace PostRules.Yaml

/-- A YAML number. -/
inductive Number where
  | nonNeg (n : Nat)
  | neg (n : Int)
  | float (x : Float)
  deriving Inhabited

/-- A YAML value. -/
inductive Value where
  | null
  | bool (b : Bool)
  | number (n : Number)
  | string (s : String)
  | sequence (items : List Value)
  | mapping (entries : List (Value × Value))
  | tagged (tag : String) (value : Value)
  deriving Inhabited

namespace Number

/-- An integer as a YAML number: non-negative integers are of the first kind. -/
def ofInt (i : Int) : Number :=
  if i < 0 then .neg i else .nonNeg i.toNat

/-- How YAML numbers that are floats are written. -/
def floatFormat : Decimal.FloatFormat :=
  { layout := { pointAbove := -5, pointAtMost := some 16, pointZero := true, plusExponent := false }
    tie := .toEven
    nan := ".nan"
    infinity := ".inf" }

/-- The text of a number. -/
def text : Number → String
  | .nonNeg n => toString n
  | .neg n => toString n
  | .float x => floatFormat.render x

/-- Whether a float is NaN. -/
def floatIsNaN (x : Float) : Bool :=
  Decimal.isNaNBits x.toBits

/-- Equality of numbers: same kind and equal value, all NaNs equal. -/
def beq : Number → Number → Bool
  | .nonNeg a, .nonNeg b => a == b
  | .neg a, .neg b => a == b
  | .float a, .float b => (floatIsNaN a && floatIsNaN b) || a == b
  | _, _ => false

/-- The value as a natural number, if it is a non-negative integer. -/
def toNat? : Number → Option Nat
  | .nonNeg n => some n
  | _ => none

end Number

/-- A tag without its leading `!`, unless the tag is `!` alone. -/
def tagName (t : String) : String :=
  if t.startsWith "!" && t.length > 1 then (t.drop 1).toString else t

/-- The text of a tag: `!` and its name. -/
def tagText (t : String) : String :=
  "!" ++ tagName t

namespace Value

mutual
/-- Equality of values, mappings compared as sets of entries. -/
def beq : Value → Value → Bool
  | .null, .null => true
  | .bool a, .bool b => a == b
  | .number a, .number b => a.beq b
  | .string a, .string b => a == b
  | .sequence as, .sequence bs => beqList as bs
  | .mapping as, .mapping bs => as.length == bs.length && covers as bs
  | .tagged t a, .tagged u b => tagName t == tagName u && beq a b
  | _, _ => false

/-- Pointwise equality of two lists of values. -/
def beqList : List Value → List Value → Bool
  | [], [] => true
  | a :: as, b :: bs => beq a b && beqList as bs
  | _, _ => false

/-- Whether every entry of the first mapping is found, with an equal value, in the second. -/
def covers : List (Value × Value) → List (Value × Value) → Bool
  | [], _ => true
  | (k, v) :: rest, bs => bs.any (fun e => beq k e.1 && beq v e.2) && covers rest bs
end

instance : BEq Value := ⟨beq⟩

/-- The entry of a mapping under a key equal to `k`. -/
def lookup (entries : List (Value × Value)) (k : Value) : Option Value :=
  (entries.find? (fun e => beq e.1 k)).map (·.2)

/-- The value under a string key, if this is a mapping that has it. -/
def get? (v : Value) (key : String) : Option Value :=
  match v with
  | .mapping es => lookup es (.string key)
  | _ => none

/-- Whether the value is null. -/
def isNull : Value → Bool
  | .null => true
  | _ => false

/-- The value under any number of tags. -/
def untag : Value → Value
  | .tagged _ v => untag v
  | v => v

end Value

end PostRules.Yaml
