import PostRules.Decimal.Text
import PostRules.Text.Quote

/-!
# Reading JSON text into typed values

A reader walks the bytes of JSON text and builds typed values directly: strings, booleans,
unsigned integers, optional values, lists, and records with named fields. Blanks between tokens
are spaces, tabs, line feeds and carriage returns.

Every error names a place: the line, counted from one, and the column, counted in bytes since
the last line feed. A fault found while looking at the next byte is placed after that byte; a
fault found after taking bytes is placed after them. A value of the wrong kind is placed after
the value, or at the bracket that opens it; a record's own fault, such as a missing field, is
placed where its closing brace has been passed.

Numbers keep their kind: an integer below `2^64`, a negative integer not below `-2^63`, or
else a binary64 float computed from the decimal digits and a power of ten.

## Contents

* `JsonError` and its `message`.
* `readString`, `readBool`, `readUnsigned`, `readOptional`, `readList`, `readRecord`.
* `readAll`: a reader that must use the whole text.
-/

namespace PostRules.Json

/-! ### Errors -/

/-- What went wrong in reading JSON text. -/
inductive Fault where
  | eofInList
  | eofInObject
  | eofInString
  | eofInValue
  | expectedColon
  | expectedListCommaOrEnd
  | expectedObjectCommaOrEnd
  | expectedIdent
  | expectedValue
  | invalidEscape
  | invalidNumber
  | numberOutOfRange
  | controlCharacter
  | keyMustBeString
  | loneSurrogate
  | trailingComma
  | trailingCharacters
  | unexpectedEndOfHexEscape
  /-- A value was read but does not fit; the text says why. -/
  | mismatch (text : String)
  deriving Inhabited

/-- The text of a fault. -/
def Fault.text : Fault → String
  | .eofInList => "EOF while parsing a list"
  | .eofInObject => "EOF while parsing an object"
  | .eofInString => "EOF while parsing a string"
  | .eofInValue => "EOF while parsing a value"
  | .expectedColon => "expected `:`"
  | .expectedListCommaOrEnd => "expected `,` or `]`"
  | .expectedObjectCommaOrEnd => "expected `,` or `\x7d`"
  | .expectedIdent => "expected ident"
  | .expectedValue => "expected value"
  | .invalidEscape => "invalid escape"
  | .invalidNumber => "invalid number"
  | .numberOutOfRange => "number out of range"
  | .controlCharacter => "control character (\\u0000-\\u001F) found while parsing a string"
  | .keyMustBeString => "key must be a string"
  | .loneSurrogate => "lone leading surrogate in hex escape"
  | .trailingComma => "trailing comma"
  | .trailingCharacters => "trailing characters"
  | .unexpectedEndOfHexEscape => "unexpected end of hex escape"
  | .mismatch t => t

/-- A fault and, once known, its line and column. -/
structure JsonError where
  fault : Fault
  place : Option (Nat × Nat) := none
  deriving Inhabited

/-- The text of an error. -/
def JsonError.message (e : JsonError) : String :=
  e.fault.text ++ match e.place with
    | some (line, column) => " at line " ++ toString line ++ " column " ++ toString column
    | none => ""

/-! ### What a mismatch says -/

/-- How a float is written where it does not fit: shortest digits, positionally when the point
falls within sixteen places, with a signed exponent otherwise. -/
def mismatchFloat : Decimal.FloatFormat :=
  { layout := { pointAbove := -5, pointAtMost := some 16, pointZero := true, plusExponent := true }
    tie := .toEven
    nan := "NaN"
    infinity := "inf" }

/-- A JSON value as named where it does not fit. -/
inductive Found where
  | null
  | bool (b : Bool)
  | unsigned (n : Nat)
  | signed (i : Int)
  | float (x : Float)
  | string (s : String)
  | list
  | object

/-- The name of a value that does not fit. -/
def Found.describe : Found → String
  | .null => "null"
  | .bool b => "boolean `" ++ toString b ++ "`"
  | .unsigned n => "integer `" ++ toString n ++ "`"
  | .signed i => "integer `" ++ toString i ++ "`"
  | .float x => "floating point `" ++ mismatchFloat.render x ++ "`"
  | .string s => "string " ++ Text.quote s
  | .list => "sequence"
  | .object => "map"

/-- The fault of a value of the wrong kind. -/
def invalidType (found : Found) (expected : String) : Fault :=
  .mismatch ("invalid type: " ++ found.describe ++ ", expected " ++ expected)

/-- The fault of a value of the right kind but not an allowed one. -/
def invalidValue (found : Found) (expected : String) : Fault :=
  .mismatch ("invalid value: " ++ found.describe ++ ", expected " ++ expected)

/-! ### The reader -/

/-- A reader of JSON text: it sees the bytes, keeps its index, and may fail. The index stays
where a failure left it, so a record can still be closed after one. -/
abbrev ReadM := ReaderT ByteArray (ExceptT JsonError (StateM Nat))

/-- The line and column of a byte index. -/
def placeOf (bytes : ByteArray) (i : Nat) : Nat × Nat :=
  let before := (bytes.extract 0 i).toList
  let lineStart := match (before.zipIdx.filter (·.1 == 10)).getLast? with
    | some (_, j) => j + 1
    | none => 0
  (1 + (before.take lineStart).count 10, i - lineStart)

/-- The byte at the index. -/
def peek : ReadM (Option UInt8) := do
  let bytes ← read
  let i ← get
  pure bytes[i]?

/-- Moves past one byte. -/
def eat : ReadM Unit :=
  modify (· + 1)

/-- The byte at the index, moving past it. -/
def next : ReadM (Option UInt8) := do
  let b ← peek
  if b.isSome then eat
  pure b

/-- Fails with a fault placed at the index. -/
def fail (f : Fault) : ReadM α := do
  throw { fault := f, place := some (placeOf (← read) (← get)) }

/-- Fails with a fault placed after the byte at the index. -/
def failAhead (f : Fault) : ReadM α := do
  let bytes ← read
  throw { fault := f, place := some (placeOf bytes (min bytes.size ((← get) + 1))) }

/-- An error placed at the index, if it has no place yet. -/
def placed (e : JsonError) : ReadM JsonError := do
  if e.place.isSome then pure e
  else pure { e with place := some (placeOf (← read) (← get)) }

/-- Runs a reader; an error without a place is placed where it stopped. -/
def placing (x : ReadM α) : ReadM α :=
  tryCatch x fun e => do throw (← placed e)

/-- How many more bytes there are, as a bound on loops. -/
def remaining : ReadM Nat := do
  pure ((← read).size - (← get) + 1)

/-- Skips blanks and returns the byte after them. -/
def skipBlanks : ReadM (Option UInt8) := do
  let rec go : Nat → ReadM (Option UInt8)
    | 0 => peek
    | fuel + 1 => do
      match ← peek with
      | some 32 | some 10 | some 9 | some 13 => eat; go fuel
      | b => pure b
  go (← remaining)

/-- Reads the rest of a keyword whose first byte was taken. -/
def readIdent (rest : List UInt8) : ReadM Unit := do
  for expected in rest do
    match ← next with
    | none => fail .eofInValue
    | some b => if b != expected then fail .expectedIdent

/-! ### Strings -/

/-- The value of a hexadecimal digit byte. -/
def hexValue (b : UInt8) : Option Nat :=
  if 48 ≤ b && b ≤ 57 then some (b.toNat - 48)
  else if 97 ≤ b && b ≤ 102 then some (b.toNat - 87)
  else if 65 ≤ b && b ≤ 70 then some (b.toNat - 55)
  else none

/-- Reads the four hexadecimal digits of a `\u` escape. -/
def readHex4 : ReadM Nat := do
  let bytes ← read
  let i ← get
  if i + 4 > bytes.size then
    set bytes.size
    fail .eofInString
  else
    set (i + 4)
    let ds := (bytes.extract i (i + 4)).toList.mapM hexValue
    match ds with
    | some ds => pure (ds.foldl (fun acc d => acc * 16 + d) 0)
    | none => fail .invalidEscape

/-- The UTF-8 bytes of a character. -/
def utf8 (c : Char) : List UInt8 :=
  (String.singleton c).toUTF8.toList

/-- Reads the escape after a backslash into the bytes of the string. -/
def readEscape (out : Array UInt8) : ReadM (Array UInt8) := do
  let some b ← next | fail .eofInString
  match b with
  | 34 => pure (out.push 34)
  | 92 => pure (out.push 92)
  | 47 => pure (out.push 47)
  | 98 => pure (out.push 8)
  | 102 => pure (out.push 12)
  | 110 => pure (out.push 10)
  | 114 => pure (out.push 13)
  | 116 => pure (out.push 9)
  | 117 =>
    let n ← readHex4
    if 0xDC00 ≤ n && n ≤ 0xDFFF then fail .loneSurrogate
    if n < 0xD800 || n > 0xDBFF then return out ++ (utf8 (Char.ofNat n)).toArray
    -- a leading surrogate must be followed by an escaped trailing one
    match ← peek with
    | some 92 => eat
    | some _ => eat; fail .unexpectedEndOfHexEscape
    | none => fail .eofInString
    match ← peek with
    | some 117 => eat
    | some _ => eat; fail .unexpectedEndOfHexEscape
    | none => fail .eofInString
    let n2 ← readHex4
    if n2 < 0xDC00 || n2 > 0xDFFF then fail .loneSurrogate
    let c := (((n - 0xD800) <<< 10) ||| (n2 - 0xDC00)) + 0x10000
    pure (out ++ (utf8 (Char.ofNat c)).toArray)
  | _ => fail .invalidEscape

/-- Reads the rest of a string whose opening quote was taken. -/
def readStringBody : ReadM String := do
  let rec go (out : Array UInt8) : Nat → ReadM (Array UInt8)
    | 0 => fail .eofInString
    | fuel + 1 => do
      match ← peek with
      | none => fail .eofInString
      | some 34 => eat; pure out
      | some 92 => eat; go (← readEscape out) fuel
      | some b =>
        if b < 32 then eat; fail .controlCharacter
        else eat; go (out.push b) fuel
  let bytes ← go #[] (← remaining)
  pure ((String.fromUTF8? (ByteArray.mk bytes)).getD "")

/-- Skips the rest of a string whose opening quote was taken; escapes are checked for their
form only. -/
def skipStringBody : ReadM Unit := do
  let rec go : Nat → ReadM Unit
    | 0 => fail .eofInString
    | fuel + 1 => do
      match ← peek with
      | none => fail .eofInString
      | some 34 => eat
      | some 92 =>
        eat
        match ← next with
        | none => fail .eofInString
        | some b =>
          if b == 117 then let _ ← readHex4
          else if [34, 92, 47, 98, 102, 110, 114, 116].contains b then pure ()
          else fail .invalidEscape
        go fuel
      | some b => if b < 32 then fail .controlCharacter else eat; go fuel
  go (← remaining)

/-! ### Numbers -/

/-- A number as read: its kind and value. -/
inductive Num where
  | unsigned (n : Nat)
  | signed (i : Int)
  | float (x : Float)

/-- What a number is named where it does not fit. -/
def Num.found : Num → Found
  | .unsigned n => .unsigned n
  | .signed i => .signed i
  | .float x => .float x

/-- The powers of ten that a float is scaled by, up to `10^308`. -/
def powerOfTen (k : Nat) : Option Float :=
  if k ≤ 308 then some (Float.ofScientific 1 false k) else none

/-- The float of a significand and a power of ten, scaled step by step; too large is out of
range, too small is zero. -/
def floatOfParts (positive : Bool) (significand : Nat) (exponent : Int) : ReadM Float := do
  let rec go (f : Float) (e : Int) : Nat → ReadM Float
    | 0 => pure f
    | fuel + 1 =>
      match powerOfTen e.natAbs with
      | some p =>
        if e ≥ 0 then
          let f := f * p
          if f.isInf then fail .numberOutOfRange else pure f
        else pure (f / p)
      | none =>
        if f == 0 then pure f
        else if e ≥ 0 then fail .numberOutOfRange
        else go (f / 1e308) (e + 308) fuel
  let f ← go (Float.ofScientific significand false 0) exponent 8
  pure (if positive then f else -f)

/-- Digits taken while they come, with their count. -/
def takeDigits (acc : Nat) (count : Nat) : Nat → ReadM (Nat × Nat)
  | 0 => pure (acc, count)
  | fuel + 1 => do
    match ← peek with
    | some b => if 48 ≤ b && b ≤ 57 then eat; takeDigits (acc * 10 + (b.toNat - 48)) (count + 1) fuel
                else pure (acc, count)
    | none => pure (acc, count)

/-- The limit past which a significand stops growing. -/
def significandLimit : Nat := Nat.pow 2 64

/-- Reads an exponent after its `e` and makes the float. -/
def readExponent (positive : Bool) (significand : Nat) (start : Int) : ReadM Float := do
  eat
  let positiveExp ← match ← peek with
    | some 43 => do eat; pure true
    | some 45 => do eat; pure false
    | _ => pure true
  let some first ← next | fail .eofInValue
  if !(48 ≤ first && first ≤ 57) then fail .invalidNumber
  -- the exponent's digits, until it would pass the largest 32-bit integer
  let rec digits (exp : Nat) : Nat → ReadM (Option Nat)
    | 0 => pure (some exp)
    | fuel + 1 => do
      match ← peek with
      | some b =>
        if 48 ≤ b && b ≤ 57 then
          eat
          let e := exp * 10 + (b.toNat - 48)
          if e ≥ Nat.pow 2 31 then pure none else digits e fuel
        else pure (some exp)
      | none => pure (some exp)
  match ← digits (first.toNat - 48) (← remaining) with
  | none =>
    if significand != 0 && positiveExp then fail .numberOutOfRange
    let _ ← takeDigits 0 0 (← remaining)
    pure (if positive then 0.0 else -0.0)
  | some exp =>
    let e := if positiveExp then start + exp else start - exp
    floatOfParts positive significand e

/-- Reads the digits after a decimal point, then an exponent if one follows. Digits past what
a significand holds only move nothing. -/
def readDecimal (positive : Bool) (significand : Nat) (before : Int) : ReadM Float := do
  eat
  let rec go (sig : Nat) (after : Int) (overflowed : Bool) : Nat → ReadM (Nat × Int × Nat)
    | 0 => pure (sig, after, 0)
    | fuel + 1 => do
      match ← peek with
      | some b =>
        if 48 ≤ b && b ≤ 57 then
          eat
          if overflowed then
            let (s, a, n) ← go sig after true fuel
            pure (s, a, n + 1)
          else
            let s := sig * 10 + (b.toNat - 48)
            if s ≥ significandLimit then
              let (s, a, n) ← go sig after true fuel
              pure (s, a, n + 1)
            else
              let (s, a, n) ← go s (after - 1) false fuel
              pure (s, a, n + 1)
        else pure (sig, after, 0)
      | none => pure (sig, after, 0)
  let (sig, after, count) ← go significand 0 false (← remaining)
  if count == 0 then
    match ← peek with
    | some _ => failAhead .invalidNumber
    | none => failAhead .eofInValue
  match ← peek with
  | some 101 | some 69 => readExponent positive sig (before + after)
  | _ => floatOfParts positive sig (before + after)

/-- Reads a number whose sign, if any, was taken. -/
def readNumber (positive : Bool) : ReadM Num := do
  let some first ← next | fail .eofInValue
  let rest := fun (sig : Nat) => do
    match ← peek with
    | some 46 => return Num.float (← readDecimal positive sig 0)
    | some 101 | some 69 => return Num.float (← readExponent positive sig 0)
    | _ =>
      if positive then return .unsigned sig
      else if sig == 0 || sig > Nat.pow 2 63 then return .float (-(Float.ofScientific sig false 0))
      else return .signed (-(sig : Int))
  if first == 48 then
    match ← peek with
    | some b => if 48 ≤ b && b ≤ 57 then failAhead .invalidNumber else rest 0
    | none => rest 0
  else if 49 ≤ first && first ≤ 57 then
    let rec go (sig : Nat) : Nat → ReadM Num
      | 0 => rest sig
      | fuel + 1 => do
        match ← peek with
        | some b =>
          if 48 ≤ b && b ≤ 57 then
            let s := sig * 10 + (b.toNat - 48)
            if s ≥ significandLimit then
              -- too long for an integer: count the remaining digits as powers of ten
              let (_, extra) ← takeDigits 0 0 (← remaining)
              match ← peek with
              | some 46 => return .float (← readDecimal positive sig extra)
              | some 101 | some 69 => return .float (← readExponent positive sig extra)
              | _ => return .float (← floatOfParts positive sig extra)
            else eat; go s fuel
          else rest sig
        | none => rest sig
    go (first.toNat - 48) (← remaining)
  else fail .invalidNumber

/-- Skips a number whose sign, if any, was taken; only its form is checked. -/
def skipNumber : ReadM Unit := do
  let skipExponent : ReadM Unit := do
    eat
    match ← peek with
    | some 43 | some 45 => eat
    | _ => pure ()
    match ← next with
    | some b => if !(48 ≤ b && b ≤ 57) then fail .invalidNumber
    | none => fail .invalidNumber
    let _ ← takeDigits 0 0 (← remaining)
  match ← next with
  | some 48 =>
    match ← peek with
    | some b => if 48 ≤ b && b ≤ 57 then failAhead .invalidNumber
    | none => pure ()
  | some b =>
    if 49 ≤ b && b ≤ 57 then let _ ← takeDigits 0 0 (← remaining)
    else fail .invalidNumber
  | none => fail .invalidNumber
  match ← peek with
  | some 46 =>
    eat
    let (_, n) ← takeDigits 0 0 (← remaining)
    if n == 0 then failAhead .invalidNumber
    match ← peek with
    | some 101 | some 69 => skipExponent
    | _ => pure ()
  | some 101 | some 69 => skipExponent
  | _ => pure ()

/-! ### Values of the wrong kind -/

/-- The error for the value ahead, which is not of the kind expected: the value is read to
name it, and the error is placed after it. -/
def mismatchAhead (expected : String) : ReadM α := do
  let found ← match ← peek with
    | some 110 => do eat; readIdent [117, 108, 108]; pure Found.null
    | some 116 => do eat; readIdent [114, 117, 101]; pure (Found.bool true)
    | some 102 => do eat; readIdent [97, 108, 115, 101]; pure (Found.bool false)
    | some 45 => do eat; pure (← readNumber false).found
    | some b =>
      if 48 ≤ b && b ≤ 57 then do pure (← readNumber true).found
      else if b == 34 then do eat; pure (Found.string (← readStringBody))
      else if b == 91 then pure Found.list
      else if b == 123 then pure Found.object
      else failAhead .expectedValue
    | none => failAhead .expectedValue
  fail (invalidType found expected)

/-- The fault of a frame's bad follower: a list or an object that is not continued by a comma
or closed. -/
def frameFault (frame : UInt8) : Fault :=
  if frame == 91 then .expectedListCommaOrEnd else .expectedObjectCommaOrEnd

/-- The fault of a frame that the text ends in. -/
def frameEof (frame : UInt8) : Fault :=
  if frame == 91 then .eofInList else .eofInObject

/-- After a value inside open brackets (innermost first): closes what is closed, and stops at
a comma taken or at the next value, returning the brackets still open; nothing once all are
closed. Right after an opening bracket no comma is expected. -/
def closeFrames (stack : List UInt8) (afterValue : Bool) : Nat → ReadM (Option (List UInt8))
  | 0 => pure none
  | fuel + 1 => do
    match stack with
    | [] => pure none
    | frame :: outer =>
      let other : ReadM (Option (List UInt8)) :=
        if afterValue then failAhead (frameFault frame) else pure (some stack)
      match ← skipBlanks with
      | some 44 => if afterValue then do eat; pure (some stack) else other
      | some b =>
        if (b == 93 && frame == 91) || (b == 125 && frame == 123) then do
          eat
          if outer.isEmpty then pure none else closeFrames outer true fuel
        else other
      | none => failAhead (frameEof frame)

/-- Skips the value ahead, of any kind, checking only its form. -/
def skipValue : ReadM Unit := do
  let rec go (stack : List UInt8) : Nat → ReadM Unit
    | 0 => pure ()
    | fuel + 1 => do
      let some b ← skipBlanks | failAhead .eofInValue
      let opened ← match b with
        | 110 => do eat; readIdent [117, 108, 108]; pure false
        | 116 => do eat; readIdent [114, 117, 101]; pure false
        | 102 => do eat; readIdent [97, 108, 115, 101]; pure false
        | 45 => do eat; skipNumber; pure false
        | 34 => do eat; skipStringBody; pure false
        | 91 | 123 => do eat; pure true
        | _ => if 48 ≤ b && b ≤ 57 then do skipNumber; pure false else failAhead .expectedValue
      let stack := if opened then b :: stack else stack
      match ← closeFrames stack (!opened) (← remaining) with
      | none => pure ()
      | some stack =>
        if stack.head? == some 123 then
          match ← skipBlanks with
          | some 34 => eat
          | some _ => failAhead .keyMustBeString
          | none => failAhead .eofInObject
          skipStringBody
          match ← skipBlanks with
          | some 58 => eat
          | some _ => failAhead .expectedColon
          | none => failAhead .eofInObject
        go stack fuel
  go [] (← remaining)

/-! ### Typed readers -/

/-- Reads a string, handed to `accept`, whose refusal is a message placed after the string. -/
def readStringAs (expected : String) (accept : String → Except String α) : ReadM α := placing do
  match ← skipBlanks with
  | some 34 =>
    eat
    let s ← readStringBody
    match accept s with
    | .ok a => pure a
    | .error t => throw { fault := .mismatch t }
  | some _ => mismatchAhead expected
  | none => failAhead .eofInValue

/-- Reads a string. -/
def readString : ReadM String :=
  readStringAs "a string" .ok

/-- Reads a boolean. -/
def readBool : ReadM Bool := placing do
  match ← skipBlanks with
  | some 116 => eat; readIdent [114, 117, 101]; pure true
  | some 102 => eat; readIdent [97, 108, 115, 101]; pure false
  | some _ => mismatchAhead "a boolean"
  | none => failAhead .eofInValue

/-- Reads an unsigned integer below `2^64`. -/
def readUnsigned : ReadM Nat := placing do
  let num ← match ← skipBlanks with
    | some 45 => do eat; readNumber false
    | some b => if 48 ≤ b && b ≤ 57 then readNumber true else mismatchAhead "u64"
    | none => failAhead .eofInValue
  match num with
  | .unsigned n => pure n
  | .signed i => throw { fault := invalidValue (.signed i) "u64" }
  | .float x => throw { fault := invalidType (.float x) "u64" }

/-- Reads `null` as nothing, or else what `x` reads. -/
def readOptional (x : ReadM α) : ReadM (Option α) := do
  match ← skipBlanks with
  | some 110 => eat; readIdent [117, 108, 108]; pure none
  | _ => some <$> x

/-- Decides whether a list has another element: past a comma, or first. -/
def hasElement (first : Bool) : ReadM Bool := do
  match ← skipBlanks with
  | none => failAhead .eofInList
  | some 93 => pure false
  | some b =>
    if first then pure true
    else if b == 44 then
      eat
      match ← skipBlanks with
      | some 93 => failAhead .trailingComma
      | some _ => pure true
      | none => failAhead .eofInValue
    else failAhead .expectedListCommaOrEnd

/-- Closes a list after its elements were read. -/
def closeList : ReadM Unit := do
  match ← skipBlanks with
  | some 93 => eat
  | some 44 =>
    eat
    match ← skipBlanks with
    | some 93 => failAhead .trailingComma
    | _ => failAhead .trailingCharacters
  | some _ => failAhead .trailingCharacters
  | none => failAhead .eofInList

/-- Runs the reader of a bracketed value, then `close`, also after a failure; the failure, if
any, is placed where closing stopped. -/
def bracketed (x : ReadM α) (close : ReadM Unit) : ReadM α := do
  let r ← tryCatch (Except.ok <$> x) (fun e => pure (Except.error e))
  let c ← tryCatch (Except.ok <$> close) (fun e => pure (Except.error e))
  match r, c with
  | .error e, _ => throw (← placed e)
  | .ok _, .error e => throw (← placed e)
  | .ok a, .ok () => pure a

/-- Reads a list of values. -/
def readList (x : ReadM α) : ReadM (List α) := placing do
  match ← skipBlanks with
  | some 91 =>
    eat
    let rec go (first : Bool) : Nat → ReadM (List α)
      | 0 => pure []
      | fuel + 1 => do
        if ← hasElement first then
          let a ← x
          let rest ← go false fuel
          pure (a :: rest)
        else pure []
    bracketed (go true (← remaining)) closeList
  | some _ => mismatchAhead "a sequence"
  | none => failAhead .eofInValue

/-- A field of a record: its name, whether it must be present, and how its value is read into
the record being built. -/
structure FieldReader (σ : Type) where
  name : String
  required : Bool
  read : σ → ReadM σ

/-- Closes an object after its entries were read. -/
def closeObject : ReadM Unit := do
  match ← skipBlanks with
  | some 125 => eat
  | some 44 => failAhead .trailingComma
  | some _ => failAhead .trailingCharacters
  | none => failAhead .eofInObject

/-- Reads the next key of an object, or nothing at its end. -/
def nextKey (first : Bool) : ReadM (Option String) := do
  let b ← match ← skipBlanks with
    | some 125 => return none
    | some b =>
      if b == 44 && !first then do eat; skipBlanks
      else if first then pure (some b)
      else failAhead .expectedObjectCommaOrEnd
    | none => failAhead .eofInObject
  match b with
  | some 34 => eat; some <$> readStringBody
  | some 125 => failAhead .trailingComma
  | some _ => failAhead .keyMustBeString
  | none => failAhead .eofInValue

/-- Moves past the colon after a key. -/
def readColon : ReadM Unit := do
  match ← skipBlanks with
  | some 58 => eat
  | some _ => failAhead .expectedColon
  | none => failAhead .eofInObject

/-- Reads a record named `name` with the given fields, from an object by field names, or from
a list by position. A field read twice, or a required field missing, is an error; fields of
other names are skipped. -/
def readRecord (name : String) (fields : List (FieldReader σ)) (init : σ) : ReadM σ := placing do
  match ← skipBlanks with
  | some 123 =>
    eat
    let rec entries (first : Bool) (seen : List String) (s : σ) : Nat → ReadM (σ × List String)
      | 0 => pure (s, seen)
      | fuel + 1 => do
        match ← nextKey first with
        | none => pure (s, seen)
        | some key =>
          match fields.find? (·.name == key) with
          | some f =>
            if seen.contains key then
              throw { fault := .mismatch ("duplicate field `" ++ key ++ "`") }
            readColon
            let s ← f.read s
            entries false (key :: seen) s fuel
          | none =>
            readColon
            skipValue
            entries false seen s fuel
    let body : ReadM σ := do
      let (s, seen) ← entries true [] init (← remaining)
      match fields.find? (fun f => f.required && !seen.contains f.name) with
      | some f => throw { fault := .mismatch ("missing field `" ++ f.name ++ "`") }
      | none => pure s
    bracketed body closeObject
  | some 91 =>
    eat
    let count := fields.length
    let rec elements (first : Bool) (index : Nat) (s : σ) : List (FieldReader σ) → ReadM σ
      | [] => pure s
      | f :: fs => do
        if ← hasElement first then
          let s ← f.read s
          elements false (index + 1) s fs
        else if f.required then
          throw { fault := .mismatch ("invalid length " ++ toString index ++ ", expected " ++
            name ++ " with " ++ toString count ++ (if count == 1 then " element" else " elements")) }
        else elements first (index + 1) s fs
    bracketed (elements true 0 init fields) closeList
  | some _ => mismatchAhead name
  | none => failAhead .eofInValue

/-- Runs a reader on a whole text; anything but blanks after the value is an error. -/
def readAll (text : String) (x : ReadM α) : Except JsonError α :=
  let run : ReadM α := do
    let a ← x
    match ← skipBlanks with
    | some _ => failAhead .trailingCharacters
    | none => pure a
  (Id.run ((run.run text.toUTF8).run.run 0)).1

end PostRules.Json
