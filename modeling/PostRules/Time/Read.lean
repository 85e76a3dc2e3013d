import PostRules.Time.Instant
import PostRules.Text.Trim

/-!
# Reading instants from text

Three readers share one set of fields and one set of failures.

* `readRfc3339`: exactly `YYYY-MM-DD`, a `T`, `t` or space, `HH:MM:SS`, an optional fraction,
  then `Z`, `z` or an offset `±HH:MM` within a day.
* `readPattern`: a pattern of numbers, literal characters and blanks. A number may be preceded
  by white space and has at most two digits, the year at most four unless it is signed; a blank
  skips any white space, none included.
* `readLenient`: a date and a time by patterns, with white space allowed around the numbers and
  before the offset, which may also be `UTC` in any case, and may omit its colon.

A field is checked when it is read: month 1 to 12, day 1 to 31, hour 0 to 23, minute 0 to 59,
second 0 to 60, where 60 is a leap second. The date is checked against its month at the end.

## Contents

* `TimeError` and its `message`.
* `Fields.toInstant`: the instant that the fields read name, in UTC.
* The readers above, and `readLiteral`, which tries the RFC 3339 form, then date and time with
  `T` or a space, then a date alone, all in UTC unless an offset is given.
-/

namespace PostRules.Time

/-- Why a text does not name an instant. -/
inductive TimeError where
  | outOfRange
  | impossible
  | notEnough
  | invalid
  | tooShort
  | tooLong
  deriving DecidableEq, Repr, Inhabited

/-- The text of a failure. -/
def TimeError.message : TimeError → String
  | .outOfRange => "input is out of range"
  | .impossible => "no possible date and time matching input"
  | .notEnough => "input is not enough for unique date and time"
  | .invalid => "input contains invalid characters"
  | .tooShort => "premature end of input"
  | .tooLong => "trailing input"

/-- The fields read so far. -/
structure Fields where
  year : Option Int := none
  month : Option Nat := none
  day : Option Nat := none
  hour : Option Nat := none
  minute : Option Nat := none
  second : Option Nat := none
  nano : Option Nat := none
  offset : Option Int := none
  deriving Inhabited

/-- A field of a date or time. -/
inductive Field where
  | year | month | day | hour | minute | second
  deriving DecidableEq

/-- Whether a value fits a field. -/
def Field.fits : Field → Int → Bool
  | .year, v => -Int.pow 2 31 ≤ v && v < Int.pow 2 31
  | .month, v => 1 ≤ v && v ≤ 12
  | .day, v => 1 ≤ v && v ≤ 31
  | .hour, v => 0 ≤ v && v ≤ 23
  | .minute, v => 0 ≤ v && v ≤ 59
  | .second, v => 0 ≤ v && v ≤ 60

/-- The fields with one more set, if the value fits. -/
def Fields.set (fs : Fields) (f : Field) (v : Int) : Except TimeError Fields :=
  if !f.fits v then .error .outOfRange
  else .ok <| match f with
    | .year => { fs with year := some v }
    | .month => { fs with month := some v.toNat }
    | .day => { fs with day := some v.toNat }
    | .hour => { fs with hour := some v.toNat }
    | .minute => { fs with minute := some v.toNat }
    | .second => { fs with second := some v.toNat }

/-- The largest value a scanned number may reach. -/
def numberLimit : Nat := Nat.pow 2 63

/-- Reads a number of at least `least` and at most `most` ASCII digits. -/
def scanNumber (s : List Char) (least most : Nat) : Except TimeError (Nat × List Char) :=
  if s.length < least then .error .tooShort
  else
    let digits := (s.take most).takeWhile Char.isDigit
    if digits.length < least then .error .invalid
    else
      let v := digits.foldl (fun acc c => acc * 10 + (c.toNat - '0'.toNat)) 0
      if v ≥ numberLimit then .error .outOfRange
      else .ok (v, s.drop digits.length)

/-- Reads a fraction of a second after its point: up to nine digits scaled to nanoseconds, any
further digits skipped. -/
def scanFraction (s : List Char) : Except TimeError (Nat × List Char) := do
  let (v, rest) ← scanNumber s 1 9
  let used := s.length - rest.length
  pure (v * Nat.pow 10 (9 - used), rest.dropWhile Char.isDigit)

/-- Reads one expected character. -/
def scanChar (s : List Char) (c : Char) : Except TimeError (List Char) :=
  match s with
  | x :: rest => if x == c then .ok rest else .error .invalid
  | [] => .error .tooShort

/-- White space taken off the front. -/
def skipWhite (s : List Char) : List Char :=
  s.dropWhile Text.isWhite

/-- Reads an offset from UTC: `Z` or `z`, or a sign (`+`, `-` or the minus sign), two digits of
hours, what `separator` skips, and two digits of minutes below 60. -/
def scanOffset (s : List Char) (separator : List Char → Except TimeError (List Char)) :
    Except TimeError (Int × List Char) := do
  match s with
  | 'Z' :: rest | 'z' :: rest => return (0, rest)
  | _ => pure ()
  let (negative, s) ← match s with
    | '+' :: rest => pure (false, rest)
    | '-' :: rest => pure (true, rest)
    | '\u2212' :: rest => pure (true, rest)
    | _ :: _ => throw .invalid
    | [] => throw .tooShort
  let hours ← match s with
    | h1 :: h2 :: _ => if h1.isDigit && h2.isDigit then
        pure ((h1.toNat - '0'.toNat) * 10 + (h2.toNat - '0'.toNat)) else throw .invalid
    | _ => throw .tooShort
  let s ← separator (s.drop 2)
  let minutes ← match s with
    | m1 :: m2 :: _ =>
      if '0' ≤ m1 && m1 ≤ '5' && m2.isDigit then
        pure ((m1.toNat - '0'.toNat) * 10 + (m2.toNat - '0'.toNat))
      else if '6' ≤ m1 && m1 ≤ '9' && m2.isDigit then throw .outOfRange
      else throw .invalid
    | _ => throw .tooShort
  let seconds : Int := hours * 3600 + minutes * 60
  pure (if negative then -seconds else seconds, s.drop 2)

/-- The instant that a complete set of fields names, in UTC. A second of 60 is a leap second;
a fraction without seconds is not enough. -/
def Fields.toInstant (fs : Fields) : Except TimeError Instant := do
  let (some y, some m, some d) := (fs.year, fs.month, fs.day) | throw .notEnough
  if !validDate y m d then throw .outOfRange
  let some h := fs.hour | throw .notEnough
  let some mi := fs.minute | throw .notEnough
  let (sec, leapNano) := match fs.second with
    | some 60 => (59, 1000000000)
    | some s => (s, 0)
    | none => (0, 0)
  let nano ← match fs.nano, fs.second with
    | some n, some _ => pure n
    | some _, none => throw .notEnough
    | none, _ => pure 0
  let local_ := Instant.ofCivil y m d h mi sec (leapNano + nano)
  let offset := fs.offset.getD 0
  if offset ≤ -86400 || offset ≥ 86400 then throw .outOfRange
  let t := local_.shift (-offset)
  if !t.inRange then throw .impossible
  pure t

/-- A piece of a pattern. -/
inductive Piece where
  /-- A number for a field. -/
  | number (f : Field)
  /-- One literal character. -/
  | literal (c : Char)
  /-- Any white space, none included. -/
  | blank
  /-- An optional fraction of a second after a point. -/
  | fraction

/-- Reads a number for a field: white space first, then at most two digits, or for the year
at most four digits, or a sign and any number of digits. -/
def scanField (s : List Char) (f : Field) : Except TimeError (Int × List Char) :=
  let s := skipWhite s
  if f = .year then
    match s with
    | '-' :: rest => do
      let (v, rest) ← scanNumber rest 1 rest.length
      pure (-(v : Int), rest)
    | '+' :: rest => do
      let (v, rest) ← scanNumber rest 1 rest.length
      pure ((v : Int), rest)
    | _ => do
      let (v, rest) ← scanNumber s 1 4
      pure ((v : Int), rest)
  else do
    let (v, rest) ← scanNumber s 1 2
    pure ((v : Int), rest)

/-- Reads the pieces of a pattern into the fields. -/
def readPieces : List Piece → Fields → List Char → Except TimeError (Fields × List Char)
  | [], fs, s => .ok (fs, s)
  | .number f :: ps, fs, s => do
    let (v, s) ← scanField s f
    let fs ← fs.set f v
    readPieces ps fs s
  | .literal c :: ps, fs, s => do
    let s ← scanChar s c
    readPieces ps fs s
  | .blank :: ps, fs, s => readPieces ps fs (skipWhite s)
  | .fraction :: ps, fs, s =>
    match s with
    | '.' :: rest => do
      let (n, s) ← scanFraction rest
      readPieces ps { fs with nano := some n } s
    | _ => readPieces ps fs s

/-- Reads a text that must match a pattern exactly. -/
def readPattern (ps : List Piece) (s : String) : Except TimeError Fields := do
  let (fs, rest) ← readPieces ps {} s.toList
  if !rest.isEmpty then throw .tooLong
  pure fs

/-- A date as `%Y-%m-%d`. -/
def datePattern : List Piece :=
  [.number .year, .literal '-', .number .month, .literal '-', .number .day]

/-- A time as `%H:%M:%S`. -/
def timePattern : List Piece :=
  [.number .hour, .literal ':', .number .minute, .literal ':', .number .second]

/-- A date and a time, with white space allowed around the numbers. -/
def lenientDate : List Piece :=
  [.number .year, .blank, .literal '-', .number .month, .blank, .literal '-', .number .day]

/-- A time with an optional fraction, with white space allowed around the numbers. -/
def lenientTime : List Piece :=
  [.number .hour, .blank, .literal ':', .number .minute, .blank, .literal ':', .number .second,
    .fraction, .blank]

/-- Reads the strict RFC 3339 form. -/
def readRfc3339 (s : String) : Except TimeError Instant := do
  let s := s.toList
  let num := fun (s : List Char) (f : Field) (fs : Fields) (width : Nat) => do
    let (v, rest) ← scanNumber s width width
    let fs ← fs.set f v
    pure (fs, rest)
  let (fs, s) ← num s .year {} 4
  let s ← scanChar s '-'
  let (fs, s) ← num s .month fs 2
  let s ← scanChar s '-'
  let (fs, s) ← num s .day fs 2
  let s ← match s with
    | 'T' :: rest | 't' :: rest | ' ' :: rest => pure rest
    | _ :: _ => throw .invalid
    | [] => throw .tooShort
  let (fs, s) ← num s .hour fs 2
  let s ← scanChar s ':'
  let (fs, s) ← num s .minute fs 2
  let s ← scanChar s ':'
  let (fs, s) ← num s .second fs 2
  let (fs, s) ← match s with
    | '.' :: rest => do
      let (n, rest) ← scanFraction rest
      pure ({ fs with nano := some n }, rest)
    | _ => pure (fs, s)
  let (offset, s) ← scanOffset s (fun s => scanChar s ':')
  if offset < -86340 || offset > 86340 then throw .outOfRange
  if !s.isEmpty then throw .tooLong
  { fs with offset := some offset }.toInstant

/-- Reads the lenient form of date, time and offset. -/
def readLenient (text : String) : Except TimeError Instant := do
  let s ← match readPieces lenientDate {} text.toList with
    | .ok (_, []) => throw .notEnough
    | .ok (fs, rest) => pure (fs, rest)
    | .error e => throw e
  let (fs, s) := s
  let s ← match s with
    | 'T' :: rest | 't' :: rest | ' ' :: rest => pure rest
    | _ :: _ => throw .invalid
    | [] => throw .tooShort
  let (fs, s) ← readPieces lenientTime fs s
  let s := skipWhite s
  let (offset, s) ← match s with
    | u :: t :: c :: rest =>
      if u.toUpper == 'U' && t.toUpper == 'T' && c.toUpper == 'C' then pure (0, rest)
      else scanOffset s (fun s => pure (s.dropWhile (fun c => c == ':' || Text.isWhite c)))
    | _ => scanOffset s (fun s => pure (s.dropWhile (fun c => c == ':' || Text.isWhite c)))
  if !(skipWhite s).isEmpty then throw .tooLong
  { fs with offset := some offset }.toInstant

/-- Reads an instant written as RFC 3339, as a date and time in UTC with `T` or a space
between, or as a date alone at midnight UTC. -/
def readLiteral (s : String) : Option Instant :=
  match readRfc3339 s with
  | .ok t => some t
  | .error _ =>
    let dateTime := fun (sep : Piece) => do
      let fs ← readPattern (datePattern ++ [sep] ++ timePattern) s
      fs.toInstant
    match dateTime (.literal 'T') with
    | .ok t => some t
    | .error _ =>
      match dateTime .blank with
      | .ok t => some t
      | .error _ =>
        match readPattern datePattern s with
        | .ok fs => ({ fs with hour := some 0, minute := some 0, second := some 0 }).toInstant.toOption
        | .error _ => none

end PostRules.Time
