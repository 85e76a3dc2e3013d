import PostRules.Yaml.Mark

/-!
# YAML tokens and the scanner's state

The scanner turns YAML text into tokens: indicators (`-`, `?`, `:`, `,`, brackets), the starts
and ends of block collections that indentation implies, scalars with their style, anchors,
aliases, tags and directives. Each token carries the marks where it starts and stops.

The scanner reads characters from an array; past the end it sees the character `\x00`, which
cannot occur inside accepted text (it is one of the forbidden characters), so it marks the end.
A key in block or flow style may be written without `?`: such a *simple key* is remembered
where it may start, and the `KEY` token is inserted into the queue of tokens when its `:` is
found. Tokens wait in a queue until the reader of events takes them, because a later `:` may
still have to insert a token before them.
-/

namespace PostRules.Yaml

/-- How a scalar is written. -/
inductive ScalarStyle where
  | plain
  | singleQuoted
  | doubleQuoted
  | literal
  | folded
  deriving DecidableEq, Repr, Inhabited

/-- What a token is. -/
inductive TokenKind where
  | streamStart
  | streamEnd
  | versionDirective (major minor : Nat)
  | tagDirective (handle pre : String)
  | documentStart
  | documentEnd
  | blockSequenceStart
  | blockMappingStart
  | blockEnd
  | flowSequenceStart
  | flowSequenceEnd
  | flowMappingStart
  | flowMappingEnd
  | blockEntry
  | flowEntry
  | key
  | value
  | alias (name : String)
  | anchor (name : String)
  | tag (handle suffix : String)
  | scalar (text : String) (style : ScalarStyle)
  deriving DecidableEq, Repr, Inhabited

/-- A token with the marks where it starts and stops. -/
structure Token where
  kind : TokenKind
  start : Mark
  stop : Mark
  deriving Repr, Inhabited

/-! ### Character classes -/

/-- Characters that end a line: line feed, carriage return, next line, line and paragraph
separators. -/
def isBreak (c : Char) : Bool :=
  c == '\n' || c == '\r' || c == '\x85' || c == '\u2028' || c == '\u2029'

/-- Space and tab. -/
def isBlank (c : Char) : Bool :=
  c == ' ' || c == '\t'

/-- The character seen past the end of the text. -/
def isEnd (c : Char) : Bool :=
  c == '\x00'

/-- A line break or the end of the text. -/
def isBreakOrEnd (c : Char) : Bool :=
  isBreak c || isEnd c

/-- A blank, a line break or the end of the text. -/
def isSpaceOrEnd (c : Char) : Bool :=
  isBlank c || isBreak c || isEnd c

/-- Characters of anchor names, tag handles and directive names: ASCII letters and digits,
`_` and `-`. -/
def isWordChar (c : Char) : Bool :=
  c.isAlphanum || c == '_' || c == '-'

/-- The value of an ASCII hexadecimal digit. -/
def hexValue (c : Char) : Option Nat :=
  if '0' ≤ c && c ≤ '9' then some (c.toNat - '0'.toNat)
  else if 'a' ≤ c && c ≤ 'f' then some (c.toNat - 'a'.toNat + 10)
  else if 'A' ≤ c && c ≤ 'F' then some (c.toNat - 'A'.toNat + 10)
  else none

/-- Whether a character may appear in YAML text at all: tab, line feed, carriage return, the
printable ASCII range, next line, and the rest of Unicode apart from the C1 controls,
surrogates and the two non-characters at the end of the basic plane. -/
def isAllowedChar (c : Char) : Bool :=
  let v := c.toNat
  v == 0x09 || v == 0x0A || v == 0x0D || (0x20 ≤ v && v ≤ 0x7E) || v == 0x85 ||
    (0xA0 ≤ v && v ≤ 0xD7FF) || (0xE000 ≤ v && v ≤ 0xFFFD) || (0x10000 ≤ v && v ≤ 0x10FFFF)

/-! ### The scanner -/

/-- A place where a simple key may start, and the number of the token it would precede. -/
structure SimpleKey where
  possible : Bool
  required : Bool
  tokenNumber : Nat
  mark : Mark
  deriving Repr, Inhabited

/-- The state of the scanner. -/
structure Scanner where
  input : Array Char
  mark : Mark
  /-- An error that the text holds from the start (a forbidden character). -/
  pending : Option SyntaxError := none
  started : Bool := false
  ended : Bool := false
  queue : Array Token := #[]
  /-- How many tokens have been taken from the queue. -/
  taken : Nat := 0
  /-- Whether the head of the queue has been settled for the reader. -/
  available : Bool := false
  indent : Int := -1
  indents : List Int := []
  keyAllowed : Bool := false
  /-- One possible simple key per flow level; the innermost is last. -/
  keys : Array SimpleKey := #[]
  flowLevel : Nat := 0
  deriving Inhabited

/-- The scanner's computations: they change its state and may stop with a syntax error. -/
abbrev ScanM := StateT Scanner (Except SyntaxError)

namespace Scanner

/-- The character `k` places ahead of the current one, or `\x00` past the end. -/
def peekAt (s : Scanner) (k : Nat) : Char :=
  s.input.getD (s.mark.index + k) '\x00'

/-- The current character. -/
def cur (s : Scanner) : Char :=
  s.peekAt 0

/-- A bound on the steps any loop of the scanner can take from here. -/
def fuel (s : Scanner) : Nat :=
  s.input.size - s.mark.index + 2

/-- Moves past one character of a line. -/
def skip (s : Scanner) : Scanner :=
  { s with mark := { s.mark with index := s.mark.index + 1, column := s.mark.column + 1 } }

/-- Moves past a line break (a carriage return and line feed count as one). -/
def skipLine (s : Scanner) : Scanner :=
  if s.cur == '\r' && s.peekAt 1 == '\n' then
    { s with mark := ⟨s.mark.index + 2, s.mark.line + 1, 0⟩ }
  else if isBreak s.cur then
    { s with mark := ⟨s.mark.index + 1, s.mark.line + 1, 0⟩ }
  else s

/-- The text a line break stands for in a scalar: a line feed, except that line and paragraph
separators stand for themselves. -/
def breakText (s : Scanner) : String :=
  if s.cur == '\u2028' || s.cur == '\u2029' then String.singleton s.cur
  else if isBreak s.cur then "\n"
  else ""

/-- Whether the current line starts with the document marker `---` or `...` followed by a blank
or the end. -/
def atDocumentMarker (s : Scanner) : Bool :=
  s.mark.column == 0 &&
    ((s.peekAt 0 == '-' && s.peekAt 1 == '-' && s.peekAt 2 == '-') ||
      (s.peekAt 0 == '.' && s.peekAt 1 == '.' && s.peekAt 2 == '.')) &&
    isSpaceOrEnd (s.peekAt 3)

/-- The first forbidden character of a text, as a syntax error at its byte offset. -/
def forbidden (text : List Char) : Option SyntaxError :=
  let rec go (offset : Nat) : List Char → Option SyntaxError
    | [] => none
    | c :: cs =>
      if isAllowedChar c then go (offset + c.utf8Size) cs
      else some { problem := "control characters are not allowed", problemMark := Mark.start,
                  offset := offset }
  go 0 text

/-- A scanner at the start of a text. A leading byte order mark is not part of the text. -/
def init (text : String) : Scanner :=
  let chars := text.toList
  let body := match chars with
    | '\uFEFF' :: rest => rest
    | _ => chars
  { input := body.toArray, mark := Mark.start, pending := forbidden chars }

end Scanner

/-! ### Steps shared by the scanner's parts -/

/-- Stops with a syntax error found at the current mark. -/
def scanError {α : Type} (context : Option (String × Mark)) (problem : String) : ScanM α := do
  let s ← get
  throw { problem, problemMark := s.mark, context }

/-- The current character. -/
def current : ScanM Char := do
  return (← get).cur

/-- The character `k` places ahead. -/
def ahead (k : Nat) : ScanM Char := do
  return (← get).peekAt k

/-- Moves past one character. -/
def advance : ScanM Unit :=
  modify Scanner.skip

/-- Moves past one character and returns it. -/
def take : ScanM Char := do
  let c ← current
  advance
  return c

/-- Moves past a line break and returns the text it stands for. -/
def takeLine : ScanM String := do
  let s ← get
  let t := s.breakText
  set s.skipLine
  return t

/-- The current mark. -/
def here : ScanM Mark := do
  return (← get).mark

/-- Moves past characters while `p` holds of the current one. -/
def skipWhile (p : Char → Bool) : ScanM Unit := do
  let rec go : Nat → ScanM Unit
    | 0 => pure ()
    | n + 1 => do
      if p (← current) then advance; go n else pure ()
  go (← get).fuel

/-- Moves past the rest of a comment, up to the line break or the end. -/
def skipComment : ScanM Unit := do
  if (← current) == '#' then skipWhile (fun c => !isBreakOrEnd c)

/-- Takes characters while `p` holds of the current one. -/
def takeWhile (p : Char → Bool) : ScanM String := do
  let rec go : Nat → String → ScanM String
    | 0, acc => pure acc
    | n + 1, acc => do
      let c ← current
      if p c then advance; go n (acc.push c) else pure acc
  go (← get).fuel ""

end PostRules.Yaml
