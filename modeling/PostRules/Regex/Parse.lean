import PostRules.Regex.Ast
import PostRules.Regex.Property

/-!
# Reading patterns

A pattern is read left to right in one pass, with two stacks: open groups (and the alternation
being collected inside the innermost one), and open brackets of a class (and the set operator
waiting for its right side). Each step of a loop consumes at least one character, so every loop
runs on fuel equal to the length of the pattern.

The syntax, briefly:

* `(...)`, `(?P<name>...)`, `(?<name>...)`, `(?flags:...)`, `(?flags)`; look-around is refused.
* `?`, `*`, `+` and `{n}`, `{n,}`, `{n,m}`, each optionally followed by `?`; a repetition needs
  something to repeat, and `{` with nothing before it is an error too.
* `[...]` with ranges, nested brackets, `[:name:]`, `&&`, `--` and `~~`; a `]` or any number of
  `-` first in a class are literal.
* Escapes: `\x`, `\u`, `\U` in fixed or braced form, `\p`/`\P`, `\d\s\w\D\S\W`, `\a\f\t\n\r\v`,
  `\A\z\b\B\<\>`, `\b{start}` and the like; punctuation may be escaped, letters and digits may
  not (a digit is a backreference, which is refused).
* With the flag `x`, blanks are skipped and `#` starts a comment up to the end of the line.

After reading, the depth of nesting is checked against a limit of 250.

## Contents

* `parseAst`: the tree of a pattern, or the first error in it.
-/

namespace PostRules.Regex

/-! ### State -/

/-- A concatenation being collected. -/
structure Concatenation where
  span : Span
  asts : Array Ast
  deriving Inhabited

/-- The tree of a concatenation: nothing, its one piece, or the concatenation. -/
def Concatenation.intoAst (c : Concatenation) : Ast :=
  match c.asts.toList with
  | [] => .empty c.span
  | [a] => a
  | as => .concat c.span as

/-- A group being read: the concatenation before it, the group's opening and kind, and whether
blanks were skipped outside it. -/
structure OpenGroup where
  before : Concatenation
  span : Span
  kind : GroupKind
  ignoreWs : Bool

/-- An entry of the group stack. -/
inductive GroupState where
  | group (g : OpenGroup)
  | alternation (span : Span) (asts : Array Ast)

/-- The items of a class being collected. -/
structure ClassUnion where
  span : Span
  items : Array ClassSetItem
  deriving Inhabited

/-- Adds an item to a union, stretching its span over it. -/
def ClassUnion.push (u : ClassUnion) (item : ClassSetItem) : ClassUnion :=
  let start := if u.items.isEmpty then item.span.start else u.span.start
  { span := ⟨start, item.span.stop⟩, items := u.items.push item }

/-- The item a union stands for: nothing, its one item, or the union. -/
def ClassUnion.intoItem (u : ClassUnion) : ClassSetItem :=
  match u.items.toList with
  | [] => .empty u.span
  | [i] => i
  | is => .union u.span is

/-- An entry of the class stack: an open bracket, with the union outside it and where the
bracket was opened; or an operator with its left side. -/
inductive ClassState where
  | opened (outer : ClassUnion) (negated : Bool) (setSpan : Span)
  | op (kind : ClassSetOp) (lhs : ClassSet)

/-- The reader's state. -/
structure ParseState where
  pattern : Array Char
  pos : Position := Position.initial
  ignoreWs : Bool := false
  captureIndex : Nat := 0
  captureNames : List (String × Span) := []
  groups : List GroupState := []
  classes : List ClassState := []

/-- Reading a pattern: stateful, failing with the first error. -/
abbrev ParseM := StateT ParseState (Except SyntaxError)

/-- Fails with an error at a span. -/
def failAt (span : Span) (kind : ErrorKind) : ParseM α :=
  throw { kind, span }

/-! ### Moving through the pattern -/

/-- The current position. -/
def here : ParseM Position := do pure (← get).pos

/-- Whether the whole pattern has been read. -/
def atEnd : ParseM Bool := do
  let s ← get
  pure (s.pos.offset ≥ s.pattern.size)

/-- The current character (a NUL at the end). -/
def current : ParseM Char := do
  let s ← get
  pure (s.pattern.getD s.pos.offset '\x00')

/-- The position after a character at `p`. -/
def Position.after (p : Position) (c : Char) : Position :=
  if c == '\n' then ⟨p.offset + 1, p.line + 1, 1⟩ else ⟨p.offset + 1, p.line, p.column + 1⟩

/-- Moves past the current character; tells whether a character follows. -/
def bump : ParseM Bool := do
  let s ← get
  if s.pos.offset ≥ s.pattern.size then return false
  let p := s.pos.after (s.pattern.getD s.pos.offset '\x00')
  set { s with pos := p }
  pure (p.offset < s.pattern.size)

/-- The span of the current character. -/
def spanChar : ParseM Span := do
  let s ← get
  pure ⟨s.pos, s.pos.after (s.pattern.getD s.pos.offset '\x00')⟩

/-- The empty span at the current position. -/
def spanHere : ParseM Span := do pure (Span.splat (← here))

/-- The character after the current one. -/
def peek : ParseM (Option Char) := do
  let s ← get
  pure s.pattern[s.pos.offset + 1]?

/-- Whether the characters from the current one on start with `s`. -/
def lookingAt (s : String) : ParseM Bool := do
  let st ← get
  let cs := s.toList
  pure ((List.range cs.length).all fun i => st.pattern[st.pos.offset + i]? == cs[i]?)

/-- Moves `n` characters on. -/
def bumpN : Nat → ParseM Unit
  | 0 => pure ()
  | n + 1 => do
    let _ ← bump
    bumpN n

/-- Moves past `s` if the pattern continues with it. -/
def bumpIf (s : String) : ParseM Bool := do
  if ← lookingAt s then
    bumpN s.length
    pure true
  else pure false

/-- Skips a comment's text up to and including the end of its line. -/
def skipComment : Nat → ParseM Unit
  | 0 => pure ()
  | fuel + 1 => do
    if ← atEnd then return
    let c ← current
    let _ ← bump
    if c != '\n' then skipComment fuel

/-- Skips blanks and comments when blanks are ignored. -/
def skipBlanks : Nat → ParseM Unit
  | 0 => pure ()
  | fuel + 1 => do
    if ← atEnd then return
    let c ← current
    if isWhiteSpace c then
      let _ ← bump
      skipBlanks fuel
    else if c == '#' then
      let _ ← bump
      skipComment (← get).pattern.size
      skipBlanks fuel
    else pure ()

/-- Skips blanks and comments if the flag `x` is on. -/
def bumpSpace : ParseM Unit := do
  let s ← get
  if s.ignoreWs then skipBlanks s.pattern.size

/-- Moves past the current character and the blanks after it; tells whether a character
follows. -/
def bumpAndBumpSpace : ParseM Bool := do
  if !(← bump) then return false
  bumpSpace
  pure !(← atEnd)

/-- The first character after the current one that is not blank, where a comment's opening `#`
counts as blank but its text does not; the next character if there is none such. -/
def peekPast : List Char → Bool → Option Char
  | [], _ => none
  | c :: cs, inComment =>
    if isWhiteSpace c then peekPast cs inComment
    else if !inComment && c == '#' then peekPast cs true
    else some c

/-- The next character that is not blank, when blanks are ignored; else the next character. -/
def peekSpace : ParseM (Option Char) := do
  let s ← get
  if !s.ignoreWs then return s.pattern[s.pos.offset + 1]?
  if s.pos.offset ≥ s.pattern.size then return none
  let rest := s.pattern.toList.drop (s.pos.offset + 1)
  match peekPast rest false with
  | some c => pure (some c)
  | none => pure rest.head?

/-- The text of the pattern between two offsets. -/
def textBetween (a b : Nat) : ParseM String := do
  let s ← get
  pure (String.ofList ((s.pattern.toList.drop a).take (b - a)))

/-! ### Escapes -/

/-- Whether a character has a meaning of its own in a pattern. -/
def isMetaCharacter (c : Char) : Bool :=
  "\\.+*?()|[]{}^$#&-~".contains c

/-- Whether a character may be escaped to stand for itself: meta characters, and ASCII
characters other than letters, digits, `<` and `>`. -/
def isEscapeable (c : Char) : Bool :=
  isMetaCharacter c ||
    (c.toNat ≤ 0x7F && !c.isAlphanum && c != '<' && c != '>')

/-- Whether a character is a hexadecimal digit. -/
def isHexDigit (c : Char) : Bool :=
  c.isDigit || ('a' ≤ c && c ≤ 'f') || ('A' ≤ c && c ≤ 'F')

/-- The value of a hexadecimal numeral. -/
def hexNumeral (cs : List Char) : Nat :=
  cs.foldl (fun acc c =>
    let d := if c.isDigit then c.toNat - '0'.toNat
      else if 'a' ≤ c && c ≤ 'f' then c.toNat - 'a'.toNat + 10
      else c.toNat - 'A'.toNat + 10
    acc * 16 + d) 0

/-- Whether a number is a Unicode scalar value. -/
def isScalarValue (n : Nat) : Bool :=
  n < 0xD800 || (0xDFFF < n && n < 0x110000)

/-- A piece read by an escape or as a single character. -/
inductive Primitive where
  | literal (lit : Literal)
  | assertion (span : Span) (kind : AssertionKind)
  | dot (span : Span)
  | perl (span : Span) (kind : PerlKind) (negated : Bool)
  | unicode (span : Span) (kind : UnicodeKind) (negated : Bool)

/-- Where a piece was written. -/
def Primitive.span : Primitive → Span
  | .literal lit => lit.span
  | .assertion s _ => s
  | .dot s => s
  | .perl s _ _ => s
  | .unicode s _ _ => s

/-- The tree of a piece. -/
def Primitive.toAst : Primitive → Ast
  | .literal lit => .literal lit
  | .assertion s k => .assertion s k
  | .dot s => .dot s
  | .perl s k n => .perlClass s k n
  | .unicode s k n => .unicodeClass s k n

/-- The class item a piece stands for; assertions are not allowed in a class. -/
def Primitive.toClassSetItem : Primitive → Except SyntaxError ClassSetItem
  | .literal lit => .ok (.literal lit)
  | .perl s k n => .ok (.perl s k n)
  | .unicode s k n => .ok (.unicode s k n)
  | p => .error { kind := .classEscapeInvalid, span := p.span }

/-- The character a piece stands for, as a bound of a range. -/
def Primitive.toClassLiteral : Primitive → Except SyntaxError Literal
  | .literal lit => .ok lit
  | p => .error { kind := .classRangeLiteral, span := p.span }

/-- Lifts a check into the reader. -/
def liftResult (x : Except SyntaxError α) : ParseM α :=
  match x with
  | .ok a => pure a
  | .error e => throw e

/-- Reads a fixed number of hexadecimal digits. -/
def readHexDigits (fuel : Nat) (count : Nat) (acc : List Char) : ParseM (List Char) :=
  match fuel with
  | 0 => pure acc.reverse
  | fuel + 1 => do
    if acc.length == count then return acc.reverse
    if acc.length > 0 then
      if !(← bumpAndBumpSpace) then failAt (← spanHere) .escapeUnexpectedEof
    let c ← current
    if !isHexDigit c then failAt (← spanChar) .escapeHexInvalidDigit
    readHexDigits fuel count (c :: acc)

/-- Reads `\xNN`, `\uNNNN` or `\UNNNNNNNN` after the letter. -/
def parseHexDigits (count : Nat) (isByte : Bool) : ParseM Literal := do
  let start ← here
  let digits ← readHexDigits (count + 1) count []
  let _ ← bumpAndBumpSpace
  let stop ← here
  let n := hexNumeral digits
  if isScalarValue n then
    pure { span := ⟨start, stop⟩, c := Char.ofNat n, hexByte := isByte }
  else failAt ⟨start, stop⟩ .escapeHexInvalid

/-- Reads the digits of a braced hexadecimal escape up to `}`. -/
def readHexBrace : Nat → List Char → ParseM (List Char)
  | 0, acc => pure acc.reverse
  | fuel + 1, acc => do
    if !(← bumpAndBumpSpace) then return acc.reverse
    let c ← current
    if c == '}' then return acc.reverse
    if !isHexDigit c then failAt (← spanChar) .escapeHexInvalidDigit
    readHexBrace fuel (c :: acc)

/-- Reads `\x{...}` and the like from the `{`. -/
def parseHexBrace : ParseM Literal := do
  let bracePos ← here
  let start := (← spanChar).stop
  let digits ← readHexBrace (← get).pattern.size []
  if ← atEnd then failAt ⟨bracePos, ← here⟩ .escapeUnexpectedEof
  let stop ← here
  let _ ← bumpAndBumpSpace
  if digits.isEmpty then failAt ⟨bracePos, ← here⟩ .escapeHexEmpty
  let n := hexNumeral digits
  if isScalarValue n then
    pure { span := ⟨start, ← here⟩, c := Char.ofNat n }
  else failAt ⟨start, stop⟩ .escapeHexInvalid

/-- Reads a hexadecimal escape from its letter. -/
def parseHex : ParseM Literal := do
  let letter ← current
  let count := if letter == 'x' then 2 else if letter == 'u' then 4 else 8
  if !(← bumpAndBumpSpace) then failAt (← spanHere) .escapeUnexpectedEof
  if (← current) == '{' then parseHexBrace else parseHexDigits count (letter == 'x')

/-- Reads a name in braces up to `}`. -/
def readBraced : Nat → List Char → ParseM (List Char)
  | 0, acc => pure acc.reverse
  | fuel + 1, acc => do
    if !(← bumpAndBumpSpace) then return acc.reverse
    let c ← current
    if c == '}' then return acc.reverse
    readBraced fuel (c :: acc)

/-- The position of the first occurrence of a sublist. -/
def findSub (hay needle : List Char) : Option Nat :=
  (List.range (hay.length + 1)).find? fun i => (hay.drop i).take needle.length == needle

/-- How a braced Unicode class name is split into property and value. -/
def unicodeKindOf (name : List Char) : UnicodeKind :=
  let text := fun (cs : List Char) => String.ofList cs
  match findSub name ['!', '='] with
  | some i => .namedValue true (text (name.take i)) (text (name.drop (i + 2)))
  | none =>
    match findSub name [':'] with
    | some i => .namedValue false (text (name.take i)) (text (name.drop (i + 1)))
    | none =>
      match findSub name ['='] with
      | some i => .namedValue false (text (name.take i)) (text (name.drop (i + 1)))
      | none => .named (text name)

/-- Reads `\p...` or `\P...` from its letter. -/
def parseUnicodeClass : ParseM (Span × UnicodeKind × Bool) := do
  let negated := (← current) == 'P'
  if !(← bumpAndBumpSpace) then failAt (← spanHere) .escapeUnexpectedEof
  if (← current) == '{' then
    let start := (← spanChar).stop
    let name ← readBraced (← get).pattern.size []
    if ← atEnd then failAt (← spanHere) .escapeUnexpectedEof
    let _ ← bump
    pure (⟨start, ← here⟩, unicodeKindOf name, negated)
  else
    let start ← here
    let c ← current
    if c == '\\' then failAt (← spanChar) .unicodeClassInvalid
    let _ ← bumpAndBumpSpace
    pure (⟨start, ← here⟩, .oneLetter c, negated)

/-- Reads the letters of a special word boundary up to `}`. -/
def readBoundaryName : Nat → List Char → ParseM (List Char)
  | 0, acc => pure acc.reverse
  | fuel + 1, acc => do
    if ← atEnd then return acc.reverse
    let c ← current
    if !(c.isAlpha || c == '-') then return acc.reverse
    let _ ← bumpAndBumpSpace
    readBoundaryName fuel (c :: acc)

/-- After `\b`, reads `{start}`, `{end}`, `{start-half}` or `{end-half}`; gives nothing, with
the position put back, when the braces hold a repetition instead. -/
def maybeParseSpecialWordBoundary (wbStart : Position) : ParseM (Option AssertionKind) := do
  let start ← here
  if !(← bumpAndBumpSpace) then failAt ⟨wbStart, ← here⟩ .specialWordOrRepetitionUnexpectedEof
  let startContents ← here
  let c ← current
  if !(c.isAlpha || c == '-') then
    modify fun s => { s with pos := start }
    return none
  let name ← readBoundaryName (← get).pattern.size []
  if (← atEnd) || (← current) != '}' then failAt ⟨start, ← here⟩ .specialWordBoundaryUnclosed
  let stop ← here
  let _ ← bump
  match String.ofList name with
  | "start" => pure (some .wordBoundaryStart)
  | "end" => pure (some .wordBoundaryEnd)
  | "start-half" => pure (some .wordBoundaryStartHalf)
  | "end-half" => pure (some .wordBoundaryEndHalf)
  | _ => failAt ⟨startContents, stop⟩ .specialWordBoundaryUnrecognized

/-- Reads an escape from its backslash. -/
def parseEscape : ParseM Primitive := do
  let start ← here
  if !(← bump) then failAt ⟨start, ← here⟩ .escapeUnexpectedEof
  let c ← current
  if c.isDigit then
    failAt ⟨start, (← spanChar).stop⟩ .unsupportedBackreference
  if c == 'x' || c == 'u' || c == 'U' then
    let lit ← parseHex
    return .literal { lit with span := ⟨start, lit.span.stop⟩ }
  if c == 'p' || c == 'P' then
    let (span, kind, negated) ← parseUnicodeClass
    return .unicode ⟨start, span.stop⟩ kind negated
  if "dswDSW".contains c then
    let _ ← bump
    let kind := if c == 'd' || c == 'D' then PerlKind.digit
      else if c == 's' || c == 'S' then .space else .word
    return .perl ⟨start, ← here⟩ kind c.isUpper
  let _ ← bump
  let span : Span := ⟨start, ← here⟩
  if isEscapeable c then return .literal { span, c }
  match c with
  | 'a' => pure (.literal { span, c := '\x07' })
  | 'f' => pure (.literal { span, c := '\x0C' })
  | 't' => pure (.literal { span, c := '\t' })
  | 'n' => pure (.literal { span, c := '\n' })
  | 'r' => pure (.literal { span, c := '\r' })
  | 'v' => pure (.literal { span, c := '\x0B' })
  | 'A' => pure (.assertion span .startText)
  | 'z' => pure (.assertion span .endText)
  | 'b' =>
    if !(← atEnd) && (← current) == '{' then
      match ← maybeParseSpecialWordBoundary start with
      | some kind => pure (.assertion ⟨start, ← here⟩ kind)
      | none => pure (.assertion span .wordBoundary)
    else pure (.assertion span .wordBoundary)
  | 'B' => pure (.assertion span .notWordBoundary)
  | '<' => pure (.assertion span .wordBoundaryStartAngle)
  | '>' => pure (.assertion span .wordBoundaryEndAngle)
  | _ => failAt span .escapeUnrecognized

/-- Reads a piece outside a class: an escape, `.`, `^`, `$` or a character. -/
def parsePrimitive : ParseM Primitive := do
  let c ← current
  if c == '\\' then return ← parseEscape
  let span ← spanChar
  let _ ← bump
  match c with
  | '.' => pure (.dot span)
  | '^' => pure (.assertion span .startLine)
  | '$' => pure (.assertion span .endLine)
  | _ => pure (.literal { span, c })

/-! ### Repetitions -/

/-- Reads the digits of a count, with blanks around them. -/
def skipWhite : Nat → (bumpBlanks : Bool) → ParseM Unit
  | 0, _ => pure ()
  | fuel + 1, bumpBlanks => do
    if (← atEnd) || !isWhiteSpace (← current) then return
    if bumpBlanks then let _ ← bumpAndBumpSpace else let _ ← bump
    skipWhite fuel bumpBlanks

/-- Reads decimal digits. -/
def readDigits : Nat → List Char → ParseM (List Char)
  | 0, acc => pure acc.reverse
  | fuel + 1, acc => do
    if ← atEnd then return acc.reverse
    let c ← current
    if !c.isDigit then return acc.reverse
    let _ ← bumpAndBumpSpace
    readDigits fuel (c :: acc)

/-- Reads a decimal number below `2^32`, with blanks around it; the error is given back rather
than raised, since a repetition decides later whether it matters. -/
def parseDecimal : ParseM (Except SyntaxError Nat) := do
  let n := (← get).pattern.size
  skipWhite n false
  let start ← here
  let digits ← readDigits n []
  let span : Span := ⟨start, ← here⟩
  skipWhite n true
  if digits.isEmpty then return .error { kind := .decimalEmpty, span }
  let v := digits.foldl (fun acc c => acc * 10 + (c.toNat - '0'.toNat)) 0
  if v < Nat.pow 2 32 then pure (.ok v) else pure (.error { kind := .decimalInvalid, span })

/-- A missing count inside braces is reported as such. -/
def countError (r : Except SyntaxError Nat) : Except SyntaxError Nat :=
  match r with
  | .error e =>
    match e.kind with
    | .decimalEmpty => .error { e with kind := .repetitionCountDecimalEmpty }
    | _ => .error e
  | ok => ok

/-- Whether a piece can be repeated: not nothing and not a flag group. -/
def repeatable : Ast → Bool
  | .empty _ => false
  | .flags _ _ => false
  | _ => true

/-- Reads `?`, `*` or `+` after a piece. -/
def parseUncountedRepetition (concat : Concatenation) (kind : RepetitionKind) :
    ParseM Concatenation := do
  match concat.asts.back? with
  | none => failAt (← spanHere) .repetitionMissing
  | some ast =>
    if !repeatable ast then failAt (← spanHere) .repetitionMissing
    let mut greedy := true
    if (← bump) && (← current) == '?' then
      greedy := false
      let _ ← bump
    pure { concat with
      asts := concat.asts.pop.push (.repetition ⟨ast.span.start, ← here⟩ kind greedy ast) }

/-- Reads `{n}`, `{n,}` or `{n,m}` after a piece. -/
def parseCountedRepetition (concat : Concatenation) : ParseM Concatenation := do
  let start ← here
  match concat.asts.back? with
  | none => failAt (← spanHere) .repetitionMissing
  | some ast =>
    if !repeatable ast then failAt (← spanHere) .repetitionMissing
    if !(← bumpAndBumpSpace) then failAt ⟨start, ← here⟩ .repetitionCountUnclosed
    let countStart := countError (← parseDecimal)
    if ← atEnd then failAt ⟨start, ← here⟩ .repetitionCountUnclosed
    let range ← if (← current) == ',' then do
        if !(← bumpAndBumpSpace) then failAt ⟨start, ← here⟩ .repetitionCountUnclosed
        if (← current) != '}' then
          let lo ← liftResult countStart
          let hi ← liftResult (countError (← parseDecimal))
          pure (RepetitionKind.bounded lo hi)
        else
          pure (RepetitionKind.atLeast (← liftResult countStart))
      else pure (RepetitionKind.exactly (← liftResult countStart))
    if (← atEnd) || (← current) != '}' then failAt ⟨start, ← here⟩ .repetitionCountUnclosed
    let mut greedy := true
    if (← bumpAndBumpSpace) && (← current) == '?' then
      greedy := false
      let _ ← bump
    let opSpan : Span := ⟨start, ← here⟩
    match range with
    | .bounded lo hi => if hi < lo then failAt opSpan .repetitionCountInvalid
    | _ => pure ()
    pure { concat with
      asts := concat.asts.pop.push (.repetition ⟨ast.span.start, ← here⟩ range greedy ast) }

/-! ### Groups -/

/-- The setting a list of flag items gives a flag, if it names it. -/
def flagState (items : List FlagsItem) (f : Flag) : Option Bool :=
  (items.foldl (fun (acc : Bool × Option Bool) item =>
    match acc.2 with
    | some _ => acc
    | none =>
      match item with
      | .negation => (true, none)
      | .flag g => if g == f then (acc.1, some !acc.1) else acc) (false, none)).2

/-- Reads a flag letter. -/
def parseFlag : ParseM Flag := do
  match ← current with
  | 'i' => pure .caseInsensitive
  | 'm' => pure .multiLine
  | 's' => pure .dotMatchesNewLine
  | 'U' => pure .swapGreed
  | 'u' => pure .unicode
  | 'R' => pure .crlf
  | 'x' => pure .ignoreWhitespace
  | _ => failAt (← spanChar) .flagUnrecognized

/-- Reads flag items up to `:` or `)`; gives them with the span of a trailing `-`, if any. -/
def parseFlagItems : Nat → Array (FlagsItem × Span) → Option Span →
    ParseM (Array (FlagsItem × Span) × Option Span)
  | 0, items, last => pure (items, last)
  | fuel + 1, items, last => do
    let c ← current
    if c == ':' || c == ')' then return (items, last)
    let sc ← spanChar
    let (items, last) ← if c == '-' then
        match items.find? (·.1 == .negation) with
        | some (_, first) => failAt sc (.flagRepeatedNegation first)
        | none => pure (items.push (.negation, sc), some sc)
      else do
        let f ← parseFlag
        match items.find? (·.1 == .flag f) with
        | some (_, first) => failAt sc (.flagDuplicate first)
        | none => pure (items.push (.flag f, sc), none)
    if !(← bump) then failAt (← spanHere) .flagUnexpectedEof
    parseFlagItems fuel items last

/-- Reads the flags of a group. -/
def parseFlags : ParseM (List FlagsItem) := do
  let (items, last) ← parseFlagItems (← get).pattern.size #[] none
  if let some span := last then failAt span .flagDanglingNegation
  pure (items.toList.map (·.1))

/-- Whether a character may be in a group's name (`first` for its first character). -/
def isCaptureChar (c : Char) (first : Bool) : Bool :=
  if first then c == '_' || isAlphabetic c
  else c == '_' || c == '.' || c == '[' || c == ']' || isAlphanumeric c

/-- Moves over the characters of a group's name up to `>`. -/
def readCaptureName (start : Nat) : Nat → ParseM Unit
  | 0 => pure ()
  | fuel + 1 => do
    let c ← current
    if c == '>' then return
    if !isCaptureChar c ((← here).offset == start) then failAt (← spanChar) .groupNameInvalid
    if !(← bump) then return
    readCaptureName start fuel

/-- The next group number. -/
def nextCaptureIndex (span : Span) : ParseM Nat := do
  let s ← get
  if s.captureIndex + 1 ≥ Nat.pow 2 32 then failAt span .captureLimitExceeded
  set { s with captureIndex := s.captureIndex + 1 }
  pure (s.captureIndex + 1)

/-- Reads a group's name up to and past `>`, and records it. -/
def parseCaptureName : ParseM String := do
  if ← atEnd then failAt (← spanHere) .groupNameUnexpectedEof
  let start ← here
  readCaptureName start.offset (← get).pattern.size
  let stop ← here
  if ← atEnd then failAt (← spanHere) .groupNameUnexpectedEof
  let _ ← bump
  let name ← textBetween start.offset stop.offset
  if name.isEmpty then failAt ⟨start, start⟩ .groupNameEmpty
  let span : Span := ⟨start, stop⟩
  let s ← get
  match s.captureNames.lookup name with
  | some first => failAt span (.groupNameDuplicate first)
  | none =>
    set { s with captureNames := (name, span) :: s.captureNames }
    pure name

/-- What an opening parenthesis starts: flags for the rest of the group (with the span of the
flag group), or a group. -/
inductive Opening where
  | setFlags (span : Span) (items : List FlagsItem)
  | group (span : Span) (kind : GroupKind)

/-- Reads from `(` to the start of the group's contents. -/
def parseGroup : ParseM Opening := do
  let openSpan ← spanChar
  let _ ← bump
  bumpSpace
  if (← bumpIf "?=") || (← bumpIf "?!") || (← bumpIf "?<=") || (← bumpIf "?<!") then
    failAt ⟨openSpan.start, ← here⟩ .unsupportedLookAround
  let innerSpan ← spanHere
  if (← bumpIf "?P<") || (← bumpIf "?<") then
    let index ← nextCaptureIndex openSpan
    let name ← parseCaptureName
    return .group openSpan (.captureName name index)
  if ← bumpIf "?" then
    if ← atEnd then failAt openSpan .groupUnclosed
    let items ← parseFlags
    let charEnd ← current
    let _ ← bump
    if charEnd == ')' then
      if items.isEmpty then failAt innerSpan .repetitionMissing
      return .setFlags ⟨openSpan.start, ← here⟩ items
    return .group openSpan (.nonCapturing items)
  let index ← nextCaptureIndex openSpan
  pure (.group openSpan (.captureIndex index))

/-- Handles `(`: a flag group joins the concatenation, a group opens. -/
def pushGroup (concat : Concatenation) : ParseM Concatenation := do
  match ← parseGroup with
  | .setFlags span items =>
    if let some v := flagState items .ignoreWhitespace then
      modify fun s => { s with ignoreWs := v }
    pure { concat with asts := concat.asts.push (.flags span items) }
  | .group span kind =>
    let s ← get
    let old := s.ignoreWs
    let new := match kind with
      | .nonCapturing items => (flagState items .ignoreWhitespace).getD old
      | _ => old
    set { s with
      groups := .group { before := concat, span, kind, ignoreWs := old } :: s.groups
      ignoreWs := new }
    pure { span := ← spanHere, asts := #[] }

/-- Handles `)`: closes the innermost group. -/
def popGroup (groupConcat : Concatenation) : ParseM Concatenation := do
  let s ← get
  let (g, alt, rest) ← match s.groups with
    | .group g :: rest => pure (g, none, rest)
    | .alternation span asts :: .group g :: rest => pure (g, some (span, asts), rest)
    | _ => failAt (← spanChar) .groupUnopened
  set { s with groups := rest, ignoreWs := g.ignoreWs }
  let concatEnd ← here
  let _ ← bump
  let groupEnd ← here
  let closed := { groupConcat with span := ⟨groupConcat.span.start, concatEnd⟩ }
  let inner := match alt with
    | some (span, asts) => Ast.alternation ⟨span.start, concatEnd⟩ (asts.push closed.intoAst).toList
    | none => closed.intoAst
  pure { g.before with
    asts := g.before.asts.push (.group ⟨g.span.start, groupEnd⟩ g.kind inner) }

/-- Handles `|`: the concatenation so far joins the alternation. -/
def pushAlternate (concat : Concatenation) : ParseM Concatenation := do
  let closed := { concat with span := ⟨concat.span.start, ← here⟩ }
  let s ← get
  match s.groups with
  | .alternation span asts :: rest =>
    set { s with groups := .alternation span (asts.push closed.intoAst) :: rest }
  | gs =>
    set { s with groups := .alternation ⟨concat.span.start, ← here⟩ #[closed.intoAst] :: gs }
  let _ ← bump
  pure { span := ← spanHere, asts := #[] }

/-- At the end of the pattern: the whole tree, or an error for a group left open. -/
def popGroupEnd (concat : Concatenation) : ParseM Ast := do
  let closed := { concat with span := ⟨concat.span.start, ← here⟩ }
  let s ← get
  match s.groups with
  | [] => pure closed.intoAst
  | [.alternation span asts] =>
    pure (.alternation ⟨span.start, ← here⟩ (asts.push closed.intoAst).toList)
  | .alternation _ _ :: .group g :: _ => failAt g.span .groupUnclosed
  | .group g :: _ => failAt g.span .groupUnclosed
  | .alternation _ _ :: _ => pure closed.intoAst

/-! ### Classes -/

/-- The error for a class left open: at the innermost open bracket. -/
def unclosedClassError : ParseM SyntaxError := do
  let s ← get
  let spans := s.classes.filterMap fun st => match st with
    | .opened _ _ span => some span
    | .op _ _ => none
  pure { kind := .classUnclosed, span := spans.headD default }

/-- Reads literal `-` characters at the start of a class. -/
def readLeadingDashes (start : Position) : Nat → ClassUnion → ParseM ClassUnion
  | 0, u => pure u
  | fuel + 1, u => do
    if (← current) != '-' then return u
    let lit : Literal := { span := ← spanChar, c := '-' }
    let u := u.push (.literal lit)
    if !(← bumpAndBumpSpace) then failAt ⟨start, start⟩ .classUnclosed
    readLeadingDashes start fuel u

/-- Reads an opening bracket with its `^`, leading `-` and leading `]`: gives whether the class
is negated, the span of the opening, and the items read. -/
def parseSetClassOpen : ParseM (Bool × Span × ClassUnion) := do
  let start ← here
  if !(← bumpAndBumpSpace) then failAt ⟨start, ← here⟩ .classUnclosed
  let negated := (← current) == '^'
  if negated then
    if !(← bumpAndBumpSpace) then failAt ⟨start, ← here⟩ .classUnclosed
  let u ← readLeadingDashes start (← get).pattern.size { span := ← spanHere, items := #[] }
  let u ← if u.items.isEmpty && (← current) == ']' then do
      let lit : Literal := { span := ← spanChar, c := ']' }
      let u := u.push (.literal lit)
      if !(← bumpAndBumpSpace) then failAt ⟨start, ← here⟩ .classUnclosed
      pure u
    else pure u
  pure (negated, ⟨start, ← here⟩, u)

/-- Opens a bracket inside or at the start of a class. -/
def pushClassOpen (outer : ClassUnion) : ParseM ClassUnion := do
  let (negated, setSpan, u) ← parseSetClassOpen
  modify fun s => { s with classes := .opened outer negated setSpan :: s.classes }
  pure u

/-- Joins a set to the operator waiting for it, if there is one. -/
def popClassOp (rhs : ClassSet) : ParseM ClassSet := do
  let s ← get
  match s.classes with
  | .op kind lhs :: rest =>
    set { s with classes := rest }
    pure (.binaryOp ⟨lhs.span.start, rhs.span.stop⟩ kind lhs rhs)
  | _ => pure rhs

/-- Handles an operator: the union so far becomes its left side. -/
def pushClassOp (kind : ClassSetOp) (u : ClassUnion) : ParseM ClassUnion := do
  let lhs ← popClassOp (.item u.intoItem)
  modify fun s => { s with classes := .op kind lhs :: s.classes }
  pure { span := ← spanHere, items := #[] }

/-- What a closing bracket finishes: a nested class, back in the enclosing union, or the whole
class. -/
inductive Closing where
  | nested (u : ClassUnion)
  | whole (ast : Ast)

/-- Handles `]`. -/
def popClass (u : ClassUnion) : ParseM Closing := do
  let set' ← popClassOp (.item u.intoItem)
  let s ← get
  match s.classes with
  | .opened outer negated setSpan :: rest =>
    set { s with classes := rest }
    let _ ← bump
    let span : Span := ⟨setSpan.start, ← here⟩
    if rest.isEmpty then pure (.whole (.bracketed span negated set'))
    else pure (.nested (outer.push (.bracketed span negated set')))
  | _ => throw (← unclosedClassError)

/-- Reads `[:name:]`; gives nothing, with the position put back, if it is not one. -/
def maybeParseAsciiClass : ParseM (Option ClassSetItem) := do
  let start ← here
  let restore : ParseM (Option ClassSetItem) := do
    modify fun s => { s with pos := start }
    pure none
  if !(← bump) || (← current) != ':' then return ← restore
  if !(← bump) then return ← restore
  let negated := (← current) == '^'
  if negated then
    if !(← bump) then return ← restore
  let nameStart := (← here).offset
  let rec skipToColon : Nat → ParseM Unit
    | 0 => pure ()
    | fuel + 1 => do
      if (← current) == ':' then return
      if !(← bump) then return
      skipToColon fuel
  skipToColon (← get).pattern.size
  if ← atEnd then return ← restore
  let name ← textBetween nameStart (← here).offset
  if !(← bumpIf ":]") then return ← restore
  match AsciiKind.ofName? name with
  | some kind => pure (some (.ascii ⟨start, ← here⟩ kind negated))
  | none => restore

/-- Reads an item of a class: an escape or a character. -/
def parseSetClassItem : ParseM Primitive := do
  if (← current) == '\\' then parseEscape
  else
    let lit : Literal := { span := ← spanChar, c := ← current }
    let _ ← bump
    pure (.literal lit)

/-- Reads an item of a class, or a range of two. -/
def parseSetClassRange : ParseM ClassSetItem := do
  let prim1 ← parseSetClassItem
  bumpSpace
  if ← atEnd then throw (← unclosedClassError)
  let next ← peekSpace
  if (← current) != '-' || next == some ']' || next == some '-' then
    return ← liftResult prim1.toClassSetItem
  if !(← bumpAndBumpSpace) then throw (← unclosedClassError)
  let prim2 ← parseSetClassItem
  let lo ← liftResult prim1.toClassLiteral
  let hi ← liftResult prim2.toClassLiteral
  let span : Span := ⟨prim1.span.start, prim2.span.stop⟩
  if hi.c < lo.c then failAt span .classRangeInvalid
  pure (.range span lo hi)

/-- Reads a class from its `[` to its `]`. -/
def parseSetClassLoop : Nat → ClassUnion → ParseM Ast
  | 0, _ => do throw (← unclosedClassError)
  | fuel + 1, u => do
    bumpSpace
    if ← atEnd then throw (← unclosedClassError)
    let c ← current
    let next ← peek
    if c == '[' then
      if !(← get).classes.isEmpty then
        if let some item ← maybeParseAsciiClass then
          return ← parseSetClassLoop fuel (u.push item)
      parseSetClassLoop fuel (← pushClassOpen u)
    else if c == ']' then
      match ← popClass u with
      | .nested outer => parseSetClassLoop fuel outer
      | .whole ast => pure ast
    else if c == '&' && next == some '&' then
      let _ ← bumpIf "&&"
      parseSetClassLoop fuel (← pushClassOp .intersection u)
    else if c == '-' && next == some '-' then
      let _ ← bumpIf "--"
      parseSetClassLoop fuel (← pushClassOp .difference u)
    else if c == '~' && next == some '~' then
      let _ ← bumpIf "~~"
      parseSetClassLoop fuel (← pushClassOp .symmetricDifference u)
    else
      parseSetClassLoop fuel (u.push (← parseSetClassRange))

/-- Reads a bracketed class. -/
def parseSetClass : ParseM Ast := do
  parseSetClassLoop ((← get).pattern.size + 1) { span := ← spanHere, items := #[] }

/-! ### The whole pattern -/

/-- Reads pieces up to the end of the pattern. -/
def parseLoop : Nat → Concatenation → ParseM Concatenation
  | 0, concat => pure concat
  | fuel + 1, concat => do
    bumpSpace
    if ← atEnd then return concat
    let c ← current
    let concat ← match c with
      | '(' => pushGroup concat
      | ')' => popGroup concat
      | '|' => pushAlternate concat
      | '[' => do pure { concat with asts := concat.asts.push (← parseSetClass) }
      | '?' => parseUncountedRepetition concat .zeroOrOne
      | '*' => parseUncountedRepetition concat .zeroOrMore
      | '+' => parseUncountedRepetition concat .oneOrMore
      | '{' => parseCountedRepetition concat
      | _ => do pure { concat with asts := concat.asts.push (← parsePrimitive).toAst }
    parseLoop fuel concat

/-! ### Depth of nesting -/

/-- The deepest nesting allowed. -/
def nestLimit : Nat := 250

/-- One level deeper, unless that passes the limit. -/
def deeper (depth : Nat) (span : Span) : Except SyntaxError Nat :=
  if depth + 1 > nestLimit then .error { kind := .nestLimitExceeded nestLimit, span }
  else .ok (depth + 1)

mutual

/-- Checks the nesting below a piece at a depth. -/
def checkNest (depth : Nat) : Ast → Except SyntaxError Unit
  | .bracketed span _ set => do
    let d ← deeper depth span
    checkNestSet d set
  | .repetition span _ _ sub => do
    let d ← deeper depth span
    checkNest d sub
  | .group span _ sub => do
    let d ← deeper depth span
    checkNest d sub
  | .alternation span subs => do
    let d ← deeper depth span
    checkNestAll d subs
  | .concat span subs => do
    let d ← deeper depth span
    checkNestAll d subs
  | _ => .ok ()

/-- Checks the nesting below each of a list of pieces. -/
def checkNestAll (depth : Nat) : List Ast → Except SyntaxError Unit
  | [] => .ok ()
  | a :: rest => do
    checkNest depth a
    checkNestAll depth rest

/-- Checks the nesting below a class set. -/
def checkNestSet (depth : Nat) : ClassSet → Except SyntaxError Unit
  | .item i => checkNestItem depth i
  | .binaryOp span _ lhs rhs => do
    let d ← deeper depth span
    checkNestSet d lhs
    checkNestSet d rhs

/-- Checks the nesting below a class item. -/
def checkNestItem (depth : Nat) : ClassSetItem → Except SyntaxError Unit
  | .bracketed span _ set => do
    let d ← deeper depth span
    checkNestSet d set
  | .union span items => do
    let d ← deeper depth span
    checkNestItems d items
  | _ => .ok ()

/-- Checks the nesting below each of a list of class items. -/
def checkNestItems (depth : Nat) : List ClassSetItem → Except SyntaxError Unit
  | [] => .ok ()
  | i :: rest => do
    checkNestItem depth i
    checkNestItems depth rest

end

/-- The tree of a pattern, or the first error in it. -/
def parseAst (pattern : String) : Except SyntaxError Ast := do
  let chars := pattern.toList.toArray
  let run : ParseM Ast := do
    let concat ← parseLoop (chars.size + 1) { span := Span.splat Position.initial, asts := #[] }
    popGroupEnd concat
  let (ast, _) ← run.run { pattern := chars }
  checkNest 0 ast
  pure ast

end PostRules.Regex
