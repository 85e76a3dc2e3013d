import PostRules.Yaml.Token

/-!
# Scanning scalars

The three ways of writing a scalar, and how each turns its lines into text.

* A *plain* scalar runs until `: `, a comment, a document marker, a flow indicator inside
  brackets, or a line indented less than the enclosing block.
* A *quoted* scalar runs to its closing quote. Single quotes escape themselves by doubling;
  double quotes know backslash escapes, including `\x`, `\u` and `\U` code points.
* A *block* scalar (`|` literal, `>` folded) holds the lines indented at least as much as its
  first line, with an optional explicit indentation and a chomping indicator for trailing breaks.

In plain and quoted scalars, line breaks are *folded*: a single break between two lines
becomes a space, and each further empty line becomes a line feed.
-/

namespace PostRules.Yaml

/-- Text pending while a scalar's lines are folded. -/
structure Folding where
  text : String := ""
  leadingBreak : String := ""
  trailingBreaks : String := ""
  whitespaces : String := ""
  leadingBlanks : Bool := false
  deriving Inhabited

namespace Folding

/-- Adds the blanks or breaks pending before the next piece of text: a lone line feed folds
into a space, further breaks stay, and blanks inside a line stay as written. -/
def join (f : Folding) : Folding :=
  if f.leadingBlanks then
    if f.leadingBreak.startsWith "\n" then
      if f.trailingBreaks.isEmpty then
        { f with text := f.text.push ' ', leadingBreak := "", leadingBlanks := false }
      else
        { f with text := f.text ++ f.trailingBreaks, leadingBreak := "", trailingBreaks := "",
                 leadingBlanks := false }
    else
      { f with text := f.text ++ f.leadingBreak ++ f.trailingBreaks, leadingBreak := "",
               trailingBreaks := "", leadingBlanks := false }
  else { f with text := f.text ++ f.whitespaces, whitespaces := "" }

end Folding

/-! ### Plain scalars -/

/-- Takes the characters of one line of a plain scalar, joining what was pending before each. -/
def plainWords (flow : Bool) : Nat → Folding → Mark → ScanM (Folding × Mark)
  | 0, f, stop => pure (f, stop)
  | n + 1, f, stop => do
    let c ← current
    let c1 ← ahead 1
    if isSpaceOrEnd c then return (f, stop)
    if flow && c == ':' && ",?[]\x7b\x7d".contains c1 then return (f, stop)
    if (c == ':' && isSpaceOrEnd c1) || (flow && ",[]\x7b\x7d".contains c) then return (f, stop)
    let f := f.join
    advance
    plainWords flow n { f with text := f.text.push c } (← here)

/-- Takes the blanks and line breaks after a line of a plain scalar. -/
def plainGaps (start : Mark) (indent : Int) : Nat → Folding → ScanM Folding
  | 0, f => pure f
  | n + 1, f => do
    let c ← current
    if isBlank c then
      if f.leadingBlanks && (Int.ofNat (← here).column) < indent && c == '\t' then
        throw { problem := "found a tab character that violates indentation",
                problemMark := (← here),
                context := some ("while scanning a plain scalar", start) }
      if f.leadingBlanks then
        advance
        plainGaps start indent n f
      else
        advance
        plainGaps start indent n { f with whitespaces := f.whitespaces.push c }
    else if isBreak c then
      if f.leadingBlanks then
        let t ← takeLine
        plainGaps start indent n { f with trailingBreaks := f.trailingBreaks ++ t }
      else
        let t ← takeLine
        plainGaps start indent n { f with whitespaces := "", leadingBreak := t, leadingBlanks := true }
    else pure f

/-- Reads the lines of a plain scalar. -/
def plainLines (start : Mark) (indent : Int) (flow : Bool) :
    Nat → Folding → Mark → ScanM (Folding × Mark)
  | 0, f, stop => pure (f, stop)
  | n + 1, f, stop => do
    let s ← get
    if s.atDocumentMarker || s.cur == '#' then return (f, stop)
    let (f, stop) ← plainWords flow s.fuel f stop
    let c ← current
    if !(isBlank c || isBreak c) then return (f, stop)
    let f ← plainGaps start indent (← get).fuel f
    if !flow && (Int.ofNat (← here).column) < indent then return (f, stop)
    plainLines start indent flow n f stop

/-- Scans a plain scalar. After it, a simple key may start if the scalar ended at a new line. -/
def scanPlainScalar : ScanM Token := do
  let s ← get
  let start := s.mark
  let (f, stop) ← plainLines start (s.indent + 1) (s.flowLevel != 0) s.fuel {} start
  if f.leadingBlanks then modify fun s => { s with keyAllowed := true }
  return ⟨.scalar f.text .plain, start, stop⟩

/-! ### Quoted scalars -/

/-- The character a one-letter escape stands for, or the number of hexadecimal digits that follow
`x`, `u` and `U`. -/
def escapeOf (c : Char) : Option (Sum Char Nat) :=
  match c with
  | '0' => some (.inl '\x00')
  | 'a' => some (.inl '\x07')
  | 'b' => some (.inl '\x08')
  | 't' => some (.inl '\t')
  | '\t' => some (.inl '\t')
  | 'n' => some (.inl '\n')
  | 'v' => some (.inl '\x0b')
  | 'f' => some (.inl '\x0c')
  | 'r' => some (.inl '\r')
  | 'e' => some (.inl '\x1b')
  | ' ' => some (.inl ' ')
  | '"' => some (.inl '"')
  | '/' => some (.inl '/')
  | '\'' => some (.inl '\'')
  | '\\' => some (.inl '\\')
  | 'N' => some (.inl '\x85')
  | '_' => some (.inl '\xa0')
  | 'L' => some (.inl '\u2028')
  | 'P' => some (.inl '\u2029')
  | 'x' => some (.inr 2)
  | 'u' => some (.inr 4)
  | 'U' => some (.inr 8)
  | _ => none

/-- The value of the `k` hexadecimal digits starting `from` places ahead, if they all are digits. -/
def hexDigits (s : Scanner) (start : Nat) : Nat → Option Nat
  | 0 => some 0
  | k + 1 => do
    let d ← hexValue (s.peekAt start)
    let rest ← hexDigits s (start + 1) k
    return d * 16 ^ k + rest

/-- Takes the characters of one line of a quoted scalar. Returns whether a line break was
escaped, which ends the line. -/
def quotedWords (single : Bool) (start : Mark) : Nat → Folding → ScanM (Folding × Bool)
  | 0, f => pure (f, false)
  | n + 1, f => do
    let c ← current
    let c1 ← ahead 1
    if isSpaceOrEnd c then return (f, false)
    if single && c == '\'' && c1 == '\'' then
      advance; advance
      quotedWords single start n { f with text := f.text.push '\'' }
    else if c == (if single then '\'' else '"') then return (f, false)
    else if !single && c == '\\' && isBreak c1 then
      advance
      modify Scanner.skipLine
      return (f, true)
    else if !single && c == '\\' then
      let ctx := some ("while parsing a quoted scalar", start)
      match escapeOf c1 with
      | none => throw { problem := "found unknown escape character", problemMark := (← here),
                        context := ctx }
      | some (.inl e) =>
        advance; advance
        quotedWords single start n { f with text := f.text.push e }
      | some (.inr k) =>
        advance; advance
        let s ← get
        match hexDigits s 0 k with
        | none => throw { problem := "did not find expected hexdecimal number",
                          problemMark := s.mark, context := ctx }
        | some v =>
          if (0xD800 ≤ v && v ≤ 0xDFFF) || v > 0x10FFFF then
            throw { problem := "found invalid Unicode character escape code",
                    problemMark := s.mark, context := ctx }
          for _ in [0:k] do advance
          quotedWords single start n { f with text := f.text.push (Char.ofNat v) }
    else
      advance
      quotedWords single start n { f with text := f.text.push c }

/-- Takes the blanks and line breaks between the lines of a quoted scalar. -/
def quotedGaps : Nat → Folding → ScanM Folding
  | 0, f => pure f
  | n + 1, f => do
    let c ← current
    if isBlank c then
      advance
      if f.leadingBlanks then quotedGaps n f
      else quotedGaps n { f with whitespaces := f.whitespaces.push c }
    else if isBreak c then
      let t ← takeLine
      if f.leadingBlanks then quotedGaps n { f with trailingBreaks := f.trailingBreaks ++ t }
      else quotedGaps n { f with whitespaces := "", leadingBreak := t, leadingBlanks := true }
    else pure f

/-- Reads the lines of a quoted scalar up to its closing quote. -/
def quotedLines (single : Bool) (start : Mark) : Nat → Folding → ScanM Folding
  | 0, f => pure f
  | n + 1, f => do
    let s ← get
    let ctx := some ("while scanning a quoted scalar", start)
    if s.atDocumentMarker then
      throw { problem := "found unexpected document indicator", problemMark := s.mark,
              context := ctx }
    if isEnd s.cur then
      throw { problem := "found unexpected end of stream", problemMark := s.mark, context := ctx }
    let (f, escaped) ← quotedWords single start s.fuel { f with leadingBlanks := false }
    let f := if escaped then { f with leadingBlanks := true } else f
    if (← current) == (if single then '\'' else '"') then return f
    let f ← quotedGaps (← get).fuel f
    quotedLines single start n f.join

/-- Scans a single- or double-quoted scalar. -/
def scanQuotedScalar (single : Bool) : ScanM Token := do
  let start ← here
  advance
  let f ← quotedLines single start (← get).fuel {}
  advance
  return ⟨.scalar f.text (if single then .singleQuoted else .doubleQuoted), start, (← here)⟩

/-! ### Block scalars -/

/-- Moves past the indentation spaces of a block scalar's line: all of them while the
indentation is not yet known, else those short of it. -/
def blockIndentation (indent : Nat) : Nat → ScanM Unit
  | 0 => pure ()
  | n + 1 => do
    let s ← get
    if (indent == 0 || s.mark.column < indent) && s.cur == ' ' then
      advance
      blockIndentation indent n
    else pure ()

/-- Moves past the indentation and empty lines before a line of a block scalar, collecting the
breaks and the mark after the last of them. -/
def blockGaps (start : Mark) (indent : Nat) :
    Nat → Nat → String → Mark → ScanM (Nat × String × Mark)
  | 0, maxIndent, breaks, stop => pure (maxIndent, breaks, stop)
  | n + 1, maxIndent, breaks, stop => do
    blockIndentation indent (← get).fuel
    let s ← get
    let maxIndent := max maxIndent s.mark.column
    if (indent == 0 || s.mark.column < indent) && s.cur == '\t' then
      throw { problem := "found a tab character where an indentation space is expected",
              problemMark := s.mark, context := some ("while scanning a block scalar", start) }
    if !isBreak s.cur then return (maxIndent, breaks, stop)
    let t ← takeLine
    blockGaps start indent n maxIndent (breaks ++ t) (← here)

/-- The indentation, breaks and end mark after the gaps before a line of a block scalar. An
indentation still unknown is settled here: the deepest indentation seen, but at least one more
than the enclosing block and at least one. -/
def blockBreaks (start : Mark) (indent : Nat) (breaks : String) :
    ScanM (Nat × String × Mark) := do
  let s ← get
  let (maxIndent, breaks, stop) ← blockGaps start indent s.fuel 0 breaks s.mark
  if indent == 0 then
    let floor := (s.indent + 1).toNat
    return (max (max maxIndent floor) 1, breaks, stop)
  else return (indent, breaks, stop)

/-- Reads the lines of a block scalar at its indentation. -/
def blockLines (start : Mark) (literal : Bool) :
    Nat → Nat → String → String → String → Bool → Mark → ScanM (String × String × String × Mark)
  | 0, _, text, leadingBreak, trailingBreaks, _, stop =>
    pure (text, leadingBreak, trailingBreaks, stop)
  | n + 1, indent, text, leadingBreak, trailingBreaks, leadingBlank, stop => do
    let s ← get
    if s.mark.column != indent || isEnd s.cur then
      return (text, leadingBreak, trailingBreaks, stop)
    let trailingBlank := isBlank s.cur
    let text :=
      if !literal && leadingBreak.startsWith "\n" && !leadingBlank && !trailingBlank then
        if trailingBreaks.isEmpty then text.push ' ' else text
      else text ++ leadingBreak
    let text := text ++ trailingBreaks
    let leadingBlank := isBlank s.cur
    let line ← takeWhile (fun c => !isBreakOrEnd c)
    let brk ← takeLine
    let (indent, breaks, stop) ← blockBreaks start indent ""
    blockLines start literal n indent (text ++ line) brk breaks leadingBlank stop

/-- Scans a literal (`|`) or folded (`>`) block scalar with its header: an optional chomping
indicator (`+` keeps trailing breaks, `-` strips them all) and an optional indentation digit,
in either order, then blanks and a comment to the end of the line. -/
def scanBlockScalar (literal : Bool) : ScanM Token := do
  let start ← here
  advance
  let ctx := some ("while scanning a block scalar", start)
  let zeroIndent : ScanM Unit := do
    throw { problem := "found an indentation indicator equal to 0", problemMark := (← here),
            context := ctx }
  let mut chomping : Int := 0
  let mut increment : Nat := 0
  let c ← current
  if c == '+' || c == '-' then
    chomping := if c == '+' then 1 else -1
    advance
    let d ← current
    if d.isDigit then
      if d == '0' then zeroIndent
      increment := d.toNat - '0'.toNat
      advance
  else if c.isDigit then
    if c == '0' then zeroIndent
    increment := c.toNat - '0'.toNat
    advance
    let d ← current
    if d == '+' || d == '-' then
      chomping := if d == '+' then 1 else -1
      advance
  skipWhile isBlank
  skipComment
  if !isBreakOrEnd (← current) then
    throw { problem := "did not find expected comment or line break", problemMark := (← here),
            context := ctx }
  if isBreak (← current) then modify Scanner.skipLine
  let s ← get
  let indent : Nat :=
    if increment == 0 then 0
    else if s.indent ≥ 0 then (s.indent + increment).toNat else increment
  let (indent, breaks, stop) ← blockBreaks start indent ""
  let (text, leadingBreak, trailingBreaks, stop) ←
    blockLines start literal (← get).fuel indent "" "" breaks false stop
  let text := if chomping != -1 then text ++ leadingBreak else text
  let text := if chomping == 1 then text ++ trailingBreaks else text
  return ⟨.scalar text (if literal then .literal else .folded), start, stop⟩

end PostRules.Yaml
