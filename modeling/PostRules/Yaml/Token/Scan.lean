import PostRules.Yaml.Token.Scalar

/-!
# The token scanner

Fetches tokens one at a time and keeps them in a queue. Block collections are opened and closed
by indentation: a deeper `-`, `?` or key opens a block collection (its start token is inserted
where the collection began), and a shallower line closes as many as it leaves.

A simple key is remembered at each flow level where one may start. When `:` follows, the `KEY`
token (and a block mapping start, if needed) is inserted before the key's first token. A
remembered key goes stale at the end of its line or after 1024 characters; if the block
structure required it, that is an error.

The reader of tokens asks for the head of the queue; the scanner first fetches until no
remembered key could still insert a token before that head.
-/

namespace PostRules.Yaml

/-! ### Queue and indentation -/

/-- Appends a token to the queue. -/
def enqueue (t : Token) : ScanM Unit :=
  modify fun s => { s with queue := s.queue.push t }

/-- Inserts a token before the token numbered `number` (counting those already taken). -/
def insertToken (number : Nat) (t : Token) : ScanM Unit :=
  modify fun s => { s with queue := s.queue.insertIdxIfInBounds (number - s.taken) t }

/-- Opens a block collection at `column` if it is deeper than the current indentation: the
start token goes at the end of the queue, or before the token numbered `number`. -/
def rollIndent (column : Int) (number : Option Nat) (kind : TokenKind) (mark : Mark) :
    ScanM Unit := do
  let s ← get
  if s.flowLevel == 0 && s.indent < column then
    set { s with indents := s.indent :: s.indents, indent := column }
    match number with
    | none => enqueue ⟨kind, mark, mark⟩
    | some n => insertToken n ⟨kind, mark, mark⟩

/-- Closes the block collections deeper than `column`, one block end each. -/
def unrollIndent (column : Int) : ScanM Unit := do
  let rec go : Nat → ScanM Unit
    | 0 => pure ()
    | n + 1 => do
      let s ← get
      if s.indent > column then
        enqueue ⟨.blockEnd, s.mark, s.mark⟩
        modify fun s => match s.indents with
          | i :: is => { s with indent := i, indents := is }
          | [] => { s with indent := -1 }
        go n
      else pure ()
  if (← get).flowLevel == 0 then go ((← get).indents.length + 1)

/-! ### Simple keys -/

/-- Forgets the simple key of the innermost level; a required key cannot be forgotten. -/
def removeSimpleKey : ScanM Unit := do
  let s ← get
  match s.keys.back? with
  | some k =>
    if k.possible && k.required then
      throw { problem := "could not find expected ':'", problemMark := s.mark,
              context := some ("while scanning a simple key", k.mark) }
    set { s with keys := s.keys.modify (s.keys.size - 1) fun k => { k with possible := false } }
  | none => pure ()

/-- Remembers that a simple key may start here, if one may. It is required when it stands at
the indentation of the enclosing block. -/
def saveSimpleKey : ScanM Unit := do
  let s ← get
  if s.keyAllowed then
    let k : SimpleKey :=
      { possible := true
        required := s.flowLevel == 0 && s.indent == Int.ofNat s.mark.column
        tokenNumber := s.taken + s.queue.size
        mark := s.mark }
    removeSimpleKey
    modify fun s => { s with keys := s.keys.modify (s.keys.size - 1) fun _ => k }

/-- Forgets remembered keys that can no longer be keys: those on an earlier line or more than
1024 characters back. -/
def staleSimpleKeys : ScanM Unit := do
  let s ← get
  let keys ← s.keys.mapM fun k =>
    if k.possible && (k.mark.line < s.mark.line || k.mark.index + 1024 < s.mark.index) then
      if k.required then
        throw { problem := "could not find expected ':'", problemMark := s.mark,
                context := some ("while scanning a simple key", k.mark) }
      else pure { k with possible := false }
    else pure k
  set { s with keys }

/-- Enters a flow collection: a new level with no remembered key. -/
def increaseFlowLevel : ScanM Unit :=
  modify fun s => { s with keys := s.keys.push ⟨false, false, 0, Mark.start⟩,
                           flowLevel := s.flowLevel + 1 }

/-- Leaves a flow collection. -/
def decreaseFlowLevel : ScanM Unit :=
  modify fun s =>
    if s.flowLevel == 0 then s else { s with keys := s.keys.pop, flowLevel := s.flowLevel - 1 }

/-! ### Tokens of one character or a few -/

/-- Takes `n` characters as one token. -/
def simpleToken (kind : TokenKind) (n : Nat) : ScanM Unit := do
  let start ← here
  for _ in [0:n] do advance
  enqueue ⟨kind, start, (← here)⟩

/-- The start of the stream. -/
def fetchStreamStart : ScanM Unit := do
  modify fun s => { s with indent := -1, keys := s.keys.push ⟨false, false, 0, Mark.start⟩,
                           keyAllowed := true, started := true }
  let m ← here
  enqueue ⟨.streamStart, m, m⟩

/-- The end of the stream, placed at the start of a line. -/
def fetchStreamEnd : ScanM Unit := do
  modify fun s =>
    if s.mark.column != 0 then { s with mark := { s.mark with column := 0, line := s.mark.line + 1 } }
    else s
  unrollIndent (-1)
  removeSimpleKey
  modify fun s => { s with keyAllowed := false }
  let m ← here
  enqueue ⟨.streamEnd, m, m⟩

/-- `---` or `...` at the start of a line. -/
def fetchDocumentIndicator (kind : TokenKind) : ScanM Unit := do
  unrollIndent (-1)
  removeSimpleKey
  modify fun s => { s with keyAllowed := false }
  simpleToken kind 3

/-- `[` or `{`. -/
def fetchFlowCollectionStart (kind : TokenKind) : ScanM Unit := do
  saveSimpleKey
  increaseFlowLevel
  modify fun s => { s with keyAllowed := true }
  simpleToken kind 1

/-- `]` or `}`. -/
def fetchFlowCollectionEnd (kind : TokenKind) : ScanM Unit := do
  removeSimpleKey
  decreaseFlowLevel
  modify fun s => { s with keyAllowed := false }
  simpleToken kind 1

/-- `,` inside a flow collection. -/
def fetchFlowEntry : ScanM Unit := do
  removeSimpleKey
  modify fun s => { s with keyAllowed := true }
  simpleToken .flowEntry 1

/-- `-` before an entry of a block sequence. -/
def fetchBlockEntry : ScanM Unit := do
  let s ← get
  if s.flowLevel == 0 then
    if !s.keyAllowed then
      scanError none "block sequence entries are not allowed in this context"
    rollIndent (Int.ofNat s.mark.column) none .blockSequenceStart s.mark
  removeSimpleKey
  modify fun s => { s with keyAllowed := true }
  simpleToken .blockEntry 1

/-- `?` before a complex key. -/
def fetchKey : ScanM Unit := do
  let s ← get
  if s.flowLevel == 0 then
    if !s.keyAllowed then
      scanError none "mapping keys are not allowed in this context"
    rollIndent (Int.ofNat s.mark.column) none .blockMappingStart s.mark
  removeSimpleKey
  modify fun s => { s with keyAllowed := s.flowLevel == 0 }
  simpleToken .key 1

/-- `:` after a key. A remembered simple key gets its `KEY` token now. -/
def fetchValue : ScanM Unit := do
  let s ← get
  match s.keys.back? with
  | some k =>
    if k.possible then
      insertToken k.tokenNumber ⟨.key, k.mark, k.mark⟩
      rollIndent (Int.ofNat k.mark.column) (some k.tokenNumber) .blockMappingStart k.mark
      modify fun s => { s with keys := s.keys.modify (s.keys.size - 1)
                                         fun k => { k with possible := false },
                               keyAllowed := false }
    else
      if s.flowLevel == 0 then
        if !s.keyAllowed then
          scanError none "mapping values are not allowed in this context"
        rollIndent (Int.ofNat s.mark.column) none .blockMappingStart s.mark
      modify fun s => { s with keyAllowed := s.flowLevel == 0 }
  | none => pure ()
  simpleToken .value 1

/-! ### Anchors, aliases and tags -/

/-- Scans `&name` or `*name`. -/
def scanAnchor (isAlias : Bool) : ScanM Token := do
  let start ← here
  advance
  let name ← takeWhile isWordChar
  let c ← current
  if name.isEmpty || !(isSpaceOrEnd c || "?:,]\x7d%@\x60".contains c) then
    scanError (some (if isAlias then "while scanning an alias" else "while scanning an anchor",
      start)) "did not find expected alphabetic or numeric character"
  let stop ← here
  return ⟨if isAlias then .alias name else .anchor name, start, stop⟩

/-- Characters of a tag's URI; inside `!<...>` also `,`, `[` and `]`. -/
def isUriChar (verbatim : Bool) (c : Char) : Bool :=
  isWordChar c || ";/?:@&=+$.%!~*'()".contains c || (verbatim && ",[]".contains c)

/-- The bytes of one `%`-escaped UTF-8 character in a tag URI. -/
def uriEscapes (ctx : Option (String × Mark)) : Nat → Nat → List UInt8 → ScanM (List UInt8)
  | 0, _, acc => pure acc
  | n + 1, width, acc => do
    let s ← get
    let hi := hexValue (s.peekAt 1)
    let lo := hexValue (s.peekAt 2)
    match s.cur == '%', hi, lo with
    | true, some h, some l =>
      let octet := h * 16 + l
      let width ←
        if width == 0 then
          let w :=
            if octet < 0x80 then 1 else if octet / 32 == 6 then 2
            else if octet / 16 == 14 then 3 else if octet / 8 == 30 then 4 else 0
          if w == 0 then
            throw { problem := "found an incorrect leading UTF-8 octet", problemMark := s.mark,
                    context := ctx }
          pure w
        else
          if octet / 64 != 2 then
            throw { problem := "found an incorrect trailing UTF-8 octet", problemMark := s.mark,
                    context := ctx }
          pure width
      advance; advance; advance
      let acc := acc ++ [octet.toUInt8]
      if acc.length == width then pure acc else uriEscapes ctx n width acc
    | _, _, _ =>
      throw { problem := "did not find URI escaped octet", problemMark := s.mark, context := ctx }

/-- Scans the URI part of a tag; `head` is a handle already read that turned out to belong to
the URI (without its leading `!`). -/
def scanTagUri (verbatim directive : Bool) (head : String) (start : Mark) : ScanM String := do
  let ctx := some (if directive then "while parsing a %TAG directive" else "while parsing a tag",
    start)
  let rec go : Nat → String → Nat → ScanM (String × Nat)
    | 0, acc, len => pure (acc, len)
    | n + 1, acc, len => do
      let c ← current
      if isUriChar verbatim c then
        if c == '%' then
          let bytes ← uriEscapes ctx 4 0 []
          let piece := (String.fromUTF8? (ByteArray.mk bytes.toArray)).getD ""
          go n (acc ++ piece) (len + 1)
        else
          advance
          go n (acc.push c) (len + 1)
      else pure (acc, len)
  let (uri, len) ← go (← get).fuel (head.drop 1).toString head.length
  if len == 0 then
    throw { problem := "did not find expected tag URI", problemMark := (← here), context := ctx }
  return uri

/-- Scans a tag handle: `!`, `!!` or `!word!`; a `!word` without its closing `!` is returned as
read, to be taken as the start of a URI. -/
def scanTagHandle (directive : Bool) (start : Mark) : ScanM String := do
  if (← current) != '!' then
    scanError (some (if directive then "while scanning a tag directive" else "while scanning a tag",
      start)) "did not find expected '!'"
  advance
  let word ← takeWhile isWordChar
  let handle := "!" ++ word
  if (← current) == '!' then
    advance
    return handle.push '!'
  if directive && handle != "!" then
    scanError (some ("while parsing a tag directive", start)) "did not find expected '!'"
  return handle

/-- Scans a tag: `!<uri>`, `!handle!suffix`, `!suffix` or `!` alone. -/
def scanTag : ScanM Token := do
  let start ← here
  let (handle, suffix) ←
    if (← ahead 1) == '<' then do
      advance; advance
      let suffix ← scanTagUri true false "" start
      if (← current) != '>' then
        scanError (some ("while scanning a tag", start)) "did not find the expected '>'"
      advance
      pure ("", suffix)
    else do
      let handle ← scanTagHandle false start
      if handle.length > 1 && handle.startsWith "!" && handle.endsWith "!" then
        let suffix ← scanTagUri false false "" start
        pure (handle, suffix)
      else
        let suffix ← scanTagUri false false handle start
        if suffix.isEmpty then pure ("", "!") else pure ("!", suffix)
  let s ← get
  if !isSpaceOrEnd s.cur && !(s.flowLevel != 0 && s.cur == ',') then
    scanError (some ("while scanning a tag", start))
      "did not find expected whitespace or line break"
  return ⟨.tag handle suffix, start, (← here)⟩

/-! ### Directives -/

/-- One number of a `%YAML` directive: at most nine digits. -/
def versionNumber (start : Mark) : ScanM Nat := do
  let ctx := some ("while scanning a %YAML directive", start)
  let rec go : Nat → Nat → Nat → ScanM (Nat × Nat)
    | 0, v, len => pure (v, len)
    | n + 1, v, len => do
      let c ← current
      if c.isDigit then
        if len + 1 > 9 then
          scanError ctx "found extremely long version number"
        advance
        go n (v * 10 + (c.toNat - '0'.toNat)) (len + 1)
      else pure (v, len)
  let (v, len) ← go 12 0 0
  if len == 0 then scanError ctx "did not find expected version number"
  return v

/-- Scans a `%YAML` or `%TAG` directive and the rest of its line. -/
def scanDirective : ScanM Token := do
  let start ← here
  advance
  let ctx := some ("while scanning a directive", start)
  let name ← takeWhile isWordChar
  if name.isEmpty then scanError ctx "could not find expected directive name"
  if !isSpaceOrEnd (← current) then scanError ctx "found unexpected non-alphabetical character"
  let kind ←
    if name == "YAML" then do
      skipWhile isBlank
      let major ← versionNumber start
      if (← current) != '.' then
        scanError (some ("while scanning a %YAML directive", start))
          "did not find expected digit or '.' character"
      advance
      let minor ← versionNumber start
      pure (TokenKind.versionDirective major minor)
    else if name == "TAG" then do
      skipWhile isBlank
      let handle ← scanTagHandle true start
      if !isBlank (← current) then
        scanError (some ("while scanning a %TAG directive", start))
          "did not find expected whitespace"
      skipWhile isBlank
      let pre ← scanTagUri true true "" start
      if !isSpaceOrEnd (← current) then
        scanError (some ("while scanning a %TAG directive", start))
          "did not find expected whitespace or line break"
      pure (TokenKind.tagDirective handle pre)
    else scanError ctx "found unknown directive name"
  let stop ← here
  skipWhile isBlank
  skipComment
  if !isBreakOrEnd (← current) then scanError ctx "did not find expected comment or line break"
  if isBreak (← current) then modify Scanner.skipLine
  return ⟨kind, start, stop⟩

/-- `%` at the start of a line. -/
def fetchDirective : ScanM Unit := do
  unrollIndent (-1)
  removeSimpleKey
  modify fun s => { s with keyAllowed := false }
  enqueue (← scanDirective)

/-! ### Fetching -/

/-- Moves past blanks, comments and line breaks up to the next token. A tab counts as a blank
only inside flow collections or where no simple key may start. -/
def scanToNextToken : ScanM Unit := do
  let rec go : Nat → ScanM Unit
    | 0 => pure ()
    | n + 1 => do
      let s ← get
      if s.mark.column == 0 && s.cur == '\uFEFF' then advance
      let s ← get
      let tabsBlank := s.flowLevel != 0 || !s.keyAllowed
      skipWhile (fun c => c == ' ' || (tabsBlank && c == '\t'))
      skipComment
      if isBreak (← current) then
        modify Scanner.skipLine
        modify fun s => if s.flowLevel == 0 then { s with keyAllowed := true } else s
        go n
      else pure ()
  go (← get).fuel

/-- Whether the current character may start a plain scalar. -/
def startsPlain (s : Scanner) : Bool :=
  let c := s.cur
  let c1 := s.peekAt 1
  !(isSpaceOrEnd c || "-?:,[]\x7b\x7d#&*!|>'\"%@\x60".contains c) ||
    (c == '-' && !isBlank c1) ||
    (s.flowLevel == 0 && (c == '?' || c == ':') && !isSpaceOrEnd c1)

/-- Fetches the next token into the queue. -/
def fetchNextToken : ScanM Unit := do
  let s ← get
  if let some e := s.pending then throw e
  if !s.started then
    fetchStreamStart
    return
  scanToNextToken
  staleSimpleKeys
  unrollIndent (Int.ofNat (← here).column)
  let s ← get
  let c := s.cur
  let c1 := s.peekAt 1
  let flow := s.flowLevel != 0
  let atLineStart := s.mark.column == 0
  if isEnd c then fetchStreamEnd
  else if atLineStart && c == '%' then fetchDirective
  else if atLineStart && c == '-' && c1 == '-' && s.peekAt 2 == '-' && isSpaceOrEnd (s.peekAt 3) then
    fetchDocumentIndicator .documentStart
  else if atLineStart && c == '.' && c1 == '.' && s.peekAt 2 == '.' && isSpaceOrEnd (s.peekAt 3) then
    fetchDocumentIndicator .documentEnd
  else if c == '[' then fetchFlowCollectionStart .flowSequenceStart
  else if c == '{' then fetchFlowCollectionStart .flowMappingStart
  else if c == ']' then fetchFlowCollectionEnd .flowSequenceEnd
  else if c == '}' then fetchFlowCollectionEnd .flowMappingEnd
  else if c == ',' then fetchFlowEntry
  else if c == '-' && isSpaceOrEnd c1 then fetchBlockEntry
  else if c == '?' && (flow || isSpaceOrEnd c1) then fetchKey
  else if c == ':' && (flow || isSpaceOrEnd c1) then fetchValue
  else if c == '*' then
    saveSimpleKey
    modify fun s => { s with keyAllowed := false }
    enqueue (← scanAnchor true)
  else if c == '&' then
    saveSimpleKey
    modify fun s => { s with keyAllowed := false }
    enqueue (← scanAnchor false)
  else if c == '!' then
    saveSimpleKey
    modify fun s => { s with keyAllowed := false }
    enqueue (← scanTag)
  else if (c == '|' || c == '>') && !flow then
    removeSimpleKey
    modify fun s => { s with keyAllowed := true }
    enqueue (← scanBlockScalar (c == '|'))
  else if c == '\'' || c == '"' then
    saveSimpleKey
    modify fun s => { s with keyAllowed := false }
    enqueue (← scanQuotedScalar (c == '\''))
  else if startsPlain s then
    saveSimpleKey
    modify fun s => { s with keyAllowed := false }
    enqueue (← scanPlainScalar)
  else
    throw { problem := "found character that cannot start any token", problemMark := s.mark,
            context := some ("while scanning for the next token", s.mark) }

/-- Fetches tokens until the head of the queue is settled: the queue is not empty and no
remembered key could still insert a token before its head. -/
def fetchMoreTokens : Nat → ScanM Unit
  | 0 => pure ()
  | n + 1 => do
    let s ← get
    let need ←
      if s.queue.isEmpty then pure true
      else do
        staleSimpleKeys
        let s ← get
        pure (s.keys.any fun k => k.possible && k.tokenNumber == s.taken)
    if need then
      fetchNextToken
      fetchMoreTokens n
    else modify fun s => { s with available := true }

/-- The token at the head of the queue, fetching as far as needed. -/
def peekToken : ScanM Token := do
  let s ← get
  if !s.available then
    fetchMoreTokens (2 * s.fuel + s.keys.size + 8)
  let s ← get
  match s.queue[0]? with
  | some t => return t
  | none => return ⟨.streamEnd, s.mark, s.mark⟩

/-- Takes the head token off the queue. -/
def skipToken : ScanM Unit :=
  modify fun s =>
    let ended := match s.queue[0]? with
      | some t => s.ended || t.kind == .streamEnd
      | none => s.ended
    { s with queue := s.queue.extract 1 s.queue.size, taken := s.taken + 1, available := false,
             ended }

end PostRules.Yaml
