import PostRules.Yaml.Event
import PostRules.Yaml.Token.Scan

/-!
# Reading events from tokens

One step of the reader produces one event. The grammar is followed with a stack of states:
entering a collection pushes the state to return to, and the end of a node pops it. A missing
node (a key without value, `- ` with nothing after it) becomes an empty plain scalar.
-/

namespace PostRules.Yaml

/-! ### Steps -/

/-- Runs a step of the scanner inside the reader. -/
def scanStep {α : Type} (m : ScanM α) : ParseM α := do
  let r ← get
  match m.run r.scanner with
  | .ok (a, s) =>
    set { r with scanner := s }
    return a
  | .error e => throw e

/-- The next token. -/
def peek : ParseM Token :=
  scanStep peekToken

/-- Takes the next token. -/
def skipTok : ParseM Unit :=
  scanStep skipToken

/-- Goes on in `st` after the current node. -/
def pushState (st : ParseState) : ParseM Unit :=
  modify fun r => { r with states := st :: r.states }

/-- Returns to the state saved before the current node. -/
def popState : ParseM Unit :=
  modify fun r => match r.states with
    | st :: sts => { r with state := st, states := sts }
    | [] => { r with state := .finished }

/-- Sets the next state. -/
def goTo (st : ParseState) : ParseM Unit :=
  modify fun r => { r with state := st }

/-- Remembers where a collection began. -/
def pushMark (m : Mark) : ParseM Unit :=
  modify fun r => { r with marks := m :: r.marks }

/-- Forgets where the innermost collection began, and returns it. -/
def popMark : ParseM Mark := do
  let r ← get
  match r.marks with
  | m :: ms =>
    set { r with marks := ms }
    return m
  | [] => return Mark.start

/-- Stops with a grammar error at `at_`. -/
def parseError {α : Type} (problem : String) (at_ : Mark) : ParseM α :=
  throw { problem, problemMark := at_ }

/-- Stops with a grammar error inside a construct that began at `ctxMark`. -/
def parseErrorIn {α : Type} (ctx : String) (ctxMark : Mark) (problem : String) (at_ : Mark) :
    ParseM α :=
  throw { problem, problemMark := at_, context := some (ctx, ctxMark) }

/-- An empty plain scalar at `m`, standing for a missing node. -/
def emptyScalar (m : Mark) : Event :=
  ⟨.scalar none none "" .plain, m⟩

/-! ### Documents -/

/-- The tag handles every document knows. -/
def defaultHandles : List (String × String) :=
  [("!", "!"), ("!!", "tag:yaml.org,2002:")]

/-- Reads the directives before a document and settles its tag handles. -/
def processDirectives : ParseM Unit := do
  let rec go : Nat → Bool → List (String × String) → ParseM (List (String × String))
    | 0, _, hs => pure hs
    | n + 1, seenVersion, hs => do
      let t ← peek
      match t.kind with
      | .versionDirective major minor =>
        if seenVersion then parseError "found duplicate %YAML directive" t.start
        if major != 1 || (minor != 1 && minor != 2) then
          parseError "found incompatible YAML document" t.start
        skipTok
        go n true hs
      | .tagDirective handle pre =>
        if hs.any (·.1 == handle) then parseError "found duplicate %TAG directive" t.start
        skipTok
        go n seenVersion (hs ++ [(handle, pre)])
      | _ => pure hs
  let hs ← go ((← get).scanner.fuel) false []
  let hs := hs ++ defaultHandles.filter (fun d => !hs.any (·.1 == d.1))
  modify fun r => { r with handles := hs }

/-- The start of the stream. -/
def parseStreamStart : ParseM Event := do
  let t ← peek
  if t.kind != .streamStart then parseError "did not find expected <stream-start>" t.start
  goTo .implicitDocumentStart
  skipTok
  return ⟨.streamStart, t.start⟩

/-- The start of a document, or the end of the stream. The first document may begin without
`---`; later ones must begin with it. -/
def parseDocumentStart (isImplicit : Bool) : ParseM Event := do
  let rec skipEnds : Nat → ParseM Token
    | 0 => peek
    | n + 1 => do
      let t ← peek
      if t.kind == .documentEnd then skipTok; skipEnds n else pure t
  let t ← if isImplicit then peek else skipEnds ((← get).scanner.fuel)
  let startsExplicitly := match t.kind with
    | .versionDirective .. | .tagDirective .. | .documentStart | .streamEnd => true
    | _ => false
  if isImplicit && !startsExplicitly then
    processDirectives
    pushState .documentEnd
    goTo .blockNode
    return ⟨.documentStart true, t.start⟩
  else if t.kind != .streamEnd then
    processDirectives
    let t ← peek
    if t.kind != .documentStart then parseError "did not find expected <document start>" t.start
    pushState .documentEnd
    goTo .documentContent
    skipTok
    return ⟨.documentStart false, t.start⟩
  else
    goTo .finished
    skipTok
    return ⟨.streamEnd, t.start⟩

/-- The end of a document, with or without `...`. -/
def parseDocumentEnd : ParseM Event := do
  let t ← peek
  let isImplicit := t.kind != .documentEnd
  if !isImplicit then skipTok
  modify fun r => { r with handles := [] }
  goTo .documentStart
  return ⟨.documentEnd isImplicit, t.start⟩

/-! ### Nodes -/

/-- Resolves a tag's handle against the document's handles; the empty handle marks a tag written
in full. -/
def resolveTag (handle suffix : String) (start tagMark : Mark) : ParseM String := do
  if handle.isEmpty then return suffix
  match (← get).handles.find? (·.1 == handle) with
  | some (_, pre) => return pre ++ suffix
  | none => parseErrorIn "while parsing a node" start "found undefined tag handle" tagMark

/-- Reads a node: an alias, or properties (anchor, tag) followed by a scalar or the start of a
collection. `block` allows block collections; `indentless` allows a sequence whose `-` entries
stand at the indentation of the enclosing mapping's keys. -/
def parseNode (block indentless : Bool) : ParseM Event := do
  let t ← peek
  if let .alias name := t.kind then
    popState
    skipTok
    return ⟨.alias name, t.start⟩
  let start := t.start
  -- properties, in either order
  let (anchor, tagParts) ← match t.kind with
    | .anchor name => do
      skipTok
      let t2 ← peek
      match t2.kind with
      | .tag h s => skipTok; pure (some name, some (h, s, t2.start))
      | _ => pure (some name, none)
    | .tag h s => do
      skipTok
      let t2 ← peek
      match t2.kind with
      | .anchor name => skipTok; pure (some name, some (h, s, t.start))
      | _ => pure (none, some (h, s, t.start))
    | _ => pure (none, none)
  let tag ← match tagParts with
    | some (h, s, m) => some <$> resolveTag h s start m
    | none => pure none
  let t ← peek
  let nodeContext := if block then "while parsing a block node" else "while parsing a flow node"
  match t.kind with
  | .blockEntry =>
    if indentless then
      goTo .indentlessSequenceEntry
      return ⟨.sequenceStart anchor tag, start⟩
    else if anchor.isSome || tag.isSome then
      popState
      return ⟨.scalar anchor tag "" .plain, start⟩
    else parseErrorIn nodeContext start "did not find expected node content" t.start
  | .scalar text style =>
    popState
    skipTok
    return ⟨.scalar anchor tag text style, start⟩
  | .flowSequenceStart =>
    goTo .flowSequenceFirstEntry
    return ⟨.sequenceStart anchor tag, start⟩
  | .flowMappingStart =>
    goTo .flowMappingFirstKey
    return ⟨.mappingStart anchor tag, start⟩
  | .blockSequenceStart =>
    if block then
      goTo .blockSequenceFirstEntry
      return ⟨.sequenceStart anchor tag, start⟩
    else if anchor.isSome || tag.isSome then
      popState
      return ⟨.scalar anchor tag "" .plain, start⟩
    else parseErrorIn "while parsing a flow node" start "did not find expected node content" t.start
  | .blockMappingStart =>
    if block then
      goTo .blockMappingFirstKey
      return ⟨.mappingStart anchor tag, start⟩
    else if anchor.isSome || tag.isSome then
      popState
      return ⟨.scalar anchor tag "" .plain, start⟩
    else parseErrorIn "while parsing a flow node" start "did not find expected node content" t.start
  | _ =>
    if anchor.isSome || tag.isSome then
      popState
      return ⟨.scalar anchor tag "" .plain, start⟩
    else parseErrorIn nodeContext start "did not find expected node content" t.start

/-- The content of an explicit document, which may be empty. -/
def parseDocumentContent : ParseM Event := do
  let t ← peek
  match t.kind with
  | .versionDirective .. | .tagDirective .. | .documentStart | .documentEnd | .streamEnd =>
    popState
    return emptyScalar t.start
  | _ => parseNode true false

/-! ### Block collections -/

/-- An entry of a block sequence, or its end. -/
def parseBlockSequenceEntry (first : Bool) : ParseM Event := do
  if first then
    pushMark (← peek).start
    skipTok
  let t ← peek
  match t.kind with
  | .blockEntry =>
    let m := t.stop
    skipTok
    let t ← peek
    match t.kind with
    | .blockEntry | .blockEnd =>
      goTo .blockSequenceEntry
      return emptyScalar m
    | _ =>
      pushState .blockSequenceEntry
      parseNode true false
  | .blockEnd =>
    popState
    let _ ← popMark
    skipTok
    return ⟨.sequenceEnd, t.start⟩
  | _ =>
    parseErrorIn "while parsing a block collection" (← popMark)
      "did not find expected '-' indicator" t.start

/-- An entry of a sequence whose `-` stand at the indentation of the enclosing keys. -/
def parseIndentlessSequenceEntry : ParseM Event := do
  let t ← peek
  match t.kind with
  | .blockEntry =>
    let m := t.stop
    skipTok
    let t ← peek
    match t.kind with
    | .blockEntry | .key | .value | .blockEnd =>
      goTo .indentlessSequenceEntry
      return emptyScalar m
    | _ =>
      pushState .indentlessSequenceEntry
      parseNode true false
  | _ =>
    popState
    return ⟨.sequenceEnd, t.start⟩

/-- A key of a block mapping, or its end. -/
def parseBlockMappingKey (first : Bool) : ParseM Event := do
  if first then
    pushMark (← peek).start
    skipTok
  let t ← peek
  match t.kind with
  | .key =>
    let m := t.stop
    skipTok
    let t ← peek
    match t.kind with
    | .key | .value | .blockEnd =>
      goTo .blockMappingValue
      return emptyScalar m
    | _ =>
      pushState .blockMappingValue
      parseNode true true
  | .blockEnd =>
    popState
    let _ ← popMark
    skipTok
    return ⟨.mappingEnd, t.start⟩
  | _ =>
    parseErrorIn "while parsing a block mapping" (← popMark) "did not find expected key" t.start

/-- A value of a block mapping; a missing value is empty. -/
def parseBlockMappingValue : ParseM Event := do
  let t ← peek
  match t.kind with
  | .value =>
    let m := t.stop
    skipTok
    let t ← peek
    match t.kind with
    | .key | .value | .blockEnd =>
      goTo .blockMappingKey
      return emptyScalar m
    | _ =>
      pushState .blockMappingKey
      parseNode true true
  | _ =>
    goTo .blockMappingKey
    return emptyScalar t.start

/-! ### Flow collections -/

/-- An entry of a flow sequence, or its end. A `key: value` pair inside brackets is a mapping
of one entry. -/
def parseFlowSequenceEntry (first : Bool) : ParseM Event := do
  if first then
    pushMark (← peek).start
    skipTok
  let t ← peek
  let t ←
    if t.kind != .flowSequenceEnd && !first then
      if t.kind == .flowEntry then
        skipTok
        peek
      else
        parseErrorIn "while parsing a flow sequence" (← popMark)
          "did not find expected ',' or ']'" t.start
    else pure t
  if t.kind == .key then
    goTo .flowSequenceEntryMappingKey
    skipTok
    return ⟨.mappingStart none none, t.start⟩
  else if t.kind != .flowSequenceEnd then
    pushState .flowSequenceEntry
    parseNode false false
  else
    popState
    let _ ← popMark
    skipTok
    return ⟨.sequenceEnd, t.start⟩

/-- The key of a one-entry mapping inside a flow sequence. -/
def parseFlowSequenceEntryMappingKey : ParseM Event := do
  let t ← peek
  match t.kind with
  | .value | .flowEntry | .flowSequenceEnd =>
    goTo .flowSequenceEntryMappingValue
    return emptyScalar t.start
  | _ =>
    pushState .flowSequenceEntryMappingValue
    parseNode false false

/-- The value of a one-entry mapping inside a flow sequence. -/
def parseFlowSequenceEntryMappingValue : ParseM Event := do
  let t ← peek
  if t.kind == .value then
    skipTok
    let t ← peek
    if t.kind != .flowEntry && t.kind != .flowSequenceEnd then
      pushState .flowSequenceEntryMappingEnd
      return ← parseNode false false
    goTo .flowSequenceEntryMappingEnd
    return emptyScalar t.start
  goTo .flowSequenceEntryMappingEnd
  return emptyScalar t.start

/-- The end of a one-entry mapping inside a flow sequence. -/
def parseFlowSequenceEntryMappingEnd : ParseM Event := do
  let t ← peek
  goTo .flowSequenceEntry
  return ⟨.mappingEnd, t.start⟩

/-- A key of a flow mapping, or its end. -/
def parseFlowMappingKey (first : Bool) : ParseM Event := do
  if first then
    pushMark (← peek).start
    skipTok
  let t ← peek
  let t ←
    if t.kind != .flowMappingEnd && !first then
      if t.kind == .flowEntry then
        skipTok
        peek
      else
        parseErrorIn "while parsing a flow mapping" (← popMark)
          "did not find expected ',' or '\x7d'" t.start
    else pure t
  if t.kind == .key then
    skipTok
    let t ← peek
    match t.kind with
    | .value | .flowEntry | .flowMappingEnd =>
      goTo .flowMappingValue
      return emptyScalar t.start
    | _ =>
      pushState .flowMappingValue
      parseNode false false
  else if t.kind != .flowMappingEnd then
    pushState .flowMappingEmptyValue
    parseNode false false
  else
    popState
    let _ ← popMark
    skipTok
    return ⟨.mappingEnd, t.start⟩

/-- A value of a flow mapping; `empty` marks a key written without `:`. -/
def parseFlowMappingValue (empty : Bool) : ParseM Event := do
  let t ← peek
  if empty then
    goTo .flowMappingKey
    return emptyScalar t.start
  if t.kind == .value then
    skipTok
    let t ← peek
    if t.kind != .flowEntry && t.kind != .flowMappingEnd then
      pushState .flowMappingKey
      return ← parseNode false false
    goTo .flowMappingKey
    return emptyScalar t.start
  goTo .flowMappingKey
  return emptyScalar t.start

/-! ### One step -/

/-- The next event, or nothing once the stream has ended. -/
def nextEvent : ParseM (Option Event) := do
  let r ← get
  if r.scanner.ended then return none
  match r.state with
  | .streamStart => some <$> parseStreamStart
  | .implicitDocumentStart => some <$> parseDocumentStart true
  | .documentStart => some <$> parseDocumentStart false
  | .documentContent => some <$> parseDocumentContent
  | .documentEnd => some <$> parseDocumentEnd
  | .blockNode => some <$> parseNode true false
  | .blockNodeOrIndentlessSequence => some <$> parseNode true true
  | .flowNode => some <$> parseNode false false
  | .blockSequenceFirstEntry => some <$> parseBlockSequenceEntry true
  | .blockSequenceEntry => some <$> parseBlockSequenceEntry false
  | .indentlessSequenceEntry => some <$> parseIndentlessSequenceEntry
  | .blockMappingFirstKey => some <$> parseBlockMappingKey true
  | .blockMappingKey => some <$> parseBlockMappingKey false
  | .blockMappingValue => some <$> parseBlockMappingValue
  | .flowSequenceFirstEntry => some <$> parseFlowSequenceEntry true
  | .flowSequenceEntry => some <$> parseFlowSequenceEntry false
  | .flowSequenceEntryMappingKey => some <$> parseFlowSequenceEntryMappingKey
  | .flowSequenceEntryMappingValue => some <$> parseFlowSequenceEntryMappingValue
  | .flowSequenceEntryMappingEnd => some <$> parseFlowSequenceEntryMappingEnd
  | .flowMappingFirstKey => some <$> parseFlowMappingKey true
  | .flowMappingKey => some <$> parseFlowMappingKey false
  | .flowMappingValue => some <$> parseFlowMappingValue false
  | .flowMappingEmptyValue => some <$> parseFlowMappingValue true
  | .finished => return none

/-- A reader at the start of a text. -/
def EventReader.init (text : String) : EventReader :=
  { scanner := Scanner.init text }

end PostRules.Yaml
