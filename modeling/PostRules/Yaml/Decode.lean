import PostRules.Yaml.Document
import PostRules.Yaml.Scalar

/-!
# Reading values out of a YAML document

A reader walks the events of a loaded document with a cursor. An alias sends it to the node the
anchor names and back again afterwards; every such jump counts, and more jumps than a hundred
per event of the document stop the reader. Each collection entered uses one unit of a depth
budget of 128.

A node's errors carry the node's position and its *path*: `.` for the root, `a.b` under keys,
`a[0]` under indices, `?` under a key that is not a scalar. An error that a value check raises
without a position takes the position of the innermost node that is being read.

## Contents

* `DecodeError` and its `message`.
* `readAny`: a node as a `Value`, either checked (no two equal keys in a mapping, a tag makes a
  tagged value) or captured for later reading (neither checked nor allowed).
* Typed readers of single nodes: `readBool`, `readNatural`, `readText`, `readOptionalText`,
  `skipNode`, and `readStruct` for a mapping of named fields.
* `decodeDocument`: runs a reader on the only document of a text.
-/

namespace PostRules.Yaml

/-! ### Errors -/

/-- Why a YAML text could not be read as the value asked for. -/
inductive DecodeError where
  | malformed (e : SyntaxError)
  | unknownAnchor (at_ : Mark)
  | endOfStream
  | moreThanOneDocument
  | recursionLimit (at_ : Mark)
  | repetitionLimit
  /-- A value check failed; the position and path of the node are added on the way out. -/
  | custom (text : String) (place : Option (Mark × String))
  deriving Inhabited

namespace DecodeError

/-- The suffix naming a position, left out for the very start of the text. -/
def atMark (m : Mark) : String :=
  if m.shown then " at " ++ m.render else ""

/-- The text of an error. -/
def message : DecodeError → String
  | .malformed e => e.message
  | .unknownAnchor m => "unknown anchor" ++ atMark m
  | .endOfStream => "EOF while parsing a value"
  | .moreThanOneDocument =>
    "deserializing from YAML containing more than one document is not supported"
  | .recursionLimit m => "recursion limit exceeded" ++ atMark m
  | .repetitionLimit => "repetition limit exceeded"
  | .custom t none => t
  | .custom t (some (m, path)) => (if path == "." then "" else path ++ ": ") ++ t ++ atMark m

/-- The error placed at a node, if it has no place yet. -/
def placed (m : Mark) (path : String) : DecodeError → DecodeError
  | .custom t none => .custom t (some (m, path))
  | e => e

/-- The error that ended a document early, met by a reader that runs past its last event. -/
def ofLoad : Option LoadError → DecodeError
  | some (.malformed e) => .malformed e
  | some (.unknownAnchor m) => .unknownAnchor m
  | none => .endOfStream

/-- A value check's error without a place. -/
def check (text : String) : DecodeError :=
  .custom text none

end DecodeError

/-! ### Paths -/

/-- The path of the value under a scalar key. -/
def pathUnderKey (parent key : String) : String :=
  if parent == "." then key else parent ++ "." ++ key

/-- The path of the value under a key that is not a scalar. -/
def pathUnderUnknown (parent : String) : String :=
  if parent == "." then "?" else parent ++ ".?"

/-- The path of an element of a sequence. -/
def pathAtIndex (parent : String) (i : Nat) : String :=
  parent ++ "[" ++ toString i ++ "]"

/-! ### What a value check says -/

/-- How a float is written where a value does not fit: every digit positionally, whole numbers
with `.0`. -/
def mismatchFloat : Decimal.FloatFormat :=
  { layout := { pointAbove := -1000, pointAtMost := none, pointZero := true, plusExponent := false }
    tie := .toEven
    nan := "NaN"
    infinity := "inf" }

/-- How a scalar is named where it does not fit. -/
def Scalar.described : Scalar → String
  | .unit => "unit value"
  | .bool b => "boolean `" ++ toString b ++ "`"
  | .nonNeg n => "integer `" ++ toString n ++ "`"
  | .neg i => "integer `" ++ toString i ++ "`"
  | .wideNonNeg n => "integer `" ++ toString n ++ "` as u128"
  | .wideNeg i => "integer `" ++ toString i ++ "` as i128"
  | .float x => "floating point `" ++ mismatchFloat.render x ++ "`"
  | .str s => "string " ++ Text.quote s

/-- The message for a value of the wrong kind. -/
def invalidType (found expected : String) : String :=
  "invalid type: " ++ found ++ ", expected " ++ expected

/-- The message for a value of the right kind but a wrong value. -/
def invalidValue (found expected : String) : String :=
  "invalid value: " ++ found ++ ", expected " ++ expected

/-- What a scalar means, given its tag, unless the tag was already taken as a variant name. A
core tag that the text does not fit is an error. -/
def scalarMeaning (tag : Option String) (text : String) (style : ScalarStyle) (tagTaken : Bool) :
    Except String Scalar :=
  let wrong := fun (what : String) => Except.error (invalidValue (Scalar.str text).described what)
  let untagged := if style == .plain then .ok (resolvePlain text) else .ok (.str text)
  match tag, tagTaken with
  | some t, false =>
    if t == coreTag "bool" then
      match spellsBool text with
      | some b => .ok (.bool b)
      | none => wrong "a boolean"
    else if t == coreTag "int" then
      match readInteger text with
      | some v => .ok v
      | none => wrong "an integer"
    else if t == coreTag "float" then
      match readYamlFloat text with
      | some x => .ok (.float x)
      | none => wrong "a float"
    else if t == coreTag "null" then
      if spellsNull text then .ok .unit else wrong "null"
    else if t.startsWith "!" then untagged
    else .ok (.str text)
  | _, _ => untagged

/-- The error for a node that is not of the kind expected. -/
def mismatch (item : Item) (expected : String) : DecodeError :=
  match item with
  | .scalar tag text style =>
    match scalarMeaning tag text style false with
    | .error t => .check t
    | .ok s => .check (invalidType s.described expected)
  | .sequenceStart _ => .check (invalidType "sequence" expected)
  | .mappingStart _ => .check (invalidType "map" expected)
  | _ => .endOfStream

/-- The variant name a tag gives a node: a tag that starts with `!`, without that `!` unless
nothing else is left. -/
def variantName : Option String → Option String
  | some t => if t.startsWith "!" then some (tagName t) else none
  | none => none

/-- The message for two equal keys in one mapping. -/
def duplicateKey (k : Value) : String :=
  "duplicate entry " ++ match k with
  | .null => "with null key"
  | .bool b => "with key `" ++ toString b ++ "`"
  | .number n => "with key " ++ n.text
  | .string s => "with key " ++ Text.quote s
  | _ => "in YAML map"

/-! ### The reader -/

/-- Where a reader stands: the next event, and how many alias jumps were taken so far. -/
structure Cursor where
  pos : Nat := 0
  jumps : Nat := 0
  deriving Inhabited

/-- A reader of a loaded document. -/
abbrev DecodeM := ReaderT Document (StateT Cursor (Except DecodeError))

/-- The event at the cursor. -/
def peekItem : DecodeM (Item × Mark) := do
  let d ← read
  match d.items[(← get).pos]? with
  | some it => pure it
  | none => throw (.ofLoad d.error)

/-- The event at the cursor, moving past it. -/
def nextItem : DecodeM (Item × Mark) := do
  let it ← peekItem
  modify fun c => { c with pos := c.pos + 1 }
  pure it

/-- Moves the cursor one event back. -/
def stepBack : DecodeM Unit :=
  modify fun c => { c with pos := c.pos - 1 }

/-- Runs a reader with its position-less errors placed at a node. -/
def placedAt (m : Mark) (path : String) (x : DecodeM α) : DecodeM α :=
  tryCatch x fun e => throw (e.placed m path)

/-- Runs a reader at the node an anchor names, then returns to where the cursor was. -/
def jumpTo (anchorId : Nat) (x : DecodeM α) : DecodeM α := do
  let d ← read
  let c ← get
  let jumps := c.jumps + 1
  if jumps > d.items.size * 100 then throw .repetitionLimit
  set { c with pos := (d.anchorPos anchorId).getD 0, jumps }
  let r ← x
  modify fun c' => { c' with pos := c.pos }
  pure r

/-- Runs a reader on the next node, after following an alias; its errors are placed there. -/
def onNode (path : String) (x : Item → Mark → DecodeM α) : DecodeM α := do
  let (item, mark) ← nextItem
  match item with
  | .alias id => jumpTo id do
    let (item, mark) ← nextItem
    placedAt mark path (x item mark)
  | _ => placedAt mark path (x item mark)

/-- How a value is read by `readAny`. -/
inductive Capture where
  /-- Mappings with two equal keys are refused, a tagged node is a tagged value. -/
  | checked
  /-- Kept for a later reader: mappings are taken as written, tagged nodes are refused. -/
  | deferred
  deriving DecidableEq

/-- What a reader of any value says it expected. -/
def Capture.expected : Capture → String
  | .checked => "any YAML value"
  | .deferred => "any value"

/-- A scalar as a value. -/
def scalarValue (mode : Capture) (tag : Option String) (text : String) (style : ScalarStyle)
    (tagTaken : Bool) : Except DecodeError Value :=
  match scalarMeaning tag text style tagTaken with
  | .error t => .error (.check t)
  | .ok s => match s with
    | .unit => .ok .null
    | .bool b => .ok (.bool b)
    | .nonNeg n => .ok (.number (.nonNeg n))
    | .neg i => .ok (.number (.neg i))
    | .float x => .ok (.number (.float x))
    | .str t => .ok (.string t)
    | s => .error (.check (invalidType s.described mode.expected))

/-- The tag on the first event of a node. -/
def itemTag : Item → Option String
  | .scalar t _ _ | .sequenceStart t | .mappingStart t => t
  | _ => none

/-- The text of the key whose value is read next, if that key is a scalar. -/
def keyText : Item → Option String
  | .scalar _ t _ => some t
  | _ => none

mutual

/-- Reads the next node as a value. `depth` is how many more collections may be entered. -/
def readAny (mode : Capture) (depth : Nat) (path : String) : DecodeM Value := do
  let (item, _) ← peekItem
  match item with
  | .alias id =>
    let _ ← nextItem
    jumpTo id (readNode mode depth path)
  | _ => readNode mode depth path
termination_by (depth, 2, 0)

/-- Reads the node at the cursor, which is not an alias. A tag that starts with `!` names a
variant, and the node under it is read with its tag taken as that name. -/
def readNode (mode : Capture) (depth : Nat) (path : String) : DecodeM Value := do
  let (item, mark) ← nextItem
  placedAt mark path do
    match variantName (itemTag item) with
    | some name =>
      if mode = .deferred then
        throw (.check "untagged and internally tagged enums do not support enum input")
      let v ← readContent mode depth path item mark true
      pure (.tagged name v)
    | none => readContent mode depth path item mark false
termination_by (depth, 1, 0)

/-- Reads the node whose first event `item` was just read. -/
def readContent (mode : Capture) (depth : Nat) (path : String) (item : Item) (mark : Mark)
    (tagTaken : Bool) : DecodeM Value :=
  match item with
  | .scalar tag text style =>
    match scalarValue mode tag text style tagTaken with
    | .ok v => pure v
    | .error e => throw e
  | .sequenceStart _ =>
    match depth with
    | 0 => throw (.recursionLimit mark)
    | d + 1 => do
      let items ← readElements mode d path 0 (← read).items.size
      let _ ← nextItem
      pure (.sequence items)
  | .mappingStart _ =>
    match depth with
    | 0 => throw (.recursionLimit mark)
    | d + 1 => do
      let entries ← readEntries mode d path [] (← read).items.size
      let _ ← nextItem
      pure (.mapping entries)
  | _ => pure .null
termination_by (depth, 0, 0)

/-- Reads the elements of a sequence up to its end. -/
def readElements (mode : Capture) (depth : Nat) (path : String) (index : Nat) :
    Nat → DecodeM (List Value)
  | 0 => pure []
  | fuel + 1 => do
    let (item, _) ← peekItem
    match item with
    | .sequenceEnd => pure []
    | _ =>
      let v ← readAny mode depth (pathAtIndex path index)
      let rest ← readElements mode depth path (index + 1) fuel
      pure (v :: rest)
termination_by fuel => (depth, 3, fuel)

/-- Reads the entries of a mapping up to its end; `seen` holds the entries read so far, last
first. -/
def readEntries (mode : Capture) (depth : Nat) (path : String) (seen : List (Value × Value)) :
    Nat → DecodeM (List (Value × Value))
  | 0 => pure seen.reverse
  | fuel + 1 => do
    let (item, _) ← peekItem
    match item with
    | .mappingEnd => pure seen.reverse
    | _ =>
      let k ← readAny mode depth path
      if mode = .checked && seen.any (fun e => Value.beq e.1 k) then
        throw (.check (duplicateKey k))
      let valuePath := match keyText item with
        | some t => pathUnderKey path t
        | none => pathUnderUnknown path
      let v ← readAny mode depth valuePath
      readEntries mode depth path ((k, v) :: seen) fuel
termination_by fuel => (depth, 3, fuel)

end

/-! ### Typed readers -/

/-- Reads a boolean: a plain scalar spelling one. -/
def readBool (path : String) : DecodeM Bool :=
  onNode path fun item _ =>
    match item with
    | .scalar _ text .plain =>
      match spellsBool text with
      | some b => pure b
      | none => throw (mismatch item "a boolean")
    | _ => throw (mismatch item "a boolean")

/-- Reads a non-negative integer: a plain scalar below `2^64`, then checked by `accept`, whose
refusal is a message. -/
def readNatural (path : String) (expected : String) (accept : Nat → Except String α) :
    DecodeM α :=
  onNode path fun item _ =>
    match item with
    | .scalar _ text .plain =>
      match readUnsigned text (Nat.pow 2 64) with
      | some n => match accept n with
        | .ok a => pure a
        | .error t => throw (.check t)
      | none => throw (mismatch item expected)
    | _ => throw (mismatch item expected)

/-- Reads the text of a scalar, whatever it means. -/
def readText (path : String) (expected : String) : DecodeM String :=
  onNode path fun item _ =>
    match item with
    | .scalar _ text _ => pure text
    | _ => throw (mismatch item expected)

/-- Whether the node at the cursor, not an alias, stands for an absent value: null or empty
when plain and untagged, or null under the null tag. -/
def absentAt : DecodeM Bool := do
  let (item, _) ← peekItem
  match item with
  | .scalar tag text style =>
    if style != .plain then pure false
    else match tag with
      | some t =>
        if t == coreTag "null" then
          if spellsNull text then pure true
          else throw (.check (invalidValue (Scalar.str text).described "null"))
        else pure false
      | none => pure (text.isEmpty || spellsNull text)
  | .void => pure true
  | _ => pure false

/-- Reads an optional value: nothing for an absent node, else what `x` reads. -/
def readOptional (x : DecodeM α) : DecodeM (Option α) := do
  let (item, _) ← peekItem
  let inner : DecodeM (Option α) := do
    if ← absentAt then
      let _ ← nextItem
      pure none
    else some <$> x
  match item with
  | .alias id =>
    let _ ← nextItem
    jumpTo id inner
  | _ => inner

/-- Reads optional text. -/
def readOptionalText (path : String) : DecodeM (Option String) :=
  readOptional (readText path "a string")

/-- Moves past the next node without reading it; aliases are not followed. -/
def skipNode : DecodeM Unit :=
  let rec go (open_ : Nat) : Nat → DecodeM Unit
    | 0 => pure ()
    | fuel + 1 => do
      let (item, _) ← nextItem
      let open_ := match item with
        | .sequenceStart _ | .mappingStart _ => open_ + 1
        | .sequenceEnd | .mappingEnd => open_ - 1
        | _ => open_
      if open_ == 0 then pure () else go open_ fuel
  do go 0 (← read).items.size

/-- Reads the key of the next field of a mapping, with the path of its value; nothing at the
end of the mapping. -/
def nextField (path : String) : DecodeM (Option (String × String)) := do
  let (item, _) ← peekItem
  match item with
  | .mappingEnd | .void => pure none
  | _ =>
    let name ← readText path "field identifier"
    pure (some (name, match keyText item with
      | some t => pathUnderKey path t
      | none => pathUnderUnknown path))

/-- Reads a mapping of named fields. Each field is handed to `field` with its name, the path of
its value and the depth left, and folds into a state; `finish` turns the last state into the
result. An empty plain scalar reads as a mapping without fields; any other node is refused as
not being the `struct`. Errors of `field` and `finish` without a place are placed at the
mapping. -/
def readStruct (name : String) (depth : Nat) (path : String) (init : σ)
    (field : String → String → Nat → σ → DecodeM σ) (finish : σ → DecodeM α) : DecodeM α :=
  let rec fields (d : Nat) (s : σ) : Nat → DecodeM σ
    | 0 => pure s
    | fuel + 1 => do
      match ← nextField path with
      | none => pure s
      | some (key, valuePath) => fields d (← field key valuePath d s) fuel
  onNode path fun item mark =>
    match item with
    | .mappingStart _ =>
      match depth with
      | 0 => throw (.recursionLimit mark)
      | d + 1 => do
        let s ← fields d init (← read).items.size
        let _ ← nextItem
        finish s
    | .scalar _ "" .plain => finish init
    | .void => finish init
    | _ => throw (mismatch item ("struct " ++ name))

/-! ### Documents -/

/-- Runs a reader on the only document of a text. The reader's own error comes first, then the
error that ended the document, then a second document. -/
def decodeDocument (text : String) (x : DecodeM α) : Except DecodeError α :=
  let loader : Loader := { reader := EventReader.init text }
  let (doc, loader) := loader.next true
  let doc := doc.getD {}
  match (x.run doc).run {} with
  | .error e => .error e
  | .ok (a, _) =>
    match doc.error with
    | some e => .error (.ofLoad (some e))
    | none =>
      match (loader.next false).1 with
      | some _ => .error .moreThanOneDocument
      | none => .ok a

/-- The value of the only document of a text. -/
def Value.parse (text : String) : Except DecodeError Value :=
  decodeDocument text (readAny .checked 128 ".")

end PostRules.Yaml
