import PostRules.Rule.Spec
import PostRules.Rule.Predicate
import PostRules.Yaml.Debug
import PostRules.Decimal.Integer
import PostRules.Time.Read
import PostRules.Text.Trim

/-!
# Compiling rules

A rule is compiled in two steps: its YAML value is read into a `RuleSpec`, and the spec is
turned into a predicate.

* A group folds its `and` list with `andOf`, then its `or` list with `orOf`, into one
  accumulator that starts as `identity`.
* A leaf of a known kind reads its value (below); its negation mark wraps it in `negate`.
* A leaf of an unknown kind fails in strict mode, naming the closest kind if there is one, and
  is `identity` in permissive mode.
* Null, a reference and anything else are `identity`: references are only followed when rule
  sources are resolved.

A leaf's value is read by its kind. Most take a scalar, written as text (numbers and booleans
by their text, tags looked through), where null means absent and a list or a mapping is
malformed. Keywords, emoji and patterns require a value. Times and counts are compound,
`<literal>,<operator>`, split at commas into exactly two parts, both trimmed; a count with no
value means at least zero.
-/

namespace PostRules

open Yaml

/-- How unknown leaf kinds are treated. -/
inductive Mode where
  /-- An unknown kind is an error. -/
  | strict
  /-- An unknown kind matches every post. -/
  | permissive
  deriving DecidableEq, Repr, Inhabited

/-- The mode that is permissive when `p` holds. -/
def Mode.ofPermissive (p : Bool) : Mode :=
  if p then .permissive else .strict

/-! ### Leaf values -/

/-- The text of a scalar value; nothing for null. -/
def scalarText (kind : LeafKind) : Value → Except CompileError (Option String)
  | .null => .ok none
  | .string s => .ok (some s)
  | .number n => .ok (some n.text)
  | .bool b => .ok (some (toString b))
  | .tagged _ v => scalarText kind v
  | v => .error (.malformedLeafValue kind.name v.debug "expected a scalar")

/-- The text of a scalar value that must be present. -/
def requiredText (kind : LeafKind) (v : Value) : Except CompileError String := do
  match ← scalarText kind v with
  | some s => pure s
  | none => throw (.malformedLeafValue kind.name "null" "a value is required")

/-- Splits `<literal>,<operator>` at every comma, into the trimmed literal and the comparison
when there are exactly two parts. -/
def splitCompound (kind : LeafKind) (raw : String) : Except CompileError (String × Comparison) :=
  match (raw.toList.splitOn ',').map String.ofList with
  | [literal, token] =>
    let token := Text.trim token
    match Comparison.ofToken? token with
    | some op => .ok (Text.trim literal, op)
    | none => .error (.unsupportedOperator kind.name token)
  | parts =>
    .error (.malformedLeafValue kind.name raw
      ("expected '<literal>,<operator>', found " ++ toString parts.length ++
        " comma-separated part(s)"))

/-- The leaf comparing a metric, from its value. -/
def countLeaf (kind : LeafKind) (m : Metric) (v : Value) : Except CompileError Leaf := do
  match ← scalarText kind v with
  | none => pure (.count m 0 Comparison.default)
  | some raw =>
    let (literal, op) ← splitCompound kind raw
    match Decimal.readInt64 literal with
    | .ok n => pure (.count m n op)
    | .error e => throw (.invalidLiteral kind.name literal e.message)

/-- The leaf comparing the time of a post, from its value. -/
def createdAtLeaf (v : Value) : Except CompileError Leaf := do
  let raw ← requiredText .createdAt v
  let (literal, op) ← splitCompound .createdAt raw
  match Time.readLiteral literal with
  | some t => pure (.createdAt t op)
  | none => throw (.invalidLiteral LeafKind.createdAt.name literal
      "expected an RFC 3339 timestamp or YYYY-MM-DD[ HH:MM:SS]")

/-- The leaf of a known kind, from its value. -/
def buildLeaf (kind : LeafKind) (v : Value) : Except CompileError Leaf :=
  match kind with
  | .attachment => .attachment <$> scalarText kind v
  | .authorId => .authorId <$> scalarText kind v
  | .conversationId => .conversationId <$> scalarText kind v
  | .createdAt => createdAtLeaf v
  | .emoji => .emoji <$> requiredText kind v
  | .geo => .geo <$> scalarText kind v
  | .hashTag => .hashtag <$> scalarText kind v
  | .keyword => .keyword <$> requiredText kind v
  | .lang => .lang <$> scalarText kind v
  | .likeCount => countLeaf kind .likes v
  | .mention => .mention <$> scalarText kind v
  | .quoteCount => countLeaf kind .quotes v
  | .regex => do
    let pattern ← requiredText kind v
    match Regex.compile pattern with
    | .ok r => pure (.regex r)
    | .error reason => throw (.invalidRegex pattern reason)
  | .replyCount => countLeaf kind .replies v
  | .retweetCount => countLeaf kind .reposts v
  | .sensitive => pure .sensitive
  | .source => .source <$> scalarText kind v
  | .url => .url <$> scalarText kind v

/-- Compiles a leaf written with a kind's name, negated or not. -/
def compileLeaf (mode : Mode) (negated : Bool) (kind : String) (v : Value) :
    Except CompileError Predicate := do
  let inner ← match LeafKind.ofName? kind with
    | some k => Predicate.leaf <$> buildLeaf k v
    | none =>
      match mode with
      | .strict => throw (.unknownLeafType kind ((LeafKind.closest kind).map (·.name)))
      | .permissive => pure .identity
  pure (if negated then negate inner else inner)

/-! ### Specs -/

mutual

/-- Compiles a spec; references are not followed. -/
def compileSpec (mode : Mode) : RuleSpec → Except CompileError Predicate
  | .null => .ok .identity
  | .leaf negated kind v => compileLeaf mode negated kind v
  | .group allOf anyOf => do
    let acc ← match allOf with
      | some items => foldAll mode .identity items
      | none => pure .identity
    match anyOf with
    | some items => foldAny mode acc items
    | none => pure acc
  | .reference _ => .ok .identity
  | .other _ => .ok .identity

/-- Folds a list of specs into an accumulator with `andOf`. -/
def foldAll (mode : Mode) (acc : Predicate) : List RuleSpec → Except CompileError Predicate
  | [] => .ok acc
  | s :: rest => do
    let p ← compileSpec mode s
    foldAll mode (andOf acc p) rest

/-- Folds a list of specs into an accumulator with `orOf`. -/
def foldAny (mode : Mode) (acc : Predicate) : List RuleSpec → Except CompileError Predicate
  | [] => .ok acc
  | s :: rest => do
    let p ← compileSpec mode s
    foldAny mode (orOf acc p) rest

end

/-- Folds a group with an item compiler `f`: the `and` items through `andOf`, then the `or`
items through `orOf`, into one accumulator that starts as the identity. The compiler folds its
groups so with `compileSpec`, the resolver with `resolveSpec`; `f` runs in any monad, so it may
keep state of its own and fail, and the first item it fails on ends the fold. -/
def foldGroup {m : Type → Type} [Monad m] (f : RuleSpec → m Predicate)
    (allOf anyOf : Option (List RuleSpec)) : m Predicate := do
  let acc ← match allOf with
    | some items => items.foldlM (fun acc item => andOf acc <$> f item) .identity
    | none => pure .identity
  match anyOf with
  | some items => items.foldlM (fun acc item => orOf acc <$> f item) acc
  | none => pure acc

/-- A compiled rule: its predicate and canonical text. -/
structure CompiledRule where
  predicate : Predicate
  canonical : String
  deriving Inhabited

/-- A predicate with its canonical text. -/
def CompiledRule.ofPredicate (p : Predicate) : CompiledRule :=
  { predicate := p, canonical := p.text }

/-- Whether a post matches the rule. -/
def CompiledRule.evaluate (r : CompiledRule) (p : Post) : Bool :=
  r.predicate.evaluate p

/-- The posts of a batch that match the rule, in order. -/
def CompiledRule.filter (r : CompiledRule) (ps : List Post) : List Post :=
  ps.filter r.evaluate

/-- Reads and compiles a rule written as a YAML value. -/
def compileValue (mode : Mode) (v : Value) : Except CompileError CompiledRule := do
  let spec ← RuleSpec.ofValue v
  let p ← compileSpec mode spec
  pure (.ofPredicate p)

end PostRules
