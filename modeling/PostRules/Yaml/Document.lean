import PostRules.Yaml.Event.Parse

/-!
# YAML documents

A document is the list of node events between its start and its end. Anchors are numbered as
they appear: a name gets the number of distinct names seen before it, and an alias refers to
the event where the latest node with that number began. An alias to a name not yet seen ends
the document with an error, as does a syntax error; the events read before either stay in the
document.

An empty stream has one document holding a single *void* event.
-/

namespace PostRules.Yaml

/-- An event of a loaded document. -/
inductive Item where
  | alias (anchorId : Nat)
  | scalar (tag : Option String) (text : String) (style : ScalarStyle)
  | sequenceStart (tag : Option String)
  | sequenceEnd
  | mappingStart (tag : Option String)
  | mappingEnd
  | void
  deriving Repr, Inhabited

/-- Why a document ends early. -/
inductive LoadError where
  | malformed (e : SyntaxError)
  | unknownAnchor (at_ : Mark)
  deriving Repr, Inhabited

/-- A loaded document: its events with their marks, where each anchor's node begins, and the
error that ended it early, if any. -/
structure Document where
  items : Array (Item × Mark) := #[]
  anchorAt : List (Nat × Nat) := []
  error : Option LoadError := none
  deriving Inhabited

/-- The state of loading: the event reader, and the error that stopped it, which every later
step meets again. -/
structure Loader where
  reader : EventReader
  failed : Option SyntaxError := none
  done : Bool := false
  deriving Inhabited

namespace Loader

/-- The next event, or nothing at the end of the stream. -/
def step (l : Loader) : Except SyntaxError (Option Event) × Loader :=
  match l.failed with
  | some e => (.error e, l)
  | none =>
    match nextEvent.run l.reader with
    | .ok (ev, r) => (.ok ev, { l with reader := r })
    | .error e => (.error e, { l with failed := some e })

/-- Loads the next document. Returns nothing when the stream holds no further document; the
first document always exists. -/
def next (l : Loader) (first : Bool) : Option Document × Loader :=
  let rec go : Nat → Document → List (String × Nat) → Loader → Option Document × Loader
    | 0, d, _, l => (some d, l)
    | n + 1, d, names, l =>
      match l.step with
      | (.error e, l) => (some { d with error := some (.malformed e) }, l)
      | (.ok none, l) => (if first then some d else none, { l with done := true })
      | (.ok (some ev), l) =>
        let register := fun (anchor : Option String) =>
          match anchor with
          | some a =>
            let id := names.length
            ((a, id) :: names.filter (·.1 != a), (id, d.items.size) :: d.anchorAt)
          | none => (names, d.anchorAt)
        match ev.kind with
        | .streamStart | .documentStart _ => go n d names l
        | .streamEnd =>
          let l := { l with done := true }
          if first then
            (some (if d.items.isEmpty then { d with items := #[(.void, ev.start)] } else d), l)
          else (none, l)
        | .documentEnd _ => (some d, l)
        | .alias name =>
          match names.find? (·.1 == name) with
          | some (_, id) => go n { d with items := d.items.push (.alias id, ev.start) } names l
          | none => (some { d with error := some (.unknownAnchor ev.start) }, l)
        | .scalar anchor tag text style =>
          let (names, anchorAt) := register anchor
          go n { d with items := d.items.push (.scalar tag text style, ev.start), anchorAt } names l
        | .sequenceStart anchor tag =>
          let (names, anchorAt) := register anchor
          go n { d with items := d.items.push (.sequenceStart tag, ev.start), anchorAt } names l
        | .mappingStart anchor tag =>
          let (names, anchorAt) := register anchor
          go n { d with items := d.items.push (.mappingStart tag, ev.start), anchorAt } names l
        | .sequenceEnd => go n { d with items := d.items.push (.sequenceEnd, ev.start) } names l
        | .mappingEnd => go n { d with items := d.items.push (.mappingEnd, ev.start) } names l
  if l.done then (none, l)
  else go (4 * l.reader.scanner.fuel + 16) {} [] l

end Loader

/-- The position of the event where the node of anchor number `id` begins. -/
def Document.anchorPos (d : Document) (id : Nat) : Option Nat :=
  (d.anchorAt.find? (·.1 == id)).map (·.2)

end PostRules.Yaml
