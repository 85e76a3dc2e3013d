import PostRules.Yaml.Token

/-!
# YAML events

The reader of tokens produces a stream of events: the stream and each document open and close,
and each node is a scalar, an alias, or the start and end of a sequence or mapping. A node may
carry an anchor and a tag; a tag is given in full, its handle already replaced by the prefix
it stands for (`!!str` is `tag:yaml.org,2002:str`).
-/

namespace PostRules.Yaml

/-- What an event is. -/
inductive EventKind where
  | streamStart
  | streamEnd
  | documentStart (isImplicit : Bool)
  | documentEnd (isImplicit : Bool)
  | alias (name : String)
  | scalar (anchor tag : Option String) (text : String) (style : ScalarStyle)
  | sequenceStart (anchor tag : Option String)
  | sequenceEnd
  | mappingStart (anchor tag : Option String)
  | mappingEnd
  deriving DecidableEq, Repr, Inhabited

/-- An event with the mark where it starts. -/
structure Event where
  kind : EventKind
  start : Mark
  deriving Repr, Inhabited

/-- Where the reader of tokens stands in the grammar of a YAML stream. -/
inductive ParseState where
  | streamStart
  | implicitDocumentStart
  | documentStart
  | documentContent
  | documentEnd
  | blockNode
  | blockNodeOrIndentlessSequence
  | flowNode
  | blockSequenceFirstEntry
  | blockSequenceEntry
  | indentlessSequenceEntry
  | blockMappingFirstKey
  | blockMappingKey
  | blockMappingValue
  | flowSequenceFirstEntry
  | flowSequenceEntry
  | flowSequenceEntryMappingKey
  | flowSequenceEntryMappingValue
  | flowSequenceEntryMappingEnd
  | flowMappingFirstKey
  | flowMappingKey
  | flowMappingValue
  | flowMappingEmptyValue
  | finished
  deriving DecidableEq, Repr, Inhabited

/-- The reader of tokens: the scanner, the current state, the states to return to, the marks
where open collections began, and the tag handles of the current document. -/
structure EventReader where
  scanner : Scanner
  state : ParseState := .streamStart
  states : List ParseState := []
  marks : List Mark := []
  handles : List (String × String) := []
  deriving Inhabited

/-- The reader's computations: they change its state and may stop with a syntax error. -/
abbrev ParseM := StateT EventReader (Except SyntaxError)

end PostRules.Yaml
