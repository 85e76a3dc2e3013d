/-!
# Positions and syntax errors in YAML text

A mark is a position in the text: the index of a character, its line and its column, all
counted from zero. Marks are shown to people as `line L column C`, counted from one, and a
mark at the very start of the text is not shown at all.

A syntax error names its problem and where it was found, and may name the construct being
read when it happened (`while scanning a quoted scalar`) with the mark where that construct
began. A character that YAML forbids outright is reported by its byte offset instead.
-/

namespace PostRules.Yaml

/-- A position in YAML text: character index, line and column, each from zero. -/
structure Mark where
  index : Nat
  line : Nat
  column : Nat
  deriving DecidableEq, Repr, Inhabited

namespace Mark

/-- The start of the text. -/
def start : Mark := ⟨0, 0, 0⟩

/-- Whether a mark is shown: a mark on the first column of the first line is not. -/
def shown (m : Mark) : Bool :=
  m.line != 0 || m.column != 0

/-- The text of a mark, counted from one. -/
def render (m : Mark) : String :=
  "line " ++ toString (m.line + 1) ++ " column " ++ toString (m.column + 1)

/-- Two marks name the same place when line and column agree. -/
def samePlace (a b : Mark) : Bool :=
  a.line == b.line && a.column == b.column

end Mark

/-- A syntax error: the problem, where it was found, and the construct being read. -/
structure SyntaxError where
  problem : String
  problemMark : Mark
  context : Option (String × Mark) := none
  /-- The byte offset of a forbidden character; zero when the error has a mark instead. -/
  offset : Nat := 0
  deriving Repr, Inhabited

namespace SyntaxError

/-- The message of a syntax error: the problem with its place, then the construct being read
with the place where it began, unless that place is the start or the same as the problem's. -/
def message (e : SyntaxError) : String :=
  let head :=
    if e.problemMark.shown then e.problem ++ " at " ++ e.problemMark.render
    else if e.offset != 0 then e.problem ++ " at position " ++ toString e.offset
    else e.problem
  match e.context with
  | none => head
  | some (ctx, m) =>
    if m.shown && !m.samePlace e.problemMark then head ++ ", " ++ ctx ++ " at " ++ m.render
    else head ++ ", " ++ ctx

end SyntaxError

end PostRules.Yaml
