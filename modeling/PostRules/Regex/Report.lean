import PostRules.Regex.Ast

/-!
# Reporting errors in patterns

An error in a pattern is shown with the pattern and a line of carets under the places it points
at:

```text
regex parse error:
    (?P<n>a)(?P<n>b)
        ^       ^
error: duplicate capture group name
```

A place one character wide, or empty, gets one caret. A pattern of several lines is shown
between two rules of `~`, each line numbered, with places spanning lines described in words
under it. Lines are split at `\n`, a `\r` before it dropped.

## Contents

* `SyntaxError.render`: the report of an error in a pattern.
-/

namespace PostRules.Regex

/-- The lines of a text: split at `\n`, a `\r` ending a line dropped, and no line after a final
`\n`. -/
def textLines (s : String) : List String :=
  let parts := s.splitOn "\n"
  let parts := if s.endsWith "\n" then parts.dropLast else parts
  let parts := if s.isEmpty then [] else parts
  parts.map fun l => if l.endsWith "\r" then String.ofList l.toList.dropLast else l

/-- `n` copies of a character. -/
def repeatChar (c : Char) (n : Nat) : String := String.ofList (List.replicate n c)

/-- Inserts a span into a list sorted by `Span.before`. -/
def insertSpan (s : Span) : List Span → List Span
  | [] => [s]
  | t :: ts => if Span.before t s then t :: insertSpan s ts else s :: t :: ts

/-- The carets under a line for spans on it, after `pad` blanks. -/
def caretLine (pad : Nat) (spans : List Span) : String :=
  let (text, _) := spans.foldl (fun (acc : String × Nat) sp =>
    let (text, pos) := acc
    let gap := sp.start.column - 1 - pos
    let width := Nat.max 1 (sp.stop.column - sp.start.column)
    (text ++ repeatChar ' ' gap ++ repeatChar '^' width, Nat.max pos (sp.start.column - 1) + width))
    (repeatChar ' ' pad, 0)
  text

/-- The report of an error in a pattern. -/
def SyntaxError.render (pattern : String) (e : SyntaxError) : String :=
  let lines := textLines pattern
  let lineCount := lines.length + (if pattern.endsWith "\n" then 1 else 0)
  let width := if lineCount ≤ 1 then 0 else (toString lineCount).length
  let spans := (e.span :: e.kind.auxiliary.toList).foldl (fun acc s => insertSpan s acc) []
  let oneLine := spans.filter Span.isOneLine
  let multi := spans.filter (!·.isOneLine)
  let pad := if width == 0 then 4 else 2 + width
  let notated := (lines.zipIdx.map fun (line, i) =>
    let head := if width == 0 then "    "
      else repeatChar ' ' (width - (toString (i + 1)).length) ++ toString (i + 1) ++ ": "
    let onLine := oneLine.filter (·.start.line == i + 1)
    head ++ line ++ "\n" ++ (if onLine.isEmpty then "" else caretLine pad onLine ++ "\n"))
    |> String.join
  if pattern.contains '\n' then
    let divider := repeatChar '~' 79
    let notes := multi.map fun sp =>
      "on line " ++ toString sp.start.line ++ " (column " ++ toString sp.start.column ++
        ") through line " ++ toString sp.stop.line ++ " (column " ++
        toString (sp.stop.column - 1) ++ ")"
    "regex parse error:\n" ++ divider ++ "\n" ++ notated ++ divider ++ "\n" ++
      (if notes.isEmpty then "" else "\n".intercalate notes ++ "\n") ++
      "error: " ++ e.kind.message
  else
    "regex parse error:\n" ++ notated ++ "error: " ++ e.kind.message

end PostRules.Regex
