import PostRules.Regex.Parse
import PostRules.Regex.Translate
import PostRules.Regex.Report
import PostRules.Regex.Program
import PostRules.Regex.Size

/-!
# Regular expressions

A pattern is compiled in three steps: it is read into a syntax tree, the tree is translated to
its meaning under the flags it sets, and the meaning is compiled into a program that searches a
text. An error in the first two steps is reported with the pattern and carets under the place;
a pattern whose automata would pass the size limit is refused.
A compiled pattern keeps its source text, which is how it is written back.

## Contents

* `Regex.compile`: the compiled pattern, or the report of why it is not one.
* `Regex.isMatch`: whether the pattern matches somewhere in a text.
-/

namespace PostRules

/-- A compiled regular expression. -/
structure Regex where
  source : String
  program : Regex.Program
  deriving Inhabited

namespace Regex

/-- Compiles a pattern, or says why it is not one. -/
def compile (pattern : String) : Except String Regex :=
  match parseAst pattern >>= translate with
  | .error e => .error (e.render pattern)
  | .ok h =>
    if tooBig h then
      .error ("Compiled regex exceeds size limit of " ++ toString sizeLimit ++ " bytes.")
    else .ok { source := pattern, program := Program.ofHir h }

/-- Whether the pattern matches somewhere in a text. -/
def isMatch (r : Regex) (text : String) : Bool :=
  r.program.isMatch text

end Regex

end PostRules
