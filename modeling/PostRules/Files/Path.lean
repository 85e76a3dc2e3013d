/-!
# Lexical paths

Rule documents name other documents by path. Two names denote the same document when they
reach the same path after a purely lexical normalisation, done without looking at any disk:

1. an absolute name replaces the base directory, a relative one is appended to it;
2. empty segments and `.` are dropped;
3. `..` removes the name before it; at the root it does nothing, and at the start of a
   relative path it is kept.

So a normal path is either the root followed by names, or some leading `..` steps followed by
names. Trailing slashes leave no trace.
-/

namespace PostRules.Files

/-- A step of a path as written: the root, the parent directory, or a name. -/
inductive Step where
  | root
  | parent
  | name (s : String)
  deriving DecidableEq, Repr, Inhabited

/-- The steps of a path: a leading `/` is the root, then each non-empty segment other than `.`. -/
def steps (s : String) : List Step :=
  let segs := (s.splitOn "/").filter (fun seg => seg != "" && seg != ".")
  let body := segs.map (fun seg => if seg == ".." then Step.parent else Step.name seg)
  if s.startsWith "/" then .root :: body else body

/-- A path in normal form: rooted or not, leading `..` steps (only when not rooted), then names. -/
structure NormalPath where
  rooted : Bool
  ups : Nat
  names : List String
  deriving DecidableEq, Repr, Inhabited

namespace NormalPath

/-- The empty relative path. -/
def empty : NormalPath := ⟨false, 0, []⟩

/-- Extends a normal path by one step, keeping it normal. -/
def push (p : NormalPath) : Step → NormalPath
  | .root => ⟨true, 0, []⟩
  | .parent =>
    if p.names.isEmpty then
      if p.rooted then p else { p with ups := p.ups + 1 }
    else { p with names := p.names.dropLast }
  | .name n => { p with names := p.names ++ [n] }

/-- The normal form of a list of steps. -/
def ofSteps (ss : List Step) : NormalPath :=
  ss.foldl push empty

/-- The text of a normal path: `/` and the names for a rooted path, else the `..` steps and the
names, all joined by `/`. -/
def render (p : NormalPath) : String :=
  if p.rooted then "/" ++ "/".intercalate p.names
  else "/".intercalate (List.replicate p.ups ".." ++ p.names)

end NormalPath

/-- The steps of `name` read against the directory `base`: an absolute name stands alone. -/
def joinSteps (base name : String) : List Step :=
  if name.startsWith "/" then steps name else steps base ++ steps name

/-- The normal path that `name` denotes when read against the directory `base`. -/
def resolve (base name : String) : NormalPath :=
  NormalPath.ofSteps (joinSteps base name)

/-- The text of a step. -/
def Step.text : Step → String
  | .root => ""
  | .parent => ".."
  | .name s => s

/-- The directory a path lies in: the path without its last step, written as it was. -/
def parentDir (path : String) : String :=
  match (steps path).dropLast with
  | .root :: rest => "/" ++ "/".intercalate (rest.map Step.text)
  | rest => "/".intercalate (rest.map Step.text)

end PostRules.Files
