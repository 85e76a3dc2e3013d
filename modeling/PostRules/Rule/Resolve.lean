import PostRules.Rule.Compile
import PostRules.Config.Read
import PostRules.Files.Tree

/-!
# Resolving rule sources

A rule given as `Rules` may name other rule sources by strings in its groups. Resolving it
compiles the rule, loading each named source and compiling what it gives in place of the name:
its `Rules`, whose names are followed in turn, or else its `Rule`, whose names are not.

Sources are told apart by a key; a source is loaded once per resolution and kept by its key.
The chain of sources being resolved is checked before each load: a key already on the chain is
a circular reference, and a chain of `maxReferenceDepth` sources may not grow.

## Contents

* `RuleSource`, `memorySource` and `fileSource`.
* `resolveSpec`: resolution with an explicit chain and the loaded sources as state.
* `compileSection`: the rule of a section, resolved or compiled.
-/

namespace PostRules

open Yaml

/-- Where named rule sections come from: how a name is keyed, and how it is loaded. -/
structure RuleSource where
  key : String → String
  load : String → Except CompileError RuleSection

/-- The longest chain of sources being resolved at once. -/
def maxReferenceDepth : Nat := 8

/-- Sources held in memory by name; a name's key is the name itself. -/
def memorySource (entries : List (String × RuleSection)) : RuleSource :=
  { key := id
    load := fun name => match entries.lookup name with
      | some s => .ok s
      | none => .error (.io name .unknownSource) }

/-- Reads a rule source held in memory from its text. -/
def parseSource (name text : String) : Except CompileError RuleSection :=
  match RuleSection.ofYaml text with
  | .ok s => .ok s
  | .error e => .error (.parse name e)

/-- Sources read from files, named relative to a base directory; a name's key is its path
after lexical normalisation. -/
def fileSource (tree : Files.FileTree) (base : String) : RuleSource :=
  { key := fun name => (Files.resolve base name).render
    load := fun name =>
      match tree.read (Files.resolve base name).render with
      | .ok text => parseSource name text
      | .error f => .error (.io name f) }

/-- The sources loaded during one resolution, by key. -/
abbrev Loaded := List (String × RuleSection)

/-- Resolution: it keeps the loaded sources and may fail. -/
abbrev ResolveM := StateT Loaded (Except CompileError)

/-- Lifts a step that may fail into resolution. -/
def ResolveM.lift (x : Except CompileError α) : ResolveM α :=
  match x with
  | .ok a => pure a
  | .error e => throw e

/-- The section of a source: the one loaded before under its key, or a fresh load. -/
def loadSection (src : RuleSource) (name : String) : ResolveM RuleSection := do
  let key := src.key name
  match (← get).lookup key with
  | some s => pure s
  | none =>
    let s ← ResolveM.lift (src.load name)
    modify (· ++ [(key, s)])
    pure s

mutual

/-- Resolves a spec; `chain` lists the keys and names of the sources being resolved, outermost
first. -/
def resolveSpec (src : RuleSource) (mode : Mode) (chain : List (String × String)) :
    RuleSpec → ResolveM Predicate
  | .group allOf anyOf => do
    let acc ← match _hAll : allOf with
      | some items => resolveAll src mode chain .identity items
      | none => pure .identity
    match _hAny : anyOf with
    | some items => resolveAny src mode chain acc items
    | none => pure acc
  | .reference name => do
    let key := src.key name
    if chain.any (·.1 == key) then
      throw (.circularReference (chain.map (·.2) ++ [name]))
    if _hDepth : chain.length < maxReferenceDepth then
      let s ← loadSection src name
      match s.entry with
      | some (.rules v) =>
        let spec ← ResolveM.lift (RuleSpec.ofValue v)
        resolveSpec src mode (chain ++ [(key, name)]) spec
      | some (.rule v) =>
        ResolveM.lift (do let spec ← RuleSpec.ofValue v; compileSpec mode spec)
      | none => throw (.missingRule name)
    else throw (.recursionLimitExceeded name maxReferenceDepth)
  | spec => ResolveM.lift (compileSpec mode spec)
termination_by spec => (maxReferenceDepth - chain.length, sizeOf spec)
decreasing_by
  all_goals first
    | (apply Prod.Lex.left; simp only [List.length_append, List.length_singleton]; omega)
    | (apply Prod.Lex.right; subst_vars
       simp only [RuleSpec.group.sizeOf_spec, Option.some.sizeOf_spec]; omega)

/-- Resolves specs in order, folding them into an accumulator with `andOf`. -/
def resolveAll (src : RuleSource) (mode : Mode) (chain : List (String × String)) (acc : Predicate) :
    List RuleSpec → ResolveM Predicate
  | [] => pure acc
  | s :: rest => do
    let p ← resolveSpec src mode chain s
    resolveAll src mode chain (andOf acc p) rest
termination_by items => (maxReferenceDepth - chain.length, sizeOf items)
decreasing_by
  all_goals (apply Prod.Lex.right; simp only [List.cons.sizeOf_spec]; omega)

/-- Resolves specs in order, folding them into an accumulator with `orOf`. -/
def resolveAny (src : RuleSource) (mode : Mode) (chain : List (String × String)) (acc : Predicate) :
    List RuleSpec → ResolveM Predicate
  | [] => pure acc
  | s :: rest => do
    let p ← resolveSpec src mode chain s
    resolveAny src mode chain (orOf acc p) rest
termination_by items => (maxReferenceDepth - chain.length, sizeOf items)
decreasing_by
  all_goals (apply Prod.Lex.right; simp only [List.cons.sizeOf_spec]; omega)

end

/-- The rule of a section: `Rules` resolved through the source, `Rule` compiled alone, and
`identity` when there is neither. -/
def compileSection (s : RuleSection) (mode : Mode) (src : RuleSource) :
    Except CompileError CompiledRule := do
  let p ← match s.entry with
    | some (.rules v) => do
      let spec ← RuleSpec.ofValue v
      (resolveSpec src mode [] spec).run' []
    | some (.rule v) => do
      let spec ← RuleSpec.ofValue v
      compileSpec mode spec
    | none => pure .identity
  pure (.ofPredicate p)

end PostRules
