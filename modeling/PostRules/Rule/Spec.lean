import PostRules.Rule.Error

/-!
# The shape of a rule

A rule is written as a YAML value, and read into a `RuleSpec` before anything is compiled:

* null is the empty rule;
* a string names another rule source;
* a mapping with `and` or `or` is a group, each of them a list of rules;
* a mapping with a string `type` and a `value` is a leaf; a leading `~` on the type negates it;
* anything else is kept as it is, and later means nothing.

Tags around a rule are looked through. Reading fails only when a group's `and` or `or` is not
a list, and then for `and` before `or`.
-/

namespace PostRules

open Yaml

/-- The mark that negates a leaf when it starts the leaf's type. -/
def negationMark : Char := '~'

/-- A rule as written, classified by shape. -/
inductive RuleSpec where
  | null
  | leaf (negated : Bool) (kind : String) (value : Value)
  | group (allOf : Option (List RuleSpec)) (anyOf : Option (List RuleSpec))
  | reference (name : String)
  | other (value : Value)
  deriving Inhabited

namespace RuleSpec

/-- A leaf of a type as written: a leading negation mark is taken off and remembered. -/
def leafOf (type : String) (value : Value) : RuleSpec :=
  if type.startsWith (String.singleton negationMark) then .leaf true (type.drop 1).toString value
  else .leaf false type value

mutual

/-- Reads a rule from a YAML value. -/
def ofValue : Value → Except CompileError RuleSpec
  | .null => .ok .null
  | .string name => .ok (.reference name)
  | .mapping es =>
    match listUnder "and" es, listUnder "or" es with
    | none, none =>
      match Value.lookup es (.string "type"), Value.lookup es (.string "value") with
      | some (.string t), some v => .ok (leafOf t v)
      | _, _ => .ok (.other (.mapping es))
    | a, o => do
      let a ← a.mapM id
      let o ← o.mapM id
      pure (.group a o)
  | .tagged _ v => ofValue v
  | v => .ok (.other v)

/-- Reads each of a list of rules, failing at the first that fails. -/
def ofValues : List Value → Except CompileError (List RuleSpec)
  | [] => .ok []
  | v :: vs => do
    let s ← ofValue v
    let ss ← ofValues vs
    pure (s :: ss)

/-- The rules listed under a key of a mapping, if the key is there; an error if what is under
it is not a list. -/
def listUnder (key : String) : List (Value × Value) → Option (Except CompileError (List RuleSpec))
  | [] => none
  | (k, v) :: rest =>
    if Value.beq k (.string key) then
      some (match v with
        | .sequence items => ofValues items
        | _ => .error (.malformedGroup key))
    else listUnder key rest

end

end RuleSpec

end PostRules
