import PostRules.Rule.Leaf

/-!
# Predicates

A predicate is a tree of leaves under conjunction, disjunction and negation, with two more kinds
of node: `identity`, which matches every post when it stands alone and is absorbed when it is
combined, and `custom`, a named test supplied from outside.

Evaluation runs left to right and stops early: the right side of a conjunction is looked at
only when the left matched, of a disjunction only when the left did not. `evaluateTraced`
records the names of the custom tests it ran, in order. A custom test may keep state of its own;
`evaluateWith` runs each test as an effect of a monad, so that what the tests see and do can be
followed.

## Contents

* `Predicate.evaluate`, `Predicate.evaluateTraced`, `Predicate.evaluateWith`.
* `Predicate.text`: `(A & B)`, `(A | B)`, `~A`, `Identity[]`, a custom test's name.
* `Predicate.size`: the number of nodes.
* `andOf`, `orOf`, which drop an `identity` on either side, and `negate`, which never
  simplifies.
-/

namespace PostRules

/-- A rule tree. -/
inductive Predicate where
  | identity
  | leaf (l : Leaf)
  | and (left right : Predicate)
  | or (left right : Predicate)
  | not (inner : Predicate)
  | custom (name : String) (test : Post → Bool)
  deriving Inhabited

namespace Predicate

/-- Whether a post matches, with the names of the custom tests run, in order. -/
def evaluateTraced : Predicate → Post → Bool × List String
  | .identity, _ => (true, [])
  | .leaf l, p => (l.evaluate p, [])
  | .and l r, p =>
    let (a, ta) := l.evaluateTraced p
    if a then
      let (b, tb) := r.evaluateTraced p
      (b, ta ++ tb)
    else (false, ta)
  | .or l r, p =>
    let (a, ta) := l.evaluateTraced p
    if a then (true, ta)
    else
      let (b, tb) := r.evaluateTraced p
      (b, ta ++ tb)
  | .not q, p =>
    let (a, t) := q.evaluateTraced p
    (!a, t)
  | .custom name test, p => (test p, [name])

/-- Whether a post matches, where `run name test p` runs the custom test named `name` on `p` as an
effect of the monad `m`: a test that keeps state sees the calls made before it. -/
def evaluateWith {m : Type → Type} [Monad m] (run : String → (Post → Bool) → Post → m Bool)
    (p : Post) : Predicate → m Bool
  | .identity => pure true
  | .leaf l => pure (l.evaluate p)
  | .and l r => do
    if (← l.evaluateWith run p) then r.evaluateWith run p else pure false
  | .or l r => do
    if (← l.evaluateWith run p) then pure true else r.evaluateWith run p
  | .not q => do
    let a ← q.evaluateWith run p
    pure !a
  | .custom name test => run name test p

/-- Whether a post matches. -/
def evaluate (q : Predicate) (p : Post) : Bool :=
  (q.evaluateTraced p).1

/-- Whether a predicate is the identity. -/
def isIdentity : Predicate → Bool
  | .identity => true
  | _ => false

/-- The number of nodes of a tree. -/
def size : Predicate → Nat
  | .and l r | .or l r => 1 + l.size + r.size
  | .not q => 1 + q.size
  | _ => 1

/-- The canonical text of a tree. -/
def text : Predicate → String
  | .identity => "Identity[]"
  | .leaf l => l.text
  | .and l r => "(" ++ l.text ++ " & " ++ r.text ++ ")"
  | .or l r => "(" ++ l.text ++ " | " ++ r.text ++ ")"
  | .not q => "~" ++ q.text
  | .custom name _ => name

end Predicate

/-- Both predicates; an identity on either side gives the other side. -/
def andOf : Predicate → Predicate → Predicate
  | .identity, q => q
  | p, .identity => p
  | p, q => .and p q

/-- Either predicate; an identity on either side gives the other side. -/
def orOf : Predicate → Predicate → Predicate
  | .identity, q => q
  | p, .identity => p
  | p, q => .or p q

/-- The negation of a predicate, never simplified: the negated identity matches nothing. -/
def negate (p : Predicate) : Predicate :=
  .not p

end PostRules
