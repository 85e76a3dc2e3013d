import Mathlib
import PostRules.Rule.Compile

/-!
# What a compiled rule means

A rule is read as a *meaning*: either neutral (`none`) or a test of posts (`some f`). The
identity predicate is the neutral meaning, and it stands for "every post" only when it is the
whole rule: combined with anything by `andOf` or `orOf` it disappears. So a group's meaning is
a fold in which neutral items are skipped, and negating the neutral meaning gives the test that
fails everywhere.

`RuleSpec.meaning` states this reference meaning on specs, independently of the compiler. The
main statement, `compileValue_meaning`, says that a rule value that compiles, in either mode,
evaluates every post as the meaning of its spec says, and that the compiled predicate is the
identity exactly when that meaning is neutral.
-/

namespace PostRules

open Yaml

/-! ## Steps that may fail -/

/-- A chain of steps that succeeded ran its first step to a value. -/
theorem except_bind_eq_ok {ε α β : Type} {x : Except ε α} {f : α → Except ε β} {b : β} :
    x >>= f = .ok b ↔ ∃ a, x = .ok a ∧ f a = .ok b := by
  cases x with
  | error e => simp [bind, Except.bind]
  | ok a => simp [bind, Except.bind]

/-- A mapped step that succeeded ran the step to a value. -/
theorem except_map_eq_ok {ε α β : Type} {x : Except ε α} {f : α → β} {b : β} :
    f <$> x = .ok b ↔ ∃ a, x = .ok a ∧ f a = b := by
  cases x with
  | error e => simp [Functor.map, Except.map]
  | ok a => simp [Functor.map, Except.map]

/-! ## Evaluating the connectives -/

namespace Predicate

/-- The identity matches every post. -/
@[simp] theorem evaluate_identity (p : Post) : identity.evaluate p = true := rfl

/-- A leaf node matches as its leaf. -/
@[simp] theorem evaluate_leaf (l : Leaf) (p : Post) : (leaf l).evaluate p = l.evaluate p := rfl

/-- A conjunction matches when both sides do; the right side is only run after the left. -/
@[simp] theorem evaluate_and (l r : Predicate) (p : Post) :
    (and l r).evaluate p = (l.evaluate p && r.evaluate p) := by
  simp only [evaluate, evaluateTraced.eq_3]
  rcases l.evaluateTraced p with ⟨_ | _, _⟩ <;> rfl

/-- A disjunction matches when either side does; the right side is only run after the left. -/
@[simp] theorem evaluate_or (l r : Predicate) (p : Post) :
    (or l r).evaluate p = (l.evaluate p || r.evaluate p) := by
  simp only [evaluate, evaluateTraced.eq_4]
  rcases l.evaluateTraced p with ⟨_ | _, _⟩ <;> rfl

/-- A negation matches exactly the posts its inner tree does not. -/
@[simp] theorem evaluate_not (q : Predicate) (p : Post) : (not q).evaluate p = !q.evaluate p := by
  simp only [evaluate, evaluateTraced.eq_5]

/-- The identity test holds of the identity and of nothing else. -/
theorem isIdentity_iff {q : Predicate} : q.isIdentity = true ↔ q = identity := by
  cases q <;> simp [isIdentity]

end Predicate

/-! ## The constructors that absorb the identity -/

/-- A conjunction with the identity on the left is its right side. -/
@[simp] theorem andOf_identity_left (q : Predicate) : andOf .identity q = q := rfl

/-- A conjunction with the identity on the right is its left side. -/
@[simp] theorem andOf_identity_right (p : Predicate) : andOf p .identity = p := by
  cases p <;> rfl

/-- Away from the identity, `andOf` builds a conjunction. -/
theorem andOf_of_not_identity {p q : Predicate} (hp : p.isIdentity = false)
    (hq : q.isIdentity = false) : andOf p q = .and p q := by
  unfold andOf
  split <;> simp_all [Predicate.isIdentity]

/-- A disjunction with the identity on the left is its right side. -/
@[simp] theorem orOf_identity_left (q : Predicate) : orOf .identity q = q := rfl

/-- A disjunction with the identity on the right is its left side. -/
@[simp] theorem orOf_identity_right (p : Predicate) : orOf p .identity = p := by
  cases p <;> rfl

/-- Away from the identity, `orOf` builds a disjunction. -/
theorem orOf_of_not_identity {p q : Predicate} (hp : p.isIdentity = false)
    (hq : q.isIdentity = false) : orOf p q = .or p q := by
  unfold orOf
  split <;> simp_all [Predicate.isIdentity]

/-! ## Meanings -/

/-- What a rule stands for: `none` is neutral, `some f` tests posts with `f`. -/
abbrev Meaning := Option (Post → Bool)

namespace Meaning

/-- Both meanings; a neutral side gives the other side. -/
def and : Meaning → Meaning → Meaning
  | none, b => b
  | a, none => a
  | some f, some g => some fun p => f p && g p

/-- Either meaning; a neutral side gives the other side. -/
def or : Meaning → Meaning → Meaning
  | none, b => b
  | a, none => a
  | some f, some g => some fun p => f p || g p

/-- Whether a post passes a meaning; the neutral meaning lets every post pass. -/
def holds : Meaning → Post → Bool
  | some f, p => f p
  | none, _ => true

end Meaning

/-- What a predicate stands for: the identity is neutral, any other tree is its own test. -/
def Predicate.meaning (q : Predicate) : Meaning :=
  if q.isIdentity then none else some q.evaluate

namespace Predicate

/-- The identity is neutral: it has no meaning of its own. -/
@[simp] theorem meaning_identity : identity.meaning = none := rfl

/-- A tree other than the identity means the posts it matches. -/
theorem meaning_of_not_identity {q : Predicate} (h : q.isIdentity = false) :
    q.meaning = some q.evaluate := by
  simp [meaning, h]

/-- A tree is neutral exactly when it is the identity. -/
theorem meaning_eq_none_iff {q : Predicate} : q.meaning = none ↔ q.isIdentity = true := by
  cases h : q.isIdentity <;> simp [meaning, h]

/-- A predicate lets a post pass exactly when its meaning does: the identity passes everything. -/
theorem holds_meaning (q : Predicate) (p : Post) : Meaning.holds q.meaning p = q.evaluate p := by
  cases h : q.isIdentity
  · rw [meaning_of_not_identity h]
    rfl
  · rw [isIdentity_iff.mp h]
    rfl

end Predicate

/-- `andOf` stands for the conjunction of meanings in which a neutral side disappears. -/
theorem meaning_andOf (p q : Predicate) :
    (andOf p q).meaning = Meaning.and p.meaning q.meaning := by
  cases hp : p.isIdentity
  · cases hq : q.isIdentity
    · rw [andOf_of_not_identity hp hq, Predicate.meaning_of_not_identity rfl,
        Predicate.meaning_of_not_identity hp, Predicate.meaning_of_not_identity hq]
      simp only [Meaning.and]
      congr 1
      funext r
      exact Predicate.evaluate_and p q r
    · rw [Predicate.isIdentity_iff.mp hq, andOf_identity_right, Predicate.meaning_identity]
      cases p.meaning <;> rfl
  · rw [Predicate.isIdentity_iff.mp hp, andOf_identity_left, Predicate.meaning_identity]
    rfl

/-- `orOf` stands for the disjunction of meanings in which a neutral side disappears. -/
theorem meaning_orOf (p q : Predicate) : (orOf p q).meaning = Meaning.or p.meaning q.meaning := by
  cases hp : p.isIdentity
  · cases hq : q.isIdentity
    · rw [orOf_of_not_identity hp hq, Predicate.meaning_of_not_identity rfl,
        Predicate.meaning_of_not_identity hp, Predicate.meaning_of_not_identity hq]
      simp only [Meaning.or]
      congr 1
      funext r
      exact Predicate.evaluate_or p q r
    · rw [Predicate.isIdentity_iff.mp hq, orOf_identity_right, Predicate.meaning_identity]
      cases p.meaning <;> rfl
  · rw [Predicate.isIdentity_iff.mp hp, orOf_identity_left, Predicate.meaning_identity]
    rfl

/-- A negation is never neutral: the negated identity fails every post. -/
theorem meaning_negate (q : Predicate) : (negate q).meaning = some fun p => !q.evaluate p := by
  rw [negate, Predicate.meaning_of_not_identity rfl]
  rfl

/-! ## The meaning of a spec -/

/-- The test of a leaf of a known kind: the test of the leaf its value builds. A value that does
not build never compiles, so what is taken for it here is never consulted. -/
def leafTest (k : LeafKind) (v : Value) (p : Post) : Bool :=
  match buildLeaf k v with
  | .ok l => l.evaluate p
  | .error _ => false

mutual

/-- The reference meaning of a spec. Null, references and unrecognised shapes are neutral. A
leaf of a known kind is its test, complemented when negated; a leaf of an unknown kind is
neutral, or fails every post when negated. A group folds the meanings of its `and` items with
`Meaning.and` from the neutral meaning, then those of its `or` items with `Meaning.or`; an absent
list has no items. -/
def RuleSpec.meaning : RuleSpec → Meaning
  | .null | .reference _ | .other _ => none
  | .leaf negated kind v =>
    match LeafKind.ofName? kind with
    | some k => some fun p => if negated then !leafTest k v p else leafTest k v p
    | none => if negated then some fun _ => false else none
  | .group allOf anyOf =>
    (RuleSpec.meaningsOf anyOf).foldl Meaning.or
      ((RuleSpec.meaningsOf allOf).foldl Meaning.and none)

/-- The meanings of the items of an optional list. -/
def RuleSpec.meaningsOf : Option (List RuleSpec) → List Meaning
  | none => []
  | some items => RuleSpec.meaningList items

/-- The meanings of a list of specs, in order. -/
def RuleSpec.meaningList : List RuleSpec → List Meaning
  | [] => []
  | s :: rest => s.meaning :: RuleSpec.meaningList rest

end

/-! ## Compilation realises the meaning -/

/-- A group compiles its `and` list into an accumulator seeded with the identity, then its `or`
list into the same accumulator. -/
theorem compileSpec_group_eq (m : Mode) (allOf anyOf : Option (List RuleSpec)) :
    compileSpec m (.group allOf anyOf) =
      (match allOf with
        | some items => foldAll m .identity items
        | none => pure .identity) >>= fun acc =>
      match anyOf with
      | some items => foldAny m acc items
      | none => pure acc := by
  cases allOf with
  | some items => exact compileSpec.eq_3 m anyOf items
  | none => exact compileSpec.eq_4 m anyOf

/-- A compiled leaf stands for the leaf's meaning, in either mode. -/
theorem compileLeaf_meaning {m : Mode} {negated : Bool} {kind : String} {v : Value}
    {q : Predicate} (h : compileLeaf m negated kind v = .ok q) :
    q.meaning = (RuleSpec.leaf negated kind v).meaning := by
  cases hk : LeafKind.ofName? kind with
  | some k =>
    simp only [compileLeaf, hk] at h
    simp only [RuleSpec.meaning, hk]
    obtain ⟨inner, hinner, hq⟩ := except_bind_eq_ok.mp h
    cases hq
    obtain ⟨l, hl, rfl⟩ := except_map_eq_ok.mp hinner
    have htest : leafTest k v = l.evaluate := by
      funext p
      simp only [leafTest, hl]
    cases negated
    · rw [Predicate.meaning_of_not_identity rfl, htest]
      rfl
    · rw [if_pos rfl, meaning_negate, htest]
      rfl
  | none =>
    cases m with
    | strict =>
      simp only [compileLeaf, hk] at h
      cases h
    | permissive =>
      simp only [compileLeaf, hk] at h
      simp only [RuleSpec.meaning, hk]
      cases h
      cases negated
      · rfl
      · rw [if_pos rfl, meaning_negate]
        rfl

mutual

/-- A spec that compiles stands for its reference meaning. -/
theorem compileSpec_meaning {m : Mode} {s : RuleSpec} {q : Predicate}
    (h : compileSpec m s = .ok q) : q.meaning = s.meaning := by
  match s, h with
  | .null, h =>
    cases h
    rfl
  | .leaf negated kind v, h => exact compileLeaf_meaning h
  | .group allOf anyOf, h =>
    rw [compileSpec_group_eq] at h
    obtain ⟨acc, hacc, h⟩ := except_bind_eq_ok.mp h
    have hacc' : acc.meaning = (RuleSpec.meaningsOf allOf).foldl Meaning.and none := by
      match allOf, hacc with
      | some items, hacc => exact foldAll_meaning hacc
      | none, hacc =>
        cases hacc
        rfl
    match anyOf, h with
    | some items, h =>
      rw [foldAny_meaning h, hacc']
      rfl
    | none, h =>
      cases h
      rw [hacc']
      rfl
  | .reference _, h =>
    cases h
    rfl
  | .other _, h =>
    cases h
    rfl

/-- Folding compiled items with `andOf` folds their meanings with `Meaning.and`. -/
theorem foldAll_meaning {m : Mode} {acc : Predicate} {items : List RuleSpec} {q : Predicate}
    (h : foldAll m acc items = .ok q) :
    q.meaning = (RuleSpec.meaningList items).foldl Meaning.and acc.meaning := by
  match items, h with
  | [], h =>
    cases h
    rfl
  | s :: rest, h =>
    obtain ⟨p, hp, hrest⟩ := except_bind_eq_ok.mp h
    rw [foldAll_meaning hrest, meaning_andOf, compileSpec_meaning hp]
    rfl

/-- Folding compiled items with `orOf` folds their meanings with `Meaning.or`. -/
theorem foldAny_meaning {m : Mode} {acc : Predicate} {items : List RuleSpec} {q : Predicate}
    (h : foldAny m acc items = .ok q) :
    q.meaning = (RuleSpec.meaningList items).foldl Meaning.or acc.meaning := by
  match items, h with
  | [], h =>
    cases h
    rfl
  | s :: rest, h =>
    obtain ⟨p, hp, hrest⟩ := except_bind_eq_ok.mp h
    rw [foldAny_meaning hrest, meaning_orOf, compileSpec_meaning hp]
    rfl

end

/-! ## Main statement -/

/-- **Compiled rules mean what their specs mean.** In either mode, a rule value that compiles
reads as a spec; the rule lets a post pass exactly when the spec's reference meaning holds of
it (every post, when that meaning is neutral), and the compiled predicate is the identity
exactly when the meaning is neutral. -/
theorem compileValue_meaning {m : Mode} {v : Value} {rule : CompiledRule}
    (h : compileValue m v = .ok rule) :
    ∃ spec, RuleSpec.ofValue v = .ok spec ∧
      (∀ p, rule.evaluate p = Meaning.holds spec.meaning p) ∧
      (rule.predicate.isIdentity = true ↔ spec.meaning = none) := by
  obtain ⟨spec, hspec, h⟩ := except_bind_eq_ok.mp h
  obtain ⟨q, hq, h⟩ := except_bind_eq_ok.mp h
  cases h
  have hmeaning : q.meaning = spec.meaning := compileSpec_meaning hq
  refine ⟨spec, hspec, fun p => ?_, ?_⟩
  · rw [← hmeaning, Predicate.holds_meaning]
    rfl
  · rw [← hmeaning, Predicate.meaning_eq_none_iff]
    rfl

/-- A negated leaf beside a reference in an `and` list: the reference is neutral, so the rule
is the negated leaf alone. -/
theorem compileValue_meaning_negated_leaf_beside_reference :
    compileValue .strict (.mapping [(.string "and", .sequence [
        .mapping [(.string "type", .string "~sensitive"), (.string "value", .null)],
        .string "other.yml"])]) = .ok (.ofPredicate (.not (.leaf .sensitive))) ∧
    ∃ spec, RuleSpec.ofValue (.mapping [(.string "and", .sequence [
        .mapping [(.string "type", .string "~sensitive"), (.string "value", .null)],
        .string "other.yml"])]) = .ok spec ∧
      (∀ p, (CompiledRule.ofPredicate (.not (.leaf .sensitive))).evaluate p =
        Meaning.holds spec.meaning p) ∧
      ((CompiledRule.ofPredicate (.not (.leaf .sensitive))).predicate.isIdentity = true ↔
        spec.meaning = none) := by
  have h : compileValue .strict (.mapping [(.string "and", .sequence [
      .mapping [(.string "type", .string "~sensitive"), (.string "value", .null)],
      .string "other.yml"])]) = .ok (.ofPredicate (.not (.leaf .sensitive))) := by
    cbv
  exact ⟨h, compileValue_meaning h⟩

end PostRules
