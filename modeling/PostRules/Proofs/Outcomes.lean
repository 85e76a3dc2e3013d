import PostRules.Proofs.Meaning

/-!
# What a step of compilation may give

A step of compilation either gives a value or fails with an error. Two predicates say what each
outcome may be: `Succeeds x P`, every value `x` gives satisfies `P`, and `FailsWith x P`, every
error it fails with satisfies `P`. Both are carried through `pure`, `throw`, `>>=` and `<$>`, so
a fact about what a compiled rule may be, or why a compilation may fail, is one rule per step.

The failures of the two first stages are few. Reading a rule fails only on a group whose `and`
or `or` is not a list (`ofValue_failsWith`), and building a leaf of a known kind only on its
value: its shape, its literal, its comparison or its pattern (`buildLeaf_failsWith`).
-/

namespace PostRules

open Yaml

/-! ## Postconditions of the two outcomes -/

section Outcomes

variable {ε α β : Type}

/-- Every value the step gives satisfies `P`. -/
def Succeeds (x : Except ε α) (P : α → Prop) : Prop :=
  ∀ a, x = .ok a → P a

/-- Every error the step fails with satisfies `P`. -/
def FailsWith (x : Except ε α) (P : ε → Prop) : Prop :=
  ∀ e, x = .error e → P e

namespace Succeeds

variable {P : β → Prop}

/-- A pure step gives a value with the property it has. -/
theorem pure {a : β} (h : P a) : Succeeds (pure a : Except ε β) P := by
  intro b hb
  cases hb
  exact h

/-- A failure gives no value, so every value it gives has any property. -/
theorem throw (e : ε) : Succeeds (throw e : Except ε β) P := by
  intro b hb
  cases hb

/-- A chain of steps gives what its second step gives from any value of the first. -/
theorem bind {x : Except ε α} {f : α → Except ε β} {Q : α → Prop} (hx : Succeeds x Q)
    (hf : ∀ a, Q a → Succeeds (f a) P) : Succeeds (x >>= f) P := by
  intro b hb
  cases h : x with
  | error e =>
    rw [h] at hb
    cases hb
  | ok a =>
    rw [h] at hb
    exact hf a (hx a h) b hb

/-- Mapping a step's values carries a property of them to their images. -/
theorem map {x : Except ε α} {f : α → β} {Q : α → Prop} (hx : Succeeds x Q)
    (hf : ∀ a, Q a → P (f a)) : Succeeds (f <$> x) P := by
  rw [map_eq_pure_bind]
  exact hx.bind fun a ha => .pure (hf a ha)

/-- A property of every value a step gives implies any weaker property of them. -/
theorem mono {x : Except ε β} {Q : β → Prop} (hx : Succeeds x Q) (h : ∀ b, Q b → P b) :
    Succeeds x P :=
  fun b hb => h b (hx b hb)

end Succeeds

namespace FailsWith

variable {P : ε → Prop}

/-- A success fails with no error, so every error it fails with has any property. -/
theorem ok (a : α) : FailsWith (.ok a : Except ε α) P := by
  intro e he
  cases he

/-- A pure step fails with no error. -/
theorem pure (a : α) : FailsWith (pure a : Except ε α) P := ok a

/-- A failure with an error of the property fails only with errors of the property. -/
theorem throw {e : ε} (h : P e) : FailsWith (throw e : Except ε α) P := by
  intro e' he
  cases he
  exact h

/-- The failure with an error of the property, written as a value, fails only with that error. -/
theorem error {e : ε} (h : P e) : FailsWith (.error e : Except ε α) P := throw h

/-- A chain of steps fails with an error of its first step or of its second. -/
theorem bind {x : Except ε α} {f : α → Except ε β} (hx : FailsWith x P)
    (hf : ∀ a, FailsWith (f a) P) : FailsWith (x >>= f) P := by
  intro e he
  cases h : x with
  | error e₀ =>
    rw [h] at he
    cases he
    exact hx _ h
  | ok a =>
    rw [h] at he
    exact hf a e he

/-- Mapping a step's value keeps the errors it fails with. -/
theorem map {x : Except ε α} (f : α → β) (hx : FailsWith x P) : FailsWith (f <$> x) P := by
  rw [map_eq_pure_bind]
  exact hx.bind fun a => .pure (f a)

/-- A property of every error a step fails with implies any weaker property of them. -/
theorem mono {x : Except ε α} {Q : ε → Prop} (hx : FailsWith x P) (h : ∀ e, P e → Q e) :
    FailsWith x Q :=
  fun e he => h e (hx e he)

/-- Running an optional step runs it when it is there. -/
theorem optionMapM {x : Option (Except ε α)} (h : ∀ r, x = some r → FailsWith r P) :
    FailsWith (x.mapM id) P := by
  cases x with
  | none => exact .pure none
  | some r => exact (h r rfl).map some

end FailsWith

end Outcomes

/-! ## Why reading a rule fails -/

/-- Whether an error is a group whose `and` or `or` is not a list. -/
def CompileError.isMalformedGroup : CompileError → Bool
  | .malformedGroup _ => true
  | _ => false

mutual

/-- Reading a rule fails only on a group whose `and` or `or` is not a list. -/
theorem ofValue_failsWith (v : Value) :
    FailsWith (RuleSpec.ofValue v) (·.isMalformedGroup = true) := by
  match v with
  | .null | .bool _ | .number _ | .string _ | .sequence _ => exact .ok _
  | .tagged _ v =>
    rw [RuleSpec.ofValue]
    exact ofValue_failsWith v
  | .mapping es =>
    rw [RuleSpec.ofValue.eq_3]
    have hand := listUnder_failsWith "and" es
    have hor := listUnder_failsWith "or" es
    -- name the two lookups, so that the match on them splits on variables
    revert hand hor
    generalize RuleSpec.listUnder "and" es = a
    generalize RuleSpec.listUnder "or" es = o
    intro hand hor
    split
    · split <;> exact .ok _
    · exact (FailsWith.optionMapM hand).bind fun a =>
        (FailsWith.optionMapM hor).bind fun o => .pure _

/-- Reading a list of rules fails only on a malformed group. -/
theorem ofValues_failsWith (vs : List Value) :
    FailsWith (RuleSpec.ofValues vs) (·.isMalformedGroup = true) := by
  match vs with
  | [] => exact .ok _
  | v :: rest =>
    exact (ofValue_failsWith v).bind fun s =>
      (ofValues_failsWith rest).bind fun ss => .ok _

/-- Reading the list under a group's key fails only on a malformed group. -/
theorem listUnder_failsWith (key : String) (es : List (Value × Value)) :
    ∀ r, RuleSpec.listUnder key es = some r → FailsWith r (·.isMalformedGroup = true) := by
  match es with
  | [] =>
    intro r h
    cases h
  | (k, v) :: rest =>
    intro r h
    rw [RuleSpec.listUnder.eq_def] at h
    dsimp only at h
    split at h
    · cases h
      match v with
      | .sequence items => exact ofValues_failsWith items
      | .null | .bool _ | .number _ | .string _ | .mapping _ | .tagged _ _ => exact .error rfl
    · exact listUnder_failsWith key rest r h

end

/-! ## Why building a leaf fails -/

/-- Whether an error is about a leaf's value: its shape, its literal, its comparison or its
pattern. -/
def CompileError.isValueError : CompileError → Bool
  | .unsupportedOperator _ _ | .malformedLeafValue _ _ _ | .invalidLiteral _ _ _
  | .invalidRegex _ _ => true
  | _ => false

section Leaves

/-- The errors a leaf's value may raise. -/
abbrev ValueFailure {α : Type} (x : Except CompileError α) : Prop :=
  FailsWith x (·.isValueError = true)

/-- Reading a scalar fails only with an error about the leaf's value. -/
theorem scalarText_failsWith (kind : LeafKind) : ∀ v, ValueFailure (scalarText kind v)
  | .null | .string _ | .number _ | .bool _ => .ok _
  | .tagged _ v => scalarText_failsWith kind v
  | .sequence _ | .mapping _ => .error rfl

/-- Reading a required scalar fails only with an error about the leaf's value. -/
theorem requiredText_failsWith (kind : LeafKind) (v : Value) :
    ValueFailure (requiredText kind v) := by
  refine (scalarText_failsWith kind v).bind fun text => ?_
  cases text with
  | none => exact .error rfl
  | some s => exact .ok s

/-- Splitting a compound value fails only with an error about the leaf's value. -/
theorem splitCompound_failsWith (kind : LeafKind) (raw : String) :
    ValueFailure (splitCompound kind raw) := by
  unfold splitCompound
  split
  · dsimp only
    split
    · exact .ok _
    · exact .error rfl
  · exact .error rfl

/-- Reading a count leaf fails only with an error about the leaf's value. -/
theorem countLeaf_failsWith (kind : LeafKind) (m : Metric) (v : Value) :
    ValueFailure (countLeaf kind m v) := by
  refine (scalarText_failsWith kind v).bind fun text => ?_
  cases text with
  | none => exact .ok _
  | some raw =>
    refine (splitCompound_failsWith kind raw).bind fun ⟨literal, op⟩ => ?_
    dsimp only
    split
    · exact .ok _
    · exact .error rfl

/-- Reading a time leaf fails only with an error about the leaf's value. -/
theorem createdAtLeaf_failsWith (v : Value) : ValueFailure (createdAtLeaf v) := by
  refine (requiredText_failsWith .createdAt v).bind fun raw => ?_
  refine (splitCompound_failsWith .createdAt raw).bind fun ⟨literal, op⟩ => ?_
  dsimp only
  split
  · exact .ok _
  · exact .error rfl

/-- Building a leaf fails only on its value: its shape, its literal, its comparison or its
pattern. -/
theorem buildLeaf_failsWith (kind : LeafKind) (v : Value) : ValueFailure (buildLeaf kind v) := by
  have hscalar := scalarText_failsWith kind v
  have hrequired := requiredText_failsWith kind v
  cases kind
  case createdAt => exact createdAtLeaf_failsWith v
  case likeCount | quoteCount | replyCount | retweetCount => exact countLeaf_failsWith _ _ v
  case emoji | keyword => exact hrequired.map _
  case regex =>
    refine hrequired.bind fun pattern => ?_
    split
    · exact .ok _
    · exact .error rfl
  case sensitive => exact .ok _
  all_goals exact hscalar.map _

end Leaves

end PostRules
