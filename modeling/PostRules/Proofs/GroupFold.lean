import PostRules.Proofs.Resolution

/-!
# The tree a group folds to

A group is folded by `foldGroup` with an item compiler, the compiler's and the resolver's alike:
its `and` items through `andOf`, then its `or` items through `orOf`, from the identity. Since
`andOf` and `orOf` drop an identity on either side, also while the accumulator is still the seed,
the tree this gives is `groupShape` of the items' results: the results other than the identity,
the `and` ones joined by conjunctions nested to the left, then the `or` ones joined onto them by
disjunctions.

`foldGroup_eq_mapM` says this for an item compiler in any monad: the fold runs the compiler on
the `and` items and then on the `or` items, in order and each once, as `List.mapM` does, and
returns the shape of the results. Compiling and resolving a group are instances
(`compileSpec_group_shape`, `resolveSpec_group_shape`).

The main statement, `foldGroup_shape_or_first_error`, reads this for an item compiler that keeps a
state of its own and may fail, as a closure over mutable data does (`EStateM`, whose state survives
a failure). When every item compiles, the fold gives the shape of the results and the state the
last item left. When an item fails and every item before it compiled, the fold fails with that
item's error and leaves the state its call left: no later item is compiled.
-/

namespace PostRules

open Predicate

/-! ## Trees nested to the left -/

/-- Trees joined by `op`, nested to the left: `op (op p₁ p₂) p₃` and so on. One tree stands alone,
and no tree at all is the identity. -/
def nestLeft (op : Predicate → Predicate → Predicate) : List Predicate → Predicate
  | [] => .identity
  | p :: ps => ps.foldl op p

/-- The trees of a list other than the identity. -/
def nonIdentity (ps : List Predicate) : List Predicate :=
  ps.filter (!·.isIdentity)

/-- The tree of a group whose `and` items gave `ands` and whose `or` items gave `ors`: the
conjunction of the `and` results other than the identity, then each `or` result other than the
identity, joined by disjunctions. Without `and` results the first `or` result stands alone, and
without any result the group is the identity. -/
def groupShape (ands ors : List Predicate) : Predicate :=
  match nonIdentity ands with
  | [] => nestLeft .or (nonIdentity ors)
  | conj => nestLeft .or (nestLeft .and conj :: nonIdentity ors)

/-- The trees kept by `nonIdentity` are not the identity. -/
theorem isIdentity_of_mem_nonIdentity {ps : List Predicate} {p : Predicate}
    (h : p ∈ nonIdentity ps) : p.isIdentity = false := by
  simpa [nonIdentity] using (List.mem_filter.mp h).2

/-! ## Folding with a constructor that drops the identity -/

/-- `c` joins two trees by the junction `op`, dropping an identity on either side: `andOf` with
conjunctions, `orOf` with disjunctions. -/
structure Joins (c op : Predicate → Predicate → Predicate) : Prop where
  identity_left : ∀ q, c .identity q = q
  identity_right : ∀ p, c p .identity = p
  junction : ∀ {p q}, p.isIdentity = false → q.isIdentity = false → c p q = op p q
  junction_proper : ∀ p q, (op p q).isIdentity = false

/-- `andOf` joins trees by conjunction, dropping the identity on either side. -/
theorem joins_andOf : Joins andOf .and :=
  ⟨andOf_identity_left, andOf_identity_right, andOf_of_not_identity, fun _ _ => rfl⟩

/-- `orOf` joins trees by disjunction, dropping the identity on either side. -/
theorem joins_orOf : Joins orOf .or :=
  ⟨orOf_identity_left, orOf_identity_right, orOf_of_not_identity, fun _ _ => rfl⟩

namespace Joins

variable {c op : Predicate → Predicate → Predicate} (h : Joins c op)
include h

/-- Onto a tree other than the identity, `c` joins a tree by `op` and skips the identity. -/
theorem step {acc : Predicate} (hacc : acc.isIdentity = false) (p : Predicate) :
    c acc p = if p.isIdentity then acc else op acc p := by
  cases hp : p.isIdentity with
  | true => rw [isIdentity_iff.mp hp, h.identity_right, if_pos rfl]
  | false => rw [h.junction hacc hp, if_neg Bool.false_ne_true]

/-- Trees joined onto one other than the identity by `op` are never the identity. -/
theorem foldl_junction_proper (ps : List Predicate) {acc : Predicate}
    (hacc : acc.isIdentity = false) : (ps.foldl op acc).isIdentity = false := by
  induction ps generalizing acc with
  | nil => exact hacc
  | cons p ps ih => exact ih (h.junction_proper acc p)

/-- Folding onto a tree other than the identity joins the results other than the identity. -/
theorem foldl_of_proper (ps : List Predicate) {acc : Predicate}
    (hacc : acc.isIdentity = false) : ps.foldl c acc = (nonIdentity ps).foldl op acc := by
  induction ps generalizing acc with
  | nil => rfl
  | cons p ps ih =>
    rw [List.foldl_cons, h.step hacc]
    cases hp : p.isIdentity with
    | true => simp [nonIdentity, hp, ih hacc]
    | false => simp [nonIdentity, hp, ih (h.junction_proper acc p)]

/-- Folding from the identity nests the results other than the identity to the left: the seed
is dropped with the first of them. -/
theorem foldl_identity (ps : List Predicate) :
    ps.foldl c .identity = nestLeft op (nonIdentity ps) := by
  induction ps with
  | nil => rfl
  | cons p ps ih =>
    rw [List.foldl_cons, h.identity_left]
    cases hp : p.isIdentity with
    | true =>
      rw [isIdentity_iff.mp hp, ih]
      simp [nonIdentity, isIdentity]
    | false =>
      rw [h.foldl_of_proper ps hp]
      simp [nonIdentity, hp, nestLeft]

end Joins

/-- A group's `and` fold, then its `or` fold, give the group's shape. -/
theorem foldl_orOf_foldl_andOf (ands ors : List Predicate) :
    ors.foldl orOf (ands.foldl andOf .identity) = groupShape ands ors := by
  rw [joins_andOf.foldl_identity, groupShape]
  cases hconj : nonIdentity ands with
  | nil => exact joins_orOf.foldl_identity ors
  | cons p ps =>
    -- the conjunction is a tree of its own, so the disjunctions join onto it
    have hp : p.isIdentity = false := isIdentity_of_mem_nonIdentity (hconj ▸ List.mem_cons_self)
    have hand : (nestLeft .and (p :: ps)).isIdentity = false :=
      joins_andOf.foldl_junction_proper ps hp
    rw [joins_orOf.foldl_of_proper ors hand]
    rfl

/-! ## Running the fold -/

section Run

variable {m : Type → Type} [Monad m] [LawfulMonad m]

/-- A fold that joins each item's result to the accumulator runs the item compiler over all the
items first, then joins the results. -/
theorem foldlM_eq_map_mapM (f : RuleSpec → m Predicate) (c : Predicate → Predicate → Predicate)
    (items : List RuleSpec) (acc : Predicate) :
    items.foldlM (fun acc s => c acc <$> f s) acc =
      (fun ps => ps.foldl c acc) <$> items.mapM f := by
  induction items generalizing acc with
  | nil => simp
  | cons s rest ih => simp [List.foldlM_cons, List.mapM_cons, ih]

/-- Folding a group runs the item compiler on the `and` items, then on the `or` items, each once
and in order, and gives the group's shape of the results. -/
theorem foldGroup_eq_mapM (f : RuleSpec → m Predicate) (allOf anyOf : Option (List RuleSpec)) :
    foldGroup f allOf anyOf = (do
      let ands ← (allOf.getD []).mapM f
      let ors ← (anyOf.getD []).mapM f
      pure (groupShape ands ors)) := by
  have hfold : foldGroup f allOf anyOf =
      (allOf.getD []).foldlM (fun acc s => andOf acc <$> f s) .identity >>= fun acc =>
        (anyOf.getD []).foldlM (fun acc s => orOf acc <$> f s) acc := by
    cases allOf <;> cases anyOf <;> simp [foldGroup]
  rw [hfold]
  simp only [foldlM_eq_map_mapM]
  simp only [map_eq_pure_bind, bind_assoc, pure_bind, foldl_orOf_foldl_andOf]

end Run

/-- Compiling a group is folding it with the compiler. -/
theorem compileSpec_group_eq_foldGroup (mode : Mode) (allOf anyOf : Option (List RuleSpec)) :
    compileSpec mode (.group allOf anyOf) = foldGroup (compileSpec mode) allOf anyOf := by
  rw [compileSpec_group]
  cases allOf <;> cases anyOf <;> rfl

/-- Resolving a group is folding it with the resolver, on the same chain. -/
theorem resolveSpec_group_eq_foldGroup (src : RuleSource) (mode : Mode)
    (chain : List (String × String)) (allOf anyOf : Option (List RuleSpec)) :
    resolveSpec src mode chain (.group allOf anyOf) =
      foldGroup (resolveSpec src mode chain) allOf anyOf := by
  rw [resolveSpec_group]
  cases allOf <;> cases anyOf <;> simp [foldGroup]

/-- A group compiles its items in order, stopping at the first error, and gives their shape. -/
theorem compileSpec_group_shape (mode : Mode) (allOf anyOf : Option (List RuleSpec)) :
    compileSpec mode (.group allOf anyOf) = (do
      let ands ← (allOf.getD []).mapM (compileSpec mode)
      let ors ← (anyOf.getD []).mapM (compileSpec mode)
      pure (groupShape ands ors)) := by
  rw [compileSpec_group_eq_foldGroup, foldGroup_eq_mapM]

/-- A group resolves its items in order on the same chain, stopping at the first error, and gives
their shape. -/
theorem resolveSpec_group_shape (src : RuleSource) (mode : Mode) (chain : List (String × String))
    (allOf anyOf : Option (List RuleSpec)) :
    resolveSpec src mode chain (.group allOf anyOf) = (do
      let ands ← (allOf.getD []).mapM (resolveSpec src mode chain)
      let ors ← (anyOf.getD []).mapM (resolveSpec src mode chain)
      pure (groupShape ands ors)) := by
  rw [resolveSpec_group_eq_foldGroup, foldGroup_eq_mapM]

/-! ## An item compiler with a state of its own -/

section Stateful

variable {ε σ : Type}

/-- Items compiled in turn after items that all compiled, up to one that fails, fail with its
error and the state its call left. -/
theorem mapM_run_first_error (f : RuleSpec → EStateM ε σ Predicate)
    {before after : List RuleSpec} {item : RuleSpec} {done : List Predicate} {s s₁ s₂ : σ}
    {e : ε} (hbefore : (before.mapM f).run s = .ok done s₁)
    (hitem : (f item).run s₁ = .error e s₂) :
    ((before ++ item :: after).mapM f).run s = .error e s₂ := by
  simp only [List.mapM_append, List.mapM_cons, EStateM.run_bind, hbefore, hitem]

/-- A run of two item lists, then any last step, fails as the run of the two lists joined does. -/
theorem run_bind_mapM_of_error (f : RuleSpec → EStateM ε σ Predicate) {xs ys : List RuleSpec}
    (k : List Predicate → List Predicate → EStateM ε σ Predicate) {s s₂ : σ} {e : ε}
    (h : ((xs ++ ys).mapM f).run s = .error e s₂) :
    (do let a ← xs.mapM f; let b ← ys.mapM f; k a b).run s = .error e s₂ := by
  rw [List.mapM_append, EStateM.run_bind] at h
  rw [EStateM.run_bind]
  cases hx : (xs.mapM f).run s with
  | error e' s' =>
    simp only [hx] at h ⊢
    cases h
    rfl
  | ok a s' =>
    simp only [hx, EStateM.run_bind] at h ⊢
    cases hy : (ys.mapM f).run s' with
    | error e' s'' =>
      simp only [hy] at h ⊢
      cases h
      rfl
    | ok b s'' =>
      simp only [hy, EStateM.run_pure] at h
      cases h

/-- What folding a group does with an item compiler that keeps a state and may fail. When the
`and` items and then the `or` items all compile, the fold gives their shape and the state the last
item left. When an item fails after all the items before it compiled, in the order of the `and`
items and then the `or` items, the fold fails with its error and leaves the state that call left,
so no later item is compiled. -/
theorem foldGroup_shape_or_first_error (f : RuleSpec → EStateM ε σ Predicate)
    (allOf anyOf : Option (List RuleSpec)) (s : σ) :
    (∀ ands ors s₁ s₂, ((allOf.getD []).mapM f).run s = .ok ands s₁ →
      ((anyOf.getD []).mapM f).run s₁ = .ok ors s₂ →
      (foldGroup f allOf anyOf).run s = .ok (groupShape ands ors) s₂) ∧
    (∀ before item after done s₁ e s₂,
      allOf.getD [] ++ anyOf.getD [] = before ++ item :: after →
      (before.mapM f).run s = .ok done s₁ → (f item).run s₁ = .error e s₂ →
      (foldGroup f allOf anyOf).run s = .error e s₂) := by
  rw [foldGroup_eq_mapM]
  constructor
  · intro ands ors s₁ s₂ hands hors
    simp only [EStateM.run_bind, hands, hors]
    rfl
  · intro before item after done s₁ e s₂ hitems hbefore hitem
    apply run_bind_mapM_of_error
    rw [hitems]
    exact mapM_run_first_error f hbefore hitem

/-- An item compiler that logs every item it is given, fails on a reference with the reference's
name, and compiles anything else to the identity. -/
def logUntilReference : RuleSpec → EStateM String (List RuleSpec) Predicate
  | .reference name => fun log => .error name (log ++ [.reference name])
  | item => fun log => .ok .identity (log ++ [item])

/-- In the group `and: [null, a], or: [b]` the reference `a` fails after `null` compiled, and the
fold fails with its error before `b` is compiled. -/
theorem foldGroup_stops_at_failing_reference :
    [RuleSpec.null, .reference "a"] ++ [.reference "b"] =
        [.null] ++ .reference "a" :: [.reference "b"] ∧
      ([RuleSpec.null].mapM logUntilReference).run [] = .ok [.identity] [.null] ∧
      (logUntilReference (.reference "a")).run [.null] = .error "a" [.null, .reference "a"] ∧
      (foldGroup logUntilReference (some [.null, .reference "a"]) (some [.reference "b"])).run [] =
        .error "a" [.null, .reference "a"] :=
  ⟨rfl, rfl, rfl, (foldGroup_shape_or_first_error logUntilReference _ _ []).2 [.null]
    (.reference "a") [.reference "b"] [.identity] [.null] "a" [.null, .reference "a"] rfl rfl rfl⟩

end Stateful

end PostRules
