import PostRules.Proofs.Meaning
import PostRules.Rule.Resolve

/-!
# Running the resolver

The facts about resolution that every statement about it rests on.

A resolution step runs in `ResolveM`: it threads the sources loaded so far and may fail. Its
two folds, over the `and` and the `or` items of a group, are `List.foldlM` with `andOf` and
`orOf`, exactly like the compiler's; the fold facts are proved once for any combining function.
A reference is checked against the chain (cycle first, then depth), its section is found among
the loaded sources or loaded, and then its `Rules` is resolved one level deeper or its `Rule` is
compiled alone (`sectionStep`).

Resolution is not structural: a reference replaces the spec by one loaded from the source. It is
by well-founded recursion on the room left on the chain, then the size of the spec, and
`resolution_induction` packages that recursion once, as an induction principle whose reference
case may assume the property for every spec one level deeper.

The loaded sources only ever hold what the source gave for a name of the same key
(`LoadedFrom`); under a source whose successful loads agree on names of one key
(`RuleSource.LoadsByKey`), a section served from them is the source's own.
-/

namespace PostRules

open Yaml

variable {src : RuleSource} {mode : Mode} {chain : List (String × String)}

/-! ## Steps of resolution -/

section Steps

variable {α β : Type}

/-- A run of two steps that succeeded ran the first to a value and a state. -/
theorem resolveM_bind_eq_ok {x : ResolveM α} {f : α → ResolveM β} {σ σ' : Loaded} {b : β} :
    (x >>= f) σ = .ok (b, σ') ↔ ∃ a σ₁, x σ = .ok (a, σ₁) ∧ f a σ₁ = .ok (b, σ') := by
  show StateT.bind x f σ = _ ↔ _
  cases hx : x σ with
  | error e => simp [StateT.bind, hx, bind, Except.bind]
  | ok r =>
    obtain ⟨a, σ₁⟩ := r
    simp only [StateT.bind, hx, bind, Except.bind, Except.ok.injEq, Prod.mk.injEq]
    constructor
    · intro h
      exact ⟨a, σ₁, ⟨rfl, rfl⟩, h⟩
    · rintro ⟨a', σ₁', ⟨rfl, rfl⟩, h⟩
      exact h

/-- A run of two steps that failed failed in the first, or in the second after the first. -/
theorem resolveM_bind_eq_error {x : ResolveM α} {f : α → ResolveM β} {σ : Loaded}
    {e : CompileError} :
    (x >>= f) σ = .error e ↔ x σ = .error e ∨ ∃ a σ₁, x σ = .ok (a, σ₁) ∧ f a σ₁ = .error e := by
  show StateT.bind x f σ = _ ↔ _
  cases hx : x σ with
  | error e => simp [StateT.bind, hx, bind, Except.bind]
  | ok r =>
    obtain ⟨a, σ₁⟩ := r
    simp only [StateT.bind, hx, bind, Except.bind, Except.ok.injEq, Prod.mk.injEq,
      reduceCtorEq, false_or]
    constructor
    · intro h
      exact ⟨a, σ₁, ⟨rfl, rfl⟩, h⟩
    · rintro ⟨a', σ₁', ⟨rfl, rfl⟩, h⟩
      exact h

/-- A pure resolution step gives its value and keeps the loaded sections. -/
@[simp] theorem resolveM_pure_run (a : α) (σ : Loaded) : (pure a : ResolveM α) σ = .ok (a, σ) :=
  rfl

/-- A failing resolution step fails with its error. -/
@[simp] theorem resolveM_throw_run (e : CompileError) (σ : Loaded) :
    (throw e : ResolveM α) σ = .error e :=
  rfl

/-- A lifted step leaves the loaded sources alone. -/
@[simp] theorem lift_run (x : Except CompileError α) (σ : Loaded) :
    ResolveM.lift x σ = (fun a => (a, σ)) <$> x := by
  cases x <;> rfl

/-- A mapped step that succeeded ran the step to a value and a state. -/
theorem resolveM_map_eq_ok {x : ResolveM α} {f : α → β} {σ σ' : Loaded} {b : β} :
    (f <$> x) σ = .ok (b, σ') ↔ ∃ a, x σ = .ok (a, σ') ∧ f a = b := by
  rw [map_eq_pure_bind, resolveM_bind_eq_ok]
  constructor
  · rintro ⟨a, σ₁, hx, hf⟩
    cases hf
    exact ⟨a, hx, rfl⟩
  · rintro ⟨a, hx, rfl⟩
    exact ⟨a, σ', hx, rfl⟩

/-- A mapped step fails exactly when the step does. -/
theorem resolveM_map_eq_error {x : ResolveM α} {f : α → β} {σ : Loaded} {e : CompileError} :
    (f <$> x) σ = .error e ↔ x σ = .error e := by
  rw [map_eq_pure_bind, resolveM_bind_eq_error]
  constructor
  · rintro (hx | ⟨a, σ₁, -, hf⟩)
    · exact hx
    · cases hf
  · exact Or.inl

/-- A run from a state succeeded, forgetting the final state. -/
theorem resolveM_run'_eq_ok {x : ResolveM α} {σ : Loaded} {a : α} :
    x.run' σ = .ok a ↔ ∃ σ', x σ = .ok (a, σ') := by
  show (Prod.fst <$> x σ) = _ ↔ _
  cases x σ with
  | error e => simp [Functor.map, Except.map]
  | ok r =>
    obtain ⟨b, σ'⟩ := r
    simp [Functor.map, Except.map]

/-- A run from a state failed, forgetting the final state. -/
theorem resolveM_run'_eq_error {x : ResolveM α} {σ : Loaded} {e : CompileError} :
    x.run' σ = .error e ↔ x σ = .error e := by
  show (Prod.fst <$> x σ) = _ ↔ _
  cases x σ with
  | error e => simp [Functor.map, Except.map]
  | ok r => simp [Functor.map, Except.map]

/-- Lifting into resolution keeps the order of steps. -/
theorem lift_bind (x : Except CompileError α) (f : α → Except CompileError β) :
    ResolveM.lift (x >>= f) = ResolveM.lift x >>= fun a => ResolveM.lift (f a) := by
  funext σ
  cases x with
  | error e => rfl
  | ok a => rfl

/-- Lifting a mapped step maps the lifted step. -/
theorem lift_map (x : Except CompileError α) (f : α → β) :
    ResolveM.lift (f <$> x) = f <$> ResolveM.lift x := by
  funext σ
  cases x with
  | error e => rfl
  | ok a => rfl

/-- A lifted step succeeds exactly when the step does, and keeps the loaded sections. -/
theorem lift_run_eq_ok {x : Except CompileError α} {σ σ' : Loaded} {a : α} :
    ResolveM.lift x σ = .ok (a, σ') ↔ x = .ok a ∧ σ' = σ := by
  cases x <;> simp [ResolveM.lift, eq_comm]

/-- A lifted step fails exactly when the step does, with its error. -/
theorem lift_run_eq_error {x : Except CompileError α} {σ : Loaded} {e : CompileError} :
    ResolveM.lift x σ = .error e ↔ x = .error e := by
  cases x <;> simp [ResolveM.lift]

end Steps

/-! ## The folds over a group's items -/

section Folds

/-- Resolving `and` items folds their predicates into the accumulator with `andOf`, in order. -/
theorem resolveAll_eq_foldlM (acc : Predicate) (items : List RuleSpec) :
    resolveAll src mode chain acc items =
      items.foldlM (fun acc s => andOf acc <$> resolveSpec src mode chain s) acc := by
  induction items generalizing acc with
  | nil =>
    rw [resolveAll.eq_1]
    rfl
  | cons s rest ih =>
    rw [resolveAll.eq_2, List.foldlM_cons, map_eq_pure_bind, bind_assoc]
    simp only [pure_bind, ih]

/-- Resolving `or` items folds their predicates into the accumulator with `orOf`, in order. -/
theorem resolveAny_eq_foldlM (acc : Predicate) (items : List RuleSpec) :
    resolveAny src mode chain acc items =
      items.foldlM (fun acc s => orOf acc <$> resolveSpec src mode chain s) acc := by
  induction items generalizing acc with
  | nil =>
    rw [resolveAny.eq_1]
    rfl
  | cons s rest ih =>
    rw [resolveAny.eq_2, List.foldlM_cons, map_eq_pure_bind, bind_assoc]
    simp only [pure_bind, ih]

/-- Compiling `and` items folds their predicates into the accumulator with `andOf`, in order. -/
theorem foldAll_eq_foldlM (acc : Predicate) (items : List RuleSpec) :
    foldAll mode acc items = items.foldlM (fun acc s => andOf acc <$> compileSpec mode s) acc := by
  induction items generalizing acc with
  | nil => rfl
  | cons s rest ih =>
    rw [foldAll.eq_2, List.foldlM_cons, map_eq_pure_bind, bind_assoc]
    simp only [pure_bind, ih]

/-- Compiling `or` items folds their predicates into the accumulator with `orOf`, in order. -/
theorem foldAny_eq_foldlM (acc : Predicate) (items : List RuleSpec) :
    foldAny mode acc items = items.foldlM (fun acc s => orOf acc <$> compileSpec mode s) acc := by
  induction items generalizing acc with
  | nil => rfl
  | cons s rest ih =>
    rw [foldAny.eq_2, List.foldlM_cons, map_eq_pure_bind, bind_assoc]
    simp only [pure_bind, ih]

/-- A group is resolved by its `and` fold from the identity, then its `or` fold; an absent list
folds nothing. -/
theorem resolveSpec_group (allOf anyOf : Option (List RuleSpec)) :
    resolveSpec src mode chain (.group allOf anyOf) =
      (allOf.getD []).foldlM (fun acc s => andOf acc <$> resolveSpec src mode chain s) .identity
        >>= fun acc =>
      (anyOf.getD []).foldlM (fun acc s => orOf acc <$> resolveSpec src mode chain s) acc := by
  rw [← resolveAll_eq_foldlM]
  simp only [← resolveAny_eq_foldlM]
  cases allOf <;> cases anyOf <;>
    simp only [resolveSpec.eq_1, resolveSpec.eq_2, Option.getD_some, Option.getD_none,
      resolveAll.eq_1, resolveAny.eq_1, pure_bind, bind_pure]

/-- A group is compiled by its `and` fold from the identity, then its `or` fold. -/
theorem compileSpec_group (allOf anyOf : Option (List RuleSpec)) :
    compileSpec mode (.group allOf anyOf) =
      (allOf.getD []).foldlM (fun acc s => andOf acc <$> compileSpec mode s) .identity
        >>= fun acc =>
      (anyOf.getD []).foldlM (fun acc s => orOf acc <$> compileSpec mode s) acc := by
  rw [← foldAll_eq_foldlM]
  simp only [← foldAny_eq_foldlM]
  cases allOf <;> cases anyOf <;> rfl

/-- A fold of lifted steps is the lifted fold. -/
theorem foldlM_lift {run : RuleSpec → Except CompileError Predicate}
    {c : Predicate → Predicate → Predicate} (items : List RuleSpec) (acc : Predicate) :
    items.foldlM (fun acc s => c acc <$> ResolveM.lift (run s)) acc =
      ResolveM.lift (items.foldlM (fun acc s => c acc <$> run s) acc) := by
  induction items generalizing acc with
  | nil => rfl
  | cons s rest ih =>
    simp only [List.foldlM_cons, lift_bind, lift_map, ih]

/-- Folds whose steps agree on the items agree. -/
theorem foldlM_congr_mem {m : Type → Type} [Monad m] {f g : Predicate → RuleSpec → m Predicate}
    {items : List RuleSpec} (h : ∀ s ∈ items, ∀ acc, f acc s = g acc s) (acc : Predicate) :
    items.foldlM f acc = items.foldlM g acc := by
  induction items generalizing acc with
  | nil => rfl
  | cons s rest ih =>
    simp only [List.foldlM_cons, h s List.mem_cons_self,
      ih (fun t ht => h t (List.mem_cons_of_mem s ht))]

/-- A fold that succeeded ends in a state the invariant `I` holds of and ran every item to a
value from such a state, when every successful run of an item keeps `I`. -/
theorem foldlM_run_ok {run : RuleSpec → ResolveM Predicate} {c : Predicate → Predicate → Predicate}
    {I : Loaded → Prop} {items : List RuleSpec}
    (hkeep : ∀ s ∈ items, ∀ σ₁ q σ₂, I σ₁ → run s σ₁ = .ok (q, σ₂) → I σ₂) :
    ∀ {acc p : Predicate} {σ σ' : Loaded}, I σ →
      items.foldlM (fun acc s => c acc <$> run s) acc σ = .ok (p, σ') →
      I σ' ∧ ∀ s ∈ items, ∃ σ₁ q σ₂, I σ₁ ∧ run s σ₁ = .ok (q, σ₂) := by
  induction items with
  | nil =>
    intro acc p σ σ' hσ h
    cases h
    exact ⟨hσ, fun s hs => absurd hs List.not_mem_nil⟩
  | cons s rest ih =>
    intro acc p σ σ' hσ h
    rw [List.foldlM_cons, resolveM_bind_eq_ok] at h
    obtain ⟨acc₁, σ₁, hs, hrest⟩ := h
    obtain ⟨q, hq, -⟩ := resolveM_map_eq_ok.mp hs
    have hσ₁ : I σ₁ := hkeep s List.mem_cons_self σ q σ₁ hσ hq
    have hkeep' := fun t ht => hkeep t (List.mem_cons_of_mem s ht)
    obtain ⟨hσ', hran⟩ := ih hkeep' hσ₁ hrest
    refine ⟨hσ', fun t ht => ?_⟩
    rcases List.mem_cons.mp ht with rfl | ht
    · exact ⟨σ, q, σ₁, hσ, hq⟩
    · exact hran t ht

/-- A fold that failed failed in one of its items, run from a state the invariant `I` holds of,
when every successful run of an item keeps `I`. -/
theorem foldlM_run_error {run : RuleSpec → ResolveM Predicate}
    {c : Predicate → Predicate → Predicate} {I : Loaded → Prop} {items : List RuleSpec}
    (hkeep : ∀ s ∈ items, ∀ σ₁ q σ₂, I σ₁ → run s σ₁ = .ok (q, σ₂) → I σ₂) :
    ∀ {acc : Predicate} {σ : Loaded} {e : CompileError}, I σ →
      items.foldlM (fun acc s => c acc <$> run s) acc σ = .error e →
      ∃ s ∈ items, ∃ σ₁, I σ₁ ∧ run s σ₁ = .error e := by
  induction items with
  | nil =>
    intro acc σ e _ h
    cases h
  | cons s rest ih =>
    intro acc σ e hσ h
    rw [List.foldlM_cons, resolveM_bind_eq_error] at h
    rcases h with hs | ⟨acc₁, σ₁, hs, hrest⟩
    · exact ⟨s, List.mem_cons_self, σ, hσ, resolveM_map_eq_error.mp hs⟩
    · obtain ⟨q, hq, -⟩ := resolveM_map_eq_ok.mp hs
      have hσ₁ : I σ₁ := hkeep s List.mem_cons_self σ q σ₁ hσ hq
      obtain ⟨t, ht, σ₂, hσ₂, he⟩ :=
        ih (fun t ht => hkeep t (List.mem_cons_of_mem s ht)) hσ₁ hrest
      exact ⟨t, List.mem_cons_of_mem s ht, σ₂, hσ₂, he⟩

end Folds

/-! ## The reference step -/

section Reference

variable {name : String} {s : RuleSection} {σ σ' : Loaded} {p : Predicate} {e : CompileError}

/-- What a loaded section resolves to: its `Rules` one level deeper on the chain, its `Rule`
compiled alone, and an error when it has neither. -/
def sectionStep (src : RuleSource) (mode : Mode) (chain : List (String × String)) (name : String)
    (s : RuleSection) : ResolveM Predicate :=
  match s.entry with
  | some (.rules v) =>
    ResolveM.lift (RuleSpec.ofValue v) >>= resolveSpec src mode (chain ++ [(src.key name, name)])
  | some (.rule v) => ResolveM.lift (RuleSpec.ofValue v >>= compileSpec mode)
  | none => throw (.missingRule name)

/-- A reference is checked for a cycle, then for depth, and only then loaded. -/
theorem resolveSpec_reference (src : RuleSource) (mode : Mode) (chain : List (String × String))
    (name : String) :
    resolveSpec src mode chain (.reference name) =
      if chain.any (·.1 == src.key name) then
        throw (.circularReference (chain.map (·.2) ++ [name]))
      else if chain.length < maxReferenceDepth then
        loadSection src name >>= sectionStep src mode chain name
      else throw (.recursionLimitExceeded name maxReferenceDepth) := by
  rw [resolveSpec.eq_3]
  split
  · rfl
  · simp only [dite_eq_ite]
    rfl

/-- A reference that resolved passed both checks, and its section resolved. -/
theorem resolveSpec_reference_eq_ok
    (h : resolveSpec src mode chain (.reference name) σ = .ok (p, σ')) :
    chain.any (·.1 == src.key name) = false ∧ chain.length < maxReferenceDepth ∧
      ∃ s σ₁, loadSection src name σ = .ok (s, σ₁) ∧
        sectionStep src mode chain name s σ₁ = .ok (p, σ') := by
  rw [resolveSpec_reference] at h
  by_cases hcycle : chain.any (·.1 == src.key name) = true
  · rw [if_pos hcycle] at h
    cases h
  · rw [if_neg hcycle] at h
    by_cases hdepth : chain.length < maxReferenceDepth
    · rw [if_pos hdepth, resolveM_bind_eq_ok] at h
      exact ⟨Bool.eq_false_iff.mpr hcycle, hdepth, h⟩
    · rw [if_neg hdepth] at h
      cases h

/-- Why a reference failed: a cycle, the depth limit, or its load or section failed after both
checks passed. -/
theorem resolveSpec_reference_eq_error
    (h : resolveSpec src mode chain (.reference name) σ = .error e) :
    (chain.any (·.1 == src.key name) = true ∧
        e = .circularReference (chain.map (·.2) ++ [name])) ∨
      (chain.any (·.1 == src.key name) = false ∧ maxReferenceDepth ≤ chain.length ∧
        e = .recursionLimitExceeded name maxReferenceDepth) ∨
      (chain.any (·.1 == src.key name) = false ∧ chain.length < maxReferenceDepth ∧
        (loadSection src name σ = .error e ∨
          ∃ s σ₁, loadSection src name σ = .ok (s, σ₁) ∧
            sectionStep src mode chain name s σ₁ = .error e)) := by
  rw [resolveSpec_reference] at h
  by_cases hcycle : chain.any (·.1 == src.key name) = true
  · rw [if_pos hcycle] at h
    cases h
    exact Or.inl ⟨hcycle, rfl⟩
  · rw [if_neg hcycle] at h
    have hfree := Bool.eq_false_iff.mpr hcycle
    by_cases hdepth : chain.length < maxReferenceDepth
    · rw [if_pos hdepth, resolveM_bind_eq_error] at h
      exact Or.inr (Or.inr ⟨hfree, hdepth, h⟩)
    · rw [if_neg hdepth] at h
      cases h
      exact Or.inr (Or.inl ⟨hfree, Nat.le_of_not_lt hdepth, rfl⟩)

/-- A section that resolved gave `Rules` that resolved one level deeper, or `Rule` that
compiled, leaving the loaded sources alone. -/
theorem sectionStep_eq_ok (h : sectionStep src mode chain name s σ = .ok (p, σ')) :
    (∃ v spec, s.entry = some (.rules v) ∧ RuleSpec.ofValue v = .ok spec ∧
        resolveSpec src mode (chain ++ [(src.key name, name)]) spec σ = .ok (p, σ')) ∨
      (∃ v spec, s.entry = some (.rule v) ∧ RuleSpec.ofValue v = .ok spec ∧
        compileSpec mode spec = .ok p ∧ σ' = σ) := by
  cases hentry : s.entry with
  | none =>
    simp only [sectionStep, hentry] at h
    cases h
  | some entry =>
    cases entry with
    | rules v =>
      simp only [sectionStep, hentry] at h
      obtain ⟨spec, σ₁, hlift, hrun⟩ := resolveM_bind_eq_ok.mp h
      obtain ⟨hspec, rfl⟩ := lift_run_eq_ok.mp hlift
      exact Or.inl ⟨v, spec, rfl, hspec, hrun⟩
    | rule v =>
      simp only [sectionStep, hentry] at h
      obtain ⟨hcomp, rfl⟩ := lift_run_eq_ok.mp h
      obtain ⟨spec, hspec, hcomp⟩ := except_bind_eq_ok.mp hcomp
      exact Or.inr ⟨v, spec, rfl, hspec, hcomp, rfl⟩

/-- Why a section failed: its `Rules` did not read or failed one level deeper, its `Rule` did not
read or compile, or it has neither. -/
theorem sectionStep_eq_error (h : sectionStep src mode chain name s σ = .error e) :
    (∃ v, s.entry = some (.rules v) ∧ (RuleSpec.ofValue v = .error e ∨
        ∃ spec, RuleSpec.ofValue v = .ok spec ∧
          resolveSpec src mode (chain ++ [(src.key name, name)]) spec σ = .error e)) ∨
      (∃ v, s.entry = some (.rule v) ∧ (RuleSpec.ofValue v >>= compileSpec mode) = .error e) ∨
      (s.entry = none ∧ e = .missingRule name) := by
  cases hentry : s.entry with
  | none =>
    simp only [sectionStep, hentry] at h
    cases h
    exact Or.inr (Or.inr ⟨rfl, rfl⟩)
  | some entry =>
    cases entry with
    | rules v =>
      simp only [sectionStep, hentry] at h
      rcases resolveM_bind_eq_error.mp h with hlift | ⟨spec, σ₁, hlift, hrun⟩
      · exact Or.inl ⟨v, rfl, Or.inl (lift_run_eq_error.mp hlift)⟩
      · obtain ⟨hspec, rfl⟩ := lift_run_eq_ok.mp hlift
        exact Or.inl ⟨v, rfl, Or.inr ⟨spec, hspec, hrun⟩⟩
    | rule v =>
      simp only [sectionStep, hentry] at h
      exact Or.inr (Or.inl ⟨v, rfl, lift_run_eq_error.mp h⟩)

end Reference

/-! ## The loaded sources -/

section Loaded

variable {name : String} {s : RuleSection} {σ σ' : Loaded} {e : CompileError}

/-- Every loaded section is what the source gave for a name of the section's key. -/
def LoadedFrom (src : RuleSource) (σ : Loaded) : Prop :=
  ∀ key s, (key, s) ∈ σ → ∃ name, src.key name = key ∧ src.load name = .ok s

/-- The successful loads of a source agree on names of one key. -/
def RuleSource.LoadsByKey (src : RuleSource) : Prop :=
  ∀ n₁ n₂ s, src.key n₁ = src.key n₂ → src.load n₁ = .ok s → src.load n₂ = .ok s

/-- Sources held in memory are keyed by their names, so their loads agree on equal keys. -/
theorem memorySource_loadsByKey (entries : List (String × RuleSection)) :
    (memorySource entries).LoadsByKey := by
  intro n₁ n₂ s hkey hload
  have hname : n₁ = n₂ := hkey
  rw [← hname]
  exact hload

/-- A source of files loads a name by reading the file at its key and parsing it. -/
theorem fileSource_load (tree : Files.FileTree) (base name : String) :
    (fileSource tree base).load name =
      match tree.read (Files.resolve base name).render with
      | .ok text => parseSource name text
      | .error f => .error (.io name f) := rfl

/-- No loaded sections at all come from any source. -/
theorem loadedFrom_nil : LoadedFrom src [] := by
  intro key s h
  exact absurd h List.not_mem_nil

/-- Loading a section: the one already loaded under its key, or a fresh load recorded at the end. -/
theorem loadSection_run (src : RuleSource) (name : String) (σ : Loaded) :
    loadSection src name σ =
      match σ.lookup (src.key name) with
      | some s => .ok (s, σ)
      | none => (fun s => (s, σ ++ [(src.key name, s)])) <$> src.load name := by
  simp only [loadSection, bind, StateT.bind, get, getThe, MonadStateOf.get, StateT.get, pure,
    Except.pure, Except.bind]
  cases σ.lookup (src.key name) with
  | some s => rfl
  | none =>
    cases src.load name <;> rfl

/-- A section is served from the loaded sources under its key, or else loaded and recorded at
the end. -/
theorem loadSection_eq_ok :
    loadSection src name σ = .ok (s, σ') ↔
      (σ.lookup (src.key name) = some s ∧ σ' = σ) ∨
        (σ.lookup (src.key name) = none ∧ src.load name = .ok s ∧
          σ' = σ ++ [(src.key name, s)]) := by
  rw [loadSection_run]
  cases hl : σ.lookup (src.key name) with
  | some s₀ => simp [eq_comm]
  | none =>
    cases src.load name with
    | error e₀ => simp [Functor.map, Except.map]
    | ok s₀ =>
      simp only [Functor.map, Except.map, Except.ok.injEq, Prod.mk.injEq, reduceCtorEq,
        false_and, false_or, true_and]
      constructor
      · rintro ⟨rfl, rfl⟩
        exact ⟨rfl, rfl⟩
      · rintro ⟨rfl, rfl⟩
        exact ⟨rfl, rfl⟩

/-- A section fails to load only when it is not among the loaded sources and the source's load
fails. -/
theorem loadSection_eq_error :
    loadSection src name σ = .error e ↔
      σ.lookup (src.key name) = none ∧ src.load name = .error e := by
  rw [loadSection_run]
  cases hl : σ.lookup (src.key name) with
  | some s₀ => simp
  | none =>
    cases src.load name with
    | error e₀ => simp [Functor.map, Except.map]
    | ok s₀ => simp [Functor.map, Except.map]

/-- Loading keeps every loaded section one the source gave. -/
theorem LoadedFrom.of_loadSection (hσ : LoadedFrom src σ)
    (h : loadSection src name σ = .ok (s, σ')) : LoadedFrom src σ' := by
  rcases loadSection_eq_ok.mp h with ⟨-, rfl⟩ | ⟨-, hload, rfl⟩
  · exact hσ
  · intro key t ht
    rcases List.mem_append.mp ht with ht | ht
    · exact hσ key t ht
    · obtain ⟨rfl, rfl⟩ := Prod.mk.inj (List.mem_singleton.mp ht)
      exact ⟨name, rfl, hload⟩

/-- Under a source whose loads agree on names of one key, the section served for a name is the
one the source gives for that very name. -/
theorem LoadedFrom.load_eq (hsrc : src.LoadsByKey) (hσ : LoadedFrom src σ)
    (h : loadSection src name σ = .ok (s, σ')) : src.load name = .ok s := by
  rcases loadSection_eq_ok.mp h with ⟨hl, -⟩ | ⟨-, hload, -⟩
  · obtain ⟨l₁, l₂, hσl, -⟩ := List.lookup_eq_some_iff.mp hl
    have hmem : (src.key name, s) ∈ σ := by
      rw [hσl]
      exact List.mem_append_right l₁ List.mem_cons_self
    obtain ⟨other, hkey, hload⟩ := hσ _ _ hmem
    exact hsrc other name s hkey hload
  · exact hload

end Loaded

/-! ## Induction along resolution -/

/-- An item of a group's list is smaller than the list. -/
theorem sizeOf_lt_of_mem_getD {s : RuleSpec} {items : Option (List RuleSpec)}
    (h : s ∈ items.getD []) : sizeOf s < sizeOf items := by
  cases items with
  | none => exact absurd h List.not_mem_nil
  | some l =>
    rw [Option.getD_some] at h
    have := List.sizeOf_lt_of_mem h
    simp only [Option.some.sizeOf_spec]
    omega

/-- A spec that is neither a group nor a reference: null, a leaf or an unrecognised shape. -/
def RuleSpec.IsPlain (s : RuleSpec) : Prop :=
  (∀ allOf anyOf, s ≠ .group allOf anyOf) ∧ ∀ name, s ≠ .reference name

/-- Induction along the recursion of resolution. A group may assume the property for its items
on the same chain; a reference may assume it for every spec on the chain one entry longer,
whenever the chain has room. This is the order in which `resolveSpec` terminates: the room left
on the chain, then the size of the spec. -/
theorem resolution_induction (src : RuleSource) {P : List (String × String) → RuleSpec → Prop}
    (group : ∀ chain allOf anyOf, (∀ s ∈ allOf.getD [], P chain s) →
      (∀ s ∈ anyOf.getD [], P chain s) → P chain (.group allOf anyOf))
    (reference : ∀ chain name, (chain.length < maxReferenceDepth →
      ∀ spec, P (chain ++ [(src.key name, name)]) spec) → P chain (.reference name))
    (plain : ∀ chain s, s.IsPlain → P chain s) :
    ∀ chain s, P chain s
  | chain, .group allOf anyOf =>
    group chain allOf anyOf
      (fun s _hs => resolution_induction src group reference plain chain s)
      (fun s _hs => resolution_induction src group reference plain chain s)
  | chain, .reference name =>
    reference chain name
      (fun _hlt spec => resolution_induction src group reference plain _ spec)
  | chain, .null => plain chain _ ⟨by simp, by simp⟩
  | chain, .leaf negated kind v => plain chain _ ⟨by simp, by simp⟩
  | chain, .other v => plain chain _ ⟨by simp, by simp⟩
termination_by chain s => (maxReferenceDepth - chain.length, sizeOf s)
decreasing_by
  · apply Prod.Lex.right
    have := sizeOf_lt_of_mem_getD _hs
    simp only [RuleSpec.group.sizeOf_spec]
    omega
  · apply Prod.Lex.right
    have := sizeOf_lt_of_mem_getD _hs
    simp only [RuleSpec.group.sizeOf_spec]
    omega
  · apply Prod.Lex.left
    simp only [List.length_append, List.length_singleton]
    omega

/-- A plain spec is compiled, leaving the state alone. -/
theorem resolveSpec_of_plain {s : RuleSpec} (hs : s.IsPlain) :
    resolveSpec src mode chain s = ResolveM.lift (compileSpec mode s) :=
  resolveSpec.eq_4 src mode chain s (fun a o h => hs.1 a o h) (fun n h => hs.2 n h)

/-- A group that resolved ran each of its items to a value, from a state the invariant `I` holds
of, and ends in such a state, when every successful run of an item keeps `I`. -/
theorem resolveSpec_group_ok {I : Loaded → Prop} {allOf anyOf : Option (List RuleSpec)}
    {σ σ' : Loaded} {p : Predicate}
    (hkeep : ∀ s ∈ allOf.getD [] ++ anyOf.getD [], ∀ σ₁ q σ₂, I σ₁ →
      resolveSpec src mode chain s σ₁ = .ok (q, σ₂) → I σ₂)
    (hσ : I σ) (h : resolveSpec src mode chain (.group allOf anyOf) σ = .ok (p, σ')) :
    I σ' ∧ ∀ s ∈ allOf.getD [] ++ anyOf.getD [], ∃ σ₁ q σ₂, I σ₁ ∧
      resolveSpec src mode chain s σ₁ = .ok (q, σ₂) := by
  rw [resolveSpec_group, resolveM_bind_eq_ok] at h
  obtain ⟨acc, σ₁, hall, hany⟩ := h
  obtain ⟨hσ₁, hranAll⟩ :=
    foldlM_run_ok (fun s hs => hkeep s (List.mem_append_left _ hs)) hσ hall
  obtain ⟨hσ', hranAny⟩ :=
    foldlM_run_ok (fun s hs => hkeep s (List.mem_append_right _ hs)) hσ₁ hany
  refine ⟨hσ', fun s hs => ?_⟩
  rcases List.mem_append.mp hs with hs | hs
  · exact hranAll s hs
  · exact hranAny s hs

/-- A group that failed failed in one of its items, run from a state the invariant `I` holds of,
when every successful run of an item keeps `I`. -/
theorem resolveSpec_group_error {I : Loaded → Prop} {allOf anyOf : Option (List RuleSpec)}
    {σ : Loaded} {e : CompileError}
    (hkeep : ∀ s ∈ allOf.getD [] ++ anyOf.getD [], ∀ σ₁ q σ₂, I σ₁ →
      resolveSpec src mode chain s σ₁ = .ok (q, σ₂) → I σ₂)
    (hσ : I σ) (h : resolveSpec src mode chain (.group allOf anyOf) σ = .error e) :
    ∃ s ∈ allOf.getD [] ++ anyOf.getD [], ∃ σ₁, I σ₁ ∧
      resolveSpec src mode chain s σ₁ = .error e := by
  rw [resolveSpec_group, resolveM_bind_eq_error] at h
  have hkeepAll := fun s hs => hkeep s (List.mem_append_left (anyOf.getD []) hs)
  rcases h with hall | ⟨acc, σ₁, hall, hany⟩
  · obtain ⟨s, hs, σ₂, hσ₂, he⟩ := foldlM_run_error hkeepAll hσ hall
    exact ⟨s, List.mem_append_left _ hs, σ₂, hσ₂, he⟩
  · have hσ₁ := (foldlM_run_ok hkeepAll hσ hall).1
    obtain ⟨s, hs, σ₂, hσ₂, he⟩ :=
      foldlM_run_error (fun s hs => hkeep s (List.mem_append_right _ hs)) hσ₁ hany
    exact ⟨s, List.mem_append_right _ hs, σ₂, hσ₂, he⟩

/-- **Resolution only loads from the source.** A run that succeeds keeps every loaded section one
that the source gave for a name of its key. -/
theorem resolveSpec_loadedFrom :
    ∀ chain s {σ σ' : Loaded} {p : Predicate}, LoadedFrom src σ →
      resolveSpec src mode chain s σ = .ok (p, σ') → LoadedFrom src σ' := by
  refine resolution_induction src ?group ?reference ?plain
  case group =>
    intro chain allOf anyOf ihAll ihAny σ σ' p hσ h
    refine (resolveSpec_group_ok (fun s hs σ₁ q σ₂ hσ₁ hrun => ?_) hσ h).1
    rcases List.mem_append.mp hs with hs | hs
    · exact ihAll s hs hσ₁ hrun
    · exact ihAny s hs hσ₁ hrun
  case reference =>
    intro chain name ih σ σ' p hσ h
    obtain ⟨-, hdepth, s, σ₁, hload, hstep⟩ := resolveSpec_reference_eq_ok h
    have hσ₁ : LoadedFrom src σ₁ := hσ.of_loadSection hload
    rcases sectionStep_eq_ok hstep with ⟨v, spec, -, -, hrun⟩ | ⟨v, spec, -, -, -, rfl⟩
    · exact ih hdepth spec hσ₁ hrun
    · exact hσ₁
  case plain =>
    intro chain s hs σ σ' p hσ h
    rw [resolveSpec_of_plain hs, lift_run_eq_ok] at h
    rw [h.2]
    exact hσ

/-- A group that resolved from sections the source gave ran each of its items to a value from
such sections. -/
theorem resolveSpec_group_ok_loaded {allOf anyOf : Option (List RuleSpec)} {σ σ' : Loaded}
    {p : Predicate} (hσ : LoadedFrom src σ)
    (h : resolveSpec src mode chain (.group allOf anyOf) σ = .ok (p, σ')) :
    ∀ s ∈ allOf.getD [] ++ anyOf.getD [], ∃ σ₁ q σ₂, LoadedFrom src σ₁ ∧
      resolveSpec src mode chain s σ₁ = .ok (q, σ₂) :=
  (resolveSpec_group_ok (fun s _ _ _ _ hσ₁ hrun => resolveSpec_loadedFrom chain s hσ₁ hrun)
    hσ h).2

/-- A group that failed from sections the source gave failed at one of its items, run from such
sections. -/
theorem resolveSpec_group_error_loaded {allOf anyOf : Option (List RuleSpec)} {σ : Loaded}
    {e : CompileError} (hσ : LoadedFrom src σ)
    (h : resolveSpec src mode chain (.group allOf anyOf) σ = .error e) :
    ∃ s ∈ allOf.getD [] ++ anyOf.getD [], ∃ σ₁, LoadedFrom src σ₁ ∧
      resolveSpec src mode chain s σ₁ = .error e :=
  resolveSpec_group_error (fun s _ _ _ _ hσ₁ hrun => resolveSpec_loadedFrom chain s hσ₁ hrun) hσ h

/-! ## References of a spec -/

/-- `s.RefersTo name`: `s` names the source `name` at its top, or in an item of its groups at any
depth. Strings inside leaves and unrecognised shapes are not references. -/
inductive RuleSpec.RefersTo : RuleSpec → String → Prop
  | top (name : String) : RuleSpec.RefersTo (.reference name) name
  | item {allOf anyOf : Option (List RuleSpec)} {s : RuleSpec} {name : String} :
      s ∈ allOf.getD [] ++ anyOf.getD [] → s.RefersTo name →
      RuleSpec.RefersTo (.group allOf anyOf) name

/-- A spec that names no source at its top or through its groups. -/
def RuleSpec.ReferenceFree (s : RuleSpec) : Prop :=
  ∀ name, ¬ s.RefersTo name

/-- The items of a group without references have none either. -/
theorem RuleSpec.ReferenceFree.of_mem {allOf anyOf : Option (List RuleSpec)} {s : RuleSpec}
    (h : (RuleSpec.group allOf anyOf).ReferenceFree) (hs : s ∈ allOf.getD [] ++ anyOf.getD []) :
    s.ReferenceFree :=
  fun name hname => h name (.item hs hname)

/-- **Resolution of a spec without references is compilation.** It gives the compiler's answer,
success or the same error, and loads nothing. -/
theorem resolveSpec_of_referenceFree :
    ∀ chain s, s.ReferenceFree →
      resolveSpec src mode chain s = ResolveM.lift (compileSpec mode s) := by
  refine resolution_induction src ?group ?reference ?plain
  case group =>
    intro chain allOf anyOf ihAll ihAny hfree
    have hAll : ∀ s ∈ allOf.getD [], ∀ acc : Predicate,
        andOf acc <$> resolveSpec src mode chain s =
          andOf acc <$> ResolveM.lift (compileSpec mode s) := fun s hs acc => by
      rw [ihAll s hs (hfree.of_mem (List.mem_append_left _ hs))]
    have hAny : ∀ s ∈ anyOf.getD [], ∀ acc : Predicate,
        orOf acc <$> resolveSpec src mode chain s =
          orOf acc <$> ResolveM.lift (compileSpec mode s) := fun s hs acc => by
      rw [ihAny s hs (hfree.of_mem (List.mem_append_right _ hs))]
    rw [resolveSpec_group, compileSpec_group, foldlM_congr_mem hAll, foldlM_lift, lift_bind]
    simp only [foldlM_congr_mem hAny, foldlM_lift]
  case reference =>
    intro chain name _ hfree
    exact absurd (.top name) (hfree name)
  case plain =>
    intro chain s hs _
    exact resolveSpec_of_plain hs

end PostRules
