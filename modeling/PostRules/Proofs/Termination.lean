import PostRules.Proofs.Resolution

/-!
# Resolution enters at most `maxReferenceDepth` sources one inside another

Resolution recurses on the items of a group and, past its two checks, into the spec that a named
source gives: a spec that may be larger than the reference it replaces, from a source that may
name itself. What bounds this recursion is the guard: a source is entered only while the chain
is shorter than `maxReferenceDepth`, and entering it lengthens the chain by one.

`resolveWithin fuel` resolves as `resolveSpec` does, except that entering a source costs one unit
of fuel, and it gives up (`none`) when it has none left; within one source it recurses on the
spec alone. The main statement, `resolve_within_depth`, says that `maxReferenceDepth` units
always suffice from the empty chain, for every source and every spec, cyclic sources included,
and that the answer is then the one `resolveSpec` gives.
-/

namespace PostRules

open Yaml

/-! ## Resolution that may give up -/

/-- Resolution that may give up before it ends: a run from loaded sources gives `none` when it
gave up, and otherwise the answer of resolution. -/
abbrev BoundedM := StateT Loaded (ExceptT CompileError Option)

/-- A step of resolution, run where giving up is possible; it never gives up. -/
def ResolveM.bound {α : Type} (x : ResolveM α) : BoundedM α :=
  fun σ => ExceptT.mk (some (x σ))

/-- Giving up. -/
def BoundedM.giveUp {α : Type} : BoundedM α :=
  fun _ => ExceptT.mk none

section Bound

variable {α β : Type}

/-- A pure step, run where giving up is possible, is the same pure step. -/
@[simp] theorem bound_pure (a : α) : (pure a : ResolveM α).bound = pure a := rfl

/-- A failing step, run where giving up is possible, fails alike. -/
@[simp] theorem bound_throw (e : CompileError) : (throw e : ResolveM α).bound = throw e := rfl

/-- Bounding a chain of steps bounds each step. -/
theorem bound_bind (x : ResolveM α) (f : α → ResolveM β) :
    (x >>= f).bound = x.bound >>= fun a => (f a).bound := by
  funext σ
  show ExceptT.mk (some ((x >>= f) σ)) = ExceptT.mk (some (x σ)) >>= fun r => _
  cases hx : x σ with
  | error e =>
    have h : (x >>= f) σ = .error e := by simp [bind, StateT.bind, hx, Except.bind]
    rw [h]
    rfl
  | ok r =>
    obtain ⟨a, σ₁⟩ := r
    have h : (x >>= f) σ = f a σ₁ := by simp [bind, StateT.bind, hx, Except.bind]
    rw [h]
    rfl

/-- A mapped step, run where giving up is possible, maps the bounded step. -/
theorem bound_map (x : ResolveM α) (f : α → β) : (f <$> x).bound = f <$> x.bound := by
  rw [map_eq_pure_bind, bound_bind, map_eq_pure_bind]
  rfl

/-- Bounding a fold of steps bounds each step. -/
theorem foldlM_bound {run : RuleSpec → ResolveM Predicate}
    {c : Predicate → Predicate → Predicate} (items : List RuleSpec) (acc : Predicate) :
    items.foldlM (fun acc s => c acc <$> (run s).bound) acc =
      (items.foldlM (fun acc s => c acc <$> run s) acc).bound := by
  induction items generalizing acc with
  | nil => rfl
  | cons s rest ih =>
    simp only [List.foldlM_cons, bound_bind, bound_map, ih]

end Bound

/-! ## Resolving within a bound -/

/-- Past its two checks, a reference resolves in the section its source gives: its `Rules` one
source deeper, by `deeper`; its `Rule` compiled alone; or the error that it has neither. -/
def enterSection (src : RuleSource) (mode : Mode)
    (deeper : List (String × String) → RuleSpec → BoundedM Predicate)
    (chain : List (String × String)) (name : String) (s : RuleSection) : BoundedM Predicate :=
  match s.entry with
  | some (.rules v) =>
    (ResolveM.lift (RuleSpec.ofValue v)).bound >>= deeper (chain ++ [(src.key name, name)])
  | some (.rule v) => (ResolveM.lift (RuleSpec.ofValue v >>= compileSpec mode)).bound
  | none => throw (.missingRule name)

mutual

/-- Resolution inside one source: groups are resolved item by item, and a reference that passes
the cycle and depth checks is resolved by `deeper`, one source further in. -/
def resolveLevel (src : RuleSource) (mode : Mode)
    (deeper : List (String × String) → RuleSpec → BoundedM Predicate)
    (chain : List (String × String)) : RuleSpec → BoundedM Predicate
  | .group allOf anyOf => do
    let acc ← match allOf with
      | some items => resolveLevelAll src mode deeper chain .identity items
      | none => pure .identity
    match anyOf with
    | some items => resolveLevelAny src mode deeper chain acc items
    | none => pure acc
  | .reference name =>
    if chain.any (·.1 == src.key name) then
      throw (.circularReference (chain.map (·.2) ++ [name]))
    else if chain.length < maxReferenceDepth then
      (loadSection src name).bound >>= enterSection src mode deeper chain name
    else throw (.recursionLimitExceeded name maxReferenceDepth)
  | .null => (ResolveM.lift (compileSpec mode .null)).bound
  | .leaf negated kind v => (ResolveM.lift (compileSpec mode (.leaf negated kind v))).bound
  | .other v => (ResolveM.lift (compileSpec mode (.other v))).bound

/-- Resolves specs inside one source in order, folding them with `andOf`. -/
def resolveLevelAll (src : RuleSource) (mode : Mode)
    (deeper : List (String × String) → RuleSpec → BoundedM Predicate)
    (chain : List (String × String)) (acc : Predicate) : List RuleSpec → BoundedM Predicate
  | [] => pure acc
  | s :: rest => do
    let p ← resolveLevel src mode deeper chain s
    resolveLevelAll src mode deeper chain (andOf acc p) rest

/-- Resolves specs inside one source in order, folding them with `orOf`. -/
def resolveLevelAny (src : RuleSource) (mode : Mode)
    (deeper : List (String × String) → RuleSpec → BoundedM Predicate)
    (chain : List (String × String)) (acc : Predicate) : List RuleSpec → BoundedM Predicate
  | [] => pure acc
  | s :: rest => do
    let p ← resolveLevel src mode deeper chain s
    resolveLevelAny src mode deeper chain (orOf acc p) rest

end

/-- Resolution with `fuel` units for entering sources: with none left, entering one gives up. -/
def resolveWithin (src : RuleSource) (mode : Mode) :
    Nat → List (String × String) → RuleSpec → BoundedM Predicate
  | 0 => resolveLevel src mode fun _ _ => BoundedM.giveUp
  | fuel + 1 => resolveLevel src mode (resolveWithin src mode fuel)

/-- Entering a source needs a unit of fuel. -/
example : (resolveWithin (memorySource [("a", ⟨.null, .string "b"⟩)]) .strict 0 []
    (.reference "a") []).run = none := by
  cbv

/-! ## One source at a time -/

section Level

variable {src : RuleSource} {mode : Mode}
  {deeper : List (String × String) → RuleSpec → BoundedM Predicate} {chain : List (String × String)}

/-- The `and` fold of one level is the monadic left fold of `andOf` over the items. -/
theorem resolveLevelAll_eq_foldlM (acc : Predicate) (items : List RuleSpec) :
    resolveLevelAll src mode deeper chain acc items =
      items.foldlM (fun acc s => andOf acc <$> resolveLevel src mode deeper chain s) acc := by
  induction items generalizing acc with
  | nil =>
    rw [resolveLevelAll.eq_1]
    rfl
  | cons s rest ih =>
    rw [resolveLevelAll.eq_2, List.foldlM_cons, map_eq_pure_bind, bind_assoc]
    simp only [pure_bind, ih]

/-- The `or` fold of one level is the monadic left fold of `orOf` over the items. -/
theorem resolveLevelAny_eq_foldlM (acc : Predicate) (items : List RuleSpec) :
    resolveLevelAny src mode deeper chain acc items =
      items.foldlM (fun acc s => orOf acc <$> resolveLevel src mode deeper chain s) acc := by
  induction items generalizing acc with
  | nil =>
    rw [resolveLevelAny.eq_1]
    rfl
  | cons s rest ih =>
    rw [resolveLevelAny.eq_2, List.foldlM_cons, map_eq_pure_bind, bind_assoc]
    simp only [pure_bind, ih]

/-- Inside one source a group is resolved as `resolveSpec` resolves it: its `and` fold from the
identity, then its `or` fold. -/
theorem resolveLevel_group (allOf anyOf : Option (List RuleSpec)) :
    resolveLevel src mode deeper chain (.group allOf anyOf) =
      (allOf.getD []).foldlM (fun acc s => andOf acc <$> resolveLevel src mode deeper chain s)
          .identity >>= fun acc =>
        (anyOf.getD []).foldlM (fun acc s => orOf acc <$> resolveLevel src mode deeper chain s)
          acc := by
  rw [← resolveLevelAll_eq_foldlM]
  simp only [← resolveLevelAny_eq_foldlM]
  cases allOf <;> cases anyOf <;>
    simp only [resolveLevel.eq_1, resolveLevel.eq_2, Option.getD_some, Option.getD_none,
      resolveLevelAll.eq_1, resolveLevelAny.eq_1, pure_bind, bind_pure]

/-- A reference at one level: the cycle check, the depth check, then the section entered one level
down. -/
theorem resolveLevel_reference (name : String) :
    resolveLevel src mode deeper chain (.reference name) =
      if chain.any (·.1 == src.key name) then
        throw (.circularReference (chain.map (·.2) ++ [name]))
      else if chain.length < maxReferenceDepth then
        (loadSection src name).bound >>= enterSection src mode deeper chain name
      else throw (.recursionLimitExceeded name maxReferenceDepth) := by
  rw [resolveLevel.eq_3]

/-- A spec that is neither a group nor a reference is compiled, inside one source as outside. -/
theorem resolveLevel_of_plain {s : RuleSpec} (hs : s.IsPlain) :
    resolveLevel src mode deeper chain s = (ResolveM.lift (compileSpec mode s)).bound := by
  match s, hs with
  | .group allOf anyOf, hs => exact absurd rfl (hs.1 allOf anyOf)
  | .reference name, hs => exact absurd rfl (hs.2 name)
  | .null, _ => rw [resolveLevel.eq_4]
  | .leaf negated kind v, _ => rw [resolveLevel.eq_5]
  | .other v, _ => rw [resolveLevel.eq_6]

/-- Entering a section depends on `deeper` only one source further in. -/
theorem enterSection_congr {deeper' : List (String × String) → RuleSpec → BoundedM Predicate}
    {name : String} (h : ∀ spec, deeper (chain ++ [(src.key name, name)]) spec =
      deeper' (chain ++ [(src.key name, name)]) spec) (s : RuleSection) :
    enterSection src mode deeper chain name s = enterSection src mode deeper' chain name s := by
  unfold enterSection
  split
  · congr 1
    funext spec
    exact h spec
  · rfl
  · rfl

/-- Bounding the section step of `resolveSpec` is entering the section with `resolveSpec`,
bounded, one source further in. -/
theorem bound_sectionStep (name : String) (s : RuleSection) :
    (sectionStep src mode chain name s).bound =
      enterSection src mode (fun c spec => (resolveSpec src mode c spec).bound) chain name s := by
  cases hentry : s.entry with
  | none => simp only [sectionStep, enterSection, hentry, bound_throw]
  | some entry =>
    cases entry with
    | rules v => simp only [sectionStep, enterSection, hentry, bound_bind]
    | rule v => simp only [sectionStep, enterSection, hentry]

end Level

/-- A source that names itself: resolving it enters it once and meets its own key. -/
example : (resolveWithin (memorySource [("a", ⟨.null, .string "a"⟩)]) .strict maxReferenceDepth []
    (.reference "a") []).run = some (.error (.circularReference ["a", "a"])) := by
  cbv

/-! ## Enough fuel -/

section Fuel

variable {src : RuleSource} {mode : Mode}

/-- With fuel or without, a group is resolved item by item inside the current source. -/
theorem resolveWithin_group (fuel : Nat) (chain : List (String × String))
    (allOf anyOf : Option (List RuleSpec)) :
    resolveWithin src mode fuel chain (.group allOf anyOf) =
      (allOf.getD []).foldlM (fun acc s => andOf acc <$> resolveWithin src mode fuel chain s)
          .identity >>= fun acc =>
        (anyOf.getD []).foldlM (fun acc s => orOf acc <$> resolveWithin src mode fuel chain s)
          acc := by
  cases fuel with
  | zero => exact resolveLevel_group allOf anyOf
  | succ fuel => exact resolveLevel_group allOf anyOf

/-- With any fuel, a spec that is neither a group nor a reference resolves as it compiles. -/
theorem resolveWithin_of_plain (fuel : Nat) (chain : List (String × String)) {s : RuleSpec}
    (hs : s.IsPlain) :
    resolveWithin src mode fuel chain s = (ResolveM.lift (compileSpec mode s)).bound := by
  cases fuel with
  | zero => exact resolveLevel_of_plain hs
  | succ fuel => exact resolveLevel_of_plain hs

/-- With a unit of fuel for each source the chain may still enter, the bounded resolver answers as
`resolveSpec` does, and so never gives up. -/
theorem resolveWithin_eq_bound :
    ∀ chain s, ∀ fuel, maxReferenceDepth - chain.length ≤ fuel →
      resolveWithin src mode fuel chain s = (resolveSpec src mode chain s).bound := by
  refine resolution_induction src ?group ?reference ?plain
  case group =>
    intro chain allOf anyOf ihAll ihAny fuel hfuel
    have hAll : ∀ s ∈ allOf.getD [], ∀ acc : Predicate,
        andOf acc <$> resolveWithin src mode fuel chain s =
          andOf acc <$> (resolveSpec src mode chain s).bound := fun s hs acc => by
      rw [ihAll s hs fuel hfuel]
    have hAny : ∀ s ∈ anyOf.getD [], ∀ acc : Predicate,
        orOf acc <$> resolveWithin src mode fuel chain s =
          orOf acc <$> (resolveSpec src mode chain s).bound := fun s hs acc => by
      rw [ihAny s hs fuel hfuel]
    rw [resolveWithin_group, resolveSpec_group, foldlM_congr_mem hAll, foldlM_bound, bound_bind]
    simp only [foldlM_congr_mem hAny, foldlM_bound]
  case reference =>
    intro chain name ih fuel hfuel
    rw [resolveSpec_reference]
    by_cases hcycle : chain.any (·.1 == src.key name) = true
    · -- the cycle check fails before any source is entered
      rw [if_pos hcycle, bound_throw]
      cases fuel <;> rw [resolveWithin, resolveLevel_reference, if_pos hcycle]
    by_cases hdepth : chain.length < maxReferenceDepth
    · -- entering the source costs a unit, and what is left pays for the sources below it
      obtain ⟨fuel, rfl⟩ : ∃ f, fuel = f + 1 := Nat.exists_eq_succ_of_ne_zero (by omega)
      rw [if_neg hcycle, if_pos hdepth, bound_bind, resolveWithin, resolveLevel_reference,
        if_neg hcycle, if_pos hdepth]
      congr 1
      funext s
      rw [bound_sectionStep]
      refine enterSection_congr (fun spec => ?_) s
      refine ih hdepth spec fuel ?_
      rw [List.length_append, List.length_singleton]
      omega
    · -- the depth check fails before any source is entered
      rw [if_neg hcycle, if_neg hdepth, bound_throw]
      cases fuel <;> rw [resolveWithin, resolveLevel_reference, if_neg hcycle, if_neg hdepth]
  case plain =>
    intro chain s hs fuel _
    rw [resolveWithin_of_plain fuel chain hs, resolveSpec_of_plain hs]

end Fuel

/-! ## Main statement -/

/-- **Resolution ends within `maxReferenceDepth` nested sources.** For every source, cyclic or
not, every mode, every spec and every set of loaded sources, resolution from the empty chain
never enters more than `maxReferenceDepth` sources one inside another: with that many units the
bounded resolver does not give up, and it answers as `resolveSpec` does. -/
theorem resolve_within_depth (src : RuleSource) (mode : Mode) (s : RuleSpec) (σ : Loaded) :
    (resolveWithin src mode maxReferenceDepth [] s σ).run = some (resolveSpec src mode [] s σ) := by
  have hfuel : maxReferenceDepth - ([] : List (String × String)).length ≤ maxReferenceDepth :=
    Nat.sub_le _ _
  rw [resolveWithin_eq_bound [] s maxReferenceDepth hfuel]
  rfl

end PostRules
