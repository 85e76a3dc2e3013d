import PostRules.Proofs.Resolution

/-!
# The loaded sources are only a cache

Resolution keeps the sections it loaded, by key, and serves a later reference to a name of the
same key from them instead of loading the name again; a section is kept only once its load
succeeded. The key decides which names share a section, while the load and its errors use the
name as written.

`resolveUncached` is resolution without that cache: every reference loads its name from the
source. The main statement, `resolve_cache_transparent`, says that the two give the same answer,
the same predicate or the same error, for every spec and mode, under a source whose successful
loads agree on names of one key (`RuleSource.LoadsByKey`); sources held in memory and sources
of files are such sources.

The proof runs along resolution with the invariant that the loaded sources hold only what the
source gave for a name of the same key (`LoadedFrom`). Under it a section served from the cache
is what a fresh load of the name gives (`loadSection_run'`), and a name whose load fails has no
section in the cache, so the failure is met again.
-/

namespace PostRules

open Yaml

/-! ## Resolution without a cache -/

mutual

/-- Resolution that loads a source at every reference to it and keeps nothing between
references; the chain is checked as `resolveSpec` checks it. -/
def resolveUncached (src : RuleSource) (mode : Mode) (chain : List (String × String)) :
    RuleSpec → Except CompileError Predicate
  | .group allOf anyOf => do
    let acc ← match _hAll : allOf with
      | some items => resolveUncachedAll src mode chain .identity items
      | none => pure .identity
    match _hAny : anyOf with
    | some items => resolveUncachedAny src mode chain acc items
    | none => pure acc
  | .reference name => do
    let key := src.key name
    if chain.any (·.1 == key) then
      throw (.circularReference (chain.map (·.2) ++ [name]))
    if _hDepth : chain.length < maxReferenceDepth then
      let s ← src.load name
      match s.entry with
      | some (.rules v) =>
        let spec ← RuleSpec.ofValue v
        resolveUncached src mode (chain ++ [(key, name)]) spec
      | some (.rule v) => do
        let spec ← RuleSpec.ofValue v
        compileSpec mode spec
      | none => throw (.missingRule name)
    else throw (.recursionLimitExceeded name maxReferenceDepth)
  | spec => compileSpec mode spec
termination_by spec => (maxReferenceDepth - chain.length, sizeOf spec)
decreasing_by
  all_goals first
    | (apply Prod.Lex.left; simp only [List.length_append, List.length_singleton]; omega)
    | (apply Prod.Lex.right; subst_vars
       simp only [RuleSpec.group.sizeOf_spec, Option.some.sizeOf_spec]; omega)

/-- Resolves specs in order without a cache, folding them with `andOf`. -/
def resolveUncachedAll (src : RuleSource) (mode : Mode) (chain : List (String × String))
    (acc : Predicate) : List RuleSpec → Except CompileError Predicate
  | [] => pure acc
  | s :: rest => do
    let p ← resolveUncached src mode chain s
    resolveUncachedAll src mode chain (andOf acc p) rest
termination_by items => (maxReferenceDepth - chain.length, sizeOf items)
decreasing_by
  all_goals (apply Prod.Lex.right; simp only [List.cons.sizeOf_spec]; omega)

/-- Resolves specs in order without a cache, folding them with `orOf`. -/
def resolveUncachedAny (src : RuleSource) (mode : Mode) (chain : List (String × String))
    (acc : Predicate) : List RuleSpec → Except CompileError Predicate
  | [] => pure acc
  | s :: rest => do
    let p ← resolveUncached src mode chain s
    resolveUncachedAny src mode chain (orOf acc p) rest
termination_by items => (maxReferenceDepth - chain.length, sizeOf items)
decreasing_by
  all_goals (apply Prod.Lex.right; simp only [List.cons.sizeOf_spec]; omega)

end

/-- What a freshly loaded section resolves to without a cache: its `Rules` one source deeper, its
`Rule` compiled alone, and an error when it has neither. -/
def uncachedSection (src : RuleSource) (mode : Mode) (chain : List (String × String))
    (name : String) (s : RuleSection) : Except CompileError Predicate :=
  match s.entry with
  | some (.rules v) =>
    RuleSpec.ofValue v >>= resolveUncached src mode (chain ++ [(src.key name, name)])
  | some (.rule v) => RuleSpec.ofValue v >>= compileSpec mode
  | none => throw (.missingRule name)

section Uncached

variable {src : RuleSource} {mode : Mode} {chain : List (String × String)}

/-- The uncached `and` fold is the monadic left fold of `andOf` over the items' resolutions. -/
theorem resolveUncachedAll_eq_foldlM (acc : Predicate) (items : List RuleSpec) :
    resolveUncachedAll src mode chain acc items =
      items.foldlM (fun acc s => andOf acc <$> resolveUncached src mode chain s) acc := by
  induction items generalizing acc with
  | nil =>
    rw [resolveUncachedAll.eq_1]
    rfl
  | cons s rest ih =>
    rw [resolveUncachedAll.eq_2, List.foldlM_cons, map_eq_pure_bind, bind_assoc]
    simp only [pure_bind, ih]

/-- The uncached `or` fold is the monadic left fold of `orOf` over the items' resolutions. -/
theorem resolveUncachedAny_eq_foldlM (acc : Predicate) (items : List RuleSpec) :
    resolveUncachedAny src mode chain acc items =
      items.foldlM (fun acc s => orOf acc <$> resolveUncached src mode chain s) acc := by
  induction items generalizing acc with
  | nil =>
    rw [resolveUncachedAny.eq_1]
    rfl
  | cons s rest ih =>
    rw [resolveUncachedAny.eq_2, List.foldlM_cons, map_eq_pure_bind, bind_assoc]
    simp only [pure_bind, ih]

/-- Without a cache a group is resolved as with one: its `and` fold from the identity, then its
`or` fold. -/
theorem resolveUncached_group (allOf anyOf : Option (List RuleSpec)) :
    resolveUncached src mode chain (.group allOf anyOf) =
      (allOf.getD []).foldlM (fun acc s => andOf acc <$> resolveUncached src mode chain s)
          .identity >>= fun acc =>
        (anyOf.getD []).foldlM (fun acc s => orOf acc <$> resolveUncached src mode chain s)
          acc := by
  rw [← resolveUncachedAll_eq_foldlM]
  simp only [← resolveUncachedAny_eq_foldlM]
  cases allOf <;> cases anyOf <;>
    simp only [resolveUncached.eq_1, resolveUncached.eq_2, Option.getD_some, Option.getD_none,
      resolveUncachedAll.eq_1, resolveUncachedAny.eq_1, pure_bind, bind_pure]

/-- Without a cache a reference is checked as with one, and its name loaded every time. -/
theorem resolveUncached_reference (name : String) :
    resolveUncached src mode chain (.reference name) =
      if chain.any (·.1 == src.key name) then
        throw (.circularReference (chain.map (·.2) ++ [name]))
      else if chain.length < maxReferenceDepth then
        src.load name >>= uncachedSection src mode chain name
      else throw (.recursionLimitExceeded name maxReferenceDepth) := by
  rw [resolveUncached.eq_3]
  split
  · rfl
  · simp only [dite_eq_ite]
    rfl

/-- A spec that is neither a group nor a reference resolves without the cache as it compiles. -/
theorem resolveUncached_of_plain {s : RuleSpec} (hs : s.IsPlain) :
    resolveUncached src mode chain s = compileSpec mode s :=
  resolveUncached.eq_4 src mode chain s (fun a o h => hs.1 a o h) (fun n h => hs.2 n h)

end Uncached

/-! ## Forgetting the loaded sources -/

section Forget

variable {α β : Type}

/-- A chain of resolution steps run from `σ`, with the loaded sources forgotten, is the chain of
the steps run so, as long as each forgets to the same step wherever it is reached. -/
theorem run'_bind {x : ResolveM α} {f : α → ResolveM β} {σ : Loaded}
    {x' : Except CompileError α} {f' : α → Except CompileError β} (hx : x.run' σ = x')
    (hf : ∀ a σ₁, x σ = .ok (a, σ₁) → (f a).run' σ₁ = f' a) :
    (x >>= f).run' σ = x' >>= f' := by
  subst hx
  show Prod.fst <$> (x σ >>= fun r => f r.1 r.2) = (Prod.fst <$> x σ) >>= f'
  cases hxσ : x σ with
  | error e => rfl
  | ok r =>
    obtain ⟨a, σ₁⟩ := r
    exact hf a σ₁ hxσ

/-- Dropping the final state of a mapped step maps the value the step gives. -/
theorem run'_map {x : ResolveM α} (f : α → β) (σ : Loaded) :
    (f <$> x).run' σ = f <$> x.run' σ := by
  show Prod.fst <$> (f <$> x) σ = f <$> (Prod.fst <$> x σ)
  rw [map_eq_pure_bind]
  show Prod.fst <$> (x σ >>= fun r => .ok (f r.1, r.2)) = _
  cases x σ <;> rfl

variable {src : RuleSource}

/-- A fold of resolution steps forgets to the fold of the forgotten steps, from loaded sources
the source gave, when each step forgets so and keeps the loaded sources the source's own. -/
theorem foldlM_run' {run : RuleSpec → ResolveM Predicate}
    {run' : RuleSpec → Except CompileError Predicate} {c : Predicate → Predicate → Predicate}
    {items : List RuleSpec}
    (hkeep : ∀ s ∈ items, ∀ σ q σ', LoadedFrom src σ → run s σ = .ok (q, σ') →
      LoadedFrom src σ')
    (h : ∀ s ∈ items, ∀ σ, LoadedFrom src σ → (run s).run' σ = run' s) :
    ∀ acc σ, LoadedFrom src σ →
      (items.foldlM (fun acc s => c acc <$> run s) acc).run' σ =
        items.foldlM (fun acc s => c acc <$> run' s) acc := by
  induction items with
  | nil =>
    intro acc σ _
    rfl
  | cons s rest ih =>
    intro acc σ hσ
    simp only [List.foldlM_cons]
    refine run'_bind ?_ fun acc₁ σ₁ h₁ => ?_
    · rw [run'_map, h s List.mem_cons_self σ hσ]
    · obtain ⟨q, hq, -⟩ := resolveM_map_eq_ok.mp h₁
      have hσ₁ : LoadedFrom src σ₁ := hkeep s List.mem_cons_self σ q σ₁ hσ hq
      exact ih (fun t ht => hkeep t (List.mem_cons_of_mem s ht))
        (fun t ht => h t (List.mem_cons_of_mem s ht)) acc₁ σ₁ hσ₁

end Forget

/-! ## The cache serves what a load gives -/

section Served

variable {src : RuleSource} {mode : Mode}

/-- Under a source whose loads agree on names of one key, serving a section from loaded sources
the source gave answers as loading its name afresh: the same section, or the same error. -/
theorem loadSection_run' (hsrc : src.LoadsByKey) {σ : Loaded} (hσ : LoadedFrom src σ)
    (name : String) : (loadSection src name).run' σ = src.load name := by
  show Prod.fst <$> loadSection src name σ = _
  cases h : loadSection src name σ with
  | ok r =>
    obtain ⟨s, σ₁⟩ := r
    rw [hσ.load_eq hsrc h]
    rfl
  | error e =>
    rw [(loadSection_eq_error.mp h).2]
    rfl

/-- A section resolves with the cache as without, when its `Rules` does one source deeper. -/
theorem sectionStep_run' {chain : List (String × String)} {name : String}
    (ih : ∀ spec σ, LoadedFrom src σ →
      (resolveSpec src mode (chain ++ [(src.key name, name)]) spec).run' σ =
        resolveUncached src mode (chain ++ [(src.key name, name)]) spec)
    {σ : Loaded} (hσ : LoadedFrom src σ) (s : RuleSection) :
    (sectionStep src mode chain name s).run' σ = uncachedSection src mode chain name s := by
  cases hentry : s.entry with
  | none =>
    simp only [sectionStep, uncachedSection, hentry]
    rfl
  | some entry =>
    cases entry with
    | rules v =>
      simp only [sectionStep, uncachedSection, hentry]
      refine run'_bind ?_ fun spec σ₁ h => ?_
      · cases RuleSpec.ofValue v <;> rfl
      · obtain ⟨-, hσ₁⟩ := lift_run_eq_ok.mp h
        rw [hσ₁]
        exact ih spec σ hσ
    | rule v =>
      simp only [sectionStep, uncachedSection, hentry]
      cases RuleSpec.ofValue v >>= compileSpec mode <;> rfl

/-- **Resolution with the cache is resolution without it**, from any loaded sources the source
gave, under a source whose loads agree on names of one key. -/
theorem resolveSpec_run'_eq_uncached (hsrc : src.LoadsByKey) :
    ∀ chain s σ, LoadedFrom src σ →
      (resolveSpec src mode chain s).run' σ = resolveUncached src mode chain s := by
  have hkeep : ∀ chain s σ q σ', LoadedFrom src σ →
      resolveSpec src mode chain s σ = .ok (q, σ') → LoadedFrom src σ' :=
    fun chain s _ _ _ hσ h => resolveSpec_loadedFrom chain s hσ h
  refine resolution_induction src ?group ?reference ?plain
  case group =>
    intro chain allOf anyOf ihAll ihAny σ hσ
    rw [resolveSpec_group, resolveUncached_group]
    refine run'_bind (foldlM_run' (fun s _ => hkeep chain s) ihAll .identity σ hσ)
      fun acc σ₁ h₁ => ?_
    have hσ₁ : LoadedFrom src σ₁ := (foldlM_run_ok (fun s _ => hkeep chain s) hσ h₁).1
    exact foldlM_run' (fun s _ => hkeep chain s) ihAny acc σ₁ hσ₁
  case reference =>
    intro chain name ih σ hσ
    rw [resolveSpec_reference, resolveUncached_reference]
    by_cases hcycle : chain.any (·.1 == src.key name) = true
    · simp only [if_pos hcycle]
      rfl
    simp only [if_neg hcycle]
    by_cases hdepth : chain.length < maxReferenceDepth
    · simp only [if_pos hdepth]
      refine run'_bind (loadSection_run' hsrc hσ name) fun s σ₁ hload => ?_
      exact sectionStep_run' (ih hdepth) (hσ.of_loadSection hload) s
    · simp only [if_neg hdepth]
      rfl
  case plain =>
    intro chain s hs σ _
    rw [resolveSpec_of_plain hs, resolveUncached_of_plain hs]
    cases compileSpec mode s <;> rfl

end Served

/-! ## Main statement -/

/-- Files are loaded by path, and their sections read without regard to the name: names of one
path load alike. -/
theorem fileSource_loadsByKey (tree : Files.FileTree) (base : String) :
    (fileSource tree base).LoadsByKey := by
  intro n₁ n₂ s hkey hload
  rw [fileSource_load] at hload ⊢
  have hpath : (Files.resolve base n₁).render = (Files.resolve base n₂).render := hkey
  rw [← hpath]
  split at hload
  · unfold parseSource at hload ⊢
    split at hload
    · exact hload
    · cases hload
  · cases hload

/-- **The cache is transparent.** Sources in memory, keyed by name, and sources of files, keyed
by normalised path, load names of one key alike. Under any source that does, resolution, which
serves repeated references from the sections it loaded, gives the same answer as resolution
that loads every reference afresh: the same predicate, or the same error. -/
theorem resolve_cache_transparent :
    (∀ entries, (memorySource entries).LoadsByKey) ∧
    (∀ tree base, (fileSource tree base).LoadsByKey) ∧
    ∀ src : RuleSource, src.LoadsByKey → ∀ mode s,
      (resolveSpec src mode [] s).run' [] = resolveUncached src mode [] s :=
  ⟨memorySource_loadsByKey, fileSource_loadsByKey,
    fun _ hsrc _ s => resolveSpec_run'_eq_uncached hsrc [] s [] loadedFrom_nil⟩

/-- A name referenced twice is loaded once with the cache and twice without; both give the
conjunction of its rule with itself. -/
theorem resolve_cache_transparent_repeated_reference :
    (memorySource [("en.yml", ⟨.mapping [(.string "type", .string "lang"),
      (.string "value", .string "en")], .null⟩)]).LoadsByKey ∧
    (resolveSpec (memorySource [("en.yml", ⟨.mapping [(.string "type", .string "lang"),
        (.string "value", .string "en")], .null⟩)])
      .strict [] (.group (some [.reference "en.yml", .reference "en.yml"]) none)).run' [] =
    resolveUncached (memorySource [("en.yml", ⟨.mapping [(.string "type", .string "lang"),
        (.string "value", .string "en")], .null⟩)])
      .strict [] (.group (some [.reference "en.yml", .reference "en.yml"]) none) ∧
    resolveUncached (memorySource [("en.yml", ⟨.mapping [(.string "type", .string "lang"),
        (.string "value", .string "en")], .null⟩)])
      .strict [] (.group (some [.reference "en.yml", .reference "en.yml"]) none) =
      .ok (.and (.leaf (.lang (some "en"))) (.leaf (.lang (some "en")))) := by
  have hsrc := resolve_cache_transparent.1 [("en.yml",
    ⟨.mapping [(.string "type", .string "lang"), (.string "value", .string "en")], .null⟩)]
  refine ⟨hsrc, resolve_cache_transparent.2.2 _ hsrc .strict _, ?_⟩
  cbv

end PostRules
