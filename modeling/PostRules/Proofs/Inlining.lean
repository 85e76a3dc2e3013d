import Mathlib.Data.List.Forall2
import PostRules.Proofs.Resolution

/-!
# Resolution refines compilation

Resolving a `Rules` value follows the references in it; compiling it does not. The two are
related by inlining: `Inlines src s t` says that `t` is `s` with every reference reachable
through its groups, or standing at its top, replaced by what the source gives for it. A source
whose entry is `Rules` is replaced by the inlining of its spec; one whose entry is `Rule` by its
spec as written, whose references are not followed. Inlining is a relation rather than a
function because it may not exist: a cycle of `Rules`, or a load that fails, has no inlining.

The main statement, `resolve_refines_compile`, says three things for every source whose
successful loads agree on names of one key, and every mode:

* when resolution succeeds, the spec has an inlining, and every inlining compiles to the very
  same predicate (the same canonical text, the same answer on every post);
* a spec with no reference resolves exactly as it compiles, success or the same error;
* so a section answers the same whether such a value is written under `Rules` or under `Rule`.

The first part is proved along the recursion of resolution, with the loaded sources kept to what
the source gives (`LoadedFrom`), so that a section served from them is the source's own.
-/

namespace PostRules

open Yaml

/-- `Inlines src s t`: `t` is `s` with each reference reachable through its groups, or at its
top, replaced: by the inlining of the source's `Rules`, or by the source's `Rule` as written. -/
inductive Inlines (src : RuleSource) : RuleSpec → RuleSpec → Prop
  | plain {s : RuleSpec} : s.IsPlain → Inlines src s s
  | group {allOf allOf' anyOf anyOf' : Option (List RuleSpec)} :
      Option.Rel (List.Forall₂ (Inlines src)) allOf allOf' →
      Option.Rel (List.Forall₂ (Inlines src)) anyOf anyOf' →
      Inlines src (.group allOf anyOf) (.group allOf' anyOf')
  | rules {name : String} {sec : RuleSection} {v : Value} {spec t : RuleSpec} :
      src.load name = .ok sec → sec.entry = some (.rules v) → RuleSpec.ofValue v = .ok spec →
      Inlines src spec t → Inlines src (.reference name) t
  | rule {name : String} {sec : RuleSection} {v : Value} {spec : RuleSpec} :
      src.load name = .ok sec → sec.entry = some (.rule v) → RuleSpec.ofValue v = .ok spec →
      Inlines src (.reference name) spec

variable {src : RuleSource} {mode : Mode}

/-! ## Optional lists of items -/

section Items

variable {R : RuleSpec → RuleSpec → Prop}

/-- Items related one by one give an optional list related to the given one. -/
theorem exists_optionRel_of_forall₂ {items : Option (List RuleSpec)} {ts : List RuleSpec}
    (h : List.Forall₂ R (items.getD []) ts) :
    ∃ items', Option.Rel (List.Forall₂ R) items items' ∧ items'.getD [] = ts := by
  cases items with
  | none =>
    rw [Option.getD_none, List.forall₂_nil_left_iff] at h
    exact ⟨none, .none, h.symm⟩
  | some l => exact ⟨some ts, .some h, rfl⟩

/-- Related optional lists have their items related one by one. -/
theorem forall₂_getD_of_optionRel {items items' : Option (List RuleSpec)}
    (h : Option.Rel (List.Forall₂ R) items items') :
    List.Forall₂ R (items.getD []) (items'.getD []) := by
  cases h with
  | none => exact .nil
  | some h => exact h

end Items

/-! ## Folds over inlined items -/

/-- What resolution of one spec gives, on the chain `chain`: from loaded sources taken from the
source, a successful run has an inlining, and each inlining compiles to the run's predicate. -/
def ResolvesAsInlined (src : RuleSource) (mode : Mode) (chain : List (String × String))
    (s : RuleSpec) : Prop :=
  ∀ {σ σ' : Loaded} {p : Predicate}, LoadedFrom src σ →
    resolveSpec src mode chain s σ = .ok (p, σ') →
      (∃ t, Inlines src s t) ∧ ∀ t, Inlines src s t → compileSpec mode t = .ok p

/-- A fold of resolved items that succeeded has inlinings of all items, and the compiler's fold
over any inlinings gives the same predicate, when each item resolves as inlined. -/
theorem foldlM_resolvesAsInlined {chain : List (String × String)}
    {c : Predicate → Predicate → Predicate} {items : List RuleSpec}
    (ih : ∀ s ∈ items, ResolvesAsInlined src mode chain s) :
    ∀ {acc p : Predicate} {σ σ' : Loaded}, LoadedFrom src σ →
      items.foldlM (fun acc s => c acc <$> resolveSpec src mode chain s) acc σ = .ok (p, σ') →
      (∃ ts, List.Forall₂ (Inlines src) items ts) ∧
        ∀ ts, List.Forall₂ (Inlines src) items ts →
          ts.foldlM (fun acc t => c acc <$> compileSpec mode t) acc = .ok p := by
  induction items with
  | nil =>
    intro acc p σ σ' _ h
    cases h
    refine ⟨⟨[], .nil⟩, fun ts hts => ?_⟩
    rw [List.forall₂_nil_left_iff.mp hts]
    rfl
  | cons s rest ihRest =>
    intro acc p σ σ' hσ h
    rw [List.foldlM_cons, resolveM_bind_eq_ok] at h
    obtain ⟨acc₁, σ₁, hs, hrest⟩ := h
    obtain ⟨q, hq, rfl⟩ := resolveM_map_eq_ok.mp hs
    have hσ₁ : LoadedFrom src σ₁ := resolveSpec_loadedFrom chain s hσ hq
    obtain ⟨⟨t, ht⟩, hcompile⟩ := ih s List.mem_cons_self hσ hq
    obtain ⟨⟨ts, hts⟩, hfold⟩ :=
      ihRest (fun t ht => ih t (List.mem_cons_of_mem s ht)) hσ₁ hrest
    refine ⟨⟨t :: ts, .cons ht hts⟩, fun ts' hts' => ?_⟩
    cases hts' with
    | cons ht' hts' =>
      rw [List.foldlM_cons, except_bind_eq_ok]
      exact ⟨c acc q, by rw [hcompile _ ht']; rfl, hfold _ hts'⟩

/-! ## Every spec resolves as inlined -/

/-- A plain spec has only itself as inlining. -/
theorem Inlines.eq_of_isPlain {s t : RuleSpec} (hs : s.IsPlain) (h : Inlines src s t) : t = s := by
  cases h with
  | plain _ => rfl
  | group _ _ => exact absurd rfl (hs.1 _ _)
  | rules _ _ _ _ => exact absurd rfl (hs.2 _)
  | rule _ _ _ => exact absurd rfl (hs.2 _)

/-- **Successful resolution is compilation of the inlined spec**, on every chain, under a source
whose successful loads agree on names of one key. -/
theorem resolvesAsInlined (hsrc : src.LoadsByKey) :
    ∀ chain s, ResolvesAsInlined src mode chain s := by
  refine resolution_induction src ?group ?reference ?plain
  case group =>
    intro chain allOf anyOf ihAll ihAny σ σ' p hσ h
    rw [resolveSpec_group, resolveM_bind_eq_ok] at h
    obtain ⟨acc, σ₁, hall, hany⟩ := h
    have hσ₁ : LoadedFrom src σ₁ :=
      (foldlM_run_ok (fun s _ _ _ _ hσ₂ hrun => resolveSpec_loadedFrom chain s hσ₂ hrun)
        hσ hall).1
    obtain ⟨⟨tsAll, htsAll⟩, hfoldAll⟩ := foldlM_resolvesAsInlined ihAll hσ hall
    obtain ⟨⟨tsAny, htsAny⟩, hfoldAny⟩ := foldlM_resolvesAsInlined ihAny hσ₁ hany
    obtain ⟨allOf', hrelAll, -⟩ := exists_optionRel_of_forall₂ htsAll
    obtain ⟨anyOf', hrelAny, -⟩ := exists_optionRel_of_forall₂ htsAny
    refine ⟨⟨.group allOf' anyOf', .group hrelAll hrelAny⟩, fun t ht => ?_⟩
    cases ht with
    | plain hplain => exact absurd rfl (hplain.1 allOf anyOf)
    | group hrelAll' hrelAny' =>
      rw [compileSpec_group, except_bind_eq_ok]
      exact ⟨acc, hfoldAll _ (forall₂_getD_of_optionRel hrelAll'),
        hfoldAny _ (forall₂_getD_of_optionRel hrelAny')⟩
  case reference =>
    intro chain name ih σ σ' p hσ h
    obtain ⟨-, hdepth, sec, σ₁, hload, hstep⟩ := resolveSpec_reference_eq_ok h
    -- the section served, from the loaded sources or freshly, is the one the source gives
    have hsec : src.load name = .ok sec := hσ.load_eq hsrc hload
    have hσ₁ : LoadedFrom src σ₁ := hσ.of_loadSection hload
    rcases sectionStep_eq_ok hstep with
      ⟨v, spec, hentry, hspec, hrun⟩ | ⟨v, spec, hentry, hspec, hcomp, -⟩
    · obtain ⟨⟨t, ht⟩, hcompile⟩ := ih hdepth spec hσ₁ hrun
      refine ⟨⟨t, .rules hsec hentry hspec ht⟩, fun t' ht' => ?_⟩
      cases ht' with
      | plain hplain => exact absurd rfl (hplain.2 name)
      | @rules _ sec' v' spec' _ hsec' hentry' hspec' ht' =>
        obtain rfl : sec' = sec := Except.ok.inj (hsec'.symm.trans hsec)
        obtain rfl : v' = v := (RuleEntry.rules.inj (Option.some.inj (hentry'.symm.trans hentry)))
        obtain rfl : spec' = spec := Except.ok.inj (hspec'.symm.trans hspec)
        exact hcompile _ ht'
      | @rule _ sec' v' spec' hsec' hentry' _ =>
        obtain rfl : sec' = sec := Except.ok.inj (hsec'.symm.trans hsec)
        exact absurd (hentry'.symm.trans hentry) (by simp)
    · refine ⟨⟨spec, .rule hsec hentry hspec⟩, fun t' ht' => ?_⟩
      cases ht' with
      | plain hplain => exact absurd rfl (hplain.2 name)
      | @rules _ sec' v' spec' _ hsec' hentry' _ _ =>
        obtain rfl : sec' = sec := Except.ok.inj (hsec'.symm.trans hsec)
        exact absurd (hentry'.symm.trans hentry) (by simp)
      | @rule _ sec' v' _ hsec' hentry' hspec' =>
        obtain rfl : sec' = sec := Except.ok.inj (hsec'.symm.trans hsec)
        obtain rfl : v' = v := (RuleEntry.rule.inj (Option.some.inj (hentry'.symm.trans hentry)))
        obtain rfl := Except.ok.inj (hspec'.symm.trans hspec)
        exact hcomp
  case plain =>
    intro chain s hs σ σ' p hσ h
    rw [resolveSpec_of_plain hs, lift_run_eq_ok] at h
    refine ⟨⟨s, .plain hs⟩, fun t ht => ?_⟩
    rw [Inlines.eq_of_isPlain hs ht]
    exact h.1

/-! ## Sections written under `Rules` or under `Rule` -/

/-- A value that is null under its tags reads as the empty rule. -/
theorem ofValue_of_untag_isNull : ∀ {v : Value}, v.untag.isNull = true →
    RuleSpec.ofValue v = .ok .null
  | .null, _ => rfl
  | .tagged _ v, h => by
    rw [RuleSpec.ofValue]
    exact ofValue_of_untag_isNull h
  | .bool _, h | .number _, h | .string _, h | .sequence _, h | .mapping _, h => by
    cases h

/-- Lifting a step into resolution and running it from any state gives the step's answer. -/
theorem lift_run' {α : Type} (x : Except CompileError α) (σ : Loaded) :
    (ResolveM.lift x).run' σ = x := by
  cases x <;> rfl

/-- Written under `Rules`, a value is the section's rule unless it is blank. -/
theorem entry_of_rules (v : Value) :
    RuleSection.entry ⟨.null, v⟩ = if v.isBlank then none else some (.rules v) := by
  cases h : v.isBlank <;> simp [RuleSection.entry, h, Value.untag, Value.isNull]

/-- Written under `Rule`, a value is the section's rule unless it is null under its tags. -/
theorem entry_of_rule (v : Value) :
    RuleSection.entry ⟨v, .null⟩ = if v.untag.isNull then none else some (.rule v) := by
  cases h : v.untag.isNull <;> simp [RuleSection.entry, h, Value.isBlank]

/-- A value whose spec names no source compiles the same under `Rules`, where references would be
followed, as under `Rule`, where they are not. Blank values under `Rules` are no rule at all;
under `Rule` they read as a spec that compiles to the identity too. -/
theorem compileSection_rules_eq_rule (v : Value)
    (hfree : ∀ s, RuleSpec.ofValue v = .ok s → s.ReferenceFree) :
    compileSection ⟨.null, v⟩ mode src = compileSection ⟨v, .null⟩ mode src := by
  -- on a spec without references, resolution from nothing loaded is compilation
  have hbind : (RuleSpec.ofValue v >>= fun spec => (resolveSpec src mode [] spec).run' []) =
      (RuleSpec.ofValue v >>= compileSpec mode) := by
    cases hv : RuleSpec.ofValue v with
    | error e => rfl
    | ok s =>
      show (resolveSpec src mode [] s).run' [] = compileSpec mode s
      rw [resolveSpec_of_referenceFree [] s (hfree s hv), lift_run']
  simp only [compileSection, entry_of_rules, entry_of_rule]
  cases hblank : v.isBlank <;> cases hnull : v.untag.isNull
  · -- both sections hold the value
    simp only [Bool.false_eq_true, if_false]
    rw [← bind_assoc, hbind, bind_assoc]
  · -- a value that is null under its tags: the empty rule either way
    simp only [Bool.false_eq_true, if_false, if_true]
    rw [← bind_assoc, hbind, ofValue_of_untag_isNull hnull]
    rfl
  · -- a blank value that is not null: the empty string, list or mapping
    simp only [Bool.false_eq_true, if_false, if_true]
    cases v with
    | string name =>
      exact absurd (.top name) (hfree (.reference name) rfl name)
    | sequence items =>
      simp only [Value.isBlank, List.isEmpty_iff] at hblank
      subst hblank
      rfl
    | mapping es =>
      simp only [Value.isBlank, List.isEmpty_iff] at hblank
      subst hblank
      rfl
    | null | bool _ | number _ | tagged _ _ => simp [Value.isBlank, Value.untag, Value.isNull] at *
  · -- blank and null: no rule either way
    simp only [if_true]

/-! ## Main statement -/

/-- **Resolution refines compilation.** Under a source whose successful loads agree on names of
one key, in either mode: a resolution that succeeds has an inlining of its spec, and every
inlining compiles to the very predicate resolution gave; a spec without references resolves
exactly as it compiles, success or the same error; and a value whose spec has no references
compiles the same written under `Rules` as under `Rule`. -/
theorem resolve_refines_compile {src : RuleSource} (hsrc : src.LoadsByKey) (mode : Mode) :
    (∀ s p, (resolveSpec src mode [] s).run' [] = .ok p →
      (∃ t, Inlines src s t) ∧ ∀ t, Inlines src s t → compileSpec mode t = .ok p) ∧
    (∀ s, s.ReferenceFree → (resolveSpec src mode [] s).run' [] = compileSpec mode s) ∧
    (∀ v, (∀ s, RuleSpec.ofValue v = .ok s → s.ReferenceFree) →
      compileSection ⟨.null, v⟩ mode src = compileSection ⟨v, .null⟩ mode src) := by
  refine ⟨fun s p h => ?_, fun s hfree => ?_, fun v hfree => compileSection_rules_eq_rule v hfree⟩
  · obtain ⟨σ', hrun⟩ := resolveM_run'_eq_ok.mp h
    exact resolvesAsInlined hsrc [] s loadedFrom_nil hrun
  · rw [resolveSpec_of_referenceFree [] s hfree, lift_run']

/-- Two sources in memory: the `Rules` of `outer` joins a reference to `inner` with a keyword
leaf, and the `Rule` of `inner` is a disjunction of the bare string `elsewhere`, which a `Rule`
does not follow, and a language leaf. -/
def nestedSources : RuleSource :=
  memorySource
    [("outer", ⟨.null, .mapping [(.string "and", .sequence [.string "inner",
        .mapping [(.string "type", .string "keyword"), (.string "value", .string "rust")]])]⟩),
     ("inner", ⟨.mapping [(.string "or", .sequence [.string "elsewhere",
        .mapping [(.string "type", .string "lang"), (.string "value", .string "ja")]])], .null⟩)]

/-- Resolving a reference to `outer` follows it through the `Rules` of `outer` into the `Rule` of
`inner`, and gives the conjunction of the language and keyword leaves; every inlining of the
reference compiles to that same predicate. -/
theorem resolve_refines_compile_in_memory :
    nestedSources.LoadsByKey ∧
    (resolveSpec nestedSources .strict [] (.reference "outer")).run' [] =
      .ok (.and (.leaf (.lang (some "ja"))) (.leaf (.keyword "rust"))) ∧
    (∃ t, Inlines nestedSources (.reference "outer") t) ∧
      ∀ t, Inlines nestedSources (.reference "outer") t →
        compileSpec .strict t =
          .ok (.and (.leaf (.lang (some "ja"))) (.leaf (.keyword "rust"))) := by
  have hsrc : nestedSources.LoadsByKey := memorySource_loadsByKey _
  have hrun : (resolveSpec nestedSources .strict [] (.reference "outer")).run' [] =
      .ok (.and (.leaf (.lang (some "ja"))) (.leaf (.keyword "rust"))) := by
    cbv
  exact ⟨hsrc, hrun, (resolve_refines_compile hsrc .strict).1 _ _ hrun⟩

end PostRules
