import PostRules.Proofs.Outcomes
import PostRules.Proofs.Resolution

/-!
# Strict and permissive compilation

The mode decides one thing only: what a leaf of an unknown kind becomes. Strict compilation
refuses it with `unknownLeafType`, permissive compilation reads it as the identity. Everything
else, reading a rule, building the leaves of known kinds, folding groups and loading sources, is
the same step in both modes.

`ModeAgree passed x y` says how a permissive run `y` answers against the strict run `x` of the
same rule: with the same value where `x` succeeds, with the same error where `x` fails on
anything but an unknown leaf kind, and with an unknown leaf kind only by an error of `passed`,
the errors passed on from outside. The relation is carried through every step, so it holds of
compilation, of resolution from any loaded sources, and of a whole section. An unknown leaf
before a genuine error stops the strict run there and lets the permissive run go on to that
error: such a strict error is the one the relation says nothing about.

The main statement, `strict_and_permissive_agree`, draws the consequences for a rule value and
for a section with its source. The errors passed on from outside are the source's own load
errors: a source is free to fail with any error, and resolution passes it on unchanged.
-/

namespace PostRules

open Yaml

/-- Whether an error is the refusal of a leaf of an unknown kind. -/
def CompileError.isUnknownLeafType : CompileError → Bool
  | .unknownLeafType _ _ => true
  | _ => false

/-- An error about a leaf's value is never the refusal of its kind. -/
theorem CompileError.isUnknownLeafType_of_isValueError {e : CompileError}
    (h : e.isValueError = true) : e.isUnknownLeafType = false := by
  cases e <;> first | rfl | cases h

/-- A malformed group is never the refusal of a leaf kind. -/
theorem CompileError.isUnknownLeafType_of_isMalformedGroup {e : CompileError}
    (h : e.isMalformedGroup = true) : e.isUnknownLeafType = false := by
  cases e <;> first | rfl | cases h

/-- The errors the loads of a source fail with. -/
def RuleSource.LoadError (src : RuleSource) (e : CompileError) : Prop :=
  ∃ name, src.load name = .error e

/-! ## The relation between the two runs -/

/-- How a permissive run `y` answers against the strict run `x` of the same rule; an unknown
leaf kind in `y` is an error of `passed`, passed on from outside. -/
structure ModeAgree {α : Type} (passed : CompileError → Prop) (x y : Except CompileError α) :
    Prop where
  /-- Where the strict run succeeds, the permissive run gives the same value. -/
  ok : ∀ a, x = .ok a → y = .ok a
  /-- Where the strict run fails on anything but an unknown leaf kind, the permissive run fails
  with the same error. -/
  error : ∀ e, x = .error e → e.isUnknownLeafType = false → y = .error e
  /-- The permissive run fails on an unknown leaf kind only with an error passed on. -/
  unknown : ∀ e, y = .error e → e.isUnknownLeafType = true → passed e

namespace ModeAgree

variable {α β : Type} {passed : CompileError → Prop}

/-- A step that does not depend on the mode agrees with itself, when it fails on an unknown leaf
kind only with errors passed on. -/
theorem same {x : Except CompileError α}
    (hx : FailsWith x fun e => e.isUnknownLeafType = true → passed e) : ModeAgree passed x x :=
  ⟨fun _ h => h, fun _ h _ => h, hx⟩

/-- A step that does not depend on the mode, and never fails on an unknown leaf kind. -/
theorem of_failsWith {x : Except CompileError α}
    (hx : FailsWith x (·.isUnknownLeafType = false)) : ModeAgree passed x x :=
  same (hx.mono fun e he hu => by rw [he] at hu; cases hu)

/-- The agreement of two chains of steps, from the agreement of their steps. -/
theorem bind {x y : Except CompileError α} {f g : α → Except CompileError β}
    (hxy : ModeAgree passed x y) (hfg : ∀ a, ModeAgree passed (f a) (g a)) :
    ModeAgree passed (x >>= f) (y >>= g) := by
  constructor
  · intro b h
    obtain ⟨a, hx, hf⟩ := except_bind_eq_ok.mp h
    rw [hxy.ok a hx]
    exact (hfg a).ok b hf
  · intro e h he
    cases hx : x with
    | error e₀ =>
      rw [hx] at h
      cases h
      rw [hxy.error e hx he]
      rfl
    | ok a =>
      rw [hx] at h
      rw [hxy.ok a hx]
      exact (hfg a).error e h he
  · intro e h hu
    cases hy : y with
    | error e₀ =>
      rw [hy] at h
      cases h
      exact hxy.unknown e hy hu
    | ok b =>
      rw [hy] at h
      exact (hfg b).unknown e h hu

/-- Mapping the values of two agreeing steps keeps them agreeing. -/
theorem map {x y : Except CompileError α} (f : α → β) (hxy : ModeAgree passed x y) :
    ModeAgree passed (f <$> x) (f <$> y) := by
  rw [map_eq_pure_bind, map_eq_pure_bind]
  exact hxy.bind fun a => same (.pure _)

/-- Where the permissive run fails, the strict run fails too. -/
theorem strict_fails {x y : Except CompileError α} (hxy : ModeAgree passed x y) {e : CompileError}
    (h : y = .error e) : ∃ e', x = .error e' := by
  cases hx : x with
  | ok a =>
    rw [hxy.ok a hx] at h
    cases h
  | error e' => exact ⟨e', rfl⟩

/-! ### Runs that keep the loaded sources -/

/-- Two chains of resolution steps agree from every state when their steps do. -/
theorem bindM {x y : ResolveM α} {f g : α → ResolveM β}
    (hxy : ∀ σ, ModeAgree passed (x σ) (y σ))
    (hfg : ∀ a σ, ModeAgree passed (f a σ) (g a σ)) (σ : Loaded) :
    ModeAgree passed ((x >>= f) σ) ((y >>= g) σ) :=
  (hxy σ).bind fun r => hfg r.1 r.2

/-- Mapping the values of two agreeing resolution steps keeps them agreeing from every state. -/
theorem mapM {x y : ResolveM α} (f : α → β) (hxy : ∀ σ, ModeAgree passed (x σ) (y σ))
    (σ : Loaded) : ModeAgree passed ((f <$> x) σ) ((f <$> y) σ) := by
  rw [map_eq_pure_bind, map_eq_pure_bind]
  exact bindM hxy (fun a σ => same (.ok _)) σ

/-- Two agreeing steps, lifted into resolution, agree from every state. -/
theorem lift {x y : Except CompileError α} (hxy : ModeAgree passed x y) (σ : Loaded) :
    ModeAgree passed (ResolveM.lift x σ) (ResolveM.lift y σ) := by
  rw [lift_run, lift_run]
  exact hxy.map _

/-- Folds whose steps agree from every state agree from every state. -/
theorem foldlM {run run' : RuleSpec → ResolveM Predicate}
    {c : Predicate → Predicate → Predicate} {items : List RuleSpec}
    (h : ∀ s ∈ items, ∀ σ, ModeAgree passed (run s σ) (run' s σ)) :
    ∀ acc σ, ModeAgree passed (items.foldlM (fun acc s => c acc <$> run s) acc σ)
      (items.foldlM (fun acc s => c acc <$> run' s) acc σ) := by
  induction items with
  | nil =>
    intro acc σ
    exact same (.ok _)
  | cons s rest ih =>
    intro acc σ
    simp only [List.foldlM_cons]
    exact bindM (mapM _ (h s List.mem_cons_self))
      (ih fun t ht => h t (List.mem_cons_of_mem s ht)) σ

end ModeAgree

/-! ## Compilation in the two modes -/

section Compile

variable {passed : CompileError → Prop}

/-- A leaf of a known kind is built alike in both modes; one of an unknown kind stops strict
compilation, which is all the relation allows. -/
theorem compileLeaf_modeAgree (negated : Bool) (kind : String) (v : Value) :
    ModeAgree passed (compileLeaf .strict negated kind v)
      (compileLeaf .permissive negated kind v) := by
  cases hk : LeafKind.ofName? kind with
  | some k =>
    simp only [compileLeaf, hk]
    refine ModeAgree.of_failsWith (FailsWith.mono ?_ fun e he =>
      CompileError.isUnknownLeafType_of_isValueError he)
    exact ((buildLeaf_failsWith k v).map _).bind fun _ => FailsWith.pure _
  | none =>
    simp only [compileLeaf, hk]
    refine ⟨fun a h => ?_, fun e h he => ?_, fun _ h _ => ?_⟩
    · cases h
    · cases h
      cases he
    · cases h

mutual

/-- A spec compiles alike in both modes, up to the first unknown leaf kind of the strict run. -/
theorem compileSpec_modeAgree (s : RuleSpec) :
    ModeAgree passed (compileSpec .strict s) (compileSpec .permissive s) := by
  match s with
  | .null => exact ModeAgree.of_failsWith (.ok _)
  | .leaf negated kind v => exact compileLeaf_modeAgree negated kind v
  | .group allOf anyOf =>
    rw [compileSpec_group_eq, compileSpec_group_eq]
    refine ModeAgree.bind ?_ fun acc => ?_
    · match allOf with
      | some items => exact foldAll_modeAgree .identity items
      | none => exact ModeAgree.of_failsWith (.ok _)
    · match anyOf with
      | some items => exact foldAny_modeAgree acc items
      | none => exact ModeAgree.of_failsWith (.ok _)
  | .reference _ => exact ModeAgree.of_failsWith (.ok _)
  | .other _ => exact ModeAgree.of_failsWith (.ok _)

/-- The `and` folds of the two modes agree. -/
theorem foldAll_modeAgree (acc : Predicate) (items : List RuleSpec) :
    ModeAgree passed (foldAll .strict acc items) (foldAll .permissive acc items) := by
  match items with
  | [] => exact ModeAgree.of_failsWith (.ok _)
  | s :: rest =>
    exact (compileSpec_modeAgree s).bind fun p => foldAll_modeAgree (andOf acc p) rest

/-- The `or` folds of the two modes agree. -/
theorem foldAny_modeAgree (acc : Predicate) (items : List RuleSpec) :
    ModeAgree passed (foldAny .strict acc items) (foldAny .permissive acc items) := by
  match items with
  | [] => exact ModeAgree.of_failsWith (.ok _)
  | s :: rest =>
    exact (compileSpec_modeAgree s).bind fun p => foldAny_modeAgree (orOf acc p) rest

end

/-- Reading a rule fails alike in both modes, never on a leaf kind. -/
theorem ofValue_modeAgree (v : Value) :
    ModeAgree passed (RuleSpec.ofValue v) (RuleSpec.ofValue v) :=
  .of_failsWith ((ofValue_failsWith v).mono fun _ he =>
    CompileError.isUnknownLeafType_of_isMalformedGroup he)

/-- A rule value compiles alike in both modes, up to the first unknown leaf kind of the strict
run. -/
theorem compileValue_modeAgree (v : Value) :
    ModeAgree passed (compileValue .strict v) (compileValue .permissive v) :=
  (ofValue_modeAgree v).bind fun spec =>
    (compileSpec_modeAgree spec).bind fun _ => .same (.pure _)

end Compile

/-! ## Resolution in the two modes -/

section Resolve

variable {src : RuleSource}

/-- Loading a section does not depend on the mode; it fails only as the source's load does. -/
theorem loadSection_modeAgree (name : String) (σ : Loaded) :
    ModeAgree src.LoadError (loadSection src name σ) (loadSection src name σ) :=
  .same fun _ he _ => ⟨name, (loadSection_eq_error.mp he).2⟩

/-- A loaded section resolves alike in both modes when its `Rules` does, one source deeper. -/
theorem sectionStep_modeAgree {chain : List (String × String)} {name : String}
    (ih : ∀ spec σ, ModeAgree src.LoadError
      (resolveSpec src .strict (chain ++ [(src.key name, name)]) spec σ)
      (resolveSpec src .permissive (chain ++ [(src.key name, name)]) spec σ))
    (s : RuleSection) (σ : Loaded) :
    ModeAgree src.LoadError (sectionStep src .strict chain name s σ)
      (sectionStep src .permissive chain name s σ) := by
  cases hentry : s.entry with
  | none =>
    simp only [sectionStep, hentry]
    exact ModeAgree.of_failsWith (.error rfl)
  | some entry =>
    cases entry with
    | rules v =>
      simp only [sectionStep, hentry]
      exact ModeAgree.bindM (ModeAgree.lift (ofValue_modeAgree v)) ih σ
    | rule v =>
      simp only [sectionStep, hentry]
      exact ModeAgree.lift ((ofValue_modeAgree v).bind compileSpec_modeAgree) σ

/-- Resolution from any loaded sources answers alike in both modes, up to the first unknown leaf
kind of the strict run; the permissive run fails on an unknown kind only by a load error. -/
theorem resolveSpec_modeAgree (src : RuleSource) :
    ∀ chain s σ, ModeAgree src.LoadError (resolveSpec src .strict chain s σ)
      (resolveSpec src .permissive chain s σ) := by
  refine resolution_induction src ?group ?reference ?plain
  case group =>
    intro chain allOf anyOf ihAll ihAny σ
    rw [resolveSpec_group, resolveSpec_group]
    exact ModeAgree.bindM (ModeAgree.foldlM ihAll .identity) (ModeAgree.foldlM ihAny) σ
  case reference =>
    intro chain name ih σ
    rw [resolveSpec_reference, resolveSpec_reference]
    by_cases hcycle : chain.any (·.1 == src.key name) = true
    · simp only [if_pos hcycle]
      exact ModeAgree.of_failsWith (.error rfl)
    simp only [if_neg hcycle]
    by_cases hdepth : chain.length < maxReferenceDepth
    · simp only [if_pos hdepth]
      exact ModeAgree.bindM (loadSection_modeAgree name)
        (sectionStep_modeAgree (ih hdepth)) σ
    · simp only [if_neg hdepth]
      exact ModeAgree.of_failsWith (.error rfl)
  case plain =>
    intro chain s hs σ
    rw [resolveSpec_of_plain hs, resolveSpec_of_plain hs]
    exact ModeAgree.lift (compileSpec_modeAgree s) σ

/-- A section answers alike in both modes, up to the first unknown leaf kind of the strict run;
the permissive run fails on an unknown kind only by a load error of the source. -/
theorem compileSection_modeAgree (sec : RuleSection) (src : RuleSource) :
    ModeAgree src.LoadError (compileSection sec .strict src)
      (compileSection sec .permissive src) := by
  unfold compileSection
  dsimp only
  split
  · exact (ofValue_modeAgree _).bind fun spec =>
      ((resolveSpec_modeAgree src [] spec []).map _).bind fun _ => .same (.pure _)
  · exact (ofValue_modeAgree _).bind fun spec =>
      (compileSpec_modeAgree spec).bind fun _ => .same (.pure _)
  · exact .same (.ok _)

/-- A source held in memory fails to load only a name it does not hold, never on a leaf kind. -/
theorem memorySource_loadError {entries : List (String × RuleSection)} {e : CompileError}
    (h : (memorySource entries).LoadError e) : e.isUnknownLeafType = false := by
  obtain ⟨name, hload⟩ := h
  simp only [memorySource] at hload
  split at hload
  · cases hload
  · cases hload
    rfl

/-- A source of files fails to load only a file it cannot read or parse, never on a leaf kind. -/
theorem fileSource_loadError {tree : Files.FileTree} {base : String} {e : CompileError}
    (h : (fileSource tree base).LoadError e) : e.isUnknownLeafType = false := by
  obtain ⟨name, hload⟩ := h
  rw [fileSource_load] at hload
  split at hload
  · unfold parseSource at hload
    split at hload
    · cases hload
    · cases hload
      rfl
  · cases hload
    rfl

end Resolve

/-! ## Main statement -/

/-- **Strict and permissive compilation agree wherever strict compilation succeeds.** For a rule
value, and for a section with any source (its `Rules` resolved, its `Rule` compiled): what
strict mode compiles, permissive mode compiles to the very same rule; an error of strict mode
other than an unknown leaf type is the error of permissive mode too; and where permissive mode
fails, strict mode fails as well. Permissive mode never fails on an unknown leaf type of its
own: a rule value never, and a section only with an error the source's load returned. -/
theorem strict_and_permissive_agree :
    (∀ v r, compileValue .strict v = .ok r → compileValue .permissive v = .ok r) ∧
    (∀ v e, compileValue .strict v = .error e → e.isUnknownLeafType = false →
      compileValue .permissive v = .error e) ∧
    (∀ v e, compileValue .permissive v = .error e →
      (∃ e', compileValue .strict v = .error e') ∧ e.isUnknownLeafType = false) ∧
    (∀ sec src r, compileSection sec .strict src = .ok r →
      compileSection sec .permissive src = .ok r) ∧
    (∀ sec src e, compileSection sec .strict src = .error e → e.isUnknownLeafType = false →
      compileSection sec .permissive src = .error e) ∧
    (∀ sec src e, compileSection sec .permissive src = .error e →
      (∃ e', compileSection sec .strict src = .error e') ∧
        (e.isUnknownLeafType = true → ∃ name, src.load name = .error e)) := by
  -- a rule value passes nothing on from outside
  have hvalue : ∀ v, ModeAgree (fun _ => False) (compileValue .strict v)
      (compileValue .permissive v) := compileValue_modeAgree
  refine ⟨fun v => (hvalue v).ok, fun v => (hvalue v).error, fun v e h => ⟨?_, ?_⟩,
    fun sec src => (compileSection_modeAgree sec src).ok,
    fun sec src => (compileSection_modeAgree sec src).error,
    fun sec src e h => ⟨(compileSection_modeAgree sec src).strict_fails h,
      (compileSection_modeAgree sec src).unknown e h⟩⟩
  · exact (hvalue v).strict_fails h
  · exact Bool.eq_false_iff.mpr fun hu => (hvalue v).unknown e h hu

/-- A value read before an unknown leaf kind fails alike in both modes: strict mode stops at the
leaf that lacks its value before it meets the unknown kind. -/
theorem strict_and_permissive_agree_on_missing_value :
    compileValue .strict (.mapping [(.string "and", .sequence [
        .mapping [(.string "type", .string "keyword"), (.string "value", .null)],
        .mapping [(.string "type", .string "bogus"), (.string "value", .null)]])]) =
      .error (.malformedLeafValue "keyword" "null" "a value is required") ∧
    compileValue .permissive (.mapping [(.string "and", .sequence [
        .mapping [(.string "type", .string "keyword"), (.string "value", .null)],
        .mapping [(.string "type", .string "bogus"), (.string "value", .null)]])]) =
      .error (.malformedLeafValue "keyword" "null" "a value is required") := by
  have h : compileValue .strict (.mapping [(.string "and", .sequence [
      .mapping [(.string "type", .string "keyword"), (.string "value", .null)],
      .mapping [(.string "type", .string "bogus"), (.string "value", .null)]])]) =
      .error (.malformedLeafValue "keyword" "null" "a value is required") := by
    cbv
  exact ⟨h, strict_and_permissive_agree.2.1 _ _ h rfl⟩

end PostRules
