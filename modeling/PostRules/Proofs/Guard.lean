import Mathlib.Data.List.Chain
import PostRules.Proofs.Outcomes
import PostRules.Proofs.Resolution

/-!
# What the recursion guard reports

Before it loads a named source, the resolver checks the chain of sources it is inside: a key
already on the chain is a circular reference, and a chain of `maxReferenceDepth` sources may
not grow. This module states what those two answers, and a success, say about the references
between sources.

The references form a graph on names: `RuleSource.Leads src n n'` when the source loads `n` to
a section whose `Rules` reads as a spec that refers to `n'`. A path of it from a spec
(`RuleSpec.PathFrom`) starts at a name the spec refers to. The main statement,
`resolve_guard_sound`, says that under a source whose loads agree on names of one key:

* a resolution that succeeds saw only paths of distinct keys, at most `maxReferenceDepth` long;
* a circular reference reports a path whose last key is the key of exactly one name before it;
* a chain too deep reports a path of `maxReferenceDepth` distinct keys and one more name.

The two failures are the guard's own only when the source's loads do not raise them
(`RuleSource.LoadErrorsAreOwn`); reading and compiling a spec never do (`RaisesNoGuard`).
-/

namespace PostRules

open Yaml

/-! ## Errors that only the guard raises -/

/-- The errors of the resolver's own checks: a circular reference and a chain too deep. -/
def CompileError.isGuard : CompileError → Bool
  | .circularReference _ | .recursionLimitExceeded _ _ => true
  | _ => false

/-- A step that fails, if it fails, with an error that is not the guard's. -/
def RaisesNoGuard {α : Type} (x : Except CompileError α) : Prop :=
  ∀ e, x = .error e → e.isGuard = false

namespace RaisesNoGuard

-- `RaisesNoGuard x` is `FailsWith x (·.isGuard = false)`, so its rules are those of `FailsWith`

variable {α β : Type}

/-- A success raises no guard error. -/
theorem ok (a : α) : RaisesNoGuard (.ok a : Except CompileError α) := FailsWith.ok a

/-- A pure step raises no guard error. -/
theorem pure (a : α) : RaisesNoGuard (pure a : Except CompileError α) := ok a

/-- A failure with an error other than the two guards raises no guard error. -/
theorem error {e : CompileError} (he : e.isGuard = false) :
    RaisesNoGuard (.error e : Except CompileError α) :=
  FailsWith.error he

/-- Two steps that raise no guard error, one after the other, raise none. -/
theorem bind {x : Except CompileError α} {f : α → Except CompileError β} (hx : RaisesNoGuard x)
    (hf : ∀ a, RaisesNoGuard (f a)) : RaisesNoGuard (x >>= f) :=
  FailsWith.bind hx hf

/-- Mapping a step's value raises no guard error when the step raises none. -/
theorem map {x : Except CompileError α} (f : α → β) (hx : RaisesNoGuard x) :
    RaisesNoGuard (f <$> x) :=
  FailsWith.map f hx

/-- Running an optional step runs it when it is there. -/
theorem optionMapM {x : Option (Except CompileError α)} (h : ∀ r, x = some r → RaisesNoGuard r) :
    RaisesNoGuard (x.mapM id) :=
  FailsWith.optionMapM h

end RaisesNoGuard

/-! ## Reading and compiling never raise the guard's errors -/

/-- An error about a leaf's value is not the guard's. -/
theorem CompileError.isGuard_of_isValueError {e : CompileError} (h : e.isValueError = true) :
    e.isGuard = false := by
  cases e <;> first | rfl | cases h

/-- A malformed group is not the guard's error. -/
theorem CompileError.isGuard_of_isMalformedGroup {e : CompileError}
    (h : e.isMalformedGroup = true) : e.isGuard = false := by
  cases e <;> first | rfl | cases h

/-- Building a leaf fails only on its value: its shape, its literal, its operator or its pattern. -/
theorem buildLeaf_raisesNoGuard (kind : LeafKind) (v : Value) :
    RaisesNoGuard (buildLeaf kind v) :=
  (buildLeaf_failsWith kind v).mono fun _ he => CompileError.isGuard_of_isValueError he

/-- Compiling a leaf never fails with a cycle or the depth limit. -/
theorem compileLeaf_raisesNoGuard (mode : Mode) (negated : Bool) (kind : String) (v : Value) :
    RaisesNoGuard (compileLeaf mode negated kind v) := by
  unfold compileLeaf
  dsimp only
  split
  · exact ((buildLeaf_raisesNoGuard _ v).map _).bind fun inner => .pure _
  · cases mode with
    | strict => exact (RaisesNoGuard.error rfl).bind fun inner => .pure _
    | permissive => exact (RaisesNoGuard.pure _).bind fun inner => .pure _

mutual

/-- Compiling a spec fails only where a leaf fails to build or names no kind. -/
theorem compileSpec_raisesNoGuard (mode : Mode) (s : RuleSpec) :
    RaisesNoGuard (compileSpec mode s) := by
  match s with
  | .null => exact .ok _
  | .leaf negated kind v => exact compileLeaf_raisesNoGuard mode negated kind v
  | .group allOf anyOf =>
    rw [compileSpec_group_eq]
    refine RaisesNoGuard.bind ?_ fun acc => ?_
    · match allOf with
      | some items => exact foldAll_raisesNoGuard mode .identity items
      | none => exact .ok _
    · match anyOf with
      | some items => exact foldAny_raisesNoGuard mode acc items
      | none => exact .ok _
  | .reference _ => exact .ok _
  | .other _ => exact .ok _

/-- The compiler's `and` fold never fails with a cycle or the depth limit. -/
theorem foldAll_raisesNoGuard (mode : Mode) (acc : Predicate) (items : List RuleSpec) :
    RaisesNoGuard (foldAll mode acc items) := by
  match items with
  | [] => exact .ok _
  | s :: rest =>
    exact (compileSpec_raisesNoGuard mode s).bind fun p => foldAll_raisesNoGuard mode _ rest

/-- The compiler's `or` fold never fails with a cycle or the depth limit. -/
theorem foldAny_raisesNoGuard (mode : Mode) (acc : Predicate) (items : List RuleSpec) :
    RaisesNoGuard (foldAny mode acc items) := by
  match items with
  | [] => exact .ok _
  | s :: rest =>
    exact (compileSpec_raisesNoGuard mode s).bind fun p => foldAny_raisesNoGuard mode _ rest

end

/-- Reading a spec fails only on a group whose `and` or `or` is not a list. -/
theorem ofValue_raisesNoGuard (v : Value) : RaisesNoGuard (RuleSpec.ofValue v) :=
  (ofValue_failsWith v).mono fun _ he => CompileError.isGuard_of_isMalformedGroup he

/-! ## Sources whose loads do not raise the guard's errors -/

/-- A source whose loads fail, if they fail, with errors of their own and not with the guard's. -/
def RuleSource.LoadErrorsAreOwn (src : RuleSource) : Prop :=
  ∀ name, RaisesNoGuard (src.load name)

/-- A source in memory fails only for a name it does not hold. -/
theorem memorySource_loadErrorsAreOwn (entries : List (String × RuleSection)) :
    (memorySource entries).LoadErrorsAreOwn := by
  intro name
  simp only [memorySource]
  split
  · exact .ok _
  · exact .error rfl

/-- A source of files fails only when a file cannot be read or parsed. -/
theorem fileSource_loadErrorsAreOwn (tree : Files.FileTree) (base : String) :
    (fileSource tree base).LoadErrorsAreOwn := by
  intro name
  rw [fileSource_load]
  cases tree.read (Files.resolve base name).render with
  | ok text =>
    show RaisesNoGuard (parseSource name text)
    unfold parseSource
    cases RuleSection.ofYaml text with
    | ok sec => exact .ok sec
    | error e => exact .error rfl
  | error f => exact .error rfl

/-! ## Paths of the reference graph -/

/-- `src.Leads name name'`: the source loads `name` to a section whose `Rules` reads as a spec
that refers to `name'`. -/
def RuleSource.Leads (src : RuleSource) (name name' : String) : Prop :=
  ∃ sec v spec, src.load name = .ok sec ∧ sec.entry = some (.rules v) ∧
    RuleSpec.ofValue v = .ok spec ∧ spec.RefersTo name'

/-- An edge out of a name is read off the section the source loads for it. -/
theorem RuleSource.Leads.of_load {src : RuleSource} {name n : String} {sec : RuleSection}
    (hlead : src.Leads name n) (hload : src.load name = .ok sec) :
    ∃ v spec, sec.entry = some (.rules v) ∧ RuleSpec.ofValue v = .ok spec ∧ spec.RefersTo n := by
  obtain ⟨sec', v, spec, hload', hentry, hspec, hrefers⟩ := hlead
  rw [hload] at hload'
  cases hload'
  exact ⟨v, spec, hentry, hspec, hrefers⟩

/-- `s.PathFrom src names`: `names` is a path of the reference graph that starts at a name `s`
refers to. -/
def RuleSpec.PathFrom (src : RuleSource) (s : RuleSpec) : List String → Prop
  | [] => False
  | name :: rest => s.RefersTo name ∧ List.IsChain src.Leads (name :: rest)

namespace RuleSpec

variable {src : RuleSource}

/-- A spec that is neither a group nor a reference refers to no source. -/
theorem IsPlain.not_refersTo {s : RuleSpec} (hs : s.IsPlain) (name : String) :
    ¬ s.RefersTo name := by
  intro h
  cases h with
  | top => exact hs.2 _ rfl
  | item _ _ => exact hs.1 _ _ rfl

/-- No path of references starts at a spec that is neither a group nor a reference. -/
theorem IsPlain.not_pathFrom {s : RuleSpec} (hs : s.IsPlain) (names : List String) :
    ¬ s.PathFrom src names := by
  match names with
  | [] => exact id
  | name :: _ => exact fun h => hs.not_refersTo name h.1

/-- A path from a group is a path from one of its items, and conversely. -/
theorem pathFrom_group {allOf anyOf : Option (List RuleSpec)} {names : List String} :
    (RuleSpec.group allOf anyOf).PathFrom src names ↔
      ∃ s ∈ allOf.getD [] ++ anyOf.getD [], s.PathFrom src names := by
  match names with
  | [] => simp [PathFrom]
  | name :: rest =>
    constructor
    · rintro ⟨hrefers, hchain⟩
      cases hrefers with
      | item hs hsn => exact ⟨_, hs, hsn, hchain⟩
    · rintro ⟨s, hs, hsn, hchain⟩
      exact ⟨.item hs hsn, hchain⟩

/-- A path from a reference starts at the name it refers to. -/
theorem PathFrom.of_reference {name : String} {names : List String}
    (h : (RuleSpec.reference name).PathFrom src names) :
    ∃ rest, names = name :: rest ∧ List.IsChain src.Leads (name :: rest) := by
  match names, h with
  | n :: rest, ⟨hrefers, hchain⟩ =>
    cases hrefers
    exact ⟨rest, rfl, hchain⟩

/-- A reference is a path of one name to the source it names. -/
theorem pathFrom_reference_singleton (name : String) :
    (RuleSpec.reference name).PathFrom src [name] :=
  ⟨.top name, .singleton name⟩

/-- A path from the spec a name leads to extends to a path from a reference to that name. -/
theorem PathFrom.reference {name : String} {spec : RuleSpec} {names : List String}
    (hlead : ∀ n, spec.RefersTo n → src.Leads name n) (h : spec.PathFrom src names) :
    (RuleSpec.reference name).PathFrom src (name :: names) := by
  match names, h with
  | n :: rest, ⟨hn, hchain⟩ => exact ⟨.top name, .cons_cons (hlead n hn) hchain⟩

end RuleSpec

/-! ## The chain of a resolution -/

/-- The chain the resolver keeps inside the sources `names`, outermost first: each name with its
key. -/
def RuleSource.chainOf (src : RuleSource) (names : List String) : List (String × String) :=
  names.map fun n => (src.key n, n)

namespace RuleSource

variable {src : RuleSource}

/-- The chain of some names holds one entry for each. -/
@[simp] theorem chainOf_length (names : List String) :
    (src.chainOf names).length = names.length := by
  simp [chainOf]

/-- The chain of some names records those names, in order. -/
@[simp] theorem chainOf_names (names : List String) : (src.chainOf names).map (·.2) = names := by
  simp [chainOf, Function.comp_def]

/-- Pushing a source on the chain of some names gives the chain of the names with its own. -/
theorem chainOf_append_singleton (names : List String) (name : String) :
    src.chainOf names ++ [(src.key name, name)] = src.chainOf (names ++ [name]) := by
  simp [chainOf]

/-- The cycle check looks for a key among the keys of the chain's names. -/
theorem any_chainOf {names : List String} {k : String} :
    (src.chainOf names).any (·.1 == k) = true ↔ k ∈ names.map src.key := by
  rw [chainOf, List.any_map, List.any_eq_true, List.mem_map]
  simp only [Function.comp_apply, beq_iff_eq]

end RuleSource

/-! ## What the guard's errors report -/

/-- What an error raised inside the sources `outer` says about the paths from `s`. A circular
reference names `outer`, then a path from `s` whose last key is already among the names before
it, which have distinct keys; a chain too deep names the source one past `maxReferenceDepth`
names of distinct keys, `outer` and then a path from `s`. Other errors say nothing. -/
def RuleSpec.Reports (src : RuleSource) (outer : List String) (s : RuleSpec) :
    CompileError → Prop
  | .circularReference names => ∃ ms n, names = outer ++ ms ++ [n] ∧
      s.PathFrom src (ms ++ [n]) ∧ ((outer ++ ms).map src.key).Nodup ∧
      src.key n ∈ (outer ++ ms).map src.key
  | .recursionLimitExceeded n d => d = maxReferenceDepth ∧ ∃ ms,
      outer.length + ms.length = maxReferenceDepth ∧ s.PathFrom src (ms ++ [n]) ∧
      ((outer ++ ms ++ [n]).map src.key).Nodup
  | _ => True

namespace RuleSpec

variable {src : RuleSource} {outer : List String} {e : CompileError}

/-- An error other than the two guards says nothing about paths, so it always reports rightly. -/
theorem Reports.of_not_isGuard {s : RuleSpec} (he : e.isGuard = false) : s.Reports src outer e := by
  cases e with
  | circularReference _ | recursionLimitExceeded _ _ => cases he
  | _ => trivial

/-- What an item's error reports, its group's error reports too. -/
theorem Reports.of_mem {allOf anyOf : Option (List RuleSpec)} {s : RuleSpec}
    (hs : s ∈ allOf.getD [] ++ anyOf.getD []) (h : s.Reports src outer e) :
    (RuleSpec.group allOf anyOf).Reports src outer e := by
  cases e with
  | circularReference names =>
    obtain ⟨ms, n, hnames, hpath, hnodup, hmem⟩ := h
    exact ⟨ms, n, hnames, pathFrom_group.mpr ⟨s, hs, hpath⟩, hnodup, hmem⟩
  | recursionLimitExceeded n d =>
    obtain ⟨hd, ms, hlen, hpath, hnodup⟩ := h
    exact ⟨hd, ms, hlen, pathFrom_group.mpr ⟨s, hs, hpath⟩, hnodup⟩
  | _ => trivial

/-- What an error one source deeper reports, the reference to that source reports too: the
source's name moves from the chain to the head of the path. -/
theorem Reports.reference {name : String} {spec : RuleSpec}
    (hlead : ∀ n, spec.RefersTo n → src.Leads name n) (h : spec.Reports src (outer ++ [name]) e) :
    (RuleSpec.reference name).Reports src outer e := by
  cases e with
  | circularReference names =>
    obtain ⟨ms, n, rfl, hpath, hnodup, hmem⟩ := h
    refine ⟨name :: ms, n, by simp, hpath.reference hlead, ?_, ?_⟩
    · simpa using hnodup
    · simpa using hmem
  | recursionLimitExceeded n d =>
    obtain ⟨hd, ms, hlen, hpath, hnodup⟩ := h
    refine ⟨hd, name :: ms, ?_, hpath.reference hlead, by simpa using hnodup⟩
    simp only [List.length_append, List.length_cons, List.length_nil] at hlen ⊢
    omega
  | _ => trivial

end RuleSpec

section Runs

variable {src : RuleSource} {mode : Mode}

/-- Descending into a name that passed the cycle check keeps the keys of the chain distinct. -/
theorem nodup_keys_append {outer : List String} {name : String}
    (hnodup : (outer.map src.key).Nodup)
    (hfresh : (src.chainOf outer).any (·.1 == src.key name) = false) :
    ((outer ++ [name]).map src.key).Nodup := by
  have hkey : src.key name ∉ outer.map src.key := by
    rw [← RuleSource.any_chainOf, hfresh]
    exact Bool.false_ne_true
  rw [List.map_append, List.map_singleton, List.nodup_append]
  refine ⟨hnodup, List.nodup_cons.mpr ⟨List.not_mem_nil, List.nodup_nil⟩, ?_⟩
  rintro k hk k' hk' rfl
  rw [List.mem_singleton] at hk'
  exact hkey (hk' ▸ hk)

/-- The paths a successful resolution inside the sources `outer` went along: every path from its
spec continues `outer` with distinct keys, and the two together fit the depth bound. -/
theorem resolveSpec_ok_paths (hsrc : src.LoadsByKey) :
    ∀ chain s, ∀ outer : List String, chain = src.chainOf outer → (outer.map src.key).Nodup →
      ∀ {σ σ' : Loaded} {p : Predicate}, LoadedFrom src σ →
      resolveSpec src mode chain s σ = .ok (p, σ') →
      ∀ names, s.PathFrom src names →
        ((outer ++ names).map src.key).Nodup ∧ outer.length + names.length ≤ maxReferenceDepth := by
  refine resolution_induction src ?group ?reference ?plain
  case group =>
    intro chain allOf anyOf ihAll ihAny outer hchain hnodup σ σ' p hσ h names hpath
    obtain ⟨s, hs, hsp⟩ := RuleSpec.pathFrom_group.mp hpath
    obtain ⟨σ₁, q, σ₂, hσ₁, hrun⟩ := resolveSpec_group_ok_loaded hσ h s hs
    rcases List.mem_append.mp hs with hs | hs
    · exact ihAll s hs outer hchain hnodup hσ₁ hrun names hsp
    · exact ihAny s hs outer hchain hnodup hσ₁ hrun names hsp
  case reference =>
    intro chain name ih outer hchain hnodup σ σ' p hσ h names hpath
    subst hchain
    obtain ⟨hfresh, hdepth, sec, σ₁, hload, hstep⟩ := resolveSpec_reference_eq_ok h
    have hnodup' := nodup_keys_append hnodup hfresh
    have hlength : outer.length < maxReferenceDepth := by rwa [RuleSource.chainOf_length] at hdepth
    obtain ⟨rest, rfl, hchain⟩ := hpath.of_reference
    match rest, hchain with
    | [], _ =>
      refine ⟨hnodup', ?_⟩
      rw [List.length_singleton]
      omega
    | n :: rest, hchain =>
      -- the path goes on through the section the resolver loaded for `name`
      obtain ⟨hlead, hchain⟩ := List.isChain_cons_cons.mp hchain
      obtain ⟨v, spec, hentry, hspec, hrefers⟩ := hlead.of_load (hσ.load_eq hsrc hload)
      rcases sectionStep_eq_ok hstep with ⟨v', spec', hentry', hspec', hrun⟩ | ⟨v', -, hentry', -⟩
      · rw [hentry, Option.some.injEq, RuleEntry.rules.injEq] at hentry'
        subst hentry'
        rw [hspec, Except.ok.injEq] at hspec'
        subst hspec'
        obtain ⟨hkeys, hlen⟩ := ih hdepth spec (outer ++ [name])
          (RuleSource.chainOf_append_singleton outer name) hnodup' (hσ.of_loadSection hload) hrun
          (n :: rest) ⟨hrefers, hchain⟩
        rw [List.append_assoc, List.singleton_append] at hkeys
        refine ⟨hkeys, ?_⟩
        simp only [List.length_append, List.length_cons, List.length_nil] at hlen ⊢
        omega
      · rw [hentry] at hentry'
        cases hentry'
  case plain =>
    intro chain s hs outer _ _ σ σ' p _ _ names hpath
    exact absurd hpath (hs.not_pathFrom names)

/-- Every error of a resolution inside the sources `outer` reports truthfully on the paths from its
spec, when the source's loads raise no guard error of their own. The chain never outgrows
`maxReferenceDepth`, since a source is only entered below it. -/
theorem resolveSpec_reports (hsrc : src.LoadsByKey) (hown : src.LoadErrorsAreOwn) :
    ∀ chain s, ∀ outer : List String, chain = src.chainOf outer → (outer.map src.key).Nodup →
      outer.length ≤ maxReferenceDepth →
      ∀ {σ : Loaded} {e : CompileError}, LoadedFrom src σ →
      resolveSpec src mode chain s σ = .error e → s.Reports src outer e := by
  refine resolution_induction src ?group ?reference ?plain
  case group =>
    intro chain allOf anyOf ihAll ihAny outer hchain hnodup hlength σ e hσ h
    obtain ⟨s, hs, σ₁, hσ₁, hrun⟩ := resolveSpec_group_error_loaded hσ h
    refine RuleSpec.Reports.of_mem hs ?_
    rcases List.mem_append.mp hs with hs | hs
    · exact ihAll s hs outer hchain hnodup hlength hσ₁ hrun
    · exact ihAny s hs outer hchain hnodup hlength hσ₁ hrun
  case reference =>
    intro chain name ih outer hchain hnodup hlength σ e hσ h
    subst hchain
    rcases resolveSpec_reference_eq_error h with
      ⟨hcycle, rfl⟩ | ⟨hfresh, hdeep, rfl⟩ | ⟨hfresh, hdepth, hfail⟩
    case inl =>
      -- the reference itself closes the cycle
      refine ⟨[], name, by simp, RuleSpec.pathFrom_reference_singleton name, ?_, ?_⟩
      · simpa using hnodup
      · simpa using RuleSource.any_chainOf.mp hcycle
    case inr.inl =>
      -- the reference itself is one too many
      rw [RuleSource.chainOf_length] at hdeep
      refine ⟨rfl, [], by simp only [List.length_nil]; omega,
        RuleSpec.pathFrom_reference_singleton name, ?_⟩
      simpa using nodup_keys_append hnodup hfresh
    case inr.inr =>
      have hlength' : (outer ++ [name]).length ≤ maxReferenceDepth := by
        rw [RuleSource.chainOf_length] at hdepth
        simp only [List.length_append, List.length_singleton]
        omega
      rcases hfail with hload | ⟨sec, σ₁, hload, hstep⟩
      · exact .of_not_isGuard (hown name e (loadSection_eq_error.mp hload).2)
      rcases sectionStep_eq_error hstep with ⟨v, hentry, hread | ⟨spec, hspec, hrun⟩⟩ |
        ⟨v, -, hcompile⟩ | ⟨-, rfl⟩
      · exact .of_not_isGuard (ofValue_raisesNoGuard v e hread)
      · -- the error was raised one source deeper, inside `name`
        have hlead : ∀ n, spec.RefersTo n → src.Leads name n :=
          fun n hn => ⟨sec, v, spec, hσ.load_eq hsrc hload, hentry, hspec, hn⟩
        refine RuleSpec.Reports.reference hlead ?_
        exact ih hdepth spec (outer ++ [name]) (RuleSource.chainOf_append_singleton outer name)
          (nodup_keys_append hnodup hfresh) hlength' (hσ.of_loadSection hload) hrun
      · have hnoGuard := (ofValue_raisesNoGuard v).bind (compileSpec_raisesNoGuard mode)
        exact .of_not_isGuard (hnoGuard e hcompile)
      · exact .of_not_isGuard rfl
  case plain =>
    intro chain s hs outer _ _ _ σ e _ h
    rw [resolveSpec_of_plain hs, lift_run_eq_error] at h
    exact .of_not_isGuard (compileSpec_raisesNoGuard mode s e h)

end Runs

/-! ## Main statement -/

/-- **The recursion guard is sound.** Under a source whose successful loads agree on names of
one key, in either mode: a resolution that succeeds has seen only paths of the reference graph
with distinct keys and at most `maxReferenceDepth` names. When the source's loads raise no guard
error themselves, a circular reference names a path from the spec whose names before the last
have distinct keys and whose last key is the key of exactly one of them; and a chain too deep
names the source past a path of `maxReferenceDepth` names, all of distinct keys. -/
theorem resolve_guard_sound {src : RuleSource} (hsrc : src.LoadsByKey) (mode : Mode)
    (s : RuleSpec) :
    (∀ p, (resolveSpec src mode [] s).run' [] = .ok p →
      ∀ names, s.PathFrom src names →
        (names.map src.key).Nodup ∧ names.length ≤ maxReferenceDepth) ∧
    (src.LoadErrorsAreOwn → ∀ names,
      (resolveSpec src mode [] s).run' [] = .error (.circularReference names) →
      ∃ ns n, names = ns ++ [n] ∧ s.PathFrom src (ns ++ [n]) ∧
        (ns.map src.key).Nodup ∧ (ns.map src.key).count (src.key n) = 1) ∧
    (src.LoadErrorsAreOwn → ∀ n d,
      (resolveSpec src mode [] s).run' [] = .error (.recursionLimitExceeded n d) →
      d = maxReferenceDepth ∧ ∃ ns, ns.length = maxReferenceDepth ∧
        s.PathFrom src (ns ++ [n]) ∧ ((ns ++ [n]).map src.key).Nodup) := by
  -- a resolution starts outside every source, with nothing loaded
  have hchain : ([] : List (String × String)) = src.chainOf [] := rfl
  have hnil : (([] : List String).map src.key).Nodup := List.nodup_nil
  have hlength : ([] : List String).length ≤ maxReferenceDepth := Nat.zero_le _
  refine ⟨?ok, ?circular, ?limit⟩
  case ok =>
    intro p h names hpath
    obtain ⟨σ', hrun⟩ := resolveM_run'_eq_ok.mp h
    have hpaths := resolveSpec_ok_paths hsrc [] s [] hchain hnil loadedFrom_nil hrun names hpath
    rw [List.nil_append, List.length_nil, Nat.zero_add] at hpaths
    exact hpaths
  case circular =>
    intro hown names h
    have hrun : resolveSpec src mode [] s [] = .error (.circularReference names) :=
      resolveM_run'_eq_error.mp h
    obtain ⟨ns, n, hnames, hpath, hnodup, hmem⟩ := resolveSpec_reports hsrc hown [] s [] hchain hnil
      hlength loadedFrom_nil hrun
    rw [List.nil_append] at hnames hnodup hmem
    refine ⟨ns, n, hnames, hpath, hnodup, ?_⟩
    rw [hnodup.count, if_pos hmem]
  case limit =>
    intro hown n d h
    have hrun : resolveSpec src mode [] s [] = .error (.recursionLimitExceeded n d) :=
      resolveM_run'_eq_error.mp h
    obtain ⟨hd, ns, hns, hpath, hnodup⟩ := resolveSpec_reports hsrc hown [] s [] hchain hnil
      hlength loadedFrom_nil hrun
    rw [List.nil_append] at hnodup
    rw [List.length_nil, Nat.zero_add] at hns
    exact ⟨hd, ns, hns, hpath, hnodup⟩

/-- Two sources whose `Rules` name each other: resolving a reference to the first reports the
cycle through both, and the statement above reads it as a path back to the first key. -/
theorem resolve_guard_sound_two_source_cycle :
    (memorySource [("a", ⟨.null, .string "b"⟩), ("b", ⟨.null, .string "a"⟩)]).LoadsByKey ∧
    (memorySource [("a", ⟨.null, .string "b"⟩), ("b", ⟨.null, .string "a"⟩)]).LoadErrorsAreOwn ∧
    (resolveSpec (memorySource [("a", ⟨.null, .string "b"⟩), ("b", ⟨.null, .string "a"⟩)])
        .strict [] (.reference "a")).run' [] = .error (.circularReference ["a", "b", "a"]) ∧
    ∃ ns n, ["a", "b", "a"] = ns ++ [n] ∧
      (RuleSpec.reference "a").PathFrom
        (memorySource [("a", ⟨.null, .string "b"⟩), ("b", ⟨.null, .string "a"⟩)]) (ns ++ [n]) ∧
      (ns.map id).Nodup ∧ (ns.map id).count n = 1 := by
  have hsrc := memorySource_loadsByKey [("a", ⟨.null, .string "b"⟩), ("b", ⟨.null, .string "a"⟩)]
  have hown :=
    memorySource_loadErrorsAreOwn [("a", ⟨.null, .string "b"⟩), ("b", ⟨.null, .string "a"⟩)]
  have hrun : (resolveSpec (memorySource [("a", ⟨.null, .string "b"⟩), ("b", ⟨.null, .string "a"⟩)])
      .strict [] (.reference "a")).run' [] = .error (.circularReference ["a", "b", "a"]) := by
    cbv
  exact ⟨hsrc, hown, hrun, (resolve_guard_sound hsrc .strict _).2.1 hown _ hrun⟩

end PostRules
