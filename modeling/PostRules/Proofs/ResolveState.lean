import PostRules.Proofs.GroupFold
import PostRules.Proofs.Outcomes

/-!
# The chain of sources as a stack

The resolver keeps one state through a resolution: the chain of sources being resolved, each by
its key and by the name it was referenced under, and the sections loaded so far. A reference
pushes its source on the chain, resolves the source's entry, pops the source and returns what the
entry gave. The state is shared by every call, and a failing call leaves it as it stood when the
call failed. `enterSource` is that step, `stackLevel` resolution inside one source around it, and
`stackWithin` resolution with one level for each source entered inside another. `resolveSpec`
passes the chain down as an argument instead, so that no call can change the chain of another.

`stackWithin_runsAs` says that both give the same answers. `stackWithin_keeps` says how every
call leaves the state: the keys on the chain distinct, the chain no longer than
`maxReferenceDepth`, the loaded sections extended only by sections the source gave, and the chain
as the call found it when the call succeeds. A call that fails may leave one entry more on the
chain: a source's entry is read into a spec after its push, and when that read fails, with a
malformed group, the error is returned before the pop (`enterSource_leaves_entry`,
`resolveOnStack_leaves_entry`).
-/

namespace PostRules

open Yaml

/-! ## The resolver's state -/

/-- The state of one resolution: the chain of sources being resolved, by key and by the name each
was referenced under, outermost first, and the sections loaded so far, by key. -/
structure ResolveState where
  chain : List (String × String)
  loaded : Loaded

namespace ResolveState

/-- The state before anything is resolved. -/
def fresh : ResolveState := ⟨[], []⟩

/-- The state with a source pushed on the chain. -/
def push (st : ResolveState) (key name : String) : ResolveState :=
  { st with chain := st.chain ++ [(key, name)] }

/-- The state with the last source of the chain popped. -/
def pop (st : ResolveState) : ResolveState :=
  { st with chain := st.chain.dropLast }

/-- The state with a section kept under its key. -/
def remember (st : ResolveState) (key : String) (s : RuleSection) : ResolveState :=
  { st with loaded := st.loaded ++ [(key, s)] }

variable (st : ResolveState) (key name : String) (s : RuleSection)

/-- Pushing a source puts its key and name at the end of the chain. -/
@[simp] theorem push_chain : (st.push key name).chain = st.chain ++ [(key, name)] := rfl

/-- Pushing a source keeps the loaded sections. -/
@[simp] theorem push_loaded : (st.push key name).loaded = st.loaded := rfl

/-- Popping drops the last entry of the chain. -/
@[simp] theorem pop_chain : st.pop.chain = st.chain.dropLast := rfl

/-- Popping keeps the loaded sections. -/
@[simp] theorem pop_loaded : st.pop.loaded = st.loaded := rfl

/-- Keeping a loaded section leaves the chain alone. -/
@[simp] theorem remember_chain : (st.remember key s).chain = st.chain := rfl

/-- Keeping a loaded section puts it, under its key, after the others. -/
@[simp] theorem remember_loaded : (st.remember key s).loaded = st.loaded ++ [(key, s)] := rfl

end ResolveState

/-- Resolution on the resolver's state, which a failing step leaves as it stood. -/
abbrev StackM := EStateM CompileError ResolveState

namespace StackM

/-- A step that may fail, run on the state without changing it. -/
def lift {α : Type} : Except CompileError α → StackM α
  | .ok a => pure a
  | .error e => throw e

/-- Runs a step and gives how it ended, with its value or its error, leaving the state as the
step left it. -/
def outcome {α : Type} (x : StackM α) : StackM (Except CompileError α) := fun st =>
  match x st with
  | .ok a st' => .ok (.ok a) st'
  | .error e st' => .ok (.error e) st'

end StackM

/-! ## Resolution on the state -/

/-- The section of a source: the one kept before under its key, or else a fresh load, which is
kept under the key. -/
def loadOnStack (src : RuleSource) (name : String) : StackM RuleSection := do
  let key := src.key name
  match (← get).loaded.lookup key with
  | some s => pure s
  | none =>
    let s ← StackM.lift (src.load name)
    modify (·.remember key s)
    pure s

/-- How the entry of a source's section ends, with the source on the chain: its `Rules` resolved
by `deeper`, its `Rule` compiled, or the error that it has neither. Reading the entry's value into
a spec fails the step itself, and so skips what follows it. -/
def entryOutcome (mode : Mode) (deeper : RuleSpec → StackM Predicate) (name : String)
    (s : RuleSection) : StackM (Except CompileError Predicate) :=
  match s.entry with
  | some (.rules v) => do
    let spec ← StackM.lift (RuleSpec.ofValue v)
    StackM.outcome (deeper spec)
  | some (.rule v) => do
    let spec ← StackM.lift (RuleSpec.ofValue v)
    pure (compileSpec mode spec)
  | none => pure (.error (.missingRule name))

/-- A reference, resolved on the state as the resolver resolves it: a key already on the chain is
a cycle, and a full chain may not grow; past both checks the section is found or loaded, the
source is pushed on the chain, its entry ends as `entryOutcome` says, the source is popped, and
how the entry ended is returned. -/
def enterSource (src : RuleSource) (mode : Mode) (deeper : RuleSpec → StackM Predicate)
    (name : String) : StackM Predicate := do
  let key := src.key name
  let chain := (← get).chain
  if chain.any (·.1 == key) then
    throw (.circularReference (chain.map (·.2) ++ [name]))
  if maxReferenceDepth ≤ chain.length then
    throw (.recursionLimitExceeded name maxReferenceDepth)
  let s ← loadOnStack src name
  modify (·.push key name)
  let result ← entryOutcome mode deeper name s
  modify ResolveState.pop
  StackM.lift result

mutual

/-- Resolution on the state inside one source: a group item by item, a reference by
`enterSource`, whose `Rules` is resolved by `deeper`, and anything else by the compiler. -/
def stackLevel (src : RuleSource) (mode : Mode) (deeper : RuleSpec → StackM Predicate) :
    RuleSpec → StackM Predicate
  | .group allOf anyOf => do
    let acc ← match allOf with
      | some items => stackLevelAll src mode deeper .identity items
      | none => pure .identity
    match anyOf with
    | some items => stackLevelAny src mode deeper acc items
    | none => pure acc
  | .reference name => enterSource src mode deeper name
  | .null => StackM.lift (compileSpec mode .null)
  | .leaf negated kind v => StackM.lift (compileSpec mode (.leaf negated kind v))
  | .other v => StackM.lift (compileSpec mode (.other v))

/-- Resolves specs inside one source in order, folding them with `andOf`. -/
def stackLevelAll (src : RuleSource) (mode : Mode) (deeper : RuleSpec → StackM Predicate)
    (acc : Predicate) : List RuleSpec → StackM Predicate
  | [] => pure acc
  | s :: rest => do
    let p ← stackLevel src mode deeper s
    stackLevelAll src mode deeper (andOf acc p) rest

/-- Resolves specs inside one source in order, folding them with `orOf`. -/
def stackLevelAny (src : RuleSource) (mode : Mode) (deeper : RuleSpec → StackM Predicate)
    (acc : Predicate) : List RuleSpec → StackM Predicate
  | [] => pure acc
  | s :: rest => do
    let p ← stackLevel src mode deeper s
    stackLevelAny src mode deeper (orOf acc p) rest

end

/-- Resolution on the state with `levels` levels, a source entered at one level being resolved at
the level below. With no level left nothing is resolved; from a chain with `c` entries,
`maxReferenceDepth + 1 - c` levels are never exhausted, since no source is entered at the last
(`stackWithin_runsAs`). -/
def stackWithin (src : RuleSource) (mode : Mode) : Nat → RuleSpec → StackM Predicate
  | 0 => fun _ => throw (.recursionLimitExceeded "" maxReferenceDepth)
  | levels + 1 => stackLevel src mode (stackWithin src mode levels)

/-- A spec resolved as the resolver resolves it, on a state of its own: from the fresh state, with
a level for each source that the depth check lets in. -/
def resolveOnStack (src : RuleSource) (mode : Mode) (spec : RuleSpec) :
    EStateM.Result CompileError ResolveState Predicate :=
  (stackWithin src mode (maxReferenceDepth + 1) spec).run .fresh

/-! ## Running steps on the state -/

section Run

variable {α : Type}

/-- A failing step fails with its error and leaves the state as it found it. -/
@[simp] theorem StackM.throw_run (e : CompileError) (st : ResolveState) :
    (throw e : StackM α).run st = .error e st := rfl

/-- A lifted step gives the step's value, or fails with its error, and leaves the state alone. -/
theorem StackM.lift_run (x : Except CompileError α) (st : ResolveState) :
    (StackM.lift x).run st = match x with
      | .ok a => .ok a st
      | .error e => .error e st := by
  cases x <;> rfl

/-- Taking a step's outcome turns its failure into a value, in the state the step left. -/
theorem StackM.outcome_run (x : StackM α) (st : ResolveState) :
    (StackM.outcome x).run st = match x.run st with
      | .ok a st' => .ok (.ok a) st'
      | .error e st' => .ok (.error e) st' := rfl

/-- Finding or loading a section changes the state only by keeping a fresh load. -/
theorem loadOnStack_run (src : RuleSource) (name : String) (st : ResolveState) :
    (loadOnStack src name).run st =
      match st.loaded.lookup (src.key name) with
      | some s => .ok s st
      | none =>
        match src.load name with
        | .ok s => .ok s (st.remember (src.key name) s)
        | .error e => .error e st := by
  simp only [loadOnStack, EStateM.run_bind, EStateM.run_get]
  cases st.loaded.lookup (src.key name) with
  | some s => rfl
  | none => cases src.load name <;> rfl

/-- How an entry ends: a value that does not read as a spec fails the step itself, without
changing the state; otherwise the step gives how `Rules` resolved, `Rule` compiled, or that
there is neither. -/
theorem entryOutcome_run (mode : Mode) (deeper : RuleSpec → StackM Predicate) (name : String)
    (s : RuleSection) (st : ResolveState) :
    (entryOutcome mode deeper name s).run st =
      match s.entry with
      | some (.rules v) =>
        match RuleSpec.ofValue v with
        | .ok spec => (StackM.outcome (deeper spec)).run st
        | .error e => .error e st
      | some (.rule v) =>
        match RuleSpec.ofValue v with
        | .ok spec => .ok (compileSpec mode spec) st
        | .error e => .error e st
      | none => .ok (.error (.missingRule name)) st := by
  unfold entryOutcome
  cases s.entry with
  | none => rfl
  | some entry =>
    cases entry with
    | rules v =>
      dsimp only
      cases RuleSpec.ofValue v <;> rfl
    | rule v =>
      dsimp only
      cases RuleSpec.ofValue v <;> rfl

/-- A reference on the state: the two checks on the chain it finds, then the section, the push,
the entry, and the pop, unless the entry failed the step itself. -/
theorem enterSource_run (src : RuleSource) (mode : Mode) (deeper : RuleSpec → StackM Predicate)
    (name : String) (st : ResolveState) :
    (enterSource src mode deeper name).run st =
      if st.chain.any (·.1 == src.key name) then
        .error (.circularReference (st.chain.map (·.2) ++ [name])) st
      else if maxReferenceDepth ≤ st.chain.length then
        .error (.recursionLimitExceeded name maxReferenceDepth) st
      else
        match (loadOnStack src name).run st with
        | .ok s st₁ =>
          match (entryOutcome mode deeper name s).run (st₁.push (src.key name) name) with
          | .ok r st₂ => (StackM.lift r).run st₂.pop
          | .error e st₂ => .error e st₂
        | .error e st₁ => .error e st₁ := by
  simp only [enterSource, EStateM.run_bind, EStateM.run_get]
  split
  · rfl
  · split
    · rfl
    · simp only [EStateM.run_bind, EStateM.run_modify]
      cases (loadOnStack src name).run st with
      | error e st₁ => simp only
      | ok s st₁ =>
        simp only
        cases (entryOutcome mode deeper name s).run (st₁.push (src.key name) name) <;> simp only

end Run

/-! ## The state kept in order -/

/-- A state in order for the source `src`: the keys on the chain are distinct, the chain is no
longer than `maxReferenceDepth`, and every loaded section is what `src` gave for a name of its
key. -/
structure ResolveState.Sound (src : RuleSource) (st : ResolveState) : Prop where
  keys_nodup : (st.chain.map (·.1)).Nodup
  length_le : st.chain.length ≤ maxReferenceDepth
  loadedFrom : LoadedFrom src st.loaded

/-- How a run that ended with `r` may leave the state `st` it started from: in order, with the
loaded sections of `st` kept and perhaps more after them, and with the chain of `st` after a
success. After a failure the chain is that of `st`, or, when the failure is a malformed group,
that of `st` with one entry more. -/
def Leaves (src : RuleSource) (st : ResolveState) {α : Type} :
    EStateM.Result CompileError ResolveState α → Prop
  | .ok _ st' => st'.Sound src ∧ st.loaded <+: st'.loaded ∧ st'.chain = st.chain
  | .error e st' => st'.Sound src ∧ st.loaded <+: st'.loaded ∧
      (st'.chain = st.chain ∨ e.isMalformedGroup = true ∧ ∃ entry, st'.chain = st.chain ++ [entry])

/-- A step that, run from any state in order, leaves it as `Leaves` says. -/
def Keeps (src : RuleSource) {α : Type} (x : StackM α) : Prop :=
  ∀ st, st.Sound src → Leaves src st (x.run st)

section Keeps

variable {src : RuleSource} {α β : Type} {st st₁ : ResolveState}

/-- The fresh state, with no chain and nothing loaded, is in order. -/
theorem ResolveState.sound_fresh : ResolveState.fresh.Sound src :=
  ⟨List.nodup_nil, Nat.zero_le _, loadedFrom_nil⟩

/-- A source that passed both checks may be pushed: its key is not on the chain, and the chain
has room. -/
theorem ResolveState.Sound.push (hst : st.Sound src) {key : String}
    (hfree : st.chain.any (·.1 == key) = false) (hroom : st.chain.length < maxReferenceDepth)
    (name : String) : (st.push key name).Sound src := by
  have hkey : key ∉ st.chain.map (·.1) := by
    intro hmem
    obtain ⟨entry, hentry, hfst⟩ := List.mem_map.mp hmem
    have hdiffers := List.any_eq_false.mp hfree entry hentry
    simp [hfst] at hdiffers
  refine ⟨?_, ?_, hst.loadedFrom⟩
  · rw [ResolveState.push_chain, List.map_append, List.map_singleton, List.nodup_append]
    refine ⟨hst.keys_nodup, List.nodup_cons.mpr ⟨List.not_mem_nil, List.nodup_nil⟩, ?_⟩
    rintro k hk k' hk' rfl
    have hk_key : k = key := List.mem_singleton.mp hk'
    subst hk_key
    exact hkey hk
  · rw [ResolveState.push_chain, List.length_append, List.length_singleton]
    omega

/-- The state a reference pushes onto: loading the section kept the chain the two checks passed
on, so the source may be pushed. -/
theorem ResolveState.Sound.push_checked {st : ResolveState} (hst₁ : st₁.Sound src)
    (hchain₁ : st₁.chain = st.chain) {key : String} (hcycle : ¬ st.chain.any (·.1 == key) = true)
    (hroom : st.chain.length < maxReferenceDepth) (name : String) :
    (st₁.push key name).Sound src :=
  hst₁.push (by rw [hchain₁]; exact Bool.eq_false_iff.mpr hcycle) (by rw [hchain₁]; exact hroom)
    name

/-- Popping keeps a state in order. -/
theorem ResolveState.Sound.pop (hst : st.Sound src) : st.pop.Sound src := by
  refine ⟨?_, ?_, hst.loadedFrom⟩
  · rw [ResolveState.pop_chain, List.map_dropLast]
    exact hst.keys_nodup.sublist (List.dropLast_sublist _)
  · rw [ResolveState.pop_chain, List.length_dropLast]
    exact Nat.le_trans (Nat.sub_le _ _) hst.length_le

/-- A success that leaves the state as it found it leaves it in order. -/
theorem Leaves.of_ok_self (hst : st.Sound src) (a : α) :
    Leaves src st (.ok a st : EStateM.Result CompileError ResolveState α) :=
  ⟨hst, List.prefix_refl _, rfl⟩

/-- A failure that leaves the state as it found it leaves it in order. -/
theorem Leaves.of_error_self (hst : st.Sound src) (e : CompileError) :
    Leaves src st (.error e st : EStateM.Result CompileError ResolveState α) :=
  ⟨hst, List.prefix_refl _, .inl rfl⟩

/-- A run that goes on from where a successful run ended leaves the first state as it leaves
the second. -/
theorem Leaves.trans {a : α} (h₁ : Leaves src st (.ok a st₁))
    {r : EStateM.Result CompileError ResolveState β} (h₂ : Leaves src st₁ r) : Leaves src st r := by
  obtain ⟨-, hpre₁, hchain₁⟩ := h₁
  cases r with
  | ok b st₂ =>
    obtain ⟨hst₂, hpre₂, hchain₂⟩ := h₂
    exact ⟨hst₂, hpre₁.trans hpre₂, hchain₂.trans hchain₁⟩
  | error e st₂ =>
    obtain ⟨hst₂, hpre₂, hchain₂⟩ := h₂
    rw [hchain₁] at hchain₂
    exact ⟨hst₂, hpre₁.trans hpre₂, hchain₂⟩

/-- Popping the source a run was entered with: the chain is back as it was before the push after
a success, and after a failure it is that chain or has one entry more. -/
theorem Leaves.pop {key name : String} {res : Except CompileError α} {st' : ResolveState}
    (h : Leaves src (st.push key name) ((StackM.lift res).run st')) :
    Leaves src st ((StackM.lift res).run st'.pop) := by
  cases res with
  | ok a =>
    obtain ⟨hst', hpre, hchain⟩ := h
    refine ⟨hst'.pop, hpre, ?_⟩
    rw [ResolveState.pop_chain, hchain, ResolveState.push_chain, List.dropLast_concat]
  | error e =>
    obtain ⟨hst', hpre, hchain⟩ := h
    refine ⟨hst'.pop, hpre, ?_⟩
    rw [ResolveState.pop_chain, ResolveState.push_chain] at *
    rcases hchain with hchain | ⟨hmalformed, extra, hchain⟩
    · left
      rw [hchain, List.dropLast_concat]
    · right
      refine ⟨hmalformed, (key, name), ?_⟩
      rw [hchain, List.dropLast_concat]

namespace Keeps

/-- A pure step keeps the state in order. -/
theorem pure (a : α) : Keeps src (pure a : StackM α) :=
  fun _ hst => Leaves.of_ok_self hst a

/-- A failing step keeps the state in order. -/
theorem throw (e : CompileError) : Keeps src (throw e : StackM α) :=
  fun _ hst => Leaves.of_error_self hst e

/-- A lifted step keeps the state in order. -/
theorem lift (x : Except CompileError α) : Keeps src (StackM.lift x) := by
  cases x with
  | ok a => exact Keeps.pure a
  | error e => exact Keeps.throw e

/-- A step after a step that keeps the state in order keeps it too: a success leaves the chain
where the next step finds it. -/
theorem bind {x : StackM α} {f : α → StackM β} (hx : Keeps src x) (hf : ∀ a, Keeps src (f a)) :
    Keeps src (x >>= f) := by
  intro st hst
  have hrun := hx st hst
  rw [EStateM.run_bind]
  cases hr : x.run st with
  | ok a st₁ =>
    rw [hr] at hrun
    exact hrun.trans (hf a st₁ hrun.1)
  | error e st₁ =>
    rw [hr] at hrun
    exact hrun

/-- Running a step that keeps the state in order on each item of a list keeps it in order. -/
theorem mapM {f : RuleSpec → StackM Predicate} :
    ∀ items : List RuleSpec, (∀ s ∈ items, Keeps src (f s)) → Keeps src (items.mapM f)
  | [], _ => Keeps.pure []
  | s :: rest, h => by
    rw [List.mapM_cons]
    exact (h s List.mem_cons_self).bind fun p =>
      (mapM rest fun t ht => h t (List.mem_cons_of_mem s ht)).bind fun ps => Keeps.pure _

/-- Folding a group keeps the state in order when compiling each item does. -/
theorem foldGroup {f : RuleSpec → StackM Predicate} {allOf anyOf : Option (List RuleSpec)}
    (h : ∀ s ∈ allOf.getD [] ++ anyOf.getD [], Keeps src (f s)) :
    Keeps src (PostRules.foldGroup f allOf anyOf) := by
  rw [foldGroup_eq_mapM]
  exact (mapM _ fun s hs => h s (List.mem_append_left _ hs)).bind fun _ =>
    (mapM _ fun s hs => h s (List.mem_append_right _ hs)).bind fun _ => Keeps.pure _

end Keeps

end Keeps

/-! ## Resolution inside one source -/

section Level

variable {src : RuleSource} {mode : Mode} {deeper : RuleSpec → StackM Predicate}

/-- The `and` fold on the state is the monadic left fold of `andOf` over the items. -/
theorem stackLevelAll_eq_foldlM (acc : Predicate) (items : List RuleSpec) :
    stackLevelAll src mode deeper acc items =
      items.foldlM (fun acc s => andOf acc <$> stackLevel src mode deeper s) acc := by
  induction items generalizing acc with
  | nil => rfl
  | cons s rest ih =>
    rw [stackLevelAll.eq_2, List.foldlM_cons, map_eq_pure_bind, bind_assoc]
    simp only [pure_bind, ih]

/-- The `or` fold on the state is the monadic left fold of `orOf` over the items. -/
theorem stackLevelAny_eq_foldlM (acc : Predicate) (items : List RuleSpec) :
    stackLevelAny src mode deeper acc items =
      items.foldlM (fun acc s => orOf acc <$> stackLevel src mode deeper s) acc := by
  induction items generalizing acc with
  | nil => rfl
  | cons s rest ih =>
    rw [stackLevelAny.eq_2, List.foldlM_cons, map_eq_pure_bind, bind_assoc]
    simp only [pure_bind, ih]

/-- On the state as with the chain as an argument, a group is folded with `foldGroup`. -/
theorem stackLevel_group (allOf anyOf : Option (List RuleSpec)) :
    stackLevel src mode deeper (.group allOf anyOf) =
      foldGroup (stackLevel src mode deeper) allOf anyOf := by
  cases allOf <;> cases anyOf <;>
    simp [stackLevel, foldGroup, stackLevelAll_eq_foldlM, stackLevelAny_eq_foldlM]

/-- A spec that is neither a group nor a reference is compiled, without touching the state. -/
theorem stackLevel_of_plain {s : RuleSpec} (hs : s.IsPlain) :
    stackLevel src mode deeper s = StackM.lift (compileSpec mode s) := by
  match s, hs with
  | .group allOf anyOf, hs => exact absurd rfl (hs.1 allOf anyOf)
  | .reference name, hs => exact absurd rfl (hs.2 name)
  | .null, _ | .leaf _ _ _, _ | .other _, _ => rfl

end Level

/-- An item of a group is smaller than the group. -/
theorem sizeOf_lt_of_mem_items {s : RuleSpec} {allOf anyOf : Option (List RuleSpec)}
    (h : s ∈ allOf.getD [] ++ anyOf.getD []) : sizeOf s < sizeOf (RuleSpec.group allOf anyOf) := by
  simp only [RuleSpec.group.sizeOf_spec]
  rcases List.mem_append.mp h with h | h
  · have := sizeOf_lt_of_mem_getD h
    omega
  · have := sizeOf_lt_of_mem_getD h
    omega

/-! ## Every call keeps the state in order -/

section KeepsRuns

variable {src : RuleSource} {mode : Mode} {deeper : RuleSpec → StackM Predicate}
  {st : ResolveState}

/-- A section the source gave for a name may be kept under the name's key. -/
theorem LoadedFrom.remember {σ : Loaded} (hσ : LoadedFrom src σ) {name : String} {s : RuleSection}
    (hload : src.load name = .ok s) : LoadedFrom src (σ ++ [(src.key name, s)]) := by
  intro key t ht
  rcases List.mem_append.mp ht with ht | ht
  · exact hσ key t ht
  · obtain ⟨rfl, rfl⟩ := Prod.mk.inj (List.mem_singleton.mp ht)
    exact ⟨name, rfl, hload⟩

/-- Finding or loading a section keeps the state in order: a fresh load is what the source gave,
kept after the sections loaded before. -/
theorem loadOnStack_keeps (name : String) : Keeps src (loadOnStack src name) := by
  intro st hst
  rw [loadOnStack_run]
  cases st.loaded.lookup (src.key name) with
  | some s => exact Leaves.of_ok_self hst s
  | none =>
    cases hload : src.load name with
    | error e => exact Leaves.of_error_self hst e
    | ok s =>
      exact ⟨⟨hst.keys_nodup, hst.length_le, hst.loadedFrom.remember hload⟩,
        List.prefix_append _ _, rfl⟩

/-- How an entry ends, from a state in order: reading its value failed the step with a malformed
group, which left the state alone, or the step gave how the entry ended and left the state as a
step that ended so may. -/
theorem entryOutcome_leaves (hdeeper : ∀ spec, Keeps src (deeper spec)) (name : String)
    (s : RuleSection) (hst : st.Sound src) :
    (∃ e, (entryOutcome mode deeper name s).run st = .error e st ∧ e.isMalformedGroup = true) ∨
      ∃ res st', (entryOutcome mode deeper name s).run st = .ok res st' ∧
        Leaves src st ((StackM.lift res).run st') := by
  rw [entryOutcome_run]
  cases s.entry with
  | none => exact .inr ⟨_, st, rfl, Leaves.of_error_self hst _⟩
  | some entry =>
    cases entry with
    | rules v =>
      dsimp only
      cases hv : RuleSpec.ofValue v with
      | error e => exact .inl ⟨e, rfl, ofValue_failsWith v e hv⟩
      | ok spec =>
        right
        have hrun := hdeeper spec st hst
        dsimp only
        rw [StackM.outcome_run]
        cases hr : (deeper spec).run st with
        | ok p st' =>
          rw [hr] at hrun
          exact ⟨.ok p, st', rfl, hrun⟩
        | error e st' =>
          rw [hr] at hrun
          exact ⟨.error e, st', rfl, hrun⟩
    | rule v =>
      dsimp only
      cases hv : RuleSpec.ofValue v with
      | error e => exact .inl ⟨e, rfl, ofValue_failsWith v e hv⟩
      | ok spec => exact .inr ⟨compileSpec mode spec, st, rfl, Keeps.lift _ st hst⟩

/-- **Entering a source keeps the state in order** when resolving its `Rules` does. After a
success the source is popped and the chain is as the call found it. After a failure the chain is
that chain, or that chain with one entry more: reading the entry's value fails before the pop,
with a malformed group. -/
theorem enterSource_keeps (hdeeper : ∀ spec, Keeps src (deeper spec)) (name : String) :
    Keeps src (enterSource src mode deeper name) := by
  intro st hst
  rw [enterSource_run]
  by_cases hcycle : st.chain.any (·.1 == src.key name) = true
  · rw [if_pos hcycle]
    exact Leaves.of_error_self hst _
  rw [if_neg hcycle]
  by_cases hdepth : maxReferenceDepth ≤ st.chain.length
  · rw [if_pos hdepth]
    exact Leaves.of_error_self hst _
  rw [if_neg hdepth]
  have hload := loadOnStack_keeps name st hst
  cases hl : (loadOnStack src name).run st with
  | error e st₁ =>
    rw [hl] at hload
    exact hload
  | ok s st₁ =>
    rw [hl] at hload
    dsimp only
    obtain ⟨hst₁, hpre₁, hchain₁⟩ := hload
    have hpushed := hst₁.push_checked hchain₁ hcycle (Nat.lt_of_not_le hdepth) name
    rcases entryOutcome_leaves hdeeper name s hpushed with
      ⟨e, he, hmalformed⟩ | ⟨res, st₂, he, hentry⟩
    · -- the entry's value did not read: the error comes back with the source still pushed
      rw [he]
      exact ⟨hpushed, hpre₁,
        .inr ⟨hmalformed, (src.key name, name), by rw [ResolveState.push_chain, hchain₁]⟩⟩
    · rw [he]
      exact (show Leaves src st (.ok s st₁) from ⟨hst₁, hpre₁, hchain₁⟩).trans hentry.pop

/-- Resolution inside one source keeps the state in order when resolving a source's `Rules`
one level down does. -/
theorem stackLevel_keeps (hdeeper : ∀ spec, Keeps src (deeper spec)) :
    ∀ spec, Keeps src (stackLevel src mode deeper spec)
  | .group allOf anyOf => by
    rw [stackLevel_group]
    exact Keeps.foldGroup fun s _ => stackLevel_keeps hdeeper s
  | .reference name => enterSource_keeps hdeeper name
  | .null | .leaf _ _ _ | .other _ => by
    rw [stackLevel_of_plain ⟨by simp, by simp⟩]
    exact Keeps.lift _
termination_by spec => sizeOf spec
decreasing_by exact sizeOf_lt_of_mem_items ‹_›

/-- **Every call of resolution keeps the state in order**, at every level and from every state in
order: the keys on the chain stay distinct, the chain no longer than `maxReferenceDepth`, the
loaded sections only grow, by sections the source gave for a name of their key, and a call that
succeeds leaves the chain as it found it. -/
theorem stackWithin_keeps (src : RuleSource) (mode : Mode) :
    ∀ levels spec, Keeps src (stackWithin src mode levels spec)
  | 0, _ => Keeps.throw _
  | levels + 1, spec => stackLevel_keeps (stackWithin_keeps src mode levels) spec

/-- A whole resolution, from the fresh state, ends in a state in order: after a success the chain
is empty again, and after a failure it is empty or holds one source. -/
theorem resolveOnStack_leaves (src : RuleSource) (mode : Mode) (spec : RuleSpec) :
    Leaves src .fresh (resolveOnStack src mode spec) :=
  stackWithin_keeps src mode _ spec .fresh ResolveState.sound_fresh

end KeepsRuns

/-! ## The same answers as with the chain as an argument -/

/-- A run on the state ends as a run with the chain as an argument, from the state's loaded
sections: with the same value and the same loaded sections, or with the same error. -/
def Agrees {α : Type} :
    EStateM.Result CompileError ResolveState α → Except CompileError (α × Loaded) → Prop
  | .ok a st', .ok (b, σ') => a = b ∧ st'.loaded = σ'
  | .error e _, .error e' => e = e'
  | _, _ => False

/-- `x` runs on every state in order whose chain is `chain` as `y` runs on that state's loaded
sections. -/
def RunsAs (src : RuleSource) (chain : List (String × String)) {α : Type} (x : StackM α)
    (y : ResolveM α) : Prop :=
  ∀ st, st.Sound src → st.chain = chain → Agrees (x.run st) (y st.loaded)

section Agreement

variable {src : RuleSource} {mode : Mode} {chain : List (String × String)} {α β : Type}

/-- A chain of two resolution steps runs the second from where the first ended, or fails as the
first. -/
theorem resolveM_bind_run (y : ResolveM α) (g : α → ResolveM β) (σ : Loaded) :
    (y >>= g) σ = match y σ with
      | .ok (a, σ') => g a σ'
      | .error e => .error e := by
  show StateT.bind y g σ = _
  simp only [StateT.bind, bind, Except.bind]
  cases y σ <;> rfl

/-- A step that may fail ends alike on the state and on its loaded sections. -/
theorem agrees_lift (x : Except CompileError α) (st : ResolveState) :
    Agrees ((StackM.lift x).run st) (ResolveM.lift x st.loaded) := by
  cases x with
  | ok a => exact ⟨rfl, rfl⟩
  | error e => rfl

namespace RunsAs

/-- No state in order has a chain longer than `maxReferenceDepth`. -/
theorem of_long (h : maxReferenceDepth < chain.length) (x : StackM α) (y : ResolveM α) :
    RunsAs src chain x y := by
  intro st hst hchain
  have := hst.length_le
  rw [hchain] at this
  omega

/-- Pure steps give the same value on the state and with the chain as an argument. -/
theorem pure (a : α) : RunsAs src chain (Pure.pure a) (Pure.pure a) :=
  fun _ _ _ => ⟨rfl, rfl⟩

/-- Lifted steps end alike on the state and with the chain as an argument. -/
theorem lift (x : Except CompileError α) : RunsAs src chain (StackM.lift x) (ResolveM.lift x) :=
  fun st _ _ => agrees_lift x st

/-- Two steps run alike when their first steps do and then their second steps do, the first
step on the state keeping it in order. -/
theorem bind {x : StackM α} {y : ResolveM α} {f : α → StackM β} {g : α → ResolveM β}
    (hkeeps : Keeps src x) (hx : RunsAs src chain x y) (hf : ∀ a, RunsAs src chain (f a) (g a)) :
    RunsAs src chain (x >>= f) (y >>= g) := by
  intro st hst hchain
  have hleaves := hkeeps st hst
  have hagree := hx st hst hchain
  rw [EStateM.run_bind, resolveM_bind_run]
  cases hr : x.run st with
  | ok a st₁ =>
    rw [hr] at hleaves hagree
    cases hy : y st.loaded with
    | error e => rw [hy] at hagree; exact hagree.elim
    | ok r =>
      obtain ⟨b, σ₁⟩ := r
      rw [hy] at hagree
      obtain ⟨rfl, rfl⟩ := hagree
      exact hf a st₁ hleaves.1 (hleaves.2.2.trans hchain)
  | error e st₁ =>
    rw [hr] at hagree
    cases hy : y st.loaded with
    | error e' => rw [hy] at hagree; exact hagree
    | ok r => rw [hy] at hagree; exact hagree.elim

/-- Steps that keep the state in order and run alike on each item of a list run alike on the
whole list. -/
theorem mapM {f : RuleSpec → StackM Predicate} {g : RuleSpec → ResolveM Predicate} :
    ∀ items : List RuleSpec, (∀ s ∈ items, Keeps src (f s)) →
      (∀ s ∈ items, RunsAs src chain (f s) (g s)) →
      RunsAs src chain (items.mapM f) (items.mapM g)
  | [], _, _ => RunsAs.pure []
  | s :: rest, hkeeps, hruns => by
    rw [List.mapM_cons, List.mapM_cons]
    have hkeepsRest := fun t ht => hkeeps t (List.mem_cons_of_mem s ht)
    exact bind (hkeeps s List.mem_cons_self) (hruns s List.mem_cons_self) fun p =>
      bind (Keeps.mapM rest hkeepsRest)
        (mapM rest hkeepsRest fun t ht => hruns t (List.mem_cons_of_mem s ht))
        fun ps => RunsAs.pure _

/-- Groups fold alike when their items compile alike. -/
theorem foldGroup {f : RuleSpec → StackM Predicate} {g : RuleSpec → ResolveM Predicate}
    {allOf anyOf : Option (List RuleSpec)}
    (hkeeps : ∀ s ∈ allOf.getD [] ++ anyOf.getD [], Keeps src (f s))
    (hruns : ∀ s ∈ allOf.getD [] ++ anyOf.getD [], RunsAs src chain (f s) (g s)) :
    RunsAs src chain (PostRules.foldGroup f allOf anyOf) (PostRules.foldGroup g allOf anyOf) := by
  rw [foldGroup_eq_mapM, foldGroup_eq_mapM]
  have hkeepsAll := fun s hs => hkeeps s (List.mem_append_left (anyOf.getD []) hs)
  have hkeepsAny := fun s hs => hkeeps s (List.mem_append_right (allOf.getD []) hs)
  exact bind (Keeps.mapM _ hkeepsAll)
    (mapM _ hkeepsAll fun s hs => hruns s (List.mem_append_left _ hs)) fun _ =>
      bind (Keeps.mapM _ hkeepsAny)
        (mapM _ hkeepsAny fun s hs => hruns s (List.mem_append_right _ hs)) fun _ =>
          RunsAs.pure _

end RunsAs

/-- Finding or loading a section runs alike on the state and with the chain as an argument. -/
theorem loadOnStack_runsAs (name : String) :
    RunsAs src chain (loadOnStack src name) (loadSection src name) := by
  intro st _ _
  rw [loadOnStack_run, loadSection_run]
  cases st.loaded.lookup (src.key name) with
  | some s => exact ⟨rfl, rfl⟩
  | none =>
    cases src.load name with
    | ok s => exact ⟨rfl, rfl⟩
    | error e => rfl

/-- A section's entry, resolved with its source pushed and then popped, ends as the section step
of resolution with the chain as an argument, when the `Rules` of a source resolves alike one
level down. -/
theorem entry_agrees {deeper : RuleSpec → StackM Predicate} {name : String} {s : RuleSection}
    {st₁ : ResolveState} (hpushed : (st₁.push (src.key name) name).Sound src)
    (hdeeper : ∀ spec, RunsAs src (st₁.chain ++ [(src.key name, name)]) (deeper spec)
      (resolveSpec src mode (st₁.chain ++ [(src.key name, name)]) spec)) :
    Agrees
      (match (entryOutcome mode deeper name s).run (st₁.push (src.key name) name) with
        | .ok r st₂ => (StackM.lift r).run st₂.pop
        | .error e st₂ => .error e st₂)
      (sectionStep src mode st₁.chain name s st₁.loaded) := by
  rw [entryOutcome_run]
  unfold sectionStep
  cases s.entry with
  | none => rfl
  | some entry =>
    cases entry with
    | rules v =>
      dsimp only
      cases RuleSpec.ofValue v with
      | error e => rfl
      | ok spec =>
        dsimp only [ResolveM.lift]
        rw [pure_bind]
        have hdeep := hdeeper spec _ hpushed rfl
        rw [ResolveState.push_loaded] at hdeep
        rw [StackM.outcome_run]
        -- the pop changes only the chain, which agreement does not look at
        generalize resolveSpec src mode _ spec st₁.loaded = y at hdeep ⊢
        cases hr : (deeper spec).run (st₁.push (src.key name) name) <;> rw [hr] at hdeep <;>
          rcases y with e | ⟨b, σ⟩ <;> exact hdeep
    | rule v =>
      dsimp only
      cases RuleSpec.ofValue v with
      | error e => rfl
      | ok spec =>
        dsimp only
        exact agrees_lift (compileSpec mode spec) _

/-- **A reference runs alike** on the state and with the chain as an argument, when the `Rules` of
a source resolves alike one level down. -/
theorem enterSource_runsAs {deeper : RuleSpec → StackM Predicate} {name : String}
    (hdeeper : chain.length < maxReferenceDepth → ∀ spec,
      RunsAs src (chain ++ [(src.key name, name)]) (deeper spec)
        (resolveSpec src mode (chain ++ [(src.key name, name)]) spec)) :
    RunsAs src chain (enterSource src mode deeper name)
      (resolveSpec src mode chain (.reference name)) := by
  intro st hst hchain
  subst hchain
  rw [enterSource_run, resolveSpec_reference]
  by_cases hcycle : st.chain.any (·.1 == src.key name) = true
  · rw [if_pos hcycle, if_pos hcycle]
    rfl
  rw [if_neg hcycle, if_neg hcycle]
  by_cases hdepth : maxReferenceDepth ≤ st.chain.length
  · rw [if_pos hdepth, if_neg (Nat.not_lt.mpr hdepth)]
    rfl
  have hroom : st.chain.length < maxReferenceDepth := Nat.lt_of_not_le hdepth
  rw [if_neg hdepth, if_pos hroom, resolveM_bind_run]
  have hload := loadOnStack_keeps name st hst
  have hagree := loadOnStack_runsAs name st hst rfl
  cases hl : (loadOnStack src name).run st with
  | error e st₁ =>
    rw [hl] at hagree
    cases hs : loadSection src name st.loaded with
    | error e' =>
      rw [hs] at hagree
      exact hagree
    | ok r =>
      rw [hs] at hagree
      exact hagree.elim
  | ok s st₁ =>
    rw [hl] at hload hagree
    cases hs : loadSection src name st.loaded with
    | error e' => rw [hs] at hagree; exact hagree.elim
    | ok r =>
      obtain ⟨s', σ₁⟩ := r
      rw [hs] at hagree
      obtain ⟨rfl, rfl⟩ := hagree
      obtain ⟨hst₁, -, hchain₁⟩ := hload
      dsimp only
      have hpushed := hst₁.push_checked hchain₁ hcycle hroom name
      rw [← hchain₁]
      exact entry_agrees hpushed (hchain₁ ▸ hdeeper hroom)

/-- **Resolution on the state gives the answers of resolution with the chain as an argument**:
from every state in order, with levels enough that no source is entered at the last, the same
value and loaded sections, or the same error. -/
theorem stackWithin_runsAs (src : RuleSource) (mode : Mode) :
    ∀ chain spec levels, maxReferenceDepth < chain.length + levels →
      RunsAs src chain (stackWithin src mode levels spec) (resolveSpec src mode chain spec) := by
  refine resolution_induction src ?group ?reference ?plain
  case group =>
    intro chain allOf anyOf ihAll ihAny levels hlevels
    cases levels with
    | zero => exact RunsAs.of_long hlevels _ _
    | succ levels =>
      rw [stackWithin, stackLevel_group, resolveSpec_group_eq_foldGroup]
      refine RunsAs.foldGroup (fun s _ => stackLevel_keeps (stackWithin_keeps src mode levels) s)
        fun s hs => ?_
      rcases List.mem_append.mp hs with hs | hs
      · exact ihAll s hs (levels + 1) hlevels
      · exact ihAny s hs (levels + 1) hlevels
  case reference =>
    intro chain name ih levels hlevels
    cases levels with
    | zero => exact RunsAs.of_long hlevels _ _
    | succ levels =>
      rw [stackWithin, stackLevel.eq_3]
      refine enterSource_runsAs fun hroom spec => ih hroom spec levels ?_
      rw [List.length_append, List.length_singleton]
      omega
  case plain =>
    intro chain s hs levels hlevels
    cases levels with
    | zero => exact RunsAs.of_long hlevels _ _
    | succ levels =>
      rw [stackWithin, stackLevel_of_plain hs, resolveSpec_of_plain hs]
      exact RunsAs.lift _

/-- The resolver's run on its own state gives the answer of `resolveSpec` from no chain and no
loaded sections. -/
theorem resolveOnStack_agrees (src : RuleSource) (mode : Mode) (spec : RuleSpec) :
    Agrees (resolveOnStack src mode spec) (resolveSpec src mode [] spec []) :=
  stackWithin_runsAs src mode [] spec _ (by simp [maxReferenceDepth]) .fresh
    ResolveState.sound_fresh rfl

end Agreement

/-! ## How a call leaves the state -/

/-- **Every call of resolution leaves the state in order**, at every level and from every state
in order: the keys on the chain distinct, the chain no longer than `maxReferenceDepth`, and the
loaded sections kept, extended only by sections the source gave for a name of their key. A call
that succeeds leaves the chain as it found it; a call that fails leaves it so, or, when it fails
with a malformed group, with one entry more. -/
theorem stackWithin_state_discipline (src : RuleSource) (mode : Mode) (levels : Nat)
    (spec : RuleSpec) {st : ResolveState} (hst : st.Sound src) :
    (∀ p st', (stackWithin src mode levels spec).run st = .ok p st' →
      st'.Sound src ∧ st.loaded <+: st'.loaded ∧ st'.chain = st.chain) ∧
    (∀ e st', (stackWithin src mode levels spec).run st = .error e st' →
      st'.Sound src ∧ st.loaded <+: st'.loaded ∧
        (st'.chain = st.chain ∨
          e.isMalformedGroup = true ∧ ∃ entry, st'.chain = st.chain ++ [entry])) := by
  have hleaves := stackWithin_keeps src mode levels spec st hst
  constructor
  · intro p st' hrun
    rw [hrun] at hleaves
    exact hleaves
  · intro e st' hrun
    rw [hrun] at hleaves
    exact hleaves

/-- A source `a` whose `Rules` has an `and` that is not a list. -/
def malformedGroupSource : RuleSource :=
  memorySource [("a", { rules := .mapping [(.string "and", .string "x")] })]

/-- Resolving `a` from the fresh state fails, in a state in order whose chain still holds `a`. -/
theorem stackWithin_state_discipline_malformed_group :
    ResolveState.fresh.Sound malformedGroupSource ∧
      ∃ e st', (stackWithin malformedGroupSource .strict (maxReferenceDepth + 1)
          (.reference "a")).run .fresh = .error e st' ∧
        st'.Sound malformedGroupSource ∧ st'.chain = [("a", "a")] :=
  ⟨ResolveState.sound_fresh, _, _, rfl,
    ((stackWithin_state_discipline malformedGroupSource .strict (maxReferenceDepth + 1)
      (.reference "a") ResolveState.sound_fresh).2 _ _ rfl).1, rfl⟩

/-! ## A failing read leaves its source on the chain -/

/-- Entering a source whose `Rules` has an `and` that is not a list fails before the source is
popped: the call leaves the chain with the source on it, whatever resolves the `Rules`. -/
theorem enterSource_leaves_entry (mode : Mode) (deeper : RuleSpec → StackM Predicate) :
    (enterSource malformedGroupSource mode deeper "a").run .fresh =
      .error (.malformedGroup "and")
        ⟨[("a", "a")], [("a", { rules := .mapping [(.string "and", .string "x")] })]⟩ := by
  rfl

/-- Resolving a reference to such a source, as the resolver does from a fresh state, fails with
the source left on the chain. -/
theorem resolveOnStack_leaves_entry :
    resolveOnStack malformedGroupSource .strict (.reference "a") =
      .error (.malformedGroup "and")
        ⟨[("a", "a")], [("a", { rules := .mapping [(.string "and", .string "x")] })]⟩ := by
  rfl

end PostRules
