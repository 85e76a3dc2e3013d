import PostRules.Proofs.Meaning

/-!
# Which error a rule reports

A rule written as a YAML value is compiled in two passes, each stopping at its first failure.
Reading the value into a spec fails only at a group whose `and` or `or` is not a list; compiling
the spec fails only at a leaf whose value does not build, or, in strict mode, whose kind is
unknown. Both passes reach the places of the rule in one order: tags looked through, a group's
whole `and` list before its `or` list, the items of a list in turn.

`Value.sites` lists those places in that order: the group entries that are not lists, and the
leaves with the kind they name. The error a rule reports is the first malformed group on that
list, even where a failing leaf comes before it; where there is none, the error of the first
leaf that fails; and where neither exists the rule compiles (`compileValue_reports_first_fault`).

The proof follows the two passes. Reading reports the first malformed group and otherwise gives
a spec with the same places (`RuleSpec.ofValue_readsAs`); compiling a spec reports the fault of
its first failing leaf, whatever the accumulator of a fold (`compileSpec_errorOf`).
-/

namespace PostRules

open Yaml

/-! ## The error of a step -/

section ErrorOf

variable {ε α β : Type}

/-- The error a step fails with, if it fails. -/
def errorOf : Except ε α → Option ε
  | .ok _ => none
  | .error e => some e

/-- A step that succeeds fails with no error. -/
@[simp] theorem errorOf_ok (a : α) : errorOf (.ok a : Except ε α) = none := rfl

/-- A step that fails fails with its error. -/
@[simp] theorem errorOf_error (e : ε) : errorOf (.error e : Except ε α) = some e := rfl

/-- A step fails with `e` exactly when it is the failure with `e`. -/
theorem errorOf_eq_some_iff {x : Except ε α} {e : ε} : errorOf x = some e ↔ x = .error e := by
  cases x <;> simp [errorOf]

/-- A step fails with no error exactly when it succeeds. -/
theorem errorOf_eq_none_iff {x : Except ε α} : errorOf x = none ↔ ∃ a, x = .ok a := by
  cases x <;> simp [errorOf]

/-- A chain of steps whose second step fails alike from every value fails with the first
step's error, else with the second's. -/
theorem errorOf_bind_congr {x : Except ε α} {f : α → Except ε β} {e₁ e₂ : Option ε}
    (hx : errorOf x = e₁) (hf : ∀ a, errorOf (f a) = e₂) : errorOf (x >>= f) = e₁.or e₂ := by
  subst hx
  cases x with
  | error e₀ => rfl
  | ok a => exact hf a

/-- A step followed by a pure step fails as the step alone. -/
theorem errorOf_bind_pure (x : Except ε α) (f : α → β) :
    errorOf (x >>= fun a => pure (f a)) = errorOf x := by
  cases x <;> rfl

/-- Mapping a step's value keeps its error. -/
theorem errorOf_map (f : α → β) (x : Except ε α) : errorOf (f <$> x) = errorOf x := by
  cases x <;> rfl

end ErrorOf

/-! ## The places a rule may fail -/

/-- A place where compiling a rule may fail. -/
inductive Site where
  /-- A group's entry under `key` whose value is not a list. -/
  | group (key : String)
  /-- A leaf, with the kind its type names and its value. -/
  | leaf (kind : String) (value : Value)

namespace Site

/-- The key of a group entry that is not a list. -/
def groupKey? : Site → Option String
  | .group key => some key
  | .leaf _ _ => none

/-- Why a leaf does not compile: its value does not build for its known kind, or, in strict
mode, its kind is unknown. -/
def fault (mode : Mode) : Site → Option CompileError
  | .group _ => none
  | .leaf kind v =>
    match LeafKind.ofName? kind with
    | some k => errorOf (buildLeaf k v)
    | none =>
      match mode with
      | .strict => some (.unknownLeafType kind ((LeafKind.closest kind).map (·.name)))
      | .permissive => none

end Site

/-- The kind a leaf's type names: the type without a leading negation mark. -/
def RuleSpec.typeKind (type : String) : String :=
  if type.startsWith (String.singleton negationMark) then (type.drop 1).toString else type

/-- A leaf as written is read with its type stripped of a negation mark, whichever the mark. -/
theorem RuleSpec.leafOf_eq (type : String) (v : Value) :
    ∃ negated, leafOf type v = .leaf negated (typeKind type) v := by
  unfold leafOf typeKind
  split
  · exact ⟨true, rfl⟩
  · exact ⟨false, rfl⟩

mutual

/-- The places of a rule written as a value, in the order reading and compiling reach them. -/
def Yaml.Value.sites : Value → List Site
  | .mapping es =>
    match Value.groupSites "and" es, Value.groupSites "or" es with
    | none, none =>
      match Value.lookup es (.string "type"), Value.lookup es (.string "value") with
      | some (.string t), some v => [.leaf (RuleSpec.typeKind t) v]
      | _, _ => []
    | a, o => a.getD [] ++ o.getD []
  | .tagged _ v => Value.sites v
  | .null | .bool _ | .number _ | .string _ | .sequence _ => []

/-- The places of a list of rules, in order. -/
def Yaml.Value.sitesList : List Value → List Site
  | [] => []
  | v :: vs => Value.sites v ++ Value.sitesList vs

/-- The places under the first entry of a mapping with key `key`, if there is one: those of its
rules, or the entry itself when its value is not a list. -/
def Yaml.Value.groupSites (key : String) : List (Value × Value) → Option (List Site)
  | [] => none
  | (k, v) :: rest =>
    if Value.beq k (.string key) then
      some (match v with
        | .sequence items => Value.sitesList items
        | _ => [.group key])
    else Value.groupSites key rest

end

mutual

/-- The leaves of a spec, in the order compiling reaches them. -/
def RuleSpec.sites : RuleSpec → List Site
  | .leaf _ kind v => [.leaf kind v]
  | .group allOf anyOf => RuleSpec.sitesOf allOf ++ RuleSpec.sitesOf anyOf
  | .null | .reference _ | .other _ => []

/-- The leaves of the items of an optional list. -/
def RuleSpec.sitesOf : Option (List RuleSpec) → List Site
  | none => []
  | some items => RuleSpec.sitesList items

/-- The leaves of a list of specs, in order. -/
def RuleSpec.sitesList : List RuleSpec → List Site
  | [] => []
  | s :: rest => s.sites ++ RuleSpec.sitesList rest

end

/-- The error compiling a value reports, if any: the first group entry that is not a list, else
the fault of the first leaf that fails. -/
def Yaml.Value.firstFault (mode : Mode) (v : Value) : Option CompileError :=
  match v.sites.findSome? Site.groupKey? with
  | some key => some (.malformedGroup key)
  | none => v.sites.findSome? (Site.fault mode)

/-! ## Reading reports the first malformed group -/

namespace RuleSpec

/-- Reading with places `l`: it fails at the first malformed group of `l`, and where `l` has none
it gives a result whose places are `l`. -/
def ReadsAs {α : Type} (sites : α → List Site) (x : Except CompileError α) (l : List Site) :
    Prop :=
  match l.findSome? Site.groupKey? with
  | some key => x = .error (.malformedGroup key)
  | none => ∃ a, x = .ok a ∧ sites a = l

/-- A reading that gives a result without places has no places. -/
theorem ReadsAs.of_ok {α : Type} {sites : α → List Site} (a : α) (ha : sites a = []) :
    ReadsAs sites (.ok a) [] :=
  ⟨a, rfl, ha⟩

/-- Two readings in turn, their results combined, read with the places of both in turn. -/
theorem ReadsAs.pair {α β γ : Type} {sa : α → List Site} {sb : β → List Site}
    {sc : γ → List Site} {x : Except CompileError α} {y : Except CompileError β}
    {l₁ l₂ : List Site} {g : α → β → γ} (hx : ReadsAs sa x l₁) (hy : ReadsAs sb y l₂)
    (hg : ∀ a b, sc (g a b) = sa a ++ sb b) :
    ReadsAs sc (do let a ← x; let b ← y; pure (g a b)) (l₁ ++ l₂) := by
  unfold ReadsAs at hx hy ⊢
  rw [List.findSome?_append]
  cases h₁ : l₁.findSome? Site.groupKey? with
  | some key =>
    rw [h₁] at hx
    rw [hx]
    rfl
  | none =>
    rw [h₁] at hx
    obtain ⟨a, rfl, ha⟩ := hx
    cases h₂ : l₂.findSome? Site.groupKey? with
    | some key =>
      rw [h₂] at hy
      rw [hy]
      rfl
    | none =>
      rw [h₂] at hy
      obtain ⟨b, rfl, hb⟩ := hy
      exact ⟨g a b, rfl, by rw [hg, ha, hb]⟩

/-- An optional list of rules is read with the places of its rules, or none when it is absent. -/
theorem ReadsAs.optionMapM {r : Option (Except CompileError (List RuleSpec))}
    {l : Option (List Site)} (h : Option.Rel (ReadsAs sitesList) r l) :
    ReadsAs sitesOf (r.mapM id) (l.getD []) := by
  cases h with
  | none => exact .of_ok none rfl
  | some h =>
    rename_i x l
    show ReadsAs sitesOf (Option.mapM id (some x)) l
    unfold ReadsAs at h ⊢
    split at h
    · rw [h]
      rfl
    · obtain ⟨items, rfl, hitems⟩ := h
      exact ⟨some items, rfl, hitems⟩

/-- A leaf is read with its one place. -/
theorem readsAs_leafOf (type : String) (v : Value) :
    ReadsAs sites (.ok (leafOf type v)) [.leaf (typeKind type) v] := by
  obtain ⟨negated, h⟩ := leafOf_eq type v
  exact ⟨_, rfl, by rw [h]; rfl⟩

mutual

/-- Reading a value fails at its first malformed group, and otherwise gives a spec with the same
places. -/
theorem ofValue_readsAs (v : Value) : ReadsAs sites (ofValue v) v.sites := by
  match v with
  | .null => exact .of_ok RuleSpec.null rfl
  | .bool _ | .number _ | .sequence _ => exact .of_ok (RuleSpec.other _) rfl
  | .string name => exact .of_ok (RuleSpec.reference name) rfl
  | .tagged _ v =>
    rw [ofValue, Value.sites]
    exact ofValue_readsAs v
  | .mapping es =>
    rw [ofValue.eq_3, Value.sites.eq_1]
    -- the reader and the places look up the same entries
    have hand := listUnder_readsAs "and" es
    have hor := listUnder_readsAs "or" es
    revert hand hor
    generalize listUnder "and" es = a
    generalize listUnder "or" es = o
    generalize Value.groupSites "and" es = la
    generalize Value.groupSites "or" es = lo
    intro hand hor
    cases hand with
    | none =>
      cases hor with
      | none =>
        dsimp only
        generalize Value.lookup es (.string "type") = type
        generalize Value.lookup es (.string "value") = value
        -- a leaf needs a text type and a value; any other mapping is kept as it is
        cases type with
        | none => exact .of_ok (RuleSpec.other _) rfl
        | some tv =>
          cases tv with
          | string t =>
            cases value with
            | none => exact .of_ok (RuleSpec.other _) rfl
            | some v => exact readsAs_leafOf _ _
          | _ => exact .of_ok (RuleSpec.other _) rfl
      | some hor => exact (ReadsAs.optionMapM .none).pair (.optionMapM (.some hor)) fun _ _ => rfl
    | some hand =>
      exact (ReadsAs.optionMapM (.some hand)).pair (.optionMapM hor) fun _ _ => rfl

/-- Reading a list of rules fails at its first malformed group, else gives specs with the leaves of
the values, in order. -/
theorem ofValues_readsAs (vs : List Value) :
    ReadsAs sitesList (ofValues vs) (Value.sitesList vs) := by
  match vs with
  | [] => exact .of_ok [] rfl
  | v :: rest => exact (ofValue_readsAs v).pair (ofValues_readsAs rest) fun _ _ => rfl

/-- The list under a group's key reads as the places of that key's items. -/
theorem listUnder_readsAs (key : String) (es : List (Value × Value)) :
    Option.Rel (ReadsAs sitesList) (listUnder key es) (Value.groupSites key es) := by
  match es with
  | [] => exact .none
  | (k, v) :: rest =>
    rw [listUnder.eq_def, Value.groupSites.eq_def]
    dsimp only
    split
    · refine .some ?_
      match v with
      | .sequence items => exact ofValues_readsAs items
      | .null | .bool _ | .number _ | .string _ | .mapping _ | .tagged _ _ => rfl
    · exact listUnder_readsAs key rest

end

end RuleSpec

/-! ## Compiling reports the first failing leaf -/

/-- A leaf fails to compile with its fault, negated or not. -/
theorem compileLeaf_errorOf (mode : Mode) (negated : Bool) (kind : String) (v : Value) :
    errorOf (compileLeaf mode negated kind v) = (Site.leaf kind v).fault mode := by
  unfold compileLeaf
  dsimp only
  split
  · rename_i k hk
    rw [errorOf_bind_pure, errorOf_map]
    simp only [Site.fault, hk]
  · rename_i hk
    cases mode <;> simp only [Site.fault, hk] <;> rfl

mutual

/-- Compiling a spec fails with the fault of its first failing leaf. -/
theorem compileSpec_errorOf (mode : Mode) (s : RuleSpec) :
    errorOf (compileSpec mode s) = s.sites.findSome? (Site.fault mode) := by
  match s with
  | .null => rfl
  | .reference _ => rfl
  | .other _ => rfl
  | .leaf negated kind v =>
    rw [compileSpec, compileLeaf_errorOf]
    simp [RuleSpec.sites]
  | .group allOf anyOf =>
    rw [compileSpec_group_eq, RuleSpec.sites, List.findSome?_append]
    refine errorOf_bind_congr ?_ fun acc => ?_
    · match allOf with
      | some items => exact foldAll_errorOf mode _ items
      | none => rfl
    -- the `or` fold fails alike whatever the `and` fold gave
    · match anyOf with
      | some items => exact foldAny_errorOf mode acc items
      | none => rfl

/-- The `and` fold fails with the first fault among the leaves of its items, in order. -/
theorem foldAll_errorOf (mode : Mode) (acc : Predicate) (items : List RuleSpec) :
    errorOf (foldAll mode acc items) = (RuleSpec.sitesList items).findSome? (Site.fault mode) := by
  match items with
  | [] => rfl
  | s :: rest =>
    rw [foldAll, RuleSpec.sitesList, List.findSome?_append]
    exact errorOf_bind_congr (compileSpec_errorOf mode s) fun p =>
      foldAll_errorOf mode (andOf acc p) rest

/-- The `or` fold fails with the first fault among the leaves of its items, in order. -/
theorem foldAny_errorOf (mode : Mode) (acc : Predicate) (items : List RuleSpec) :
    errorOf (foldAny mode acc items) = (RuleSpec.sitesList items).findSome? (Site.fault mode) := by
  match items with
  | [] => rfl
  | s :: rest =>
    rw [foldAny, RuleSpec.sitesList, List.findSome?_append]
    exact errorOf_bind_congr (compileSpec_errorOf mode s) fun p =>
      foldAny_errorOf mode (orOf acc p) rest

end

/-! ## Main statement -/

/-- Compiling a value fails with its first fault, and only then. -/
theorem compileValue_errorOf (mode : Mode) (v : Value) :
    errorOf (compileValue mode v) = v.firstFault mode := by
  have hread := RuleSpec.ofValue_readsAs v
  unfold RuleSpec.ReadsAs at hread
  unfold compileValue Value.firstFault
  split at hread
  · rw [hread]
    rfl
  · obtain ⟨spec, hspec, hsites⟩ := hread
    rw [hspec]
    show errorOf (compileSpec mode spec >>= fun p => pure (CompiledRule.ofPredicate p)) = _
    rw [errorOf_bind_pure, compileSpec_errorOf, hsites]

/-- **Which error a rule reports.** Compiling a rule value fails exactly when it has a fault: a
group entry, reached through tags and the items of `and` and `or` lists, that is not a list, and
then with the first such entry's key, whatever leaves come before it; or else a leaf, reached in
the same order, whose value does not build or whose kind is unknown in strict mode, and then with
the error of the first such leaf. Otherwise it compiles. -/
theorem compileValue_reports_first_fault (mode : Mode) (v : Value) :
    (∀ e, compileValue mode v = .error e ↔ v.firstFault mode = some e) ∧
      (v.firstFault mode = none ↔ ∃ rule, compileValue mode v = .ok rule) := by
  constructor
  · intro e
    rw [← compileValue_errorOf, errorOf_eq_some_iff]
  · rw [← compileValue_errorOf, errorOf_eq_none_iff]

/-- A count leaf with no comparison comes first, but the `or` entry that is not a list is what
is reported. -/
example : compileValue .strict (.mapping [(.string "and", .sequence [.mapping
    [(.string "type", .string "like_count"), (.string "value", .string "ten")]]),
    (.string "or", .number (.nonNeg 5))]) = .error (.malformedGroup "or") := by
  rfl

end PostRules
