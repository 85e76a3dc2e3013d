import PostRules.Proofs.Outcomes
import PostRules.Proofs.Resolution

/-!
# Where the identity stands in a compiled rule

Every conjunction the compiler builds goes through `andOf`, every disjunction through `orOf`, and
both drop an identity on either side; a negation is built only around one leaf, which in
permissive mode is the identity when the leaf's kind is unknown. So in a compiled tree the
identity is the whole tree, or the child of a negation, and the latter only in permissive mode.

`Predicate.Proper m` says this of a tree other than the identity, and `Predicate.Shaped m` of any
tree compilation in mode `m` may give. Each builder keeps it (`shaped_andOf`, `shaped_orOf`,
`compileLeaf_shaped`), and from these it holds of compiled specs, resolved specs, rule values and
sections. `compiled_identity_placement` reads it off the tree's nodes and off its canonical text.

The canonical text writes a leaf's parameter as it is, so a leaf may print `Identity[]` itself
(a keyword leaf with that text); what the text says of the identity holds for trees whose leaves
do not (`identity_text_inside_keyword`).
-/

namespace PostRules

open Yaml

/-! ## The shape of a compiled tree -/

/-- A leaf the compiler builds: what some value gives for some kind. -/
def Leaf.Built (l : Leaf) : Prop :=
  ∃ k v, buildLeaf k v = .ok l

namespace Predicate

/-- `p.Proper m`: a tree compilation in mode `m` builds, other than the identity. Its leaves are
built leaves, conjunctions and disjunctions join two such trees, and a negation holds a built
leaf, or in permissive mode the identity. -/
def Proper (m : Mode) : Predicate → Prop
  | .identity => False
  | .leaf l => l.Built
  | .and l r => l.Proper m ∧ r.Proper m
  | .or l r => l.Proper m ∧ r.Proper m
  | .not q => (∃ l, q = .leaf l ∧ l.Built) ∨ (m = .permissive ∧ q = .identity)
  | .custom _ _ => False

/-- A tree compilation in mode `m` may give: the identity, or a proper tree. -/
def Shaped (m : Mode) (p : Predicate) : Prop :=
  p = .identity ∨ p.Proper m

variable {m : Mode}

/-- A tree in proper shape is not the identity. -/
theorem Proper.isIdentity_eq_false {p : Predicate} (h : p.Proper m) : p.isIdentity = false := by
  cases p <;> simp_all [Proper, isIdentity]

/-- The identity is in compiled shape. -/
theorem shaped_identity : identity.Shaped m := .inl rfl

/-- A tree in proper shape is in compiled shape. -/
theorem Proper.shaped {p : Predicate} (h : p.Proper m) : p.Shaped m := .inr h

end Predicate

open Predicate

section Builders

variable {m : Mode} {p q : Predicate}

/-- `andOf` keeps the compiled shape of its two sides. -/
theorem shaped_andOf (hp : p.Shaped m) (hq : q.Shaped m) : (andOf p q).Shaped m := by
  rcases hp with rfl | hp
  · exact hq
  rcases hq with rfl | hq
  · rw [andOf_identity_right]
    exact hp.shaped
  rw [andOf_of_not_identity hp.isIdentity_eq_false hq.isIdentity_eq_false]
  exact .inr ⟨hp, hq⟩

/-- `orOf` keeps the compiled shape of its two sides. -/
theorem shaped_orOf (hp : p.Shaped m) (hq : q.Shaped m) : (orOf p q).Shaped m := by
  rcases hp with rfl | hp
  · exact hq
  rcases hq with rfl | hq
  · rw [orOf_identity_right]
    exact hp.shaped
  rw [orOf_of_not_identity hp.isIdentity_eq_false hq.isIdentity_eq_false]
  exact .inr ⟨hp, hq⟩

/-- A leaf compiles to a built leaf, its negation, or in permissive mode the identity or its
negation. -/
theorem compileLeaf_shaped (negated : Bool) (kind : String) (v : Value) :
    Succeeds (compileLeaf m negated kind v) (Shaped m) := by
  unfold compileLeaf
  cases hk : LeafKind.ofName? kind with
  | some k =>
    have hbuilt :
        Succeeds (Predicate.leaf <$> buildLeaf k v) fun q => ∃ l, q = .leaf l ∧ l.Built :=
      Succeeds.map (fun l hl => hl) fun l hl => ⟨l, rfl, k, v, hl⟩
    refine hbuilt.bind fun inner hinner => .pure ?_
    obtain ⟨l, rfl, hl⟩ := hinner
    cases negated
    · exact Proper.shaped hl
    · exact Proper.shaped (.inl ⟨l, rfl, hl⟩)
  | none =>
    cases m with
    | strict =>
      intro p hp
      cases hp
    | permissive =>
      refine Succeeds.pure ?_
      cases negated
      · exact shaped_identity
      · exact Proper.shaped (.inr ⟨rfl, rfl⟩)

end Builders

/-! ## Compilation gives shaped trees -/

section Compile

variable {m : Mode}

/-- Every value of every step has the property that always holds. -/
theorem Succeeds.trivial {ε α : Type} (x : Except ε α) : Succeeds x fun _ => True :=
  fun _ _ => True.intro

mutual

/-- Every predicate the compiler gives for a spec is in compiled shape. -/
theorem compileSpec_shaped (s : RuleSpec) : Succeeds (compileSpec m s) (Shaped m) := by
  match s with
  | .null | .reference _ | .other _ => exact .pure shaped_identity
  | .leaf negated kind v => exact compileLeaf_shaped negated kind v
  | .group allOf anyOf =>
    rw [compileSpec_group_eq]
    refine Succeeds.bind ?_ fun acc (hacc : acc.Shaped m) => ?_
    · match allOf with
      | some items => exact foldAll_shaped shaped_identity items
      | none => exact .pure shaped_identity
    · match anyOf with
      | some items => exact foldAny_shaped hacc items
      | none => exact .pure hacc

/-- The `and` fold from a tree in compiled shape gives trees in compiled shape. -/
theorem foldAll_shaped {acc : Predicate} (hacc : acc.Shaped m) (items : List RuleSpec) :
    Succeeds (foldAll m acc items) (Shaped m) := by
  match items with
  | [] => exact .pure hacc
  | s :: rest =>
    exact (compileSpec_shaped s).bind fun p hp => foldAll_shaped (shaped_andOf hacc hp) rest

/-- The `or` fold from a tree in compiled shape gives trees in compiled shape. -/
theorem foldAny_shaped {acc : Predicate} (hacc : acc.Shaped m) (items : List RuleSpec) :
    Succeeds (foldAny m acc items) (Shaped m) := by
  match items with
  | [] => exact .pure hacc
  | s :: rest =>
    exact (compileSpec_shaped s).bind fun p hp => foldAny_shaped (shaped_orOf hacc hp) rest

end

/-- Every rule compiled from a value has its predicate in compiled shape. -/
theorem compileValue_shaped (v : Value) :
    Succeeds (compileValue m v) fun r => r.predicate.Shaped m :=
  (Succeeds.trivial _).bind fun spec _ =>
    (compileSpec_shaped spec).bind fun _ hp => .pure hp

end Compile

/-! ## Resolution gives shaped trees -/

section Resolve

variable {α β : Type} {m : Mode}

namespace Succeeds

variable {P : β × Loaded → Prop}

/-- A chain of resolution steps gives what its second step gives from any value of the first. -/
theorem bindM {x : ResolveM α} {f : α → ResolveM β} {Q : α × Loaded → Prop}
    (hx : ∀ σ, Succeeds (x σ) Q) (hf : ∀ a σ, Q (a, σ) → Succeeds (f a σ) P)
    (σ : Loaded) :
    Succeeds ((x >>= f) σ) P :=
  (hx σ).bind fun r hr => hf r.1 r.2 hr

/-- A lifted step gives values with the property of the step's values. -/
theorem lift {x : Except CompileError β} {Q : β → Prop} (hx : Succeeds x Q) (σ : Loaded) :
    Succeeds (ResolveM.lift x σ) fun r => Q r.1 := by
  rw [lift_run]
  exact hx.map fun _ h => h

/-- A fold of resolution steps keeps a property its combining function keeps. -/
theorem foldlM {run : RuleSpec → ResolveM Predicate} {c : Predicate → Predicate → Predicate}
    {I : Predicate → Prop} (hc : ∀ p q, I p → I q → I (c p q)) :
    ∀ {items : List RuleSpec}, (∀ s ∈ items, ∀ σ, Succeeds (run s σ) fun r => I r.1) →
      ∀ {acc : Predicate}, I acc → ∀ σ,
        Succeeds (items.foldlM (fun acc s => c acc <$> run s) acc σ) fun r => I r.1
  | [], _, _, hacc, _ => .pure hacc
  | s :: rest, hrun, acc, hacc, σ => by
    have hstep : ∀ σ, Succeeds ((c acc <$> run s) σ) fun r => I r.1 := fun σ => by
      rw [map_eq_pure_bind]
      exact bindM (hrun s List.mem_cons_self) (fun q σ hq => .pure (hc acc q hacc hq)) σ
    rw [List.foldlM_cons]
    exact bindM hstep (fun p σ hp =>
      foldlM hc (fun s hs => hrun s (List.mem_cons_of_mem _ hs)) hp σ) σ

end Succeeds

variable {src : RuleSource}

/-- A loaded section resolves to a shaped tree when its `Rules` does, one source deeper. -/
theorem sectionStep_shaped {chain : List (String × String)} {name : String}
    (ih : ∀ spec σ, Succeeds (resolveSpec src m (chain ++ [(src.key name, name)]) spec σ)
      fun r => r.1.Shaped m)
    (s : RuleSection) (σ : Loaded) :
    Succeeds (sectionStep src m chain name s σ) fun r => r.1.Shaped m := by
  cases hentry : s.entry with
  | none =>
    simp only [sectionStep, hentry]
    exact Succeeds.throw _
  | some entry =>
    cases entry with
    | rules v =>
      simp only [sectionStep, hentry]
      exact Succeeds.bindM (fun σ => Succeeds.trivial _) (fun spec σ _ => ih spec σ) σ
    | rule v =>
      simp only [sectionStep, hentry]
      exact Succeeds.lift ((Succeeds.trivial _).bind fun spec _ => compileSpec_shaped spec) σ

/-- Resolution from any loaded sources gives a shaped tree. -/
theorem resolveSpec_shaped (src : RuleSource) :
    ∀ chain s σ, Succeeds (resolveSpec src m chain s σ) fun r => r.1.Shaped m := by
  refine resolution_induction src ?group ?reference ?plain
  case group =>
    intro chain allOf anyOf ihAll ihAny σ
    rw [resolveSpec_group]
    exact Succeeds.bindM (Succeeds.foldlM (fun _ _ => shaped_andOf) ihAll shaped_identity)
      (fun _ _ hacc => Succeeds.foldlM (fun _ _ => shaped_orOf) ihAny hacc _) σ
  case reference =>
    intro chain name ih σ
    rw [resolveSpec_reference]
    by_cases hcycle : chain.any (·.1 == src.key name) = true
    · simp only [if_pos hcycle]
      exact Succeeds.throw _
    simp only [if_neg hcycle]
    by_cases hdepth : chain.length < maxReferenceDepth
    · simp only [if_pos hdepth]
      exact Succeeds.bindM (fun σ => Succeeds.trivial _)
        (fun s σ _ => sectionStep_shaped (ih hdepth) s σ) σ
    · simp only [if_neg hdepth]
      exact Succeeds.throw _
  case plain =>
    intro chain s hs σ
    rw [resolveSpec_of_plain hs]
    exact Succeeds.lift (compileSpec_shaped s) σ

/-- Resolving a spec from no loaded sources gives a shaped tree. -/
theorem resolveSpec_run'_shaped (src : RuleSource) (s : RuleSpec) :
    Succeeds ((resolveSpec src m [] s).run' []) (Shaped m) :=
  (resolveSpec_shaped src [] s []).map fun _ h => h

/-- A section's rule is a tree its entry gives, with that tree's text: its `Rules` resolved, its
`Rule` compiled, or the identity. -/
theorem compileSection_succeeds (sec : RuleSection) (src : RuleSource) {P : Predicate → Prop}
    (hres : ∀ spec, Succeeds ((resolveSpec src m [] spec).run' []) P)
    (hcomp : ∀ spec, Succeeds (compileSpec m spec) P) (hid : P .identity) :
    Succeeds (compileSection sec m src) fun r => r = .ofPredicate r.predicate ∧ P r.predicate := by
  unfold compileSection
  dsimp only
  split
  · exact (Succeeds.trivial _).bind fun spec _ =>
      (hres spec).bind fun _ hp => .pure ⟨rfl, hp⟩
  · exact (Succeeds.trivial _).bind fun spec _ =>
      (hcomp spec).bind fun _ hp => .pure ⟨rfl, hp⟩
  · exact .pure ⟨rfl, hid⟩

/-- Every rule compiled from a section has its predicate in compiled shape. -/
theorem compileSection_shaped (sec : RuleSection) (src : RuleSource) :
    Succeeds (compileSection sec m src) fun r => r.predicate.Shaped m :=
  (compileSection_succeeds sec src (resolveSpec_run'_shaped src) compileSpec_shaped
    shaped_identity).mono fun _ h => h.2

end Resolve

/-! ## Where the identity stands -/

namespace Predicate

/-- `p.IsNode q`: `q` is `p` or a subtree of it. -/
inductive IsNode : Predicate → Predicate → Prop
  | refl (p : Predicate) : IsNode p p
  | and_left {l r q : Predicate} : IsNode l q → IsNode (.and l r) q
  | and_right {l r q : Predicate} : IsNode r q → IsNode (.and l r) q
  | or_left {l r q : Predicate} : IsNode l q → IsNode (.or l r) q
  | or_right {l r q : Predicate} : IsNode r q → IsNode (.or l r) q
  | not {p q : Predicate} : IsNode p q → IsNode (.not p) q

/-- The direct children of a node. -/
def children : Predicate → List Predicate
  | .and l r | .or l r => [l, r]
  | .not q => [q]
  | _ => []

/-- Where the identity stands in a tree, as in a tree compiled in mode `m`. -/
structure IdentityPlaced (m : Mode) (p : Predicate) : Prop where
  /-- A node with the identity as a child is its negation: no conjunction or disjunction has
  the identity as a child. -/
  parent : ∀ q, p.IsNode q → ∀ c ∈ q.children, c.isIdentity = true → q = .not c
  /-- The identity is negated only in permissive mode. -/
  negated : p.IsNode (.not .identity) → m = .permissive
  /-- Where no leaf prints the identity's text itself, that text occurs in the canonical text
  only as the whole of it, or right after a `~` in permissive mode. -/
  text : (∀ l, p.IsNode (.leaf l) → ∀ a b, l.text ≠ a ++ "Identity[]" ++ b) →
    ∀ a b, p.text = a ++ "Identity[]" ++ b →
      (a = "" ∧ b = "") ∨ (m = .permissive ∧ ∃ a', a = a' ++ "~")

/-- A tree one of the compiler's entry points gives in mode `m`, with `src` for references: a
compiled spec, a resolved spec, a compiled rule value or a compiled section. -/
def CompiledBy (m : Mode) (src : RuleSource) (p : Predicate) : Prop :=
  (∃ s, compileSpec m s = .ok p) ∨ (∃ s, (resolveSpec src m [] s).run' [] = .ok p) ∨
    (∃ v r, compileValue m v = .ok r ∧ r.predicate = p) ∨
    (∃ sec r, compileSection sec m src = .ok r ∧ r.predicate = p)

variable {m : Mode} {p q : Predicate}

/-- The only node of a leaf is the leaf. -/
theorem isNode_leaf {l : Leaf} (h : (leaf l).IsNode q) : q = .leaf l := by
  cases h
  rfl

/-- The only node of the identity is the identity. -/
theorem isNode_identity (h : identity.IsNode q) : q = .identity := by
  cases h
  rfl

/-- Every node of a proper tree is proper, but the identity under a negation. -/
theorem Proper.of_isNode (hp : p.Proper m) (h : p.IsNode q) : q.Proper m ∨ q = .identity := by
  induction h with
  | refl => exact .inl hp
  | and_left _ ih | or_left _ ih => exact ih hp.1
  | and_right _ ih | or_right _ ih => exact ih hp.2
  | not h _ =>
    rcases hp with ⟨l, rfl, hl⟩ | ⟨-, rfl⟩
    · rw [isNode_leaf h]
      exact .inl hl
    · exact .inr (isNode_identity h)

/-- A proper node with the identity as a child is its negation. -/
theorem Proper.eq_not_of_child (hq : q.Proper m) {c : Predicate} (hc : c ∈ q.children)
    (hid : c.isIdentity = true) : q = .not c := by
  cases q with
  | identity | custom _ _ => exact hq.elim
  | leaf l => simp [children] at hc
  | and l r | or l r =>
    -- neither side of a proper junction is the identity
    have hside : c.isIdentity = false := by
      simp only [children, List.mem_cons, List.mem_nil_iff, or_false] at hc
      rcases hc with rfl | rfl
      · exact hq.1.isIdentity_eq_false
      · exact hq.2.isIdentity_eq_false
    rw [hside] at hid
    cases hid
  | not q' =>
    simp only [children, List.mem_cons, List.mem_nil_iff, or_false] at hc
    rw [hc]

end Predicate

/-! ### The identity's text in the canonical text -/

/-- The letters of the identity's text. -/
def identityChars : List Char := Predicate.identity.text.toList

/-- An occurrence of `w` in `A ++ c :: B`, where `c` is no letter of `w`, lies within `A` or
within `B`. -/
theorem occurrence_append_cons {w a b A B : List Char} {c : Char} (hc : c ∉ w)
    (h : a ++ w ++ b = A ++ c :: B) :
    (∃ b', A = a ++ w ++ b') ∨ ∃ a', a = A ++ c :: a' ∧ B = a' ++ w ++ b := by
  rw [List.append_assoc, List.append_eq_append_iff] at h
  rcases h with ⟨a', rfl, hrest⟩ | ⟨c', rfl, hrest⟩
  · -- the occurrence starts within `A = a ++ a'`
    rcases List.append_eq_append_iff.mp hrest with ⟨x, rfl, -⟩ | ⟨y, rfl, hy⟩
    · exact .inl ⟨x, by simp⟩
    · cases y with
      | nil => exact .inl ⟨[], by simp⟩
      | cons y ys =>
        -- it would run over `c`
        simp only [List.cons_append, List.cons.injEq] at hy
        exact absurd (by simp [hy.1]) hc
  · -- the occurrence starts after `A`, at `c` or later
    cases c' with
    | nil =>
      cases w with
      | nil => exact .inl ⟨[], by simp⟩
      | cons w₀ ws =>
        simp only [List.nil_append, List.cons_append, List.cons.injEq] at hrest
        exact absurd (by simp [hrest.1]) hc
    | cons c₀ cs =>
      simp only [List.cons_append, List.cons.injEq] at hrest
      obtain ⟨rfl, rfl⟩ := hrest
      exact .inr ⟨cs, rfl, by simp⟩

/-- The identity's text occurs in itself only as the whole. -/
theorem eq_nil_of_identityChars {a b : List Char} (h : identityChars = a ++ identityChars ++ b) :
    a = [] ∧ b = [] := by
  have hlen := congrArg List.length h
  simp only [List.length_append] at hlen
  exact ⟨List.length_eq_zero_iff.mp (by omega), List.length_eq_zero_iff.mp (by omega)⟩

/-- Every occurrence of the identity's text in `w` comes right after a `~`, and there are such
occurrences only in permissive mode. -/
def IdentityNegatedIn (m : Mode) (w : List Char) : Prop :=
  ∀ a b, w = a ++ identityChars ++ b → m = .permissive ∧ ∃ a', a = a' ++ ['~']

namespace IdentityNegatedIn

variable {m : Mode} {A B : List Char} {c : Char}

/-- The empty text has no occurrence of the identity's text. -/
theorem nil : IdentityNegatedIn m [] := by
  intro a b h
  have hlen := congrArg List.length h
  simp [identityChars, Predicate.text] at hlen

/-- Two texts joined by a character that is no letter of the identity's text keep every occurrence
right after a negation, in the right mode. -/
theorem append_cons (hc : c ∉ identityChars) (hA : IdentityNegatedIn m A)
    (hB : IdentityNegatedIn m B) : IdentityNegatedIn m (A ++ c :: B) := by
  intro a b h
  rcases occurrence_append_cons hc h.symm with ⟨b', hA'⟩ | ⟨a', rfl, hB'⟩
  · exact hA a b' hA'
  · obtain ⟨hm, a'', rfl⟩ := hB a' b hB'
    exact ⟨hm, A ++ c :: a'', by simp⟩

/-- A character that is no letter of the identity's text, put in front, keeps every occurrence right
after a negation. -/
theorem cons (hc : c ∉ identityChars) (hB : IdentityNegatedIn m B) :
    IdentityNegatedIn m (c :: B) :=
  nil.append_cons hc hB

/-- The text of a conjunction or a disjunction, `(A c B)` with blanks around `c`. -/
theorem junction (hc : c ∉ identityChars) (hA : IdentityNegatedIn m A)
    (hB : IdentityNegatedIn m B) :
    IdentityNegatedIn m ('(' :: (A ++ ' ' :: c :: ' ' :: (B ++ [')']))) :=
  .cons (by decide) (hA.append_cons (by decide)
    (.cons hc (.cons (by decide) (hB.append_cons (by decide) nil))))

/-- The negated identity prints its text right after a `~`. -/
theorem tilde_identity : IdentityNegatedIn .permissive ('~' :: identityChars) := by
  intro a b h
  have h' : a ++ identityChars ++ b = [] ++ '~' :: identityChars := h.symm
  rcases occurrence_append_cons (by decide) h' with ⟨b', hnil⟩ | ⟨a', rfl, hrest⟩
  · exact nil a b' hnil
  · obtain ⟨rfl, -⟩ := eq_nil_of_identityChars hrest
    exact ⟨rfl, [], rfl⟩

end IdentityNegatedIn

namespace Predicate

variable {m : Mode}

/-- The text of a conjunction: both sides joined by `&`, in parentheses. -/
theorem text_and_toList (l r : Predicate) :
    (and l r).text.toList =
      '(' :: (l.text.toList ++ ' ' :: '&' :: ' ' :: (r.text.toList ++ [')'])) := by
  simp [text]

/-- The text of a disjunction: both sides joined by `|`, in parentheses. -/
theorem text_or_toList (l r : Predicate) :
    (or l r).text.toList =
      '(' :: (l.text.toList ++ ' ' :: '|' :: ' ' :: (r.text.toList ++ [')'])) := by
  simp [text]

/-- The text of a negation: `~` before the inner tree's text. -/
theorem text_not_toList (q : Predicate) : (not q).text.toList = '~' :: q.text.toList := by
  simp [text]

/-- In a proper tree whose leaves do not print the identity's text, that text occurs only right
after a `~`, in permissive mode. -/
theorem Proper.identityNegatedIn : ∀ {p : Predicate}, p.Proper m →
    (∀ l, p.IsNode (.leaf l) → ¬ ∃ a b, l.text.toList = a ++ identityChars ++ b) →
    IdentityNegatedIn m p.text.toList
  | .leaf l, _, hleaf => fun a b h => absurd ⟨a, b, h⟩ (hleaf l (.refl _))
  | .and l r, ⟨hl, hr⟩, hleaf => by
    rw [text_and_toList]
    exact .junction (by decide) (hl.identityNegatedIn fun l' h => hleaf l' (.and_left h))
      (hr.identityNegatedIn fun l' h => hleaf l' (.and_right h))
  | .or l r, ⟨hl, hr⟩, hleaf => by
    rw [text_or_toList]
    exact .junction (by decide) (hl.identityNegatedIn fun l' h => hleaf l' (.or_left h))
      (hr.identityNegatedIn fun l' h => hleaf l' (.or_right h))
  | .not q, hq, hleaf => by
    rw [text_not_toList]
    rcases hq with ⟨l, rfl, -⟩ | ⟨rfl, rfl⟩
    · exact .cons (by decide) fun a b h => absurd ⟨a, b, h⟩ (hleaf l (.not (.refl _)))
    · exact IdentityNegatedIn.tilde_identity

/-- A text that does not print the identity's text, as letters. -/
theorem not_occurs_toList {s : String} (h : ∀ a b, s ≠ a ++ "Identity[]" ++ b) :
    ¬ ∃ a b, s.toList = a ++ identityChars ++ b := by
  rintro ⟨a, b, hs⟩
  apply h (String.ofList a) (String.ofList b)
  apply String.toList_inj.mp
  simp [hs, identityChars, text]

/-- A shaped tree places the identity as compiled trees do. -/
theorem Shaped.identityPlaced {p : Predicate} (hp : p.Shaped m) : p.IdentityPlaced m where
  parent q hq c hc hid := by
    rcases hp with rfl | hp
    · rw [isNode_identity hq] at hc
      simp [children] at hc
    rcases hp.of_isNode hq with hq' | rfl
    · exact hq'.eq_not_of_child hc hid
    · simp [children] at hc
  negated hq := by
    rcases hp with rfl | hp
    · cases isNode_identity hq
    rcases hp.of_isNode hq with hq' | hq'
    · rcases hq' with ⟨l, hl, -⟩ | ⟨hm, -⟩
      · cases hl
      · exact hm
    · cases hq'
  text hleaf a b h := by
    have hchars : p.text.toList = a.toList ++ identityChars ++ b.toList := by
      simp [h, identityChars, text]
    rcases hp with rfl | hp
    · obtain ⟨ha, hb⟩ := eq_nil_of_identityChars hchars
      exact .inl ⟨String.toList_eq_nil_iff.mp ha, String.toList_eq_nil_iff.mp hb⟩
    obtain ⟨hm, a', ha⟩ :=
      hp.identityNegatedIn (fun l hl => not_occurs_toList (hleaf l hl)) _ _ hchars
    exact .inr ⟨hm, String.ofList a', String.toList_inj.mp (by simp [ha])⟩

/-- Every tree the compiler's entry points give is shaped. -/
theorem CompiledBy.shaped {src : RuleSource} {p : Predicate} (h : p.CompiledBy m src) :
    p.Shaped m := by
  rcases h with ⟨s, hs⟩ | ⟨s, hs⟩ | ⟨v, r, hr, rfl⟩ | ⟨sec, r, hr, rfl⟩
  · exact compileSpec_shaped s p hs
  · exact resolveSpec_run'_shaped src s p hs
  · exact compileValue_shaped v r hr
  · exact compileSection_shaped sec src r hr

end Predicate

/-- A leaf compiles to the negated identity exactly when it is negated and of an unknown kind,
in permissive mode. -/
theorem compileLeaf_eq_not_identity {m : Mode} {negated : Bool} {kind : String} {v : Value} :
    compileLeaf m negated kind v = .ok (.not .identity) ↔
      m = .permissive ∧ negated = true ∧ LeafKind.ofName? kind = none := by
  unfold compileLeaf
  cases hk : LeafKind.ofName? kind with
  | some k =>
    simp only [reduceCtorEq, and_false, iff_false]
    intro h
    obtain ⟨inner, hinner, hret⟩ := except_bind_eq_ok.mp h
    obtain ⟨l, -, rfl⟩ := except_map_eq_ok.mp hinner
    cases negated <;> cases hret
  | none =>
    cases m with
    | strict =>
      -- strict mode fails on an unknown kind
      simp only [reduceCtorEq, false_and, iff_false]
      intro h
      cases h
    | permissive =>
      cases negated
      · simp only [Bool.false_eq_true, false_and, and_false, iff_false]
        intro h
        cases h
      · simp only [and_self, iff_true]
        rfl

/-- In every tree that compiling a spec, resolving a spec, or compiling a rule value or a
section gives, in either mode and from any source, no conjunction or disjunction has the identity
as a child: the identity is the whole tree, or the child of a negation, and that only in
permissive mode, where exactly a negated leaf of an unknown kind compiles to it. Where no leaf
prints `Identity[]` itself, the canonical text holds `Identity[]` only as the whole text or
right after `~`, and in strict mode only as the whole text. -/
theorem compiled_identity_placement (m : Mode) (src : RuleSource) :
    (∀ p : Predicate, p.CompiledBy m src → p.IdentityPlaced m) ∧
    ∀ negated kind v, compileLeaf m negated kind v = .ok (.not .identity) ↔
      m = .permissive ∧ negated = true ∧ LeafKind.ofName? kind = none :=
  ⟨fun _ hp => hp.shaped.identityPlaced, fun _ _ _ => compileLeaf_eq_not_identity⟩

/-- A negated leaf of an unknown kind beside a language leaf: permissive mode keeps the negated
identity under the conjunction, where it stands as compiled trees place it. -/
theorem compiled_identity_placement_negated_unknown :
    compileValue .permissive (.mapping [(.string "and", .sequence [
        .mapping [(.string "type", .string "~bogus"), (.string "value", .string "x")],
        .mapping [(.string "type", .string "lang"), (.string "value", .string "en")]])]) =
      .ok (.ofPredicate (.and (.not .identity) (.leaf (.lang (some "en"))))) ∧
    (Predicate.and (.not .identity) (.leaf (.lang (some "en")))).IdentityPlaced .permissive := by
  have h : compileValue .permissive (.mapping [(.string "and", .sequence [
      .mapping [(.string "type", .string "~bogus"), (.string "value", .string "x")],
      .mapping [(.string "type", .string "lang"), (.string "value", .string "en")]])]) =
      .ok (.ofPredicate (.and (.not .identity) (.leaf (.lang (some "en"))))) := by
    cbv
  exact ⟨h, (compiled_identity_placement .permissive (memorySource [])).1 _
    (.inr (.inr (.inl ⟨_, _, h, rfl⟩)))⟩

/-- The canonical text writes a leaf's parameter as it is: a keyword leaf whose text is
`Identity[]` prints it in strict mode inside its brackets, neither as the whole text nor after
a `~`. -/
theorem identity_text_inside_keyword :
    compileValue .strict
        (.mapping [(.string "type", .string "keyword"), (.string "value", .string "Identity[]")]) =
      .ok (.ofPredicate (.leaf (.keyword "Identity[]"))) ∧
    (Predicate.leaf (.keyword "Identity[]")).text = "Keyword[" ++ "Identity[]" ++ "]" ∧
    "Keyword[" ≠ "" ∧ ∀ a, "Keyword[" ≠ a ++ "~" := by
  refine ⟨by cbv, by decide, by decide, fun a h => ?_⟩
  have hlast := congrArg (fun s => s.toList.getLast?) h
  simp at hlast

end PostRules
