import PostRules.Proofs.Shape
import PostRules.Proofs.InstantRead
import PostRules.Proofs.CompoundText

/-!
# What the canonical text says of a rule

The canonical text of a tree writes a leaf as `Label[param]`, a conjunction as `(A & B)`, a
disjunction as `(A | B)`, a negation as `~A` and the identity as `Identity[]`. It is read back
from the left: a capital letter opens the identity or a leaf, `(` a junction and `~` a negation;
a label holds no `[`, so the first `[` ends it, and where a parameter holds no `]`, the first `]`
after it closes the leaf. So two trees whose leaves are built and legible, and whose texts are
equal, are one tree (`Predicate.Readable.eq_of_text_append`).

A leaf is legible when its parameter is read back from its text: it holds no `]`, and an
optional parameter is not given empty, which prints as an absent one. The rest of a parameter is
read back by its kind: a count as an integer and a comparison, a time as a well-formed instant
and a comparison (`Time.Instant.rfc3339_injective`), a pattern as the source it was compiled
from.

The condition is needed. A hashtag leaf with no value and one with an empty value both print
`HashTag[]`, and a keyword holding `] & Keyword[` prints like two keywords; in both cases the two
rules match different posts (`canonical_text_ambiguous`). Where every leaf is legible, equal
canonical texts give equal rules (`canonical_determines_rule`).
-/

namespace PostRules

open Yaml

/-! ## Parameters as written -/

namespace Time

/-- The text of an integer is its digits with no padding, after a minus sign when it is negative. -/
theorem toString_int_toList (n : Int) :
    (toString n).toList = if 0 ≤ n then (Instant.padded 0 n.toNat).toList
      else '-' :: (Instant.padded 0 (-n).toNat).toList := by
  show n.repr.toList = _
  rw [Int.repr_eq_if]
  split
  all_goals
    simp only [Instant.padded, String.toList_append, String.toList_ofList, Nat.zero_sub,
      List.replicate_zero, List.nil_append]
    rfl

/-- An integer is read back from its text. -/
theorem signedValue_toString (n : Int) : signedValue (toString n).toList = n := by
  rw [toString_int_toList]
  split
  · rw [Instant.signedValue_padded]
    omega
  · simp only [signedValue, if_true, Instant.ofDigitChars_padded]
    omega

/-- The text of an integer holds only digits and the minus sign. -/
theorem mem_toString_int {n : Int} {c : Char} (h : c ∈ (toString n).toList) :
    c.isDigit ∨ c = '-' := by
  rw [toString_int_toList] at h
  split at h
  · exact .inl (Instant.isDigit_of_mem_padded h)
  · rcases List.mem_cons.mp h with h | h
    · exact .inr h
    · exact .inl (Instant.isDigit_of_mem_padded h)

end Time

namespace LeafKind

/-- The kind with this label. -/
def ofLabel? (s : String) : Option LeafKind :=
  all.find? (·.label == s)

/-- Reading a kind's label gives the kind back. -/
theorem ofLabel?_label (k : LeafKind) : ofLabel? k.label = some k := by
  cases k <;> rfl

/-- Distinct leaf kinds have distinct labels. -/
theorem label_injective {k k' : LeafKind} (h : k.label = k'.label) : k = k' := by
  have hk := ofLabel?_label k
  rw [h, ofLabel?_label] at hk
  exact (Option.some.inj hk).symm

/-- A label is a name: a capital letter first, no bracket, and not the identity's. -/
theorem label_name (k : LeafKind) :
    (∃ c cs, k.label.toList = c :: cs ∧ c.isUpper) ∧ '[' ∉ k.label.toList ∧
      k.label ≠ "Identity" := by
  cases k <;> exact ⟨⟨_, _, rfl, rfl⟩, by decide, by decide⟩

end LeafKind

namespace Comparison

/-- Reading a comparison's word gives the comparison back. -/
theorem ofToken?_word (c : Comparison) : ofToken? c.word = some c := by
  cases c <;> rfl

/-- Distinct comparisons have distinct words. -/
theorem word_injective {c c' : Comparison} (h : c.word = c'.word) : c = c' := by
  have hc := ofToken?_word c
  rw [h, ofToken?_word] at hc
  exact (Option.some.inj hc).symm

end Comparison

/-- A text and a comparison after a comma are read back, where the text holds no comma. -/
theorem comma_split {a a' : String} {c c' : Comparison} (ha : ',' ∉ a.toList)
    (ha' : ',' ∉ a'.toList) (h : a ++ "," ++ c.word = a' ++ "," ++ c'.word) :
    a = a' ∧ c = c' := by
  have hl := congrArg String.toList h
  simp only [String.toList_append, List.append_assoc] at hl
  obtain ⟨ha, hc⟩ := Time.append_cons_inj_of_not_mem ha ha' hl
  exact ⟨String.toList_inj.mp ha, Comparison.word_injective (String.toList_inj.mp hc)⟩

/-- The text of an integer holds no comma. -/
theorem comma_not_mem_toString (n : Int) : ',' ∉ (toString n).toList := fun h => by
  rcases Time.mem_toString_int h with h | h <;> simp at h

/-- An optional text is read back from its text where it is not given empty. -/
theorem eq_of_getD_empty {t t' : Option String} (h : t ≠ some "") (h' : t' ≠ some "")
    (hp : t.getD "" = t'.getD "") : t = t' := by
  cases t <;> cases t' <;> simp_all [eq_comm]

/-! ## Leaves -/

namespace Leaf

/-- The parameter of a leaf whose kind may leave it out. -/
def optional? : Leaf → Option (Option String)
  | .attachment v | .authorId v | .conversationId v | .geo v | .hashtag v | .lang v
  | .mention v | .source v | .url v => some v
  | _ => none

/-- A leaf whose parameter is read back from its text. -/
structure Legible (l : Leaf) : Prop where
  /-- No `]` in the parameter, so the first `]` after the label closes the leaf. -/
  param : ']' ∉ l.param.toList
  /-- A given optional parameter is not empty: an empty one prints as an absent one. -/
  given : l.optional? ≠ some (some "")

end Leaf

/-- A time leaf, when it compiles, compares a well-formed instant. -/
theorem createdAtLeaf_succeeds (v : Value) :
    Succeeds (createdAtLeaf v) fun l => ∃ t op, l = .createdAt t op ∧ t.WellFormed := by
  refine (Succeeds.trivial _).bind fun raw _ =>
    (Succeeds.trivial _).bind fun ⟨literal, op⟩ _ => ?_
  dsimp only
  split
  · exact .pure ⟨_, _, rfl, Time.readLiteral_wellFormed ‹_›⟩
  · exact .throw _

/-- A count leaf holds a threshold that a 64-bit literal names, or the default zero. -/
theorem countLeaf_bounded (kind : LeafKind) (m : Metric) (v : Value) :
    Succeeds (countLeaf kind m v) fun l =>
      ∃ n op, l = .count m n op ∧ -2 ^ 63 ≤ n ∧ n < 2 ^ 63 := by
  refine (Succeeds.trivial _).bind fun text _ => ?_
  cases text with
  | none => exact .pure ⟨_, _, rfl, by decide, by decide⟩
  | some raw =>
    refine (Succeeds.trivial _).bind fun ⟨literal, op⟩ _ => ?_
    dsimp only
    split
    · rename_i n hn
      exact .pure ⟨_, _, rfl, ((Decimal.readInt64_eq_ok_iff _ _).mp hn).bounds⟩
    · exact .throw _

/-- A count leaf, when it compiles, compares the metric it was read for. -/
theorem countLeaf_succeeds (kind : LeafKind) (m : Metric) (v : Value) :
    Succeeds (countLeaf kind m v) fun l => ∃ n op, l = .count m n op :=
  (countLeaf_bounded kind m v).mono fun _ ⟨n, op, hl, _⟩ => ⟨n, op, hl⟩

/-- A compiled pattern keeps the text it was compiled from. -/
theorem Regex.source_of_compile {pattern : String} {r : Regex}
    (h : Regex.compile pattern = .ok r) : r.source = pattern := by
  unfold Regex.compile at h
  split at h
  · cases h
  · split at h
    · cases h
    · cases h
      rfl

/-- A pattern leaf holds what its source compiles to. -/
theorem regexLeaf_succeeds (v : Value) :
    Succeeds (buildLeaf .regex v) fun l =>
      ∃ r, l = .regex r ∧ Regex.compile r.source = .ok r := by
  refine (Succeeds.trivial _).bind fun pattern _ => ?_
  split
  · rename_i r hr
    refine .pure ⟨r, rfl, ?_⟩
    rw [Regex.source_of_compile hr]
    exact hr
  · exact .throw _

/-- A leaf built for a kind is of that kind. -/
theorem buildLeaf_kind (k : LeafKind) (v : Value) : Succeeds (buildLeaf k v) (·.kind = k) := by
  cases k
  case createdAt => exact (createdAtLeaf_succeeds v).mono fun _ ⟨_, _, h, _⟩ => h ▸ rfl
  case likeCount | quoteCount | replyCount | retweetCount =>
    exact (countLeaf_succeeds _ _ v).mono fun _ ⟨_, _, h⟩ => h ▸ rfl
  case regex => exact (regexLeaf_succeeds v).mono fun _ ⟨_, h, _⟩ => h ▸ rfl
  case sensitive => exact .pure rfl
  all_goals exact (Succeeds.trivial _).map fun _ _ => rfl

/-- Two legible leaves built for one kind with one parameter are one leaf. -/
theorem Leaf.eq_of_param {k : LeafKind} {v v' : Value} {l l' : Leaf}
    (h : buildLeaf k v = .ok l) (h' : buildLeaf k v' = .ok l') (hg : l.Legible)
    (hg' : l'.Legible) (hp : l.param = l'.param) : l = l' := by
  cases k
  case createdAt =>
    obtain ⟨t, op, rfl, ht⟩ := createdAtLeaf_succeeds v l h
    obtain ⟨t', op', rfl, ht'⟩ := createdAtLeaf_succeeds v' l' h'
    obtain ⟨htt, rfl⟩ := comma_split (Time.Instant.comma_not_mem_rfc3339 t false)
      (Time.Instant.comma_not_mem_rfc3339 t' false) hp
    rw [Time.Instant.rfc3339_injective ht ht' htt]
  case likeCount | quoteCount | replyCount | retweetCount =>
    obtain ⟨n, op, rfl⟩ := countLeaf_succeeds _ _ v l h
    obtain ⟨n', op', rfl⟩ := countLeaf_succeeds _ _ v' l' h'
    obtain ⟨hn, rfl⟩ := comma_split (comma_not_mem_toString n) (comma_not_mem_toString n') hp
    rw [← Time.signedValue_toString n, hn, Time.signedValue_toString]
  case regex =>
    obtain ⟨r, rfl, hr⟩ := regexLeaf_succeeds v l h
    obtain ⟨r', rfl, hr'⟩ := regexLeaf_succeeds v' l' h'
    -- a pattern is what its source compiles to
    have hsource : r.source = r'.source := hp
    rw [hsource] at hr
    rw [Except.ok.inj (hr.symm.trans hr')]
  case sensitive =>
    cases h
    cases h'
    rfl
  case emoji | keyword =>
    obtain ⟨s, -, rfl⟩ := except_map_eq_ok.mp h
    obtain ⟨s', -, rfl⟩ := except_map_eq_ok.mp h'
    rw [show s = s' from hp]
  -- the nine kinds with an optional parameter
  all_goals
    obtain ⟨t, -, rfl⟩ := except_map_eq_ok.mp h
    obtain ⟨t', -, rfl⟩ := except_map_eq_ok.mp h'
    rw [eq_of_getD_empty (mt (congrArg some) hg.given) (mt (congrArg some) hg'.given) hp]

/-! ## Trees -/

namespace Predicate

variable {m : Mode} {p q : Predicate}

/-- A tree whose canonical text is read back: no custom test, and built, legible leaves. -/
def Readable : Predicate → Prop
  | .identity => True
  | .leaf l => l.Built ∧ l.Legible
  | .and l r | .or l r => l.Readable ∧ r.Readable
  | .not q => q.Readable
  | .custom _ _ => False

/-- A tree in compiled shape whose leaves are all legible is readable. -/
theorem Proper.readable : ∀ {p : Predicate}, p.Proper m →
    (∀ l, p.IsNode (.leaf l) → l.Legible) → p.Readable
  | .leaf l, hp, hl => ⟨hp, hl l (.refl _)⟩
  | .and a b, ⟨ha, hb⟩, hl =>
    ⟨ha.readable fun l h => hl l (.and_left h), hb.readable fun l h => hl l (.and_right h)⟩
  | .or a b, ⟨ha, hb⟩, hl =>
    ⟨ha.readable fun l h => hl l (.or_left h), hb.readable fun l h => hl l (.or_right h)⟩
  | .not q, hp, hl => by
    rcases hp with ⟨l, rfl, hb⟩ | ⟨-, rfl⟩
    · exact ⟨hb, hl l (.not (.refl _))⟩
    · trivial

/-- A compiled tree, the identity or in proper shape, whose leaves are all legible is readable. -/
theorem Shaped.readable (hp : p.Shaped m) (hl : ∀ l, p.IsNode (.leaf l) → l.Legible) :
    p.Readable := by
  rcases hp with rfl | hp
  · trivial
  · exact hp.readable hl

/-- The identity's text is its label and an empty pair of brackets. -/
theorem identity_text_append (r : List Char) :
    identity.text.toList ++ r = "Identity".toList ++ '[' :: ([] ++ ']' :: r) := rfl

/-- A leaf's text is its kind's label and its parameter in brackets. -/
theorem leaf_text_append (l : Leaf) (r : List Char) :
    (leaf l).text.toList ++ r =
      l.kind.label.toList ++ '[' :: (l.param.toList ++ ']' :: r) := by
  simp [text, Leaf.text]

/-- A name, then a parameter in brackets, is read back where neither holds its bracket. -/
theorem bracketed_inj {a a' b b' r r' : List Char} (ha : '[' ∉ a) (ha' : '[' ∉ a')
    (hb : ']' ∉ b) (hb' : ']' ∉ b')
    (h : a ++ '[' :: (b ++ ']' :: r) = a' ++ '[' :: (b' ++ ']' :: r')) :
    a = a' ∧ b = b' ∧ r = r' := by
  obtain ⟨rfl, hrest⟩ := Time.append_cons_inj_of_not_mem ha ha' h
  obtain ⟨rfl, rfl⟩ := Time.append_cons_inj_of_not_mem hb hb' hrest
  exact ⟨rfl, rfl, rfl⟩

/-- The text of the identity and of a leaf opens with a capital letter. -/
theorem atom_text_append (hp : p = .identity ∨ ∃ l, p = .leaf l) (r : List Char) :
    ∃ c s, p.text.toList ++ r = c :: s ∧ c.isUpper := by
  rcases hp with rfl | ⟨l, rfl⟩
  · exact ⟨_, _, identity_text_append r, rfl⟩
  · obtain ⟨c, cs, hc, hup⟩ := l.kind.label_name.1
    exact ⟨c, _, by rw [leaf_text_append, hc, List.cons_append], hup⟩

/-- The text of a junction or of a negation opens with a mark that is no capital letter. -/
theorem compound_text_append
    (hq : (∃ a b, q = .and a b) ∨ (∃ a b, q = .or a b) ∨ ∃ a, q = .not a) (r : List Char) :
    ∃ c s, q.text.toList ++ r = c :: s ∧ c.isUpper = false := by
  rcases hq with ⟨a, b, rfl⟩ | ⟨a, b, rfl⟩ | ⟨a, rfl⟩
  · exact ⟨_, _, by rw [text_and_toList, List.cons_append], rfl⟩
  · exact ⟨_, _, by rw [text_or_toList, List.cons_append], rfl⟩
  · exact ⟨_, _, by rw [text_not_toList, List.cons_append], rfl⟩

/-- The text of the identity or of a leaf, followed by anything, is never the text of a junction or
a negation followed by anything: the first character tells them apart. -/
theorem atom_ne_compound (hp : p = .identity ∨ ∃ l, p = .leaf l)
    (hq : (∃ a b, q = .and a b) ∨ (∃ a b, q = .or a b) ∨ ∃ a, q = .not a)
    (r r' : List Char) : p.text.toList ++ r ≠ q.text.toList ++ r' := by
  obtain ⟨c, s, hc, hup⟩ := atom_text_append hp r
  obtain ⟨c', s', hc', hup'⟩ := compound_text_append hq r'
  rw [hc, hc']
  intro h
  rw [(List.cons.inj h).1, hup'] at hup
  cases hup

/-- Two junctions whose texts agree up to what follows are read back side by side, given that
their left and right sides are. -/
theorem junction_append_inj {a b a' b' : Predicate} {s s' : Char} {r r' : List Char}
    (ha : ∀ {q : Predicate}, q.Readable → ∀ {r r' : List Char},
      a.text.toList ++ r = q.text.toList ++ r' → a = q ∧ r = r')
    (hb : ∀ {q : Predicate}, q.Readable → ∀ {r r' : List Char},
      b.text.toList ++ r = q.text.toList ++ r' → b = q ∧ r = r')
    (ha' : a'.Readable) (hb' : b'.Readable)
    (h : '(' :: (a.text.toList ++ ' ' :: s :: ' ' :: (b.text.toList ++ [')'])) ++ r =
      '(' :: (a'.text.toList ++ ' ' :: s' :: ' ' :: (b'.text.toList ++ [')'])) ++ r') :
    a = a' ∧ s = s' ∧ b = b' ∧ r = r' := by
  simp only [List.cons_append, List.append_assoc, List.cons.injEq, true_and] at h
  obtain ⟨rfl, hsign⟩ := ha ha' h
  simp only [List.cons.injEq, true_and] at hsign
  obtain ⟨rfl, hright⟩ := hsign
  obtain ⟨rfl, hclose⟩ := hb hb' hright
  simp only [List.cons.injEq, List.nil_append, true_and] at hclose
  exact ⟨rfl, rfl, rfl, hclose⟩

/-- Two readable trees whose texts agree up to what follows them are one tree, followed by one
text. -/
theorem Readable.eq_of_text_append : ∀ {p q : Predicate}, p.Readable → q.Readable →
    ∀ {r r' : List Char}, p.text.toList ++ r = q.text.toList ++ r' → p = q ∧ r = r'
  | .identity, q, _, hq, r, r', h => by
    cases q with
    | identity => exact ⟨rfl, List.append_cancel_left h⟩
    | leaf l =>
      rw [identity_text_append, leaf_text_append] at h
      have hname := (bracketed_inj (by decide) l.kind.label_name.2.1 (by simp) hq.2.param h).1
      exact absurd (String.toList_inj.mp hname).symm l.kind.label_name.2.2
    | and a b => exact absurd h (atom_ne_compound (.inl rfl) (.inl ⟨a, b, rfl⟩) r r')
    | or a b => exact absurd h (atom_ne_compound (.inl rfl) (.inr (.inl ⟨a, b, rfl⟩)) r r')
    | not a => exact absurd h (atom_ne_compound (.inl rfl) (.inr (.inr ⟨a, rfl⟩)) r r')
    | custom _ _ => exact hq.elim
  | .leaf l, q, hp, hq, r, r', h => by
    cases q with
    | identity =>
      rw [identity_text_append, leaf_text_append] at h
      have hname := (bracketed_inj l.kind.label_name.2.1 (by decide) hp.2.param (by simp) h).1
      exact absurd (String.toList_inj.mp hname) l.kind.label_name.2.2
    | leaf l' =>
      rw [leaf_text_append, leaf_text_append] at h
      obtain ⟨hlabel, hparam, rfl⟩ := bracketed_inj l.kind.label_name.2.1
        l'.kind.label_name.2.1 hp.2.param hq.2.param h
      -- equal labels name one kind, and the leaves are built for it
      obtain ⟨k, v, hb⟩ := hp.1
      obtain ⟨k', v', hb'⟩ := hq.1
      have hk : k = k' := by
        rw [← buildLeaf_kind k v l hb, ← buildLeaf_kind k' v' l' hb']
        exact LeafKind.label_injective (String.toList_inj.mp hlabel)
      subst hk
      rw [Leaf.eq_of_param hb hb' hp.2 hq.2 (String.toList_inj.mp hparam)]
      exact ⟨rfl, rfl⟩
    | and a b => exact absurd h (atom_ne_compound (.inr ⟨l, rfl⟩) (.inl ⟨a, b, rfl⟩) r r')
    | or a b =>
      exact absurd h (atom_ne_compound (.inr ⟨l, rfl⟩) (.inr (.inl ⟨a, b, rfl⟩)) r r')
    | not a => exact absurd h (atom_ne_compound (.inr ⟨l, rfl⟩) (.inr (.inr ⟨a, rfl⟩)) r r')
    | custom _ _ => exact hq.elim
  | .and a b, q, ⟨ha, hb⟩, hq, r, r', h => by
    cases q with
    | identity => exact absurd h.symm (atom_ne_compound (.inl rfl) (.inl ⟨a, b, rfl⟩) r' r)
    | leaf l =>
      exact absurd h.symm (atom_ne_compound (.inr ⟨l, rfl⟩) (.inl ⟨a, b, rfl⟩) r' r)
    | and a' b' =>
      rw [text_and_toList, text_and_toList] at h
      obtain ⟨rfl, -, rfl, rfl⟩ := junction_append_inj (eq_of_text_append ha)
        (eq_of_text_append hb) hq.1 hq.2 h
      exact ⟨rfl, rfl⟩
    | or a' b' =>
      rw [text_and_toList, text_or_toList] at h
      obtain ⟨-, hs, -⟩ := junction_append_inj (eq_of_text_append ha)
        (eq_of_text_append hb) hq.1 hq.2 h
      exact absurd hs (by decide)
    | not a' => simp [text_and_toList, text_not_toList] at h
    | custom _ _ => exact hq.elim
  | .or a b, q, ⟨ha, hb⟩, hq, r, r', h => by
    cases q with
    | identity =>
      exact absurd h.symm (atom_ne_compound (.inl rfl) (.inr (.inl ⟨a, b, rfl⟩)) r' r)
    | leaf l =>
      exact absurd h.symm (atom_ne_compound (.inr ⟨l, rfl⟩) (.inr (.inl ⟨a, b, rfl⟩)) r' r)
    | and a' b' =>
      rw [text_or_toList, text_and_toList] at h
      obtain ⟨-, hs, -⟩ := junction_append_inj (eq_of_text_append ha)
        (eq_of_text_append hb) hq.1 hq.2 h
      exact absurd hs (by decide)
    | or a' b' =>
      rw [text_or_toList, text_or_toList] at h
      obtain ⟨rfl, -, rfl, rfl⟩ := junction_append_inj (eq_of_text_append ha)
        (eq_of_text_append hb) hq.1 hq.2 h
      exact ⟨rfl, rfl⟩
    | not a' => simp [text_or_toList, text_not_toList] at h
    | custom _ _ => exact hq.elim
  | .not a, q, ha, hq, r, r', h => by
    cases q with
    | identity => exact absurd h.symm (atom_ne_compound (.inl rfl) (.inr (.inr ⟨a, rfl⟩)) r' r)
    | leaf l =>
      exact absurd h.symm (atom_ne_compound (.inr ⟨l, rfl⟩) (.inr (.inr ⟨a, rfl⟩)) r' r)
    | and a' b' => simp [text_and_toList, text_not_toList] at h
    | or a' b' => simp [text_or_toList, text_not_toList] at h
    | not a' =>
      rw [text_not_toList, text_not_toList, List.cons_append, List.cons_append,
        List.cons.injEq] at h
      obtain ⟨rfl, rfl⟩ :=
        eq_of_text_append (show a.Readable from ha) (show a'.Readable from hq) h.2
      exact ⟨rfl, rfl⟩
    | custom _ _ => exact hq.elim
  | .custom _ _, _, hp, _, _, _, _ => hp.elim

end Predicate

/-! ## Compiled rules -/

/-- A rule one of the two entry points gives, in either mode: a compiled rule value, or a
compiled section with a source for its references. -/
def CompiledRule.Compiled (r : CompiledRule) : Prop :=
  ∃ m, (∃ v, compileValue m v = .ok r) ∨ ∃ sec src, compileSection sec m src = .ok r

/-- A compiled rule's canonical text is its tree's text, and the tree is shaped. -/
theorem CompiledRule.Compiled.canonical_shaped {r : CompiledRule} (h : r.Compiled) :
    r.canonical = r.predicate.text ∧ ∃ m, r.predicate.Shaped m := by
  obtain ⟨m, ⟨v, hv⟩ | ⟨sec, src, hs⟩⟩ := h
  · have htext : Succeeds (compileValue m v) fun r => r.canonical = r.predicate.text :=
      (Succeeds.trivial _).bind fun _ _ => (Succeeds.trivial _).bind fun _ _ => .pure rfl
    exact ⟨htext r hv, m, compileValue_shaped v r hv⟩
  · obtain ⟨hr, hshaped⟩ := compileSection_succeeds sec src (resolveSpec_run'_shaped src)
      compileSpec_shaped Predicate.shaped_identity r hs
    exact ⟨congrArg CompiledRule.canonical hr, m, hshaped⟩

/-- Two rules compiled from rule values or sections, in either mode, whose leaves are all
legible and whose canonical texts are equal, are one rule: the same tree, which matches the
same posts. -/
theorem canonical_determines_rule {r₁ r₂ : CompiledRule} (h₁ : r₁.Compiled) (h₂ : r₂.Compiled)
    (hl₁ : ∀ l, r₁.predicate.IsNode (.leaf l) → l.Legible)
    (hl₂ : ∀ l, r₂.predicate.IsNode (.leaf l) → l.Legible)
    (h : r₁.canonical = r₂.canonical) :
    r₁ = r₂ ∧ ∀ post, r₁.evaluate post = r₂.evaluate post := by
  obtain ⟨hc₁, m₁, hs₁⟩ := h₁.canonical_shaped
  obtain ⟨hc₂, m₂, hs₂⟩ := h₂.canonical_shaped
  have htext : r₁.predicate.text.toList ++ [] = r₂.predicate.text.toList ++ [] := by
    rw [← hc₁, ← hc₂, h]
  obtain ⟨hp, -⟩ := (hs₁.readable hl₁).eq_of_text_append (hs₂.readable hl₂) htext
  have hr : r₁ = r₂ := by
    cases r₁
    cases r₂
    cases hp
    cases h
    rfl
  exact ⟨hr, fun _ => by rw [hr]⟩

/-- A hashtag leaf compiled as a rule value, and as the one item of a conjunction in a section's
rules, prints `HashTag[news]` both ways, and is one rule. -/
theorem canonical_determines_rule_hashtag_group :
    compileValue .strict
        (.mapping [(.string "type", .string "hashtag"), (.string "value", .string "news")]) =
      .ok (.ofPredicate (.leaf (.hashtag (some "news")))) ∧
    compileSection { rules := .mapping [(.string "and", .sequence [
        .mapping [(.string "type", .string "hashtag"), (.string "value", .string "news")]])] }
        .permissive (memorySource []) =
      .ok (.ofPredicate (.leaf (.hashtag (some "news")))) ∧
    (CompiledRule.ofPredicate (.leaf (.hashtag (some "news")))).canonical = "HashTag[news]" ∧
    ∀ post, (CompiledRule.ofPredicate (.leaf (.hashtag (some "news")))).evaluate post =
      (CompiledRule.ofPredicate (.leaf (.hashtag (some "news")))).evaluate post := by
  have h₁ : compileValue .strict
      (.mapping [(.string "type", .string "hashtag"), (.string "value", .string "news")]) =
      .ok (.ofPredicate (.leaf (.hashtag (some "news")))) := by
    cbv
  have h₂ : compileSection { rules := .mapping [(.string "and", .sequence [
      .mapping [(.string "type", .string "hashtag"), (.string "value", .string "news")]])] }
      .permissive (memorySource []) = .ok (.ofPredicate (.leaf (.hashtag (some "news")))) := by
    cbv
  have hlegible :
      ∀ l, (Predicate.leaf (.hashtag (some "news"))).IsNode (.leaf l) → l.Legible :=
    fun l hl => by
      cases Predicate.isNode_leaf hl
      exact ⟨by decide, by decide⟩
  exact ⟨h₁, h₂, by decide, (canonical_determines_rule ⟨_, .inl ⟨_, h₁⟩⟩
    ⟨_, .inr ⟨_, _, h₂⟩⟩ hlegible hlegible rfl).2⟩

/-- The canonical text does not name every compiled rule. A hashtag leaf with no value and one
with an empty value both print `HashTag[]`, and only the first matches a post tagged `news`.
Two conjunctions of keywords, one with `] & Keyword[` inside its first keyword and one inside
its second, both print `(Keyword[a] & Keyword[b] & Keyword[c])`, and only the first matches the
post `a] & Keyword[b c`. -/
theorem canonical_text_ambiguous :
    compileValue .strict
        (.mapping [(.string "type", .string "hashtag"), (.string "value", .null)]) =
      .ok (.ofPredicate (.leaf (.hashtag none))) ∧
    compileValue .strict
        (.mapping [(.string "type", .string "hashtag"), (.string "value", .string "")]) =
      .ok (.ofPredicate (.leaf (.hashtag (some "")))) ∧
    (CompiledRule.ofPredicate (.leaf (.hashtag none))).canonical = "HashTag[]" ∧
    (CompiledRule.ofPredicate (.leaf (.hashtag (some "")))).canonical = "HashTag[]" ∧
    (CompiledRule.ofPredicate (.leaf (.hashtag none))).evaluate
      { id := "1", text := "x", entities := some { hashtags := [{ tag := "news" }] } } = true ∧
    (CompiledRule.ofPredicate (.leaf (.hashtag (some "")))).evaluate
      { id := "1", text := "x", entities := some { hashtags := [{ tag := "news" }] } } = false ∧
    compileValue .strict (.mapping [(.string "and", .sequence [
        .mapping [(.string "type", .string "keyword"),
          (.string "value", .string "a] & Keyword[b")],
        .mapping [(.string "type", .string "keyword"), (.string "value", .string "c")]])]) =
      .ok (.ofPredicate (.and (.leaf (.keyword "a] & Keyword[b")) (.leaf (.keyword "c")))) ∧
    compileValue .strict (.mapping [(.string "and", .sequence [
        .mapping [(.string "type", .string "keyword"), (.string "value", .string "a")],
        .mapping [(.string "type", .string "keyword"),
          (.string "value", .string "b] & Keyword[c")]])]) =
      .ok (.ofPredicate (.and (.leaf (.keyword "a")) (.leaf (.keyword "b] & Keyword[c")))) ∧
    (CompiledRule.ofPredicate
      (.and (.leaf (.keyword "a] & Keyword[b")) (.leaf (.keyword "c")))).canonical =
      "(Keyword[a] & Keyword[b] & Keyword[c])" ∧
    (CompiledRule.ofPredicate
      (.and (.leaf (.keyword "a")) (.leaf (.keyword "b] & Keyword[c")))).canonical =
      "(Keyword[a] & Keyword[b] & Keyword[c])" ∧
    (CompiledRule.ofPredicate
      (.and (.leaf (.keyword "a] & Keyword[b")) (.leaf (.keyword "c")))).evaluate
      { id := "1", text := "a] & Keyword[b c" } = true ∧
    (CompiledRule.ofPredicate
      (.and (.leaf (.keyword "a")) (.leaf (.keyword "b] & Keyword[c")))).evaluate
      { id := "1", text := "a] & Keyword[b c" } = false :=
  ⟨by cbv, by cbv, by decide, by decide, by decide, by decide, by cbv, by cbv, by decide,
    by decide, by decide, by decide⟩

end PostRules
