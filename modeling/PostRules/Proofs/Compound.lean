import PostRules.Proofs.CompoundText

/-!
# Count and time leaves

A count leaf (likes, replies, reposts or quotes) and a time leaf read their value as
`<literal>,<operator>`. The value is a scalar written as text: a string as it is, a number as
written, a boolean as `true` or `false`, tags looked through. A count with no value asks for at
least zero; a time requires a value. A list or a mapping is malformed.

`compound_value_grammar` gives the whole grammar: which texts are read and as what, and which
error every other value reports. A malformed shape or a wrong number of commas comes first, then
a comparison that is not one of the twelve spellings, whatever the literal, and only then a
literal that is not a 64-bit integer or an instant.

A count leaf compares a post's metric with its threshold as integers, but a metric above
`2^63 - 1` is taken as `2^63 - 1` (`count_leaf_compares_saturated`). Below that ceiling, or
against a threshold below it, this is the comparison of the two integers; a metric above the
ceiling compared with a threshold of exactly `2^63 - 1` is compared as if equal to it
(`count_leaf_saturates_at_ceiling`).
-/

namespace PostRules

open Yaml

/-! ## Scalar values -/

/-- The text of a scalar: a string as it is, a number as written, a boolean as `true` or
`false`. -/
def Yaml.Value.scalarString? : Value → Option String
  | .string s => some s
  | .number n => some n.text
  | .bool b => some (toString b)
  | _ => none

/-- Whether a value is a list or a mapping. -/
def Yaml.Value.IsCollection (v : Value) : Prop :=
  (∃ items, v = .sequence items) ∨ ∃ es, v = .mapping es

section Scalar

variable {kind : LeafKind} {v : Value} {s : String}

/-- A value's text is read through its tags. -/
theorem scalarText_untag (kind : LeafKind) : ∀ v, scalarText kind v = scalarText kind v.untag
  | .tagged _ v => by
    rw [scalarText, Value.untag]
    exact scalarText_untag kind v
  | .null | .bool _ | .number _ | .string _ | .sequence _ | .mapping _ => rfl

/-- A null value, tags looked through, has no text. -/
theorem scalarText_of_null (h : v.untag = .null) : scalarText kind v = .ok none := by
  rw [scalarText_untag, h]
  rfl

/-- A scalar value, tags looked through, has its text. -/
theorem scalarText_of_scalarString (h : v.untag.scalarString? = some s) :
    scalarText kind v = .ok (some s) := by
  rw [scalarText_untag]
  cases hu : v.untag <;> rw [hu] at h <;> simp only [Value.scalarString?, reduceCtorEq,
    Option.some.injEq] at h
  all_goals
    subst h
    rfl

/-- A list or a mapping, tags looked through, is malformed as a scalar and is reported by its debug
form. -/
theorem scalarText_of_collection (h : v.untag.IsCollection) :
    scalarText kind v = .error (.malformedLeafValue kind.name v.untag.debug "expected a scalar") := by
  rw [scalarText_untag]
  rcases h with ⟨items, hu⟩ | ⟨es, hu⟩ <;> rw [hu] <;> rfl

/-- A null value, tags looked through, fails where a value is required. -/
theorem requiredText_of_null (h : v.untag = .null) :
    requiredText kind v = .error (.malformedLeafValue kind.name "null" "a value is required") := by
  rw [requiredText, scalarText_of_null h]
  rfl

/-- A scalar value, tags looked through, gives its text where a value is required. -/
theorem requiredText_of_scalarString (h : v.untag.scalarString? = some s) :
    requiredText kind v = .ok s := by
  rw [requiredText, scalarText_of_scalarString h]
  rfl

/-- A list or a mapping, tags looked through, is malformed where a value is required too. -/
theorem requiredText_of_collection (h : v.untag.IsCollection) :
    requiredText kind v =
      .error (.malformedLeafValue kind.name v.untag.debug "expected a scalar") := by
  rw [requiredText, scalarText_of_collection h]
  rfl

end Scalar

/-! ## The comparison after the comma -/

namespace Comparison

/-- A text names a comparison exactly when it is one of the twelve spellings. -/
theorem ofToken?_eq_none_iff (s : String) : ofToken? s = none ↔ s ∉ spellings := by
  unfold ofToken?
  split <;> simp_all [spellings]

end Comparison

/-- What follows a split depends only on the comparison and the literal around the one comma. -/
theorem splitCompound_bind_of_oneComma {α : Type} {kind : LeafKind} {s a b : String}
    (hs : OneComma s a b) (k : String × Comparison → Except CompileError α) :
    splitCompound kind s >>= k = match Comparison.ofToken? (Text.trim b) with
      | some op => k (Text.trim a, op)
      | none => .error (.unsupportedOperator kind.name (Text.trim b)) := by
  rw [splitCompound_of_oneComma hs]
  cases Comparison.ofToken? (Text.trim b) <;> rfl

/-! ## Count leaves -/

section Count

variable {m : Metric} {v : Value} {s a b : String}

/-- The four count kinds are read as counts of their own metric. -/
theorem buildLeaf_metric (m : Metric) (v : Value) : buildLeaf m.kind v = countLeaf m.kind m v := by
  cases m <;> rfl

/-- A count with a scalar value reads the literal before its comma as the threshold. -/
theorem countLeaf_of_scalarString (kind : LeafKind) (h : v.untag.scalarString? = some s) :
    countLeaf kind m v = splitCompound kind s >>= fun p =>
      match Decimal.readInt64 p.1 with
      | .ok n => .ok (.count m n p.2)
      | .error e => .error (.invalidLiteral kind.name p.1 e.message) := by
  rw [countLeaf, scalarText_of_scalarString h]
  rfl

/-- A count is read exactly from one comma with a comparison after it and a 64-bit literal
before it. -/
theorem countLeaf_eq_ok_iff (kind : LeafKind) (h : v.untag.scalarString? = some s) (t : Int)
    (op : Comparison) :
    countLeaf kind m v = .ok (.count m t op) ↔
      ∃ a b, OneComma s a b ∧ Comparison.ofToken? (Text.trim b) = some op ∧
        Decimal.Int64Literal (Text.trim a).toList t := by
  rw [countLeaf_of_scalarString kind h]
  by_cases hc : s.toList.count ',' = 1
  · obtain ⟨a, b, hs⟩ := oneComma_of_count_eq_one hc
    rw [splitCompound_bind_of_oneComma hs]
    constructor
    · intro hok
      cases hop : Comparison.ofToken? (Text.trim b) with
      | none =>
        rw [hop] at hok
        cases hok
      | some op' =>
        rw [hop] at hok
        cases hn : Decimal.readInt64 (Text.trim a) with
        | error e =>
          simp only [hn] at hok
          cases hok
        | ok n =>
          simp only [hn, Except.ok.injEq, Leaf.count.injEq, true_and] at hok
          obtain ⟨rfl, rfl⟩ := hok
          exact ⟨a, b, hs, hop, (Decimal.readInt64_eq_ok_iff _ _).mp hn⟩
    · rintro ⟨a', b', hs', hop, hlit⟩
      obtain ⟨rfl, rfl⟩ := hs'.unique hs
      simp only [hop, (Decimal.readInt64_eq_ok_iff _ _).mpr hlit]
  · rw [splitCompound_of_count_ne_one hc]
    constructor
    · intro hok
      cases hok
    · rintro ⟨a, b, hs, -⟩
      exact absurd hs.count_eq_one hc

/-- A count whose literal is not a 64-bit integer reports the literal and why it is not one. -/
theorem countLeaf_invalidLiteral (kind : LeafKind) (h : v.untag.scalarString? = some s)
    (hs : OneComma s a b) {op : Comparison} (hop : Comparison.ofToken? (Text.trim b) = some op)
    (hlit : ∀ t, ¬ Decimal.Int64Literal (Text.trim a).toList t) :
    ∃ e, Decimal.readInt64 (Text.trim a) = .error e ∧
      countLeaf kind m v = .error (.invalidLiteral kind.name (Text.trim a) e.message) := by
  cases hn : Decimal.readInt64 (Text.trim a) with
  | ok n => exact absurd ((Decimal.readInt64_eq_ok_iff _ _).mp hn) (hlit n)
  | error e =>
    refine ⟨e, rfl, ?_⟩
    rw [countLeaf_of_scalarString kind h, splitCompound_bind_of_oneComma hs, hop]
    simp only [hn]

end Count

/-! ## Time leaves -/

section Time

variable {v : Value} {s a b : String}

/-- The time kind is read as a time leaf. -/
theorem buildLeaf_createdAt (v : Value) : buildLeaf .createdAt v = createdAtLeaf v := rfl

/-- The error of a time whose literal names no instant. -/
def instantExpected : String :=
  "expected an RFC 3339 timestamp or YYYY-MM-DD[ HH:MM:SS]"

/-- A time with a scalar value reads the literal before its comma as an instant. -/
theorem createdAtLeaf_of_scalarString (h : v.untag.scalarString? = some s) :
    createdAtLeaf v = splitCompound .createdAt s >>= fun p =>
      match Time.readLiteral p.1 with
      | some t => .ok (.createdAt t p.2)
      | none => .error (.invalidLiteral LeafKind.createdAt.name p.1 instantExpected) := by
  rw [createdAtLeaf, requiredText_of_scalarString h]
  rfl

/-- A time is read exactly from one comma with a comparison after it and an instant before
it. -/
theorem createdAtLeaf_eq_ok_iff (h : v.untag.scalarString? = some s) (t : Time.Instant)
    (op : Comparison) :
    createdAtLeaf v = .ok (.createdAt t op) ↔
      ∃ a b, OneComma s a b ∧ Comparison.ofToken? (Text.trim b) = some op ∧
        Time.readLiteral (Text.trim a) = some t := by
  rw [createdAtLeaf_of_scalarString h]
  by_cases hc : s.toList.count ',' = 1
  · obtain ⟨a, b, hs⟩ := oneComma_of_count_eq_one hc
    rw [splitCompound_bind_of_oneComma hs]
    constructor
    · intro hok
      cases hop : Comparison.ofToken? (Text.trim b) with
      | none =>
        rw [hop] at hok
        cases hok
      | some op' =>
        rw [hop] at hok
        cases ht : Time.readLiteral (Text.trim a) with
        | none =>
          simp only [ht] at hok
          cases hok
        | some t' =>
          simp only [ht, Except.ok.injEq, Leaf.createdAt.injEq] at hok
          obtain ⟨rfl, rfl⟩ := hok
          exact ⟨a, b, hs, hop, ht⟩
    · rintro ⟨a', b', hs', hop, ht⟩
      obtain ⟨rfl, rfl⟩ := hs'.unique hs
      simp only [hop, ht]
  · rw [splitCompound_of_count_ne_one hc]
    constructor
    · intro hok
      cases hok
    · rintro ⟨a, b, hs, -⟩
      exact absurd hs.count_eq_one hc

/-- A time whose literal names no instant reports the literal. -/
theorem createdAtLeaf_invalidLiteral (h : v.untag.scalarString? = some s) (hs : OneComma s a b)
    {op : Comparison} (hop : Comparison.ofToken? (Text.trim b) = some op)
    (ht : Time.readLiteral (Text.trim a) = none) :
    createdAtLeaf v =
      .error (.invalidLiteral LeafKind.createdAt.name (Text.trim a) instantExpected) := by
  rw [createdAtLeaf_of_scalarString h, splitCompound_bind_of_oneComma hs, hop]
  simp only [ht]

end Time

/-! ## The grammar of compound values -/

/-- **Count and time values.** For each metric and every YAML value: a null value, under any
tags, is a count of at least zero and no time. A list or a mapping is malformed. A scalar is
read from its text `s`. It gives a count, or a time, exactly when `s` holds one comma, the
trimmed text after it is one of the twelve spellings of a comparison, and the trimmed text before
it is a 64-bit integer literal, or an instant. Otherwise `s` is malformed when it does not hold
exactly one comma; the comparison is reported when it is not one of the spellings, whatever the
literal; and else the literal is reported. -/
theorem compound_value_grammar (m : Metric) (v : Value) :
    (v.untag = .null →
      buildLeaf m.kind v = .ok (.count m 0 .ge) ∧
      buildLeaf .createdAt v =
        .error (.malformedLeafValue LeafKind.createdAt.name "null" "a value is required")) ∧
    (v.untag.IsCollection →
      buildLeaf m.kind v =
        .error (.malformedLeafValue m.kind.name v.untag.debug "expected a scalar") ∧
      buildLeaf .createdAt v =
        .error (.malformedLeafValue LeafKind.createdAt.name v.untag.debug "expected a scalar")) ∧
    ∀ s, v.untag.scalarString? = some s →
      (∀ t op, buildLeaf m.kind v = .ok (.count m t op) ↔
        ∃ a b, OneComma s a b ∧ Comparison.ofToken? (Text.trim b) = some op ∧
          Decimal.Int64Literal (Text.trim a).toList t) ∧
      (∀ t op, buildLeaf .createdAt v = .ok (.createdAt t op) ↔
        ∃ a b, OneComma s a b ∧ Comparison.ofToken? (Text.trim b) = some op ∧
          Time.readLiteral (Text.trim a) = some t) ∧
      (s.toList.count ',' ≠ 1 →
        let reason := "expected '<literal>,<operator>', found " ++
          toString (s.toList.count ',' + 1) ++ " comma-separated part(s)"
        buildLeaf m.kind v = .error (.malformedLeafValue m.kind.name s reason) ∧
        buildLeaf .createdAt v =
          .error (.malformedLeafValue LeafKind.createdAt.name s reason)) ∧
      ∀ a b, OneComma s a b →
        (Text.trim b ∉ Comparison.spellings →
          buildLeaf m.kind v = .error (.unsupportedOperator m.kind.name (Text.trim b)) ∧
          buildLeaf .createdAt v =
            .error (.unsupportedOperator LeafKind.createdAt.name (Text.trim b))) ∧
        (Text.trim b ∈ Comparison.spellings →
          ((∀ t, ¬ Decimal.Int64Literal (Text.trim a).toList t) →
            ∃ e, Decimal.readInt64 (Text.trim a) = .error e ∧
              buildLeaf m.kind v = .error (.invalidLiteral m.kind.name (Text.trim a) e.message)) ∧
          (Time.readLiteral (Text.trim a) = none →
            buildLeaf .createdAt v =
              .error (.invalidLiteral LeafKind.createdAt.name (Text.trim a) instantExpected))) := by
  rw [buildLeaf_metric, buildLeaf_createdAt]
  refine ⟨fun hnull => ⟨?_, ?_⟩, fun hcoll => ⟨?_, ?_⟩, fun s hs => ⟨?_, ?_, ?_, ?_⟩⟩
  · rw [countLeaf, scalarText_of_null hnull]
    rfl
  · rw [createdAtLeaf, requiredText_of_null hnull]
    rfl
  · rw [countLeaf, scalarText_of_collection hcoll]
    rfl
  · rw [createdAtLeaf, requiredText_of_collection hcoll]
    rfl
  · exact countLeaf_eq_ok_iff _ hs
  · exact createdAtLeaf_eq_ok_iff hs
  · intro hc
    refine ⟨?_, ?_⟩
    · rw [countLeaf_of_scalarString _ hs, splitCompound_of_count_ne_one hc]
      rfl
    · rw [createdAtLeaf_of_scalarString hs, splitCompound_of_count_ne_one hc]
      rfl
  · intro a b hcomma
    refine ⟨fun hbad => ?_, fun hgood => ?_⟩
    · -- the comparison is read before the literal
      have hop := (Comparison.ofToken?_eq_none_iff _).mpr hbad
      refine ⟨?_, ?_⟩
      · rw [countLeaf_of_scalarString _ hs, splitCompound_bind_of_oneComma hcomma, hop]
      · rw [createdAtLeaf_of_scalarString hs, splitCompound_bind_of_oneComma hcomma, hop]
    · obtain ⟨op, hop⟩ := Option.ne_none_iff_exists'.mp
        (mt (Comparison.ofToken?_eq_none_iff _).mp fun hbad => hbad hgood)
      refine ⟨countLeaf_invalidLiteral _ hs hcomma hop, fun ht => ?_⟩
      rw [createdAtLeaf_of_scalarString hs, splitCompound_bind_of_oneComma hcomma, hop]
      simp only [ht]

/-- A bare number has no comma, so a count leaf refuses it. -/
theorem compound_value_grammar_bare_number :
    (Value.number (.nonNeg 10)).untag.scalarString? = some "10" ∧ "10".toList.count ',' ≠ 1 ∧
    buildLeaf Metric.likes.kind (.number (.nonNeg 10)) =
      .error (.malformedLeafValue Metric.likes.kind.name "10"
        "expected '<literal>,<operator>', found 1 comma-separated part(s)") :=
  ⟨rfl, by decide, ((compound_value_grammar .likes (.number (.nonNeg 10))).2.2 "10" rfl).2.2.1
    (by decide) |>.1⟩

/-! ## Comparing counts -/

namespace Comparison

/-- Whether `a` stands in this comparison to `b`, as integers. -/
def Holds : Comparison → Int → Int → Prop
  | .eq, a, b => a = b
  | .ge, a, b => b ≤ a
  | .gt, a, b => b < a
  | .le, a, b => a ≤ b
  | .lt, a, b => a < b
  | .ne, a, b => a ≠ b

/-- A comparison tested on integers is their comparison. -/
theorem test_iff_holds (op : Comparison) (a b : Int) : op.test a b = true ↔ op.Holds a b := by
  cases op <;> simp only [test, holds, Holds, beq_iff_eq, bne_iff_ne, ne_eq, Int.compare_eq_eq,
    Int.compare_eq_lt, Int.compare_eq_gt, Int.not_lt]

/-- A count taken at the ceiling compares as the count itself, unless both the count and the
threshold stand at or above the ceiling. -/
theorem holds_min_ceiling_iff (op : Comparison) {c : Nat} {t : Int}
    (h : c ≤ countCeiling ∨ t < countCeiling) :
    op.Holds ((min c countCeiling : Nat) : Int) t ↔ op.Holds c t := by
  rcases Nat.lt_or_ge countCeiling c with hc | hc
  · -- the count is past the ceiling and the threshold below it: both compare as greater
    have hlt : t < countCeiling := h.resolve_left (Nat.not_le.mpr hc)
    rw [Nat.min_eq_right (Nat.le_of_lt hc)]
    cases op <;> simp only [Holds] <;> omega
  · rw [Nat.min_eq_left hc]

end Comparison

/-- A count leaf compares the post's metric, taken at most at the ceiling, with its threshold. -/
theorem evaluate_count (m : Metric) (t : Int) (op : Comparison) (p : Post) :
    (Leaf.count m t op).evaluate p = true ↔
      ∃ c, m.read p = some c ∧ op.Holds ((min c countCeiling : Nat) : Int) t := by
  cases h : m.read p with
  | none => simp [Leaf.evaluate, h]
  | some c => simp [Leaf.evaluate, h, Comparison.test_iff_holds]

/-- **Count leaves compare as integers, up to the ceiling.** A count leaf passes a post exactly
when the post carries metrics and its count, taken at most at `2^63 - 1`, stands in the leaf's
comparison to the threshold. This is the comparison of the count itself, as an integer, whenever
the count is at most `2^63 - 1` or the threshold below it. -/
theorem count_leaf_compares_saturated (m : Metric) (t : Int) (op : Comparison) (p : Post) :
    ((Leaf.count m t op).evaluate p = true ↔
      ∃ c, m.read p = some c ∧ op.Holds ((min c countCeiling : Nat) : Int) t) ∧
    ∀ c, m.read p = some c → (c ≤ countCeiling ∨ t < countCeiling) →
      ((Leaf.count m t op).evaluate p = true ↔ op.Holds c t) := by
  refine ⟨evaluate_count m t op p, fun c hc hbelow => ?_⟩
  rw [evaluate_count, ← Comparison.holds_min_ceiling_iff op hbelow]
  constructor
  · rintro ⟨c', hc', hholds⟩
    rw [hc] at hc'
    cases hc'
    exact hholds
  · exact fun hholds => ⟨c, hc, hholds⟩

/-- Fifteen likes are at least ten. -/
theorem count_leaf_compares_saturated_fifteen_likes :
    ((Leaf.count .likes 10 .ge).evaluate
        { id := "1", text := "x", metrics := some { likes := 15 } } = true ↔
      Comparison.ge.Holds 15 10) :=
  (count_leaf_compares_saturated .likes 10 .ge _).2 15 rfl (.inl (by unfold countCeiling; rw [Nat.pow_eq]; omega))

/-- A post with `2^63` likes exceeds a threshold of `2^63 - 1` as integers, but the count is
taken as `2^63 - 1`, so the leaf asking for more likes than that fails. -/
theorem count_leaf_saturates_at_ceiling :
    let p : Post := { id := "1", text := "x", metrics := some { likes := 2 ^ 63 } }
    ¬ ((Leaf.count .likes countCeiling .gt).evaluate p = true ↔
      ∃ c, Metric.likes.read p = some c ∧ Comparison.gt.Holds c countCeiling) := by
  intro p hclaim
  have hread : Metric.likes.read p = some (2 ^ 63) := rfl
  have hmore : Comparison.gt.Holds ((2 ^ 63 : Nat) : Int) countCeiling := by
    show ((countCeiling : Nat) : Int) < ((2 ^ 63 : Nat) : Int)
    unfold countCeiling
    rw [Nat.pow_eq]
    omega
  have hpass := hclaim.mpr ⟨2 ^ 63, hread, hmore⟩
  rw [evaluate_count] at hpass
  obtain ⟨c, hc, hholds⟩ := hpass
  rw [hread] at hc
  cases hc
  simp only [Comparison.Holds, Nat.min_eq_right (show countCeiling ≤ 2 ^ 63 by decide)] at hholds
  omega

end PostRules
