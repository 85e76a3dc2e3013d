import PostRules.Proofs.Canonical
import PostRules.Proofs.Compound
import PostRules.Proofs.InstantReadBack

/-!
# Parameters of count and time leaves read back

A count leaf prints as `Label[<threshold>,<op>]` and a time leaf as `CreatedAt[<instant>,<op>]`,
the instant in RFC 3339 with `+00:00`. Compiling the text inside the brackets again, as the
string value of the same kind of leaf, gives the leaf back (`compound_param_reads_back`): every
count, since a count leaf's threshold is always read from a 64-bit literal, and every time whose
year in UTC has four digits.

An offset can move an instant into a year the readers do not accept: the first minute of year 0
at `+00:01` is the last minute of year -1 in UTC, which prints with a sign
(`created_at_param_unreadable_before_year_zero`).
-/

namespace PostRules

open Yaml

/-! ## Parameters are their own trimming -/

namespace Text

/-- Digits and the marks of integers and instants are not white space. -/
theorem isWhite_of_mark {c : Char} (h : c.isDigit ∨ c ∈ ['-', '+', 'T', ':', '.', 'Z']) :
    isWhite c = false := by
  rcases h with h | h
  · exact isWhite_of_isDigit h
  · simp only [List.mem_cons, List.not_mem_nil, or_false] at h
    rcases h with rfl | rfl | rfl | rfl | rfl | rfl <;> exact isWhite_eq_false (by decide) (by decide)

/-- The text of an integer has no white space to trim. -/
theorem trim_toString (n : Int) : trim (toString n) = toString n := by
  refine trim_eq_self fun c hc => isWhite_of_mark ?_
  rcases Time.mem_toString_int hc with h | rfl
  · exact .inl h
  · exact .inr (by decide)

/-- The RFC 3339 text of an instant has no white space to trim. -/
theorem trim_rfc3339 (t : Time.Instant) (zulu : Bool) :
    trim (t.rfc3339 zulu) = t.rfc3339 zulu :=
  trim_eq_self fun c hc => isWhite_of_mark (Time.Instant.rfc3339_marks t zulu c hc)

/-- A comparison's word has no white space to trim. -/
theorem trim_word (op : Comparison) : trim op.word = op.word := by
  cases op <;> decide +kernel

end Text

/-- The parameter of a compound leaf has its one comma between the literal and the word. -/
theorem oneComma_param {a : String} (ha : ',' ∉ a.toList) (op : Comparison) :
    OneComma (a ++ "," ++ op.word) a op.word :=
  ⟨by simp, ha, by cases op <;> decide⟩

/-! ## Counts -/

namespace Decimal

/-- Every value from `-2^63` to `2^63 - 1` is a 64-bit literal as printed. -/
theorem int64Literal_toString {n : Int} (hlo : -2 ^ 63 ≤ n) (hhi : n < 2 ^ 63) :
    Int64Literal (toString n).toList n := by
  have hnumeral : ∀ k, IsNumeral (Time.Instant.padded 0 k).toList := fun k => by
    obtain ⟨c, cs, hcs, -⟩ := Time.Instant.padded_eq_cons 0 k
    exact ⟨by simp [hcs], fun _ hc => Time.Instant.isDigit_of_mem_padded hc⟩
  rw [Time.toString_int_toList]
  split
  · have h := Int64Literal.unsigned (hnumeral n.toNat)
      (by rw [Time.Instant.ofDigitChars_padded]; omega)
    rwa [Time.Instant.ofDigitChars_padded, Int.toNat_of_nonneg ‹_›] at h
  · have h := Int64Literal.minus (hnumeral (-n).toNat)
      (by rw [Time.Instant.ofDigitChars_padded]; omega)
    rwa [Time.Instant.ofDigitChars_padded, Int.toNat_of_nonneg (by omega), Int.neg_neg] at h

end Decimal

/-- The parameter of a count with a 64-bit threshold is read back as the same count. -/
theorem countLeaf_param (m : Metric) {n : Int} (op : Comparison) (hlo : -2 ^ 63 ≤ n)
    (hhi : n < 2 ^ 63) :
    countLeaf m.kind m (.string (Leaf.count m n op).param) = .ok (.count m n op) := by
  refine (countLeaf_eq_ok_iff m.kind rfl n op).mpr
    ⟨_, _, oneComma_param (comma_not_mem_toString n) op, ?_, ?_⟩
  · rw [Text.trim_word, Comparison.ofToken?_word]
  · rw [Text.trim_toString]
    exact Decimal.int64Literal_toString hlo hhi

/-! ## Times -/

/-- The parameter of a time in years 0 to 9999 is read back as the same time. -/
theorem createdAtLeaf_param {t : Time.Instant} (op : Comparison) (ht : t.WellFormed)
    (hy : 0 ≤ t.year ∧ t.year ≤ 9999) :
    createdAtLeaf (.string (Leaf.createdAt t op).param) = .ok (.createdAt t op) := by
  refine (createdAtLeaf_eq_ok_iff rfl t op).mpr
    ⟨_, _, oneComma_param (Time.Instant.comma_not_mem_rfc3339 t false) op, ?_, ?_⟩
  · rw [Text.trim_word, Comparison.ofToken?_word]
  · rw [Text.trim_rfc3339]
    exact Time.readLiteral_rfc3339 ht hy false

/-! ## Compound leaves -/

/-- **Compound parameters read back.** Every count leaf that a value compiles to, and every time
leaf whose instant lies in years 0 to 9999 of UTC, is compiled again from the text of its
parameter as the string value of the same kind of leaf. -/
theorem compound_param_reads_back {k : LeafKind} {v : Value} {l : Leaf}
    (h : buildLeaf k v = .ok l) :
    (∀ m n op, l = .count m n op → buildLeaf k (.string l.param) = .ok l) ∧
    (∀ t op, l = .createdAt t op → 0 ≤ t.year → t.year ≤ 9999 →
      buildLeaf k (.string l.param) = .ok l) := by
  constructor
  · rintro m n op rfl
    obtain rfl : m.kind = k := buildLeaf_kind k v _ h
    rw [buildLeaf_metric] at h ⊢
    obtain ⟨n', op', hl, hlo, hhi⟩ := countLeaf_bounded m.kind m v _ h
    cases hl
    exact countLeaf_param m op hlo hhi
  · rintro t op rfl hy₀ hy₁
    obtain rfl : LeafKind.createdAt = k := buildLeaf_kind k v _ h
    obtain ⟨t', op', hl, ht⟩ := createdAtLeaf_succeeds v _ h
    cases hl
    exact createdAtLeaf_param op ht ⟨hy₀, hy₁⟩

/-- Half past midnight on 1 March 2024 at `+01:00` is read as the last day of February in
UTC, and read back from that text. -/
theorem compound_param_reads_back_across_midnight :
    buildLeaf .createdAt (.string "2024-03-01T00:30:00+01:00, >") =
        .ok (.createdAt ⟨19782, 84600, 0⟩ .gt) ∧
      (Leaf.createdAt ⟨19782, 84600, 0⟩ .gt).param = "2024-02-29T23:30:00+00:00,gt" ∧
      buildLeaf .createdAt (.string (Leaf.createdAt ⟨19782, 84600, 0⟩ .gt).param) =
        .ok (.createdAt ⟨19782, 84600, 0⟩ .gt) := by
  have h : buildLeaf .createdAt (.string "2024-03-01T00:30:00+01:00, >") =
      .ok (.createdAt ⟨19782, 84600, 0⟩ .gt) :=
    (createdAtLeaf_eq_ok_iff rfl _ _).mpr
      ⟨"2024-03-01T00:30:00+01:00", " >", ⟨by decide, by decide, by decide⟩, by decide +kernel,
        by decide +kernel⟩
  exact ⟨h, by decide +kernel,
    (compound_param_reads_back h).2 _ _ rfl (by decide +kernel) (by decide +kernel)⟩

/-- The first minute of year 0 at `+00:01` is a time leaf in year -1 of UTC, whose parameter
is not read as an instant. -/
theorem created_at_param_unreadable_before_year_zero :
    buildLeaf .createdAt (.string "0000-01-01T00:00:00+00:01,ge") =
        .ok (.createdAt ⟨-719529, 86340, 0⟩ .ge) ∧
      (Leaf.createdAt ⟨-719529, 86340, 0⟩ .ge).param = "-0001-12-31T23:59:00+00:00,ge" ∧
      buildLeaf .createdAt (.string (Leaf.createdAt ⟨-719529, 86340, 0⟩ .ge).param) =
        .error (.invalidLiteral LeafKind.createdAt.name "-0001-12-31T23:59:00+00:00"
          instantExpected) := by
  have hparam : (Leaf.createdAt ⟨-719529, 86340, 0⟩ .ge).param =
      "-0001-12-31T23:59:00+00:00,ge" := by decide +kernel
  refine ⟨(createdAtLeaf_eq_ok_iff rfl _ _).mpr
      ⟨"0000-01-01T00:00:00+00:01", "ge", ⟨by decide, by decide, by decide⟩, by decide +kernel,
        by decide +kernel⟩, hparam, ?_⟩
  have hcomma : OneComma "-0001-12-31T23:59:00+00:00,ge" "-0001-12-31T23:59:00+00:00" "ge" :=
    ⟨by decide, by decide, by decide⟩
  have hop : Comparison.ofToken? (Text.trim "ge") = some .ge := by decide +kernel
  have hliteral : Text.trim "-0001-12-31T23:59:00+00:00" = "-0001-12-31T23:59:00+00:00" := by
    decide +kernel
  rw [hparam, ← hliteral]
  exact createdAtLeaf_invalidLiteral rfl hcomma hop (by decide +kernel)

end PostRules
