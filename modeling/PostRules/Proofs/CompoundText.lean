import PostRules.Rule.Compile
import PostRules.Proofs.InstantText
import PostRules.Proofs.Meaning

/-!
# The text of a compound value

A count or time leaf writes its value as `<literal>,<operator>`. Reading it takes three steps on
text, each with a grammar of its own:

* the text is split at every comma, and must have exactly two parts, that is exactly one comma
  (`OneComma`);
* both parts are trimmed of white space at their ends, which leaves a text with no white space
  unchanged (`Text.trim_eq_self`);
* a count's literal is a signed 64-bit integer: an optional `+` or `-` and at least one ASCII
  digit, naming a value from `-2^63` to `2^63 - 1` (`Decimal.Int64Literal`).

`splitCompound_of_oneComma` and `splitCompound_of_count_ne_one` say what splitting gives, and
`Decimal.readInt64_eq_ok_iff` that a literal is read exactly when it is in the grammar, as the
integer it names.
-/

namespace PostRules

/-! ## White space at the ends -/

namespace Unicode

/-- A code point the search finds lies in one of the ranges. -/
theorem inRangesBetween_sound {rs : Array (Nat × Nat)} {c lo hi : Nat}
    (h : inRangesBetween rs c lo hi = true) : ∃ r ∈ rs.toList, r.1 ≤ c ∧ c ≤ r.2 := by
  induction lo, hi using inRangesBetween.induct rs c with
  | case1 lo hi hlt mid a b hmid hc ih =>
    apply ih
    rw [inRangesBetween, if_pos hlt] at h
    simpa [show rs[(lo + hi) / 2]? = some (a, b) from hmid, hc] using h
  | case2 lo hi hlt mid a b hmid hc hbc ih =>
    apply ih
    rw [inRangesBetween, if_pos hlt] at h
    simpa [show rs[(lo + hi) / 2]? = some (a, b) from hmid, hc, hbc] using h
  | case3 lo hi hlt mid a b hmid hc hbc =>
    -- the range at the middle holds the code point
    refine ⟨(a, b), ?_, by omega, by omega⟩
    exact Array.mem_toList_iff.mpr (Array.mem_of_getElem? hmid)
  | case4 lo hi hlt mid hmid =>
    rw [inRangesBetween, if_pos hlt] at h
    simp [show rs[(lo + hi) / 2]? = none from hmid] at h
  | case5 lo hi hlt =>
    rw [inRangesBetween, if_neg hlt] at h
    cases h

end Unicode

namespace Text

/-- A printable ASCII character other than the blank is not white space. -/
theorem isWhite_eq_false {c : Char} (h₁ : 32 < c.toNat) (h₂ : c.toNat < 133) :
    isWhite c = false := by
  cases hw : isWhite c with
  | false => rfl
  | true =>
    obtain ⟨r, hr, hlo, hhi⟩ := Unicode.inRangesBetween_sound hw
    simp only [Unicode.whiteSpaceRanges, List.mem_cons, List.not_mem_nil, or_false] at hr
    rcases hr with rfl | rfl | rfl | rfl | rfl | rfl | rfl | rfl | rfl | rfl <;> omega

/-- Digits and signs are not white space. -/
theorem isWhite_of_isDigit {c : Char} (h : c.isDigit) : isWhite c = false := by
  simp only [Char.isDigit, Bool.and_eq_true, decide_eq_true_eq] at h
  obtain ⟨h₁, h₂⟩ := h
  have h₁' : 48 ≤ c.toNat := h₁
  have h₂' : c.toNat ≤ 57 := h₂
  exact isWhite_eq_false (by omega) (by omega)

/-- A text with no white space is its own trimming. -/
theorem trim_eq_self {s : String} (h : ∀ c ∈ s.toList, isWhite c = false) : trim s = s := by
  have hkeep : ∀ l : List Char, (∀ c ∈ l, isWhite c = false) → l.dropWhile isWhite = l := by
    intro l hl
    cases l with
    | nil => rfl
    | cons c cs => simp [hl c (by simp)]
  unfold trim
  rw [hkeep _ h, hkeep _ (by simpa using h), List.reverse_reverse, String.ofList_toList]

end Text

/-! ## Splitting at commas -/

/-- Splitting at a separator gives one part more than the separator occurs. -/
theorem length_splitOn_eq_count (a : Char) (xs : List Char) :
    (xs.splitOn a).length = xs.count a + 1 := by
  induction xs with
  | nil => simp [List.splitOn_nil]
  | cons x xs ih =>
    rw [List.splitOn_cons_eq_if_modifyHead, List.count_cons]
    by_cases hx : x = a
    · simp [hx, ih]
    · simp [hx, ih]

/-- `s` holds exactly one comma, with `literal` before it and `token` after it. -/
def OneComma (s literal token : String) : Prop :=
  s.toList = literal.toList ++ ',' :: token.toList ∧ ',' ∉ literal.toList ∧ ',' ∉ token.toList

namespace OneComma

variable {s a b a' b' : String}

/-- A text split at its only comma holds exactly one comma. -/
theorem count_eq_one (h : OneComma s a b) : s.toList.count ',' = 1 := by
  rw [h.1, List.count_append, List.count_cons_self, List.count_eq_zero.mpr h.2.1,
    List.count_eq_zero.mpr h.2.2]

/-- The two sides of the one comma are determined by the text. -/
theorem unique (h : OneComma s a b) (h' : OneComma s a' b') : a = a' ∧ b = b' := by
  have hlists := h.1.symm.trans h'.1
  obtain ⟨ha, hb⟩ := Time.append_cons_inj_of_not_mem h.2.1 h'.2.1 hlists
  exact ⟨String.toList_inj.mp ha, String.toList_inj.mp hb⟩

/-- Splitting at commas gives the two sides of the one comma. -/
theorem parts (h : OneComma s a b) : (s.toList.splitOn ',').map String.ofList = [a, b] := by
  rw [h.1, List.splitOn_append_cons_self_of_not_mem h.2.1, List.splitOn_eq_singleton h.2.2]
  simp

end OneComma

/-- A text with one comma has two sides around it. -/
theorem oneComma_of_count_eq_one {s : String} (h : s.toList.count ',' = 1) :
    ∃ a b, OneComma s a b := by
  obtain ⟨l, r, hlr⟩ := List.append_of_mem (List.count_pos_iff.mp (by omega : 0 < s.toList.count ','))
  have hcount := h
  rw [hlr, List.count_append, List.count_cons_self] at hcount
  refine ⟨String.ofList l, String.ofList r, ?_, ?_, ?_⟩
  · simpa using hlr
  · simpa using List.count_eq_zero.mp (by omega : l.count ',' = 0)
  · simpa using List.count_eq_zero.mp (by omega : r.count ',' = 0)

section Split

variable {kind : LeafKind} {raw a b : String}

/-- A compound value without exactly one comma is malformed, and the error counts its parts. -/
theorem splitCompound_of_count_ne_one (h : raw.toList.count ',' ≠ 1) :
    splitCompound kind raw = .error (.malformedLeafValue kind.name raw
      ("expected '<literal>,<operator>', found " ++ toString (raw.toList.count ',' + 1) ++
        " comma-separated part(s)")) := by
  have hlen := length_splitOn_eq_count ',' raw.toList
  unfold splitCompound
  split
  · rename_i literal token hparts
    have := congrArg List.length hparts
    simp only [List.length_map, List.length_cons, List.length_nil] at this
    omega
  · rw [List.length_map, hlen]

/-- A compound value with one comma reads the comparison after it, trimmed, and keeps the literal
before it, trimmed. -/
theorem splitCompound_of_oneComma (h : OneComma raw a b) :
    splitCompound kind raw = match Comparison.ofToken? (Text.trim b) with
      | some op => .ok (Text.trim a, op)
      | none => .error (.unsupportedOperator kind.name (Text.trim b)) := by
  unfold splitCompound
  rewrite [h.parts]
  rfl

end Split

/-! ## Signed 64-bit literals -/

namespace Decimal

/-- A decimal numeral: at least one ASCII digit. -/
def IsNumeral (ds : List Char) : Prop :=
  ds ≠ [] ∧ ∀ c ∈ ds, c.isDigit

/-- A literal of a signed 64-bit integer and the integer it names: a numeral after an optional
`+` or `-`, naming a value from `-2^63` to `2^63 - 1`. -/
inductive Int64Literal : List Char → Int → Prop
  | unsigned {ds : List Char} : IsNumeral ds → Nat.ofDigitChars 10 ds 0 < 2 ^ 63 →
      Int64Literal ds (Nat.ofDigitChars 10 ds 0)
  | plus {ds : List Char} : IsNumeral ds → Nat.ofDigitChars 10 ds 0 < 2 ^ 63 →
      Int64Literal ('+' :: ds) (Nat.ofDigitChars 10 ds 0)
  | minus {ds : List Char} : IsNumeral ds → Nat.ofDigitChars 10 ds 0 ≤ 2 ^ 63 →
      Int64Literal ('-' :: ds) (-(Nat.ofDigitChars 10 ds 0 : Int))

/-- A 64-bit literal names a value from `-2^63` to `2^63 - 1`. -/
theorem Int64Literal.bounds {ds : List Char} {n : Int} (h : Int64Literal ds n) :
    -2 ^ 63 ≤ n ∧ n < 2 ^ 63 := by
  cases h with
  | unsigned _ hlt => omega
  | plus _ hlt => omega
  | minus _ hle => omega

/-- Digits read from the left stop at the first character that is not one, and fail once the
value passes the bound; the value only grows as digits are read. -/
theorem accumulate_eq_ok {bound : Nat} {overflow : IntError} :
    ∀ {acc n : Nat} {ds : List Char}, acc ≤ bound →
      (accumulate bound overflow acc ds = .ok n ↔
        (∀ c ∈ ds, c.isDigit) ∧ Nat.ofDigitChars 10 ds acc = n ∧ n ≤ bound) := by
  intro acc n ds hacc
  induction ds generalizing acc with
  | nil =>
    simp only [accumulate, Except.ok.injEq, Nat.ofDigitChars_nil]
    constructor
    · rintro rfl
      exact ⟨by simp, rfl, hacc⟩
    · exact fun h => h.2.1
  | cons c cs ih =>
    -- the digits after `c` only add to the value read so far
    have hgrow : ∀ m, m ≤ Nat.ofDigitChars 10 cs m := fun m => by
      rw [Nat.ofDigitChars_eq_ofDigitChars_zero]
      have hpow := Nat.one_le_pow cs.length 10 (by decide)
      calc m ≤ 10 ^ cs.length * m := Nat.le_mul_of_pos_left m hpow
        _ ≤ _ := Nat.le_add_right _ _
    by_cases hc : c.isDigit
    · rw [Nat.ofDigitChars_cons]
      by_cases hover : acc * 10 + (c.toNat - '0'.toNat) > bound
      · simp only [accumulate, hc, ↓reduceIte, if_pos hover]
        constructor
        · intro h
          cases h
        · rintro ⟨-, rfl, hle⟩
          have := hgrow (10 * acc + (c.toNat - '0'.toNat))
          omega
      · simp only [accumulate, hc, ↓reduceIte, if_neg hover]
        rw [ih (by omega), Nat.mul_comm acc 10]
        simp [hc]
    · simp only [accumulate, hc]
      constructor
      · intro h
        cases h
      · rintro ⟨hdigits, -⟩
        exact absurd (hdigits c (by simp)) hc

/-- The digits after a sign, or the whole text, read as a value that the sign then names. -/
theorem accumulate_bind_eq_ok {bound : Nat} {overflow : IntError} {ds : List Char} {n : Int}
    (name : Nat → Int) :
    (do let m ← accumulate bound overflow 0 ds; pure (name m)) = .ok n ↔
      (∀ c ∈ ds, c.isDigit) ∧ Nat.ofDigitChars 10 ds 0 ≤ bound ∧
        n = name (Nat.ofDigitChars 10 ds 0) := by
  rw [except_bind_eq_ok]
  constructor
  · rintro ⟨m, hm, hname⟩
    obtain ⟨hdigits, rfl, hle⟩ := (accumulate_eq_ok (Nat.zero_le bound)).mp hm
    exact ⟨hdigits, hle, (Except.ok.inj hname).symm⟩
  · rintro ⟨hdigits, hle, rfl⟩
    exact ⟨_, (accumulate_eq_ok (Nat.zero_le bound)).mpr ⟨hdigits, rfl, hle⟩, rfl⟩

/-- A literal starting with a minus sign names the negated value of the numeral after it. -/
theorem int64Literal_minus_iff {ds : List Char} {n : Int} :
    Int64Literal ('-' :: ds) n ↔
      IsNumeral ds ∧ Nat.ofDigitChars 10 ds 0 ≤ 2 ^ 63 ∧ n = -(Nat.ofDigitChars 10 ds 0 : Int) := by
  constructor
  · rintro (⟨hds, -⟩ | ⟨hds, -⟩ | ⟨hds, hle⟩)
    · exact absurd (hds.2 '-' (by simp)) (by decide)
    · exact ⟨hds, hle, rfl⟩
  · rintro ⟨hds, hle, rfl⟩
    exact .minus hds hle

/-- A literal starting with a plus sign names the value of the numeral after it. -/
theorem int64Literal_plus_iff {ds : List Char} {n : Int} :
    Int64Literal ('+' :: ds) n ↔
      IsNumeral ds ∧ Nat.ofDigitChars 10 ds 0 < 2 ^ 63 ∧ n = Nat.ofDigitChars 10 ds 0 := by
  constructor
  · rintro (⟨hds, -⟩ | ⟨hds, hlt⟩)
    · exact absurd (hds.2 '+' (by simp)) (by decide)
    · exact ⟨hds, hlt, rfl⟩
  · rintro ⟨hds, hlt, rfl⟩
    exact .plus hds hlt

/-- A literal with no sign names the value of its numeral. -/
theorem int64Literal_unsigned_iff {ds : List Char} {n : Int} (hminus : ∀ l, ds ≠ '-' :: l)
    (hplus : ∀ l, ds ≠ '+' :: l) :
    Int64Literal ds n ↔
      IsNumeral ds ∧ Nat.ofDigitChars 10 ds 0 < 2 ^ 63 ∧ n = Nat.ofDigitChars 10 ds 0 := by
  constructor
  · rintro (⟨hds, hlt⟩ | ⟨-, -⟩ | ⟨-, -⟩)
    · exact ⟨hds, hlt, rfl⟩
    · exact absurd rfl (hplus _)
    · exact absurd rfl (hminus _)
  · rintro ⟨hds, hlt, rfl⟩
    exact .unsigned hds hlt

/-- **A 64-bit integer is read exactly from its literals.** Reading a text succeeds exactly when
it is an optional sign and at least one digit naming a value in range, and gives that value. -/
theorem readInt64_eq_ok_iff (s : String) (n : Int) :
    readInt64 s = .ok n ↔ Int64Literal s.toList n := by
  unfold readInt64
  split
  · rename_i hs
    rw [hs, int64Literal_unsigned_iff (by simp) (by simp)]
    simp [IsNumeral]
  · rename_i hs
    rw [hs, int64Literal_plus_iff]
    simp [IsNumeral]
  · rename_i hs
    rw [hs, int64Literal_minus_iff]
    simp [IsNumeral]
  · rename_i ds hne hs
    rw [hs, int64Literal_minus_iff, accumulate_bind_eq_ok]
    simp only [IsNumeral]
    constructor
    · exact fun ⟨hdigits, hle, hn⟩ => ⟨⟨hne, hdigits⟩, hle, hn⟩
    · exact fun ⟨⟨_, hdigits⟩, hle, hn⟩ => ⟨hdigits, hle, hn⟩
  · rename_i ds hne hs
    rw [hs, int64Literal_plus_iff, accumulate_bind_eq_ok]
    simp only [IsNumeral, Nat.pow_eq]
    constructor
    · exact fun ⟨hdigits, hle, hn⟩ => ⟨⟨hne, hdigits⟩, by omega, hn⟩
    · exact fun ⟨⟨_, hdigits⟩, hlt, hn⟩ => ⟨hdigits, by omega, hn⟩
  · rename_i hnil _ _ hminus hplus
    rw [int64Literal_unsigned_iff hminus hplus, accumulate_bind_eq_ok]
    simp only [IsNumeral, Nat.pow_eq]
    constructor
    · exact fun ⟨hdigits, hle, hn⟩ => ⟨⟨hnil, hdigits⟩, by omega, hn⟩
    · exact fun ⟨⟨_, hdigits⟩, hlt, hn⟩ => ⟨hdigits, by omega, hn⟩

end Decimal

end PostRules
