import PostRules.Proofs.Meaning
import PostRules.Proofs.InstantText

/-!
# Instants read from text are well formed

Every reader of instants ends by turning fields into an instant (`Fields.toInstant`), and the
fields it reads keep a fraction below a second and an offset of whole minutes (`Fields.Fit`):
numbers read into the date and time fields leave both alone, a fraction has at most nine digits,
and an offset is hours and minutes. From such fields only a well-formed instant comes, whose
seconds stay within a day and whose nanoseconds stay within a second, or within a leap second
at the end of a minute, since moving by whole minutes keeps the second within the minute. So
every instant `readLiteral` gives is well formed (`readLiteral_wellFormed`), and is written one
way (`Instant.rfc3339_injective`).
-/

namespace PostRules.Time

/-- Fields as the readers set them: a fraction below a second, and an offset of whole
minutes. -/
structure Fields.Fit (fs : Fields) : Prop where
  nano : ∀ n, fs.nano = some n → n < 10 ^ 9
  offset : ∀ o, fs.offset = some o → o % 60 = 0

/-- No fields read yet fit an instant. -/
theorem Fields.fit_empty : ({} : Fields).Fit where
  nano _ h := nomatch h
  offset _ h := nomatch h

/-- Setting a date or time field keeps the fraction and the offset. -/
theorem Fields.Fit.set {fs fs' : Fields} {f : Field} {v : Int} (hfs : fs.Fit)
    (h : fs.set f v = .ok fs') : fs'.Fit := by
  unfold Fields.set at h
  split at h
  · cases h
  · cases h
    cases f <;> exact ⟨hfs.nano, hfs.offset⟩

/-- A decimal digit is worth at most nine. -/
theorem digit_value_le {c : Char} (h : c.isDigit) : c.toNat - '0'.toNat ≤ 9 := by
  simp only [Char.isDigit, Bool.and_eq_true, decide_eq_true_eq] at h
  obtain ⟨h1, h2⟩ := h
  simp only [GE.ge, UInt32.le_iff_toNat_le] at h1 h2
  simp only [Char.toNat]
  simp at h1 h2 ⊢
  omega

/-- Digits are worth less than ten to the power of their count. -/
theorem ofDigitChars_lt : ∀ {l : List Char} {init : Nat}, (∀ c ∈ l, c.isDigit) →
    Nat.ofDigitChars 10 l init < (init + 1) * 10 ^ l.length
  | [], init, _ => by simp [Nat.ofDigitChars]
  | c :: l, init, h => by
    have hc := digit_value_le (h c List.mem_cons_self)
    have ih := @ofDigitChars_lt l (10 * init + (c.toNat - '0'.toNat))
      (fun c hc => h c (List.mem_cons_of_mem _ hc))
    calc Nat.ofDigitChars 10 (c :: l) init
        = Nat.ofDigitChars 10 l (10 * init + (c.toNat - '0'.toNat)) := rfl
      _ < (10 * init + (c.toNat - '0'.toNat) + 1) * 10 ^ l.length := ih
      _ ≤ (init + 1) * 10 * 10 ^ l.length := Nat.mul_le_mul_right _ (by omega)
      _ = (init + 1) * 10 ^ (c :: l).length := by
        rw [List.length_cons, Nat.pow_succ, Nat.mul_assoc, Nat.mul_comm 10]

/-- The readers accumulate digits from the left, as `Nat.ofDigitChars` does. -/
theorem foldl_digits (l : List Char) (init : Nat) :
    l.foldl (fun acc c => acc * 10 + (c.toNat - '0'.toNat)) init = Nat.ofDigitChars 10 l init := by
  rw [Nat.ofDigitChars_eq_foldl]
  congr
  funext acc c
  rw [Nat.mul_comm]

/-- What a number read from text is worth and how much of the text it takes. -/
theorem scanNumber_eq_ok {s rest : List Char} {least most v : Nat}
    (h : scanNumber s least most = .ok (v, rest)) :
    ∃ k, k ≤ most ∧ k ≤ s.length ∧ rest = s.drop k ∧ v < 10 ^ k := by
  unfold scanNumber at h
  split at h
  · cases h
  dsimp only at h
  split at h
  · cases h
  split at h
  · cases h
  cases h
  -- the digits are a prefix of the first `most` characters
  have hprefix : (s.take most).takeWhile Char.isDigit <+: s.take most := List.takeWhile_prefix _
  have hlen := hprefix.length_le
  have hdigits : ∀ c ∈ (s.take most).takeWhile Char.isDigit, c.isDigit :=
    List.all_eq_true.mp List.all_takeWhile
  refine ⟨((s.take most).takeWhile Char.isDigit).length, ?_, ?_, rfl, ?_⟩
  · exact Nat.le_trans hlen (List.length_take_le _ _)
  · exact Nat.le_trans hlen (List.length_take_le' _ _)
  · rw [foldl_digits]
    simpa using @ofDigitChars_lt _ 0 hdigits

/-- A fraction read from text is below a second. -/
theorem scanFraction_lt {s rest : List Char} {n : Nat} (h : scanFraction s = .ok (n, rest)) :
    n < 10 ^ 9 := by
  unfold scanFraction at h
  obtain ⟨⟨v, rest₀⟩, hscan, h⟩ := except_bind_eq_ok.mp h
  cases h
  obtain ⟨k, hk, hks, rfl, hv⟩ := scanNumber_eq_ok hscan
  rw [List.length_drop, show s.length - (s.length - k) = k by omega]
  calc v * 10 ^ (9 - k) < 10 ^ k * 10 ^ (9 - k) :=
        Nat.mul_lt_mul_of_pos_right hv (Nat.pos_of_ne_zero (by simp))
    _ = 10 ^ 9 := by rw [← Nat.pow_add, Nat.add_sub_cancel' hk]

/-- Reading a pattern keeps the fields fit. -/
theorem Fields.Fit.readPieces : ∀ {ps : List Piece} {fs fs' : Fields} {s rest : List Char},
    fs.Fit → readPieces ps fs s = .ok (fs', rest) → fs'.Fit
  | [], _, _, _, _, hfs, h => by
    cases h
    exact hfs
  | .number f :: ps, fs, fs', s, rest, hfs, h => by
    obtain ⟨⟨v, s₁⟩, -, h⟩ := except_bind_eq_ok.mp h
    obtain ⟨fs₁, hset, h⟩ := except_bind_eq_ok.mp h
    exact (hfs.set hset).readPieces h
  | .literal c :: ps, fs, fs', s, rest, hfs, h => by
    obtain ⟨s₁, -, h⟩ := except_bind_eq_ok.mp h
    exact hfs.readPieces h
  | .blank :: ps, fs, fs', s, rest, hfs, h =>
    @Fields.Fit.readPieces ps fs fs' (skipWhite s) rest hfs h
  | .fraction :: ps, fs, fs', s, rest, hfs, h => by
    rw [PostRules.Time.readPieces.eq_def] at h
    dsimp only at h
    split at h
    · obtain ⟨⟨n, s₁⟩, hn, h⟩ := except_bind_eq_ok.mp h
      have hfit : ({ fs with nano := some n } : Fields).Fit := by
        refine ⟨fun n' hn' => ?_, hfs.offset⟩
        cases hn'
        exact scanFraction_lt hn
      exact hfit.readPieces h
    · exact hfs.readPieces h

/-- Fields read by a pattern are fit. -/
theorem Fields.fit_readPattern {ps : List Piece} {s : String} {fs : Fields}
    (h : readPattern ps s = .ok fs) : fs.Fit := by
  unfold readPattern at h
  obtain ⟨⟨fs₁, rest⟩, hread, h⟩ := except_bind_eq_ok.mp h
  have hfit := fit_empty.readPieces hread
  dsimp only at h
  split at h
  · cases h
  · cases h
    exact hfit

/-- A number read into a field keeps the fields fit. -/
theorem Fields.Fit.scanSet {fs fs' : Fields} {f : Field} {s rest : List Char} {w : Nat}
    (hfs : fs.Fit)
    (h : (do
      let (v, rest) ← scanNumber s w w
      let fs ← fs.set f v
      pure (fs, rest)) = Except.ok (fs', rest)) : fs'.Fit := by
  obtain ⟨⟨v, rest₀⟩, -, h⟩ := except_bind_eq_ok.mp h
  obtain ⟨fs₀, hset, h⟩ := except_bind_eq_ok.mp h
  cases h
  exact hfs.set hset

/-- An offset read from text is a whole number of minutes. -/
theorem scanOffset_mod {s rest : List Char} {sep : List Char → Except TimeError (List Char)}
    {o : Int} (h : scanOffset s sep = .ok (o, rest)) : o % 60 = 0 := by
  unfold scanOffset at h
  dsimp only at h
  simp only [pure_bind] at h
  -- `Z`, or a sign and two digits of hours, then the minutes after the separator
  repeat' split at h
  all_goals first
    | (cases h; done)
    | (cases h; omega)
    | skip
  all_goals
    obtain ⟨s', -, h⟩ := except_bind_eq_ok.mp h
    repeat' split at h
    all_goals first
      | (cases h; done)
      | (cases h; omega)

/-- Fields that fit still fit with a nanosecond count below a second. -/
theorem Fields.Fit.withNano {fs : Fields} {n : Nat} (hfs : fs.Fit) (hn : n < 10 ^ 9) :
    ({ fs with nano := some n } : Fields).Fit where
  nano _ h := by
    cases h
    exact hn
  offset := hfs.offset

/-- Fields that fit still fit with an offset of whole minutes. -/
theorem Fields.Fit.withOffset {fs : Fields} {o : Int} (hfs : fs.Fit) (ho : o % 60 = 0) :
    ({ fs with offset := some o } : Fields).Fit where
  nano := hfs.nano
  offset _ h := by
    cases h
    exact ho

/-- An instant at a time of day, moved by whole minutes, keeps its second within the minute. -/
theorem wellFormed_shift_ofCivil {y : Int} {m d hour minute sec nano : Nat} {offset : Int}
    (hoff : offset % 60 = 0) (h : nano < 10 ^ 9 ∨ sec = 59 ∧ nano < 2 * 10 ^ 9) :
    ((Instant.ofCivil y m d hour minute sec nano).shift (-offset)).WellFormed := by
  simp only [Instant.WellFormed, Instant.shift, Instant.ofCivil,
    Int.fmod_eq_emod_of_nonneg _ (show (0 : Int) ≤ 86400 by decide)]
  omega

/-- Fit fields give only well-formed instants. -/
theorem Fields.Fit.toInstant {fs : Fields} {t : Instant} (hfs : fs.Fit)
    (h : fs.toInstant = .ok t) : t.WellFormed := by
  have hoff : fs.offset.getD 0 % 60 = 0 := by
    cases ho : fs.offset with
    | none => rfl
    | some o => exact hfs.offset o ho
  -- once the seconds and the fraction are known, the branch that does not fail returns the
  -- local time moved by the offset
  rcases hsec : fs.second with _ | s <;> rcases hn : fs.nano with _ | n
  · simp only [Fields.toInstant, hsec, hn, pure_bind] at h
    repeat' split at h
    all_goals try (cases h; done)
    cases h
    exact wellFormed_shift_ofCivil hoff (.inl (by decide))
  · -- a fraction without seconds
    simp only [Fields.toInstant, hsec, hn] at h
    repeat' split at h
    all_goals cases h
  · simp only [Fields.toInstant, hsec, hn, pure_bind] at h
    repeat' split at h
    all_goals try (cases h; done)
    -- a leap second, or any other
    all_goals cases h
    all_goals first
      | exact wellFormed_shift_ofCivil hoff (.inr ⟨rfl, by decide⟩)
      | exact wellFormed_shift_ofCivil hoff (.inl (by simp))
  · have hnano := hfs.nano n hn
    simp only [Fields.toInstant, hsec, hn, pure_bind] at h
    repeat' split at h
    all_goals try (cases h; done)
    -- a leap second, or any other
    all_goals cases h
    all_goals first
      | exact wellFormed_shift_ofCivil hoff (.inr ⟨rfl, by simp; omega⟩)
      | exact wellFormed_shift_ofCivil hoff (.inl (by simp; omega))

/-- The strict RFC 3339 reader gives well-formed instants: its fields are numbers, a fraction
and an offset, read in order. -/
theorem readRfc3339_wellFormed {s : String} {t : Instant} (h : readRfc3339 s = .ok t) :
    t.WellFormed := by
  unfold readRfc3339 at h
  dsimp only at h
  obtain ⟨⟨fs₁, s₁⟩, h₁, h⟩ := except_bind_eq_ok.mp h
  have hf₁ := Fields.fit_empty.scanSet h₁
  obtain ⟨s₂, -, h⟩ := except_bind_eq_ok.mp h
  obtain ⟨⟨fs₃, s₃⟩, h₃, h⟩ := except_bind_eq_ok.mp h
  have hf₃ := hf₁.scanSet h₃
  obtain ⟨s₄, -, h⟩ := except_bind_eq_ok.mp h
  obtain ⟨⟨fs₅, s₅⟩, h₅, h⟩ := except_bind_eq_ok.mp h
  have hf₅ := hf₃.scanSet h₅
  -- `T`, `t` or a blank between the date and the time
  split at h
  rotate_left 3
  · cases h
  · cases h
  all_goals
    obtain ⟨s₆, -, h⟩ := except_bind_eq_ok.mp h
    obtain ⟨⟨fs₇, s₇⟩, h₇, h⟩ := except_bind_eq_ok.mp h
    have hf₇ := hf₅.scanSet h₇
    obtain ⟨s₈, -, h⟩ := except_bind_eq_ok.mp h
    obtain ⟨⟨fs₉, s₉⟩, h₉, h⟩ := except_bind_eq_ok.mp h
    have hf₉ := hf₇.scanSet h₉
    obtain ⟨s₁₀, -, h⟩ := except_bind_eq_ok.mp h
    obtain ⟨⟨fs₁₁, s₁₁⟩, h₁₁, h⟩ := except_bind_eq_ok.mp h
    have hf₁₁ := hf₉.scanSet h₁₁
    -- a fraction or none, then the offset and the checks
    split at h
    · obtain ⟨⟨n, s₁₂⟩, hn, h⟩ := except_bind_eq_ok.mp h
      obtain ⟨⟨fs₁₂, s₁₃⟩, hpure, h⟩ := except_bind_eq_ok.mp h
      cases hpure
      obtain ⟨⟨o, s₁₄⟩, ho, h⟩ := except_bind_eq_ok.mp h
      split at h
      · cases h
      split at h
      · cases h
      exact ((hf₁₁.withNano (scanFraction_lt hn)).withOffset (scanOffset_mod ho)).toInstant h
    · obtain ⟨⟨fs₁₂, s₁₃⟩, hpure, h⟩ := except_bind_eq_ok.mp h
      cases hpure
      obtain ⟨⟨o, s₁₄⟩, ho, h⟩ := except_bind_eq_ok.mp h
      split at h
      · cases h
      split at h
      · cases h
      exact (hf₁₁.withOffset (scanOffset_mod ho)).toInstant h

/-- Every instant read from text is well formed. -/
theorem readLiteral_wellFormed {s : String} {t : Instant} (h : readLiteral s = some t) :
    t.WellFormed := by
  unfold readLiteral at h
  split at h
  · cases h
    exact readRfc3339_wellFormed ‹_›
  dsimp only at h
  -- a date and a time, with `T` or a blank between
  split at h
  · cases h
    obtain ⟨fs, hfs, ht⟩ := except_bind_eq_ok.mp ‹_›
    exact (Fields.fit_readPattern hfs).toInstant ht
  split at h
  · cases h
    obtain ⟨fs, hfs, ht⟩ := except_bind_eq_ok.mp ‹_›
    exact (Fields.fit_readPattern hfs).toInstant ht
  -- a date alone, at midnight
  split at h
  · rename_i fs hfs
    have hfit := Fields.fit_readPattern hfs
    cases ht :
        ({ fs with hour := some 0, minute := some 0, second := some 0 } : Fields).toInstant with
    | error e =>
      rw [ht] at h
      cases h
    | ok t' =>
      rw [ht] at h
      cases h
      exact (show ({ fs with hour := some 0, minute := some 0, second := some 0 } : Fields).Fit
        from ⟨hfit.nano, hfit.offset⟩).toInstant ht
  · cases h

end PostRules.Time
