import Mathlib
import PostRules.Time.Instant

/-!
# An instant is written one way

The RFC 3339 text of an instant names it again (`Instant.rfc3339_injective`), for instants whose
seconds stay within a day and whose nanoseconds stay within a second, or within a leap second at
the end of a minute (`Instant.WellFormed`).

Reading the text back rests on three facts. A number written with padding zeros names the same
number (`ofDigitChars_padded`), and so does a year, with its sign (`signedValue_yearText`). A
day's date names that day again (`civilFromDays_spec`), for every day: within an era of 146097
days the conversion keeps the year below 400 and the day of the year below 366. And the text
splits at its separators, since neither the year nor the fixed-width fields hold a point.
-/

namespace PostRules.Time

/-- Two lists that agree around the first `c` of each agree on both sides of it. -/
theorem append_cons_inj_of_not_mem {A A' B B' : List Char} {c : Char} (hA : c ∉ A)
    (hA' : c ∉ A') (h : A ++ c :: B = A' ++ c :: B') : A = A' ∧ B = B' := by
  induction A generalizing A' with
  | nil =>
    cases A' with
    | nil => simpa using h
    | cons a A' =>
      simp only [List.nil_append, List.cons_append, List.cons.injEq] at h
      exact absurd (by simp [← h.1]) hA'
  | cons a A ih =>
    cases A' with
    | nil =>
      simp only [List.nil_append, List.cons_append, List.cons.injEq] at h
      exact absurd (by simp [h.1]) hA
    | cons a' A' =>
      simp only [List.cons_append, List.cons.injEq] at h
      obtain ⟨rfl, h⟩ := h
      obtain ⟨rfl, rfl⟩ := ih (fun hc => hA (List.mem_cons_of_mem _ hc))
        (fun hc => hA' (List.mem_cons_of_mem _ hc)) h
      exact ⟨rfl, rfl⟩

/-! ## The calendar -/

/-- Within an era, the year that `civilFromDays` finds has passed as many centuries as the era's
day has passed full centuries of days, less the era's last day. -/
theorem centuries_of_yearOfEra {doe yoe : Int} (h0 : 0 ≤ doe) (h1 : doe ≤ 146096)
    (hyoe : (doe - doe / 1460 + doe / 36524 - doe / 146096) / 365 = yoe) :
    yoe / 100 = doe / 36524 - doe / 146096 := by
  have hc : doe / 36524 = 0 ∨ doe / 36524 = 1 ∨ doe / 36524 = 2 ∨ doe / 36524 = 3 ∨
      doe / 36524 = 4 := by omega
  rcases hc with hc | hc | hc | hc | hc <;> omega

/-- Within an era of 146097 days, the year that `civilFromDays` finds is below 400 and the day
of that year below 366. -/
theorem yearOfEra_bounds {doe : Int} (h0 : 0 ≤ doe) (h1 : doe ≤ 146096) :
    0 ≤ (doe - doe / 1460 + doe / 36524 - doe / 146096) / 365 ∧
    (doe - doe / 1460 + doe / 36524 - doe / 146096) / 365 ≤ 399 ∧
    0 ≤ doe - (365 * ((doe - doe / 1460 + doe / 36524 - doe / 146096) / 365) +
      (doe - doe / 1460 + doe / 36524 - doe / 146096) / 365 / 4 -
      (doe - doe / 1460 + doe / 36524 - doe / 146096) / 365 / 100) ∧
    doe - (365 * ((doe - doe / 1460 + doe / 36524 - doe / 146096) / 365) +
      (doe - doe / 1460 + doe / 36524 - doe / 146096) / 365 / 4 -
      (doe - doe / 1460 + doe / 36524 - doe / 146096) / 365 / 100) ≤ 365 := by
  generalize hyoe : (doe - doe / 1460 + doe / 36524 - doe / 146096) / 365 = yoe
  -- the leap days the year skips: one per four years, less one per century
  have hcycles : yoe / 4 ≤ doe / 1460 ∧ doe / 1460 ≤ yoe / 4 + 1 := by omega
  have hcenturies := centuries_of_yearOfEra h0 h1 hyoe
  omega

/-- The steps of `civilFromDays`: the era of 400 years, the day within it, the year within the
era, the day of that year counted from March, and the month counted from March. -/
theorem civilFromDays_eq (z : Int) : ∃ era doe yoe doy mp : Int,
    0 ≤ doe ∧ doe ≤ 146096 ∧ z + 719468 = era * 146097 + doe ∧
    (doe - doe / 1460 + doe / 36524 - doe / 146096) / 365 = yoe ∧ 0 ≤ yoe ∧ yoe ≤ 399 ∧
    doe - (365 * yoe + yoe / 4 - yoe / 100) = doy ∧ 0 ≤ doy ∧ doy ≤ 365 ∧
    (5 * doy + 2) / 153 = mp ∧
    civilFromDays z =
      (if mp < 10 then yoe + era * 400 else yoe + era * 400 + 1,
        (if mp < 10 then mp + 3 else mp - 9).toNat, (doy - (153 * mp + 2) / 5 + 1).toNat) := by
  have hdoe0 : 0 ≤ z + 719468 - (z + 719468) / 146097 * 146097 := by omega
  have hdoe1 : z + 719468 - (z + 719468) / 146097 * 146097 ≤ 146096 := by omega
  obtain ⟨hyoe0, hyoe1, hdoy0, hdoy1⟩ := yearOfEra_bounds hdoe0 hdoe1
  refine ⟨(z + 719468) / 146097, _, _, _, _, hdoe0, hdoe1, by omega, rfl, hyoe0, hyoe1, rfl,
    hdoy0, hdoy1, rfl, ?_⟩
  unfold civilFromDays
  simp only [Int.fdiv_eq_ediv, show (0 : Int) ≤ 146097 from by decide, true_or, if_true,
    Int.sub_zero]
  generalize z + 719468 - (z + 719468) / 146097 * 146097 = doe at hdoy0 hdoy1 ⊢
  generalize (doe - doe / 1460 + doe / 36524 - doe / 146096) / 365 = yoe at hdoy0 hdoy1 ⊢
  generalize doe - (365 * yoe + yoe / 4 - yoe / 100) = doy at hdoy0 hdoy1 ⊢
  -- March to December of the era's year, or January and February of the next
  split <;> rename_i hlt
  · rw [if_neg (by omega)]
  · rw [if_pos (by omega)]

/-- A day's date has a month from 1 to 12 and a day from 1 to 31, and names that day again. -/
theorem civilFromDays_spec (z : Int) :
    1 ≤ (civilFromDays z).2.1 ∧ (civilFromDays z).2.1 ≤ 12 ∧ 1 ≤ (civilFromDays z).2.2 ∧
      (civilFromDays z).2.2 ≤ 31 ∧
      daysFromCivil (civilFromDays z).1 (civilFromDays z).2.1 (civilFromDays z).2.2 = z := by
  obtain ⟨era, doe, yoe, doy, mp, hdoe0, hdoe1, hz, -, hyoe0, hyoe1, hdoy, hdoy0, hdoy1, hmp,
    hciv⟩ := civilFromDays_eq z
  rw [hciv]
  unfold daysFromCivil
  simp only [Int.fdiv_eq_ediv, show (0 : Int) ≤ 400 from by decide, true_or, if_true,
    Int.sub_zero]
  have hday0 : 1 ≤ doy - (153 * mp + 2) / 5 + 1 := by omega
  have hday1 : doy - (153 * mp + 2) / 5 + 1 ≤ 31 := by omega
  have hera : (yoe + era * 400) / 400 = era := by omega
  simp only [Int.toNat_of_nonneg (show 0 ≤ doy - (153 * mp + 2) / 5 + 1 by omega)]
  -- March to December of the year, or January and February of the next
  by_cases hlt : mp < 10
  · have hm1 : ¬ (mp + 3).toNat ≤ 2 := by omega
    have hm3 : (mp + 3).toNat > 2 := by omega
    simp only [if_pos hlt, if_neg hm1, if_pos hm3,
      Int.toNat_of_nonneg (show 0 ≤ mp + 3 by omega), Int.add_sub_cancel, hera]
    omega
  · have hm1 : (mp - 9).toNat ≤ 2 := by omega
    have hm3 : ¬ (mp - 9).toNat > 2 := by omega
    simp only [if_neg hlt, if_pos hm1, if_neg hm3,
      Int.toNat_of_nonneg (show 0 ≤ mp - 9 by omega), Int.add_sub_cancel, hera,
      Int.sub_add_cancel]
    omega

/-- Two days with the same date are the same day. -/
theorem civilFromDays_injective {z z' : Int} (h : civilFromDays z = civilFromDays z') : z = z' := by
  rw [← (civilFromDays_spec z).2.2.2.2, ← (civilFromDays_spec z').2.2.2.2, h]

/-! ## Numbers as written -/

/-- The integer a signed decimal text names: digits, after a sign when there is one. -/
def signedValue : List Char → Int
  | [] => 0
  | c :: ds =>
    if c = '-' then -(Nat.ofDigitChars 10 ds 0 : Int)
    else if c = '+' then Nat.ofDigitChars 10 ds 0
    else Nat.ofDigitChars 10 (c :: ds) 0

namespace Instant

/-- The digits of a padded number read back as the number. -/
theorem ofDigitChars_padded (w n : Nat) : Nat.ofDigitChars 10 (padded w n).toList 0 = n := by
  simp [padded, Nat.ofDigitChars_append, Nat.ofDigitChars_replicate_zero, Nat.toList_repr,
    Nat.ofDigitChars_ten_toDigits]

/-- Numbers padded to one width are written alike only when they are equal. -/
theorem padded_injective {w n n' : Nat} (h : (padded w n).toList = (padded w n').toList) :
    n = n' := by
  rw [← ofDigitChars_padded w n, h, ofDigitChars_padded]

/-- A padded number is written in digits only. -/
theorem isDigit_of_mem_padded {w n : Nat} {c : Char} (h : c ∈ (padded w n).toList) :
    c.isDigit := by
  simp only [padded, String.toList_append, String.toList_ofList, List.mem_append,
    List.mem_replicate] at h
  rcases h with ⟨-, rfl⟩ | h
  · decide
  · have hdigits : c ∈ Nat.toDigits 10 n := by simpa [Nat.toList_repr] using h
    exact Nat.isDigit_of_mem_toDigits (by decide) (by decide) hdigits

/-- A number below `10 ^ w` is written with exactly `w` digits. -/
theorem length_padded {w n : Nat} (hw : 0 < w) (h : n < 10 ^ w) :
    (padded w n).toList.length = w := by
  have hlen := (Nat.length_repr_le_iff hw).mpr h
  simp only [padded, String.toList_append, String.toList_ofList, List.length_append,
    List.length_replicate]
  simp [String.length] at hlen ⊢
  omega

/-- A padded number starts with a digit. -/
theorem padded_eq_cons (w n : Nat) : ∃ c cs, (padded w n).toList = c :: cs ∧ c.isDigit := by
  cases h : (padded w n).toList with
  | nil => simp [padded, Nat.toList_repr, Nat.toDigits_ne_nil] at h
  | cons c cs =>
    exact ⟨c, cs, rfl, isDigit_of_mem_padded (show c ∈ (padded w n).toList by simp [h])⟩

/-- A padded number, read as a signed decimal, is the number. -/
theorem signedValue_padded (w n : Nat) : signedValue (padded w n).toList = n := by
  obtain ⟨c, cs, hcs, hc⟩ := padded_eq_cons w n
  -- a digit is no sign
  have hminus : c ≠ '-' := by
    rintro rfl
    simp at hc
  have hplus : c ≠ '+' := by
    rintro rfl
    simp at hc
  have hval := ofDigitChars_padded w n
  rw [hcs] at hval
  rw [hcs]
  simp only [signedValue, if_neg hminus, if_neg hplus, hval]

/-- The text of a year, read as a signed decimal, is the year. -/
theorem signedValue_yearText (y : Int) : signedValue (yearText y).toList = y := by
  unfold yearText
  by_cases hy : 0 ≤ y ∧ y ≤ 9999
  · simp only [hy, decide_true, Bool.and_self, if_true, signedValue_padded]
    omega
  · have hc : ¬ ((decide (0 ≤ y) && decide (y ≤ 9999)) = true) := by simpa using hy
    rw [if_neg hc, String.toList_append]
    by_cases hneg : y < 0
    · rw [if_pos hneg, show "-".toList = ['-'] from rfl, List.singleton_append]
      simp only [signedValue, if_true, ofDigitChars_padded]
      omega
    · rw [if_neg hneg, show "+".toList = ['+'] from rfl, List.singleton_append]
      simp only [signedValue, if_neg (by decide : '+' ≠ '-'), if_true, ofDigitChars_padded]
      omega

/-- A character other than a digit never occurs in a padded number. -/
theorem not_mem_padded {w n : Nat} {c : Char} (hc : c.isDigit = false) :
    c ∉ (padded w n).toList := fun h => by
  rw [isDigit_of_mem_padded h] at hc
  cases hc

/-- A year is written with digits, after a sign when there is one. -/
theorem mem_yearText {y : Int} {c : Char} (h : c ∈ (yearText y).toList) :
    c.isDigit ∨ c = '-' ∨ c = '+' := by
  unfold yearText at h
  split at h
  · exact .inl (isDigit_of_mem_padded h)
  · simp only [String.toList_append, List.mem_append] at h
    rcases h with hsign | hdigits
    · split at hsign
      · simp at hsign
        exact .inr (.inl hsign)
      · simp at hsign
        exact .inr (.inr hsign)
    · exact .inl (isDigit_of_mem_padded hdigits)

/-! ## The fraction of a second -/

/-- The nanoseconds a fraction's text names: its digits after the point, scaled to nine. -/
def fractionValue (l : List Char) : Nat :=
  Nat.ofDigitChars 10 l.tail 0 * 10 ^ (10 - l.length)

/-- A fraction is nothing, or a point and digits. -/
def FractionShaped (l : List Char) : Prop :=
  l = [] ∨ ∃ ds, l = '.' :: ds ∧ '.' ∉ ds

/-- A point and a padded number are a fraction. -/
theorem fractionShaped_point (w n : Nat) : FractionShaped ('.' :: (padded w n).toList) :=
  .inr ⟨_, rfl, not_mem_padded rfl⟩

/-- The characters of a fraction of a second: nothing for zero, else a point and three, six or nine
digits, the fewest that hold it. -/
theorem fractionText_toList (n : Nat) :
    (fractionText n).toList =
      if n = 0 then []
      else if n % 1000000 = 0 then '.' :: (padded 3 (n / 1000000)).toList
      else if n % 1000 = 0 then '.' :: (padded 6 (n / 1000)).toList
      else '.' :: (padded 9 n).toList := by
  unfold fractionText
  by_cases h0 : n = 0
  · simp [h0]
  by_cases h6 : n % 1000000 = 0
  · simp [h0, h6]
  by_cases h3 : n % 1000 = 0
  · simp [h0, h6, h3]
  · simp [h0, h6, h3]

/-- The written fraction of a second is a fraction. -/
theorem fractionShaped_fractionText (n : Nat) : FractionShaped (fractionText n).toList := by
  rw [fractionText_toList]
  split
  · exact .inl rfl
  split
  · exact fractionShaped_point _ _
  split
  · exact fractionShaped_point _ _
  · exact fractionShaped_point _ _

/-- Nanoseconds below a second are read back from their fraction. -/
theorem fractionValue_fractionText {n : Nat} (h : n < 10 ^ 9) :
    fractionValue (fractionText n).toList = n := by
  rw [fractionText_toList]
  split
  · simp [fractionValue, *]
  split
  · rw [fractionValue, List.tail_cons, ofDigitChars_padded, List.length_cons,
      length_padded (by decide) (by omega)]
    omega
  split
  · rw [fractionValue, List.tail_cons, ofDigitChars_padded, List.length_cons,
      length_padded (by decide) (by omega)]
    omega
  · rw [fractionValue, List.tail_cons, ofDigitChars_padded, List.length_cons,
      length_padded (by decide) h]
    omega

/-- What follows the year and precedes the point splits at the first point. -/
theorem append_fraction_inj {A A' F F' Z : List Char} (hA : '.' ∉ A) (hA' : '.' ∉ A')
    (hZ : '.' ∉ Z) (hF : FractionShaped F) (hF' : FractionShaped F')
    (h : A ++ (F ++ Z) = A' ++ (F' ++ Z)) : A = A' ∧ F = F' := by
  rcases hF with rfl | ⟨ds, rfl, hds⟩ <;> rcases hF' with rfl | ⟨ds', rfl, hds'⟩
  · exact ⟨List.append_cancel_right h, rfl⟩
  · -- a point on one side only
    have hmem : '.' ∈ A ++ ([] ++ Z) := by
      rw [h]
      simp
    simp [hA, hZ] at hmem
  · have hmem : '.' ∈ A' ++ ([] ++ Z) := by
      rw [← h]
      simp
    simp [hA', hZ] at hmem
  · simp only [List.cons_append] at h
    obtain ⟨rfl, hrest⟩ := append_cons_inj_of_not_mem hA hA' h
    exact ⟨rfl, by rw [List.append_cancel_right hrest]⟩

/-! ## The text of an instant -/

/-- The fixed-width fields of an instant's text after the year: `-MM-DDTHH:MM:SS`. -/
def clockChars (month day hour minute second : Nat) : List Char :=
  '-' :: ((padded 2 month).toList ++ '-' :: ((padded 2 day).toList ++ 'T' ::
    ((padded 2 hour).toList ++ ':' :: ((padded 2 minute).toList ++ ':' ::
      (padded 2 second).toList))))

/-- The fields after the year take fifteen characters when each is below a hundred. -/
theorem length_clockChars {a b c d e : Nat} (ha : a < 100) (hb : b < 100) (hc : c < 100)
    (hd : d < 100) (he : e < 100) : (clockChars a b c d e).length = 15 := by
  simp only [clockChars, List.length_cons, List.length_append]
  rw [length_padded (by decide) ha, length_padded (by decide) hb, length_padded (by decide) hc,
    length_padded (by decide) hd, length_padded (by decide) he]

/-- The fields after the year hold no point. -/
theorem point_not_mem_clockChars (a b c d e : Nat) : '.' ∉ clockChars a b c d e := by
  simp [clockChars, not_mem_padded]

/-- Two-digit fields are read back one by one. -/
theorem clockChars_inj {a b c d e a' b' c' d' e' : Nat} (ha : a < 100) (hb : b < 100)
    (hc : c < 100) (hd : d < 100) (ha' : a' < 100) (hb' : b' < 100) (hc' : c' < 100)
    (hd' : d' < 100) (h : clockChars a b c d e = clockChars a' b' c' d' e') :
    a = a' ∧ b = b' ∧ c = c' ∧ d = d' ∧ e = e' := by
  have two : ∀ {n n'}, n < 100 → n' < 100 →
      (padded 2 n).toList.length = (padded 2 n').toList.length := fun hn hn' => by
    rw [length_padded (by decide) hn, length_padded (by decide) hn']
  simp only [clockChars, List.cons.injEq, true_and] at h
  obtain ⟨h1, h⟩ := List.append_inj h (two ha ha')
  simp only [List.cons.injEq, true_and] at h
  obtain ⟨h2, h⟩ := List.append_inj h (two hb hb')
  simp only [List.cons.injEq, true_and] at h
  obtain ⟨h3, h⟩ := List.append_inj h (two hc hc')
  simp only [List.cons.injEq, true_and] at h
  obtain ⟨h4, h5⟩ := List.append_inj h (two hd hd')
  simp only [List.cons.injEq, true_and] at h5
  exact ⟨padded_injective h1, padded_injective h2, padded_injective h3, padded_injective h4,
    padded_injective h5⟩

/-- The text of an instant: its year, its fixed-width fields, its fraction and its zone. -/
theorem rfc3339_toList (t : Instant) (zulu : Bool) {y : Int} {m d : Nat}
    (hc : civilFromDays t.day = (y, m, d)) :
    (t.rfc3339 zulu).toList =
      ((yearText y).toList ++ clockChars m d (t.second / 3600) (t.second / 60 % 60)
        (t.second % 60 + if t.nano ≥ 1000000000 then 1 else 0)) ++
      ((fractionText (if t.nano ≥ 1000000000 then t.nano - 1000000000 else t.nano)).toList ++
        (if zulu then "Z" else "+00:00").toList) := by
  simp [rfc3339, hc, clockChars]

/-- An instant as the readers give it: its seconds within a day, its nanoseconds within a
second, or within a leap second that ends a minute. -/
def WellFormed (t : Instant) : Prop :=
  t.second < 86400 ∧ (t.nano < 10 ^ 9 ∨ t.nano < 2 * 10 ^ 9 ∧ t.second % 60 = 59)

/-- A well-formed instant is written one way. -/
theorem rfc3339_injective {t t' : Instant} (ht : t.WellFormed) (ht' : t'.WellFormed)
    {zulu : Bool} (h : t.rfc3339 zulu = t'.rfc3339 zulu) : t = t' := by
  rcases hciv : civilFromDays t.day with ⟨y, m, d⟩
  rcases hciv' : civilFromDays t'.day with ⟨y', m', d'⟩
  have hspec := civilFromDays_spec t.day
  have hspec' := civilFromDays_spec t'.day
  rw [hciv] at hspec
  rw [hciv'] at hspec'
  dsimp only at hspec hspec'
  have hlist := congrArg String.toList h
  rw [rfc3339_toList t zulu hciv, rfc3339_toList t' zulu hciv'] at hlist
  -- the fraction stands between the last fixed field and the zone
  have hzone : '.' ∉ (if zulu then "Z" else "+00:00").toList := by
    cases zulu <;> decide
  have hyear : ∀ {y : Int}, '.' ∉ (yearText y).toList := fun hmem => by
    rcases mem_yearText hmem with h | h | h <;> simp_all
  obtain ⟨hcore, hfrac⟩ := append_fraction_inj
    (by simp [hyear, point_not_mem_clockChars]) (by simp [hyear, point_not_mem_clockChars])
    hzone (fractionShaped_fractionText _) (fractionShaped_fractionText _) hlist
  -- the year stands before fifteen fixed characters
  have hsec := ht.1
  have hsec' := ht'.1
  have hleap : (t.second % 60 + if t.nano ≥ 1000000000 then 1 else 0) < 100 := by split <;> omega
  have hleap' : (t'.second % 60 + if t'.nano ≥ 1000000000 then 1 else 0) < 100 := by
    split <;> omega
  obtain ⟨hY, hclock⟩ := List.append_inj' hcore (by
    rw [length_clockChars (by omega) (by omega) (by omega) (by omega) hleap,
      length_clockChars (by omega) (by omega) (by omega) (by omega) hleap'])
  obtain ⟨rfl, rfl, hhour, hminute, hsecond⟩ := clockChars_inj (by omega) (by omega) (by omega)
    (by omega) (by omega) (by omega) (by omega) (by omega) hclock
  have hyy : y = y' := by
    rw [← signedValue_yearText y, hY, signedValue_yearText]
  subst hyy
  have hday : t.day = t'.day := civilFromDays_injective (hciv.trans hciv'.symm)
  -- the printed nanoseconds are below a second
  have hwf := ht.2
  have hwf' := ht'.2
  have hnano := congrArg fractionValue hfrac
  rw [fractionValue_fractionText (by split <;> omega),
    fractionValue_fractionText (by split <;> omega)] at hnano
  -- a leap second prints its second as 60, which no other second does
  have hclock : t.second = t'.second ∧ t.nano = t'.nano := by
    by_cases hl : t.nano ≥ 1000000000 <;> by_cases hl' : t'.nano ≥ 1000000000 <;>
      simp only [hl, hl', if_true, if_false] at hsecond hnano <;> omega
  cases t
  cases t'
  simp only [mk.injEq] at hday hclock ⊢
  exact ⟨hday, hclock⟩

/-- An instant is written with digits and the marks `-`, `+`, `T`, `:`, `.` and `Z`. -/
theorem rfc3339_marks (t : Instant) (zulu : Bool) :
    ∀ c ∈ (t.rfc3339 zulu).toList, c.isDigit ∨ c ∈ ['-', '+', 'T', ':', '.', 'Z'] := by
  rcases hciv : civilFromDays t.day with ⟨y, m, d⟩
  rw [rfc3339_toList t zulu hciv]
  have hpadded : ∀ w n, ∀ c ∈ (padded w n).toList,
      c.isDigit ∨ c ∈ ['-', '+', 'T', ':', '.', 'Z'] :=
    fun _ _ _ hc => .inl (isDigit_of_mem_padded hc)
  have hyear : ∀ c ∈ (yearText y).toList, c.isDigit ∨ c ∈ ['-', '+', 'T', ':', '.', 'Z'] := by
    intro c hc
    rcases mem_yearText hc with h | rfl | rfl
    · exact .inl h
    · decide
    · decide
  have hfrac : ∀ n, ∀ c ∈ (fractionText n).toList,
      c.isDigit ∨ c ∈ ['-', '+', 'T', ':', '.', 'Z'] := by
    intro n
    rw [fractionText_toList]
    split
    · exact fun _ h => absurd h List.not_mem_nil
    -- otherwise a point and then digits
    repeat' split
    all_goals exact List.forall_mem_cons.mpr ⟨by decide, hpadded _ _⟩
  have hzone : ∀ c ∈ (if zulu then "Z" else "+00:00").toList,
      c.isDigit ∨ c ∈ ['-', '+', 'T', ':', '.', 'Z'] := by
    cases zulu <;> simp
  simp only [clockChars, List.forall_mem_append, List.forall_mem_cons]
  exact ⟨⟨hyear, by decide, hpadded _ _, by decide, hpadded _ _, by decide, hpadded _ _, by decide,
    hpadded _ _, by decide, hpadded _ _⟩, hfrac _, hzone⟩

/-- The text of an instant holds no comma, so a comma after it ends it. -/
theorem comma_not_mem_rfc3339 (t : Instant) (zulu : Bool) : ',' ∉ (t.rfc3339 zulu).toList :=
  fun h => by
    rcases rfc3339_marks t zulu ',' h with h | h <;> exact absurd h (by decide)

end Instant

end PostRules.Time
