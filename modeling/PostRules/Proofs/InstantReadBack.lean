import PostRules.Proofs.InstantRead

/-!
# The text of an instant reads back

An instant whose year lies between 0 and 9999 is written in RFC 3339 with a year of four digits,
and the strict reader takes that text back to the same instant, whether it ends in `Z` or in
`+00:00` (`readRfc3339_rfc3339`); so does `readLiteral`, which tries the strict form first
(`readLiteral_rfc3339`). Outside those years the year is written with a sign and may have more
digits, which the strict form does not allow.

The reading goes field by field. Each fixed-width number is read as the value it was written from,
since the text after it does not begin with a digit (`scanNumber_digits_append`); the fraction is
read back at its scale (`scanFraction_fractionText`), and the zone as no offset. The fields read are
then those of the instant (`readRfc3339_clockText`). Turning them into an instant needs the date
to be valid: the day `civilFromDays` gives is within its month, a February having a 29th day only
in a leap year (`civilFromDays_day_le`). With that, the fields name the instant again
(`Fields.toInstant_clock`).
-/

namespace PostRules.Time

open Instant

/-! ## The calendar gives valid dates -/

/-- A year of the era counted from March reaches its 366th day only when the January after it
begins a leap year. -/
theorem leap_of_dayOfYear {doe yoe : Int} (h0 : 0 ≤ doe) (h1 : doe ≤ 146096)
    (hyoe : (doe - doe / 1460 + doe / 36524 - doe / 146096) / 365 = yoe)
    (h : doe - (365 * yoe + yoe / 4 - yoe / 100) = 365) :
    (yoe + 1) % 4 = 0 ∧ ((yoe + 1) % 100 ≠ 0 ∨ (yoe + 1) % 400 = 0) := by
  have hbounds := yearOfEra_bounds h0 h1
  rw [hyoe] at hbounds
  have hcenturies := centuries_of_yearOfEra h0 h1 hyoe
  -- a year before a leap year ends a cycle of four; otherwise the cycle is the one the year
  -- count starts in, and the day would belong to the next year
  by_cases hr : yoe % 4 = 3
  · omega
  · have hcycle : doe / 1460 = yoe / 4 := by omega
    omega

/-- The day of a date that `civilFromDays` gives is within its month. -/
theorem civilFromDays_day_le (z : Int) :
    (civilFromDays z).2.2 ≤ daysInMonth (civilFromDays z).1 (civilFromDays z).2.1 := by
  obtain ⟨era, doe, yoe, doy, mp, h0, h1, -, hyoe, hyoe0, hyoe1, hdoy, hdoy0, hdoy1, hmp, hciv⟩ :=
    civilFromDays_eq z
  have hleap := fun h => leap_of_dayOfYear h0 h1 hyoe (hdoy.trans h)
  -- the day of the year and the month from March are all that the bound depends on
  clear hyoe hdoy h0 h1
  rw [hciv]
  dsimp only
  have hmonth : mp = 0 ∨ mp = 1 ∨ mp = 2 ∨ mp = 3 ∨ mp = 4 ∨ mp = 5 ∨ mp = 6 ∨ mp = 7 ∨
      mp = 8 ∨ mp = 9 ∨ mp = 10 ∨ mp = 11 := by omega
  -- months from March to January have fixed lengths; February has a 29th day when the day of
  -- the year reaches 365
  rcases hmonth with rfl | rfl | rfl | rfl | rfl | rfl | rfl | rfl | rfl | rfl | rfl | rfl
  rotate_right
  · simp only [daysInMonth, isLeapYear, Int.reduceLT, reduceIte, Int.reduceSub, Int.reduceToNat]
    by_cases h365 : doy = 365
    · obtain ⟨h4, h100⟩ := hleap h365
      rw [if_pos (by simp only [Bool.or_eq_true, Bool.and_eq_true, beq_iff_eq, bne_iff_ne]; omega)]
      omega
    · split <;> omega
  all_goals
    simp only [daysInMonth, Int.reduceLT, reduceIte, Int.reduceAdd, Int.reduceSub, Int.reduceToNat]
    omega

/-! ## Numbers read back -/

/-- Whether a text does not begin with a digit, so that a number read before it ends there. -/
def EndsNumber (rest : List Char) : Prop :=
  ∀ c ∈ rest.head?, c.isDigit = false

/-- A text that starts with a character other than a digit ends any number before it. -/
theorem endsNumber_cons {c : Char} {r : List Char} (hc : c.isDigit = false) :
    EndsNumber (c :: r) := by
  intro c' hc'
  rw [List.head?_cons, Option.mem_some_iff] at hc'
  rw [← hc']
  exact hc

/-- No digits are taken from the front of a text that ends a number. -/
theorem EndsNumber.takeWhile_take {rest : List Char} (h : EndsNumber rest) (k : Nat) :
    (rest.take k).takeWhile Char.isDigit = [] := by
  cases rest with
  | nil => simp
  | cons c r =>
    cases k with
    | zero => rfl
    | succ k => simp [h c rfl]

/-- No digits are dropped from the front of a text that ends a number. -/
theorem EndsNumber.dropWhile {rest : List Char} (h : EndsNumber rest) :
    rest.dropWhile Char.isDigit = rest := by
  cases rest with
  | nil => rfl
  | cons c r => simp [h c rfl]

/-- Digits followed by no digit are read as the number they name. -/
theorem scanNumber_digits_append {ds rest : List Char} {least most : Nat}
    (hds : ∀ c ∈ ds, c.isDigit) (hrest : EndsNumber rest) (hleast : least ≤ ds.length)
    (hmost : ds.length ≤ most) (hlimit : Nat.ofDigitChars 10 ds 0 < numberLimit) :
    scanNumber (ds ++ rest) least most = .ok (Nat.ofDigitChars 10 ds 0, rest) := by
  have hdigits : ((ds ++ rest).take most).takeWhile Char.isDigit = ds := by
    rw [List.take_append, List.take_of_length_le hmost, List.takeWhile_append_of_pos hds,
      hrest.takeWhile_take, List.append_nil]
  unfold scanNumber
  simp only [hdigits, foldl_digits, List.length_append]
  rw [if_neg (by omega), if_neg (by omega), if_neg (by omega), List.drop_left]

/-- A number written with a fixed width is read back at that width. -/
theorem scanNumber_padded {w n : Nat} {rest : List Char} (hw : 0 < w) (hn : n < 10 ^ w)
    (hlimit : 10 ^ w ≤ numberLimit) (hrest : EndsNumber rest) :
    scanNumber ((padded w n).toList ++ rest) w w = .ok (n, rest) := by
  have hlen := length_padded hw hn
  rw [scanNumber_digits_append (fun c hc => isDigit_of_mem_padded hc) hrest
    (Nat.le_of_eq hlen.symm) (Nat.le_of_eq hlen) (by rw [ofDigitChars_padded]; omega),
    ofDigitChars_padded]

/-- Digits after a point are read as the fraction they name, scaled to nanoseconds. -/
theorem scanFraction_digits_append {ds rest : List Char} (hds : ∀ c ∈ ds, c.isDigit)
    (hrest : EndsNumber rest) (h1 : 1 ≤ ds.length) (h9 : ds.length ≤ 9) :
    scanFraction (ds ++ rest) = .ok (Nat.ofDigitChars 10 ds 0 * 10 ^ (9 - ds.length), rest) := by
  have hlimit : Nat.ofDigitChars 10 ds 0 < numberLimit := by
    have hlt := @ofDigitChars_lt ds 0 hds
    have hpow : 10 ^ ds.length ≤ 10 ^ 9 := Nat.pow_le_pow_right (by decide) h9
    unfold numberLimit
    rw [Nat.pow_eq]
    omega
  unfold scanFraction
  refine except_bind_eq_ok.mpr ⟨_, scanNumber_digits_append hds hrest h1 h9 hlimit, ?_⟩
  simp only [List.length_append, Nat.add_sub_cancel, hrest.dropWhile]
  rfl

/-- A value below ten to the width, padded to a width from one to nine, is written in one to nine
digits. -/
theorem padded_digits {w v : Nat} (hw : 0 < w) (hw9 : w ≤ 9) (hv : v < 10 ^ w) :
    (∀ c ∈ (padded w v).toList, c.isDigit) ∧ 1 ≤ (padded w v).toList.length ∧
      (padded w v).toList.length ≤ 9 := by
  rw [length_padded hw hv]
  exact ⟨fun _ h => isDigit_of_mem_padded h, hw, hw9⟩

/-- A fraction that is written is a point and one to nine digits. -/
theorem fractionText_eq_cons {n : Nat} (hn : n < 10 ^ 9) (h0 : n ≠ 0) :
    ∃ ds, (fractionText n).toList = '.' :: ds ∧ (∀ c ∈ ds, c.isDigit) ∧ 1 ≤ ds.length ∧
      ds.length ≤ 9 := by
  rw [fractionText_toList, if_neg h0]
  split
  · exact ⟨_, rfl, padded_digits (by decide) (by decide) (by omega)⟩
  split
  · exact ⟨_, rfl, padded_digits (by decide) (by decide) (by omega)⟩
  · exact ⟨_, rfl, padded_digits (by decide) (by decide) hn⟩

/-- The fraction of a second is read back from its text. -/
theorem scanFraction_fractionText {n : Nat} (hn : n < 10 ^ 9) (h0 : n ≠ 0) {rest : List Char}
    (hrest : EndsNumber rest) :
    ∃ ds, (fractionText n).toList = '.' :: ds ∧ scanFraction (ds ++ rest) = .ok (n, rest) := by
  obtain ⟨ds, hds, hdigits, h1, h9⟩ := fractionText_eq_cons hn h0
  refine ⟨ds, hds, ?_⟩
  have hvalue := fractionValue_fractionText hn
  rw [hds, fractionValue, List.tail_cons, List.length_cons,
    show 10 - (ds.length + 1) = 9 - ds.length by omega] at hvalue
  rw [scanFraction_digits_append hdigits hrest h1 h9, hvalue]

/-- The characters of the two zone marks an instant is written with. -/
theorem zone_toList (zulu : Bool) :
    (if zulu then "Z" else "+00:00").toList =
      if zulu then ['Z'] else ['+', '0', '0', ':', '0', '0'] := by
  cases zulu <;> rfl

/-- The zone of an instant's text, `Z` or `+00:00`, is read as no offset. -/
theorem scanOffset_zone (zulu : Bool) :
    scanOffset (if zulu then ['Z'] else ['+', '0', '0', ':', '0', '0']) (fun s => scanChar s ':') =
      .ok (0, []) := by
  cases zulu <;> rfl

/-- Both zone marks end the number before them. -/
theorem endsNumber_zone (zulu : Bool) :
    EndsNumber (if zulu then ['Z'] else ['+', '0', '0', ':', '0', '0']) := by
  cases zulu
  · exact endsNumber_cons rfl
  · exact endsNumber_cons rfl

/-- A fraction's text followed by a zone mark ends the number before it. -/
theorem endsNumber_fraction_zone (n : Nat) (zulu : Bool) :
    EndsNumber ((fractionText n).toList ++ if zulu then ['Z'] else ['+', '0', '0', ':', '0', '0']) := by
  rw [fractionText_toList]
  split
  · exact endsNumber_zone zulu
  split
  · exact endsNumber_cons rfl
  split
  · exact endsNumber_cons rfl
  · exact endsNumber_cons rfl

/-! ## Reading the fields -/

/-- A step that succeeds passes its value on. -/
theorem bind_eq_of_eq_ok {ε α β : Type} {x : Except ε α} {a : α} {f : α → Except ε β}
    {r : Except ε β} (hx : x = .ok a) (hf : f a = r) : x >>= f = r := by
  subst hx
  exact hf

/-- Scanning for the character a text starts with takes it off. -/
theorem scanChar_cons (c : Char) (rest : List Char) : scanChar (c :: rest) c = .ok rest := by
  simp [scanChar]

/-- Setting a field to a value that fits it. -/
theorem Fields.set_of_fits {fs : Fields} {f : Field} {v : Int} :
    f.fits v = true → fs.set f v = .ok (match f with
      | .year => { fs with year := some v }
      | .month => { fs with month := some v.toNat }
      | .day => { fs with day := some v.toNat }
      | .hour => { fs with hour := some v.toNat }
      | .minute => { fs with minute := some v.toNat }
      | .second => { fs with second := some v.toNat }) := by
  intro h
  unfold Fields.set
  rewrite [if_neg (by simp [h])]
  cases f <;> rfl

/-- A number of fixed width is read into its field. -/
theorem readNumber_padded {w n : Nat} {f : Field} {fs fs' : Fields} {rest : List Char}
    (hw : 0 < w) (hn : n < 10 ^ w) (hlimit : 10 ^ w ≤ numberLimit) (hrest : EndsNumber rest)
    (hset : fs.set f n = .ok fs') :
    (do
      let x ← scanNumber ((padded w n).toList ++ rest) w w
      let fs ← fs.set f x.fst
      pure (fs, x.snd)) = (Except.ok (fs', rest) : Except TimeError (Fields × List Char)) := by
  rw [scanNumber_padded hw hn hlimit hrest]
  exact except_bind_eq_ok.mpr ⟨_, rfl, except_bind_eq_ok.mpr ⟨_, hset, rfl⟩⟩

/-- The strict reader takes a text of fixed-width numbers, a fraction and a zone to the fields
it was written from, with no offset. -/
theorem readRfc3339_clockText {s : String} {Y M D H MI S n : Nat} {zulu : Bool}
    (hY : Y < 10 ^ 4) (hM : 1 ≤ M ∧ M ≤ 12) (hD : 1 ≤ D ∧ D ≤ 31) (hH : H ≤ 23) (hMI : MI ≤ 59)
    (hS : S ≤ 60) (hn : n < 10 ^ 9)
    (hs : s.toList = ((padded 4 Y).toList ++ clockChars M D H MI S) ++
      ((fractionText n).toList ++ (if zulu then "Z" else "+00:00").toList)) :
    readRfc3339 s = Fields.toInstant
      { year := some (Y : Int), month := some M, day := some D, hour := some H,
        minute := some MI, second := some S, nano := if n = 0 then none else some n,
        offset := some 0 } := by
  -- what follows the seconds stays one text until the fields are read, and each step's fields
  -- are brought to a plain record before the next, so that the goal stays small
  generalize hN : (if n = 0 then none else some n) = N
  rw [zone_toList] at hs
  have hrest := endsNumber_fraction_zone n zulu
  generalize hR : (fractionText n).toList ++
    (if zulu then ['Z'] else ['+', '0', '0', ':', '0', '0']) = R at hs hrest
  unfold readRfc3339
  dsimp only
  rw [hs]
  simp only [clockChars, List.append_assoc, List.cons_append]
  -- the date, `T`, and the time of day, one fixed-width number after another
  refine bind_eq_of_eq_ok (readNumber_padded (by decide) hY (by decide)
    (endsNumber_cons rfl) (Fields.set_of_fits (by simp [Field.fits]; omega))) ?_
  dsimp only
  refine bind_eq_of_eq_ok (scanChar_cons _ _) ?_
  refine bind_eq_of_eq_ok (readNumber_padded (by decide) (by omega) (by decide)
    (endsNumber_cons rfl) (Fields.set_of_fits (by simp [Field.fits]; omega))) ?_
  dsimp only
  refine bind_eq_of_eq_ok (scanChar_cons _ _) ?_
  refine bind_eq_of_eq_ok (readNumber_padded (by decide) (by omega) (by decide)
    (endsNumber_cons rfl) (Fields.set_of_fits (by simp [Field.fits]; omega))) ?_
  dsimp only
  refine bind_eq_of_eq_ok rfl ?_
  refine bind_eq_of_eq_ok (readNumber_padded (by decide) (by omega) (by decide)
    (endsNumber_cons rfl) (Fields.set_of_fits (by simp [Field.fits]; omega))) ?_
  dsimp only
  refine bind_eq_of_eq_ok (scanChar_cons _ _) ?_
  refine bind_eq_of_eq_ok (readNumber_padded (by decide) (by omega) (by decide)
    (endsNumber_cons rfl) (Fields.set_of_fits (by simp [Field.fits]; omega))) ?_
  dsimp only
  refine bind_eq_of_eq_ok (scanChar_cons _ _) ?_
  refine bind_eq_of_eq_ok (readNumber_padded (by decide) (by omega) (by decide)
    hrest (Fields.set_of_fits (by simp [Field.fits]; omega))) ?_
  dsimp only
  -- the fraction, if one is written, then the zone
  by_cases hn0 : n = 0
  · rw [fractionText_toList, if_pos hn0, List.nil_append] at hR
    rw [if_pos hn0] at hN
    subst hR hN
    cases zulu
    · exact bind_eq_of_eq_ok rfl (bind_eq_of_eq_ok (scanOffset_zone false) rfl)
    · exact bind_eq_of_eq_ok rfl (bind_eq_of_eq_ok (scanOffset_zone true) rfl)
  · obtain ⟨ds, hds, hscan⟩ := scanFraction_fractionText hn hn0 (endsNumber_zone zulu)
    rw [hds, List.cons_append] at hR
    rw [if_neg hn0] at hN
    subst hR hN
    exact bind_eq_of_eq_ok hscan (bind_eq_of_eq_ok rfl (bind_eq_of_eq_ok (scanOffset_zone zulu) rfl))

/-! ## The fields name the instant again -/

/-- Shifting an instant by no offset leaves it alone, when its second of the day is in range. -/
theorem Instant.shift_zero {t : Instant} (ht : t.second < 86400) : t.shift 0 = t := by
  have hday : Int.fdiv (t.second : Int) 86400 = 0 := by
    rw [Int.fdiv_eq_ediv_of_nonneg _ (by decide)]
    omega
  have hsecond : (Int.fmod (t.second : Int) 86400).toNat = t.second := by
    rw [Int.fmod_eq_emod_of_nonneg _ (by decide)]
    omega
  simp only [Instant.shift, Int.add_zero, hday, hsecond]

/-- An instant is the one at its date and its time of day. -/
theorem Instant.ofCivil_clock {t : Instant} {y : Int} {m d : Nat} (ht : t.second < 86400)
    (hciv : civilFromDays t.day = (y, m, d)) :
    (ofCivil y m d (t.second / 3600) (t.second / 60 % 60) (t.second % 60) t.nano).shift 0 = t := by
  have hday := (civilFromDays_spec t.day).2.2.2.2
  rw [hciv] at hday
  have hclock : t.second / 3600 * 3600 + t.second / 60 % 60 * 60 + t.second % 60 = t.second := by
    omega
  rw [ofCivil, hday, hclock]
  exact Instant.shift_zero ht

/-- The fields of an instant's date and time of day, with its nanoseconds or, within a leap
second, the second before it and the nanoseconds past it, name the instant. -/
theorem Fields.toInstant_clock {t : Instant} {y : Int} {m d : Nat} (ht : t.WellFormed)
    (hciv : civilFromDays t.day = (y, m, d))
    (hvalid : validDate y m d = true) (hrange : t.inRange = true) {sec : Nat} {N : Option Nat}
    (hsplit : (sec = t.second % 60 ∧ N.getD 0 = t.nano ∧ t.nano < 10 ^ 9) ∨
      (sec = 60 ∧ N.getD 0 + 10 ^ 9 = t.nano ∧ t.second % 60 = 59)) :
    Fields.toInstant
      { year := some y, month := some m, day := some d,
        hour := some (t.second / 3600), minute := some (t.second / 60 % 60), second := some sec,
        nano := N, offset := some 0 } = .ok t := by
  have hlocal := Instant.ofCivil_clock ht.1 hciv
  unfold Fields.toInstant
  rcases hsplit with ⟨rfl, hnano, hlt⟩ | ⟨rfl, hnano, hleap⟩
  · -- a second within its minute
    rw [← hnano] at hlocal
    cases N with
    | none =>
      rw [Option.getD_none] at hlocal
      simp (disch := omega) [hvalid, hlocal, hrange]
      rfl
    | some n =>
      rw [Option.getD_some] at hlocal
      simp (disch := omega) [hvalid, hlocal, hrange]
      rfl
  · -- a leap second, read as the second before it stretched by one more
    rw [← hnano, hleap, Nat.add_comm] at hlocal
    cases N with
    | none =>
      simp only [Option.getD_none, Nat.reducePow, Nat.add_zero] at hlocal
      simp [hvalid, hlocal, hrange]
      rfl
    | some n =>
      simp only [Option.getD_some, Nat.reducePow] at hlocal
      simp [hvalid, hlocal, hrange]
      rfl

/-! ## Reading back -/

/-- An instant written in RFC 3339 with a year from 0 to 9999 is read back by the strict reader,
whichever zone it is written with. -/
theorem readRfc3339_rfc3339 {t : Instant} (ht : t.WellFormed) (hy : 0 ≤ t.year ∧ t.year ≤ 9999)
    (zulu : Bool) : readRfc3339 (t.rfc3339 zulu) = .ok t := by
  rcases hciv : civilFromDays t.day with ⟨y, m, d⟩
  have hyear : t.year = y := by rw [Instant.year, hciv]
  obtain ⟨Y, rfl⟩ : ∃ Y : Nat, y = Y := ⟨y.toNat, (Int.toNat_of_nonneg (by omega)).symm⟩
  -- the date is valid and within range
  have hspec := civilFromDays_spec t.day
  have hdays := civilFromDays_day_le t.day
  rw [hciv] at hspec hdays
  obtain ⟨hm1, hm12, hd1, hd31, -⟩ := hspec
  dsimp only at hm1 hm12 hd1 hd31 hdays
  have hvalid : validDate Y m d = true := by
    have hmin : minYear ≤ (Y : Int) := by unfold minYear; omega
    have hmax : (Y : Int) ≤ maxYear := by unfold maxYear; omega
    simp only [validDate, hmin, hmax, hm1, hm12, hd1, hdays, decide_true, Bool.and_self]
  have hrange : t.inRange = true := by
    simp only [Instant.inRange, minYear, maxYear, hyear, Bool.and_eq_true, decide_eq_true_eq]
    omega
  -- the text: a year of four digits, then the clock, the fraction and the zone
  have htext := rfc3339_toList t zulu hciv
  rw [yearText, if_pos (by simp; omega), Int.toNat_natCast] at htext
  obtain ⟨hsecond, hnano⟩ := ht
  rw [readRfc3339_clockText (by omega) ⟨hm1, hm12⟩ ⟨hd1, hd31⟩ (by omega) (by omega)
    (by split <;> omega) (by split <;> omega) htext]
  refine Fields.toInstant_clock ⟨hsecond, hnano⟩ hciv hvalid hrange ?_
  -- the nanoseconds read are those written, a second less within a leap second
  have hgetD : ∀ k : Nat, (if k = 0 then none else some k).getD 0 = k := by
    intro k
    split <;> simp_all
  rw [hgetD]
  by_cases hleap : t.nano ≥ 1000000000
  · simp only [hleap, if_true, Nat.reducePow]
    omega
  · simp only [hleap, if_false, Nat.reducePow, Nat.add_zero, true_and]
    omega

/-- Reading a literal tries the strict form first, so an instant's RFC 3339 text with a year from
0 to 9999 is read as that instant. -/
theorem readLiteral_rfc3339 {t : Instant} (ht : t.WellFormed) (hy : 0 ≤ t.year ∧ t.year ≤ 9999)
    (zulu : Bool) : readLiteral (t.rfc3339 zulu) = some t := by
  rw [readLiteral, readRfc3339_rfc3339 ht hy zulu]

end PostRules.Time
