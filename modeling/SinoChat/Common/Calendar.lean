import SinoChat.Common.IsoDate

/-!
# Calendar dates

The dates of the proleptic Gregorian calendar, of any year, and the number of their
days, from the first of January of 1970. A day has one date (`number_civil`,
`civil_valid`), and dates are ordered by year, month and day as their numbers are
(`number_le_iff`).
-/

namespace Js

/-- A date of the calendar, which need not exist. -/
structure CivilDate where
  year : ℤ
  month : ℕ
  day : ℕ
  deriving DecidableEq

/-- The days of a month, of which January is the first. -/
def daysInMonth (leap : Bool) (month : ℕ) : ℕ :=
  daysBeforeMonth leap month - daysBeforeMonth leap (month - 1)

namespace CivilDate

/-- A date that exists. -/
structure Valid (c : CivilDate) : Prop where
  month : 1 ≤ c.month ∧ c.month ≤ 12
  day : 1 ≤ c.day ∧ c.day ≤ daysInMonth (isLeapYear c.year) c.month

instance (c : CivilDate) : Decidable c.Valid :=
  decidable_of_iff ((1 ≤ c.month ∧ c.month ≤ 12) ∧
    (1 ≤ c.day ∧ c.day ≤ daysInMonth (isLeapYear c.year) c.month))
    ⟨fun h => ⟨h.1, h.2⟩, fun h => ⟨h.month, h.day⟩⟩

/-- The number of a day. -/
def number (c : CivilDate) : ℤ :=
  dayFromYear c.year + daysBeforeMonth (isLeapYear c.year) (c.month - 1) + c.day - 1

/-- Dates by year, month and day. -/
def Before (a b : CivilDate) : Prop :=
  a.year < b.year ∨ a.year = b.year ∧ (a.month < b.month ∨ a.month = b.month ∧ a.day ≤ b.day)

instance (a b : CivilDate) : Decidable (a.Before b) :=
  inferInstanceAs (Decidable (_ ∨ _))

end CivilDate

/-- The year that contains a day, before 1970 too: the calendar repeats after 400 years. -/
def yearOf (day : ℤ) : ℤ := yearOfDay (day % 146097).toNat + 400 * (day / 146097)

/-- The date of a day. -/
def civil (day : ℤ) : CivilDate :=
  let year := yearOf day
  let leap := isLeapYear year
  let dayOfYear := (day - dayFromYear year).toNat
  let month := monthOfDay leap dayOfYear
  ⟨year, month + 1, dayOfYear - daysBeforeMonth leap month + 1⟩

/-! ## Years -/

theorem dayFromYear_add (y k : ℤ) : dayFromYear (y + 400 * k) = dayFromYear y + 146097 * k := by
  unfold dayFromYear
  omega

theorem dayFromYear_mono {y z : ℤ} (h : y ≤ z) : dayFromYear y ≤ dayFromYear z := by
  unfold dayFromYear
  omega

theorem yearOf_spec (day : ℤ) :
    dayFromYear (yearOf day) ≤ day ∧ day < dayFromYear (yearOf day + 1) := by
  obtain ⟨-, hle, hlt⟩ := yearOfDay_spec (day % 146097).toNat
  have hmod : (((day % 146097).toNat : ℕ) : ℤ) = day % 146097 :=
    Int.toNat_of_nonneg (Int.emod_nonneg day (by omega))
  rw [hmod] at hle hlt
  have hshift : yearOf day + 1 =
      (yearOfDay (day % 146097).toNat + 1 : ℤ) + 400 * (day / 146097) := by
    unfold yearOf
    omega
  rw [hshift, yearOf, dayFromYear_add, dayFromYear_add]
  omega

theorem yearOf_mono {d e : ℤ} (h : d ≤ e) : yearOf d ≤ yearOf e := by
  by_contra hless
  obtain ⟨hle, -⟩ := yearOf_spec d
  obtain ⟨-, hlt⟩ := yearOf_spec e
  have := dayFromYear_mono (show yearOf e + 1 ≤ yearOf d by omega)
  omega

/-! ## Months -/

theorem daysBeforeMonth_mono (leap : Bool) {m n : ℕ} (h : m ≤ n) (hn : n ≤ 12) :
    daysBeforeMonth leap m ≤ daysBeforeMonth leap n := by
  have hall : ∀ leap : Bool, ∀ m n : Fin 13, m ≤ n →
      daysBeforeMonth leap m ≤ daysBeforeMonth leap n := by decide
  exact hall leap ⟨m, by omega⟩ ⟨n, by omega⟩ h

theorem daysBeforeMonth_last (leap : Bool) :
    daysBeforeMonth leap 12 = 365 + if leap then 1 else 0 := by
  cases leap <;> rfl

/-- The days of the months make up the year. -/
theorem daysBeforeMonth_add (leap : Bool) {month : ℕ} (h1 : 1 ≤ month) (h12 : month ≤ 12) :
    daysBeforeMonth leap (month - 1) + daysInMonth leap month = daysBeforeMonth leap month := by
  have := daysBeforeMonth_mono leap (show month - 1 ≤ month by omega) h12
  unfold daysInMonth
  omega

/-- The day after the last one of its month is of the next one. -/
theorem lt_daysBeforeMonth_succ {leap : Bool} {dayOfYear : ℕ} (h : dayOfYear < 366)
    (hyear : leap = true ∨ dayOfYear < 365) :
    dayOfYear < daysBeforeMonth leap (monthOfDay leap dayOfYear + 1) := by
  have hall : ∀ leap : Bool, ∀ day : Fin 366, (leap = true ∨ (day : ℕ) < 365) →
      (day : ℕ) < daysBeforeMonth leap (monthOfDay leap day + 1) := by
    decide +kernel
  exact hall leap ⟨dayOfYear, h⟩ hyear

/-! ## Days -/

/-- The day of the year that a day is. -/
theorem dayOfYear_spec (day : ℤ) :
    dayFromYear (yearOf day) + (day - dayFromYear (yearOf day)).toNat = day ∧
      (day - dayFromYear (yearOf day)).toNat < 366 ∧
      (isLeapYear (yearOf day) = true ∨ (day - dayFromYear (yearOf day)).toNat < 365) := by
  obtain ⟨hle, hlt⟩ := yearOf_spec day
  rw [dayFromYear_succ] at hlt
  refine ⟨by omega, ?_, ?_⟩
  · split_ifs at hlt <;> omega
  · cases hleap : isLeapYear (yearOf day) with
    | true => exact .inl rfl
    | false =>
      rw [hleap, if_neg Bool.false_ne_true] at hlt
      exact .inr (by omega)

theorem civil_valid (day : ℤ) : (civil day).Valid := by
  obtain ⟨-, h366, hlength⟩ := dayOfYear_spec day
  obtain ⟨hmonth, hbefore, -⟩ := monthOfDay_spec (isLeapYear (yearOf day)) h366
  have hafter := lt_daysBeforeMonth_succ h366 hlength
  refine ⟨⟨Nat.le_add_left 1 _, ?_⟩, Nat.le_add_left 1 _, ?_⟩
  · unfold civil
    dsimp only
    omega
  · unfold civil daysInMonth
    dsimp only
    rw [Nat.add_sub_cancel]
    omega

/-- **A day is the day of its date.** -/
theorem number_civil (day : ℤ) : (civil day).number = day := by
  obtain ⟨hsum, h366, -⟩ := dayOfYear_spec day
  obtain ⟨-, hbefore, -⟩ := monthOfDay_spec (isLeapYear (yearOf day)) h366
  unfold civil CivilDate.number
  dsimp only
  rw [Nat.add_sub_cancel]
  omega

namespace CivilDate

variable {a b : CivilDate}

/-- The days of a year lie between its first of January and the next. -/
theorem number_bounds (h : a.Valid) :
    dayFromYear a.year ≤ a.number ∧ a.number < dayFromYear (a.year + 1) := by
  obtain ⟨⟨h1, h12⟩, hday, hlast⟩ := h
  have hsum := daysBeforeMonth_add (isLeapYear a.year) h1 h12
  have hmono := daysBeforeMonth_mono (isLeapYear a.year) h12 (le_refl 12)
  have htotal := daysBeforeMonth_last (isLeapYear a.year)
  rw [dayFromYear_succ]
  unfold number
  constructor
  · omega
  · split_ifs at htotal ⊢ <;> omega

/-- **Dates are ordered as their days.** -/
theorem number_le_iff (ha : a.Valid) (hb : b.Valid) : a.number ≤ b.number ↔ a.Before b := by
  obtain ⟨hale, halt⟩ := number_bounds ha
  obtain ⟨hble, hblt⟩ := number_bounds hb
  unfold Before
  rcases lt_trichotomy a.year b.year with hless | hsame | hmore
  · have := dayFromYear_mono (show a.year + 1 ≤ b.year by omega)
    exact ⟨fun _ => .inl hless, fun _ => by omega⟩
  · obtain ⟨⟨ha1, ha12⟩, haday, halast⟩ := ha
    obtain ⟨⟨hb1, hb12⟩, hbday, hblast⟩ := hb
    rw [hsame] at halast
    have hasum := daysBeforeMonth_add (isLeapYear b.year) ha1 ha12
    have hbsum := daysBeforeMonth_add (isLeapYear b.year) hb1 hb12
    unfold number
    rw [hsame]
    rcases lt_trichotomy a.month b.month with hmonth | hmonth | hmonth
    · have := daysBeforeMonth_mono (isLeapYear b.year)
        (show a.month ≤ b.month - 1 by omega) (by omega)
      constructor
      · exact fun _ => .inr ⟨rfl, .inl hmonth⟩
      · exact fun _ => by omega
    · rw [hmonth]
      constructor
      · exact fun hle => .inr ⟨rfl, .inr ⟨rfl, by omega⟩⟩
      · intro h
        omega
    · have := daysBeforeMonth_mono (isLeapYear b.year)
        (show b.month ≤ a.month - 1 by omega) (by omega)
      constructor
      · intro hle
        omega
      · intro h
        omega
  · have := dayFromYear_mono (show b.year + 1 ≤ a.year by omega)
    constructor
    · intro hle
      omega
    · intro h
      omega

end CivilDate

end Js
