import Mathlib.Data.Nat.Find
import SinoChat.Common.JsString

/-!
# Dates and their ISO texts

A date is the milliseconds since 1970 (UTC). `toISOString` writes it in the
proleptic Gregorian calendar, by the year that contains its day and the month
within it; `dateParse` reads such a text by the day of the first of January and
the days before a month. Of a date before the year 10000, the text that is written
has the form of a time stamp (`isIsoDateText_toISOString`) and is read to the date
again (`dateParse_toISOString`).
-/

namespace Js

/-! ## The calendar -/

/-- The day of the first of January of a year, from that of 1970. -/
def dayFromYear (y : ℤ) : ℤ :=
  365 * (y - 1970) + (y - 1969) / 4 - (y - 1901) / 100 + (y - 1601) / 400

/-- The year has a 29th of February. -/
def isLeapYear (y : ℤ) : Bool := y % 4 = 0 && (y % 100 ≠ 0 || y % 400 = 0)

/-- The days of a year before one of its months, of which January is the zeroth. -/
def daysBeforeMonth (leap : Bool) (month : ℕ) : ℕ :=
  [0, 31, 59, 90, 120, 151, 181, 212, 243, 273, 304, 334].getD month 365 +
    if leap && 2 ≤ month then 1 else 0

/-- The year that contains a day. -/
def yearOfDay (day : ℕ) : ℕ := Nat.findGreatest (fun y => dayFromYear y ≤ day) (1971 + day / 365)

/-- The month that contains a day of a year. -/
def monthOfDay (leap : Bool) (dayOfYear : ℕ) : ℕ :=
  (List.range 11).countP fun month => daysBeforeMonth leap (month + 1) ≤ dayOfYear

theorem dayFromYear_succ (y : ℤ) :
    dayFromYear (y + 1) = dayFromYear y + 365 + if isLeapYear y then 1 else 0 := by
  unfold dayFromYear isLeapYear
  by_cases h4 : y % 4 = 0
  · by_cases h100 : y % 100 = 0
    · by_cases h400 : y % 400 = 0
      · simp only [h4, h400, decide_true, Bool.or_true, Bool.and_true, if_true]
        omega
      · simp only [h100, h400, ne_eq, not_true_eq_false, decide_false, Bool.or_self,
          Bool.and_false, Bool.false_eq_true, if_false]
        omega
    · simp only [h4, h100, ne_eq, not_false_eq_true, decide_true, Bool.true_or, Bool.and_true,
        if_true]
      omega
  · simp only [h4, decide_false, Bool.false_and, Bool.false_eq_true, if_false]
    omega

/-- The year of a day is the last one to begin by it. -/
theorem yearOfDay_spec (day : ℕ) :
    1970 ≤ yearOfDay day ∧ dayFromYear (yearOfDay day) ≤ day ∧
      (day : ℤ) < dayFromYear (yearOfDay day + 1) := by
  have hfirst : dayFromYear ((1970 : ℕ) : ℤ) ≤ day := by
    have : dayFromYear ((1970 : ℕ) : ℤ) = 0 := by decide
    omega
  have hbound : 1970 ≤ 1971 + day / 365 := by omega
  refine ⟨Nat.le_findGreatest hbound hfirst,
    Nat.findGreatest_spec (P := fun y : ℕ => dayFromYear y ≤ day) hbound hfirst, ?_⟩
  by_contra hnot
  have hnext : dayFromYear ((yearOfDay day + 1 : ℕ) : ℤ) ≤ day := by
    push_cast
    omega
  have hlate : yearOfDay day + 1 ≤ 1971 + day / 365 := by
    unfold dayFromYear at hnext
    push_cast at hnext
    omega
  have := Nat.le_findGreatest (P := fun y : ℕ => dayFromYear y ≤ day) hlate hnext
  rw [← yearOfDay] at this
  omega

theorem monthOfDay_spec (leap : Bool) {dayOfYear : ℕ} (h : dayOfYear < 366) :
    monthOfDay leap dayOfYear < 12 ∧
      daysBeforeMonth leap (monthOfDay leap dayOfYear) ≤ dayOfYear ∧
      (leap = true ∨ dayOfYear < 365 →
        dayOfYear < daysBeforeMonth leap (monthOfDay leap dayOfYear) + 31) := by
  have hall : ∀ leap : Bool, ∀ day : Fin 366, monthOfDay leap day < 12 ∧
      daysBeforeMonth leap (monthOfDay leap day) ≤ day ∧
      (leap = true ∨ (day : ℕ) < 365 →
        (day : ℕ) < daysBeforeMonth leap (monthOfDay leap day) + 31) := by
    decide +kernel
  exact hall leap ⟨dayOfYear, h⟩

/-! ## Digits -/

/-- The last digits of a number, so many of them. -/
def pad : ℕ → ℕ → JsString
  | 0, _ => []
  | width + 1, n => pad width (n / 10) ++ [(0x30 + n % 10).toUInt16]

/-- The number that some digits spell out. -/
def ofDigits (digits : JsString) : ℕ := digits.foldl (fun n u => n * 10 + (u.toNat - 0x30)) 0

@[simp] theorem length_pad (width n : ℕ) : (pad width n).length = width := by
  induction width generalizing n with
  | zero => rfl
  | succ width ih => simp [pad, ih]

theorem isDigit_digit (n : ℕ) : isDigit (0x30 + n % 10).toUInt16 = true := by
  have hall : ∀ d : Fin 10, isDigit (0x30 + d.val).toUInt16 = true := by decide
  exact hall ⟨n % 10, by omega⟩

theorem fixed_pad (width n : ℕ) : fixed (times width isDigit) (pad width n) = true := by
  refine fixed_times.mpr ⟨length_pad width n, ?_⟩
  induction width generalizing n with
  | zero => simp [pad]
  | succ width ih =>
    intro u hu
    rcases List.mem_append.mp hu with hu | hu
    · exact ih _ u hu
    · rw [List.mem_singleton.mp hu]
      exact isDigit_digit n

theorem ofDigits_pad (width n : ℕ) : ofDigits (pad width n) = n % 10 ^ width := by
  induction width generalizing n with
  | zero => simp [pad, ofDigits, Nat.mod_one]
  | succ width ih =>
    have hdigit : (0x30 + n % 10).toUInt16.toNat - 0x30 = n % 10 := by
      have hlt : 0x30 + n % 10 < 2 ^ 16 := by omega
      have hval : (0x30 + n % 10).toUInt16.toNat = 0x30 + n % 10 := by
        simp only [Nat.toUInt16_eq, UInt16.toNat_ofNat']
        exact Nat.mod_eq_of_lt hlt
      omega
    have hstep : ofDigits (pad (width + 1) n) =
        ofDigits (pad width (n / 10)) * 10 + ((0x30 + n % 10).toUInt16.toNat - 0x30) := by
      simp [ofDigits, pad, List.foldl_append]
    rw [hstep, hdigit, ih, pow_succ, Nat.mul_comm (10 ^ width) 10, Nat.mod_mul]
    omega

/-! ## Texts -/

/-- The milliseconds of a day. -/
def msPerDay : ℕ := 86400000

/-- `date.toISOString()`, of a date since 1970. -/
def toISOString (t : ℕ) : JsString :=
  let day := t / msPerDay
  let year := yearOfDay day
  let leap := isLeapYear year
  let dayOfYear := (day - dayFromYear year).toNat
  let month := monthOfDay leap dayOfYear
  let ms := t % msPerDay
  (if year < 10000 then pad 4 year else js "+" ++ pad 6 year) ++ js "-" ++ pad 2 (month + 1) ++
    js "-" ++ pad 2 (dayOfYear - daysBeforeMonth leap month + 1) ++ js "T" ++
    pad 2 (ms / 3600000) ++ js ":" ++ pad 2 (ms / 60000 % 60) ++ js ":" ++
    pad 2 (ms / 1000 % 60) ++ js "." ++ pad 3 (ms % 1000) ++ js "Z"

/-- `\d{4}-\d{2}-\d{2}T\d{2}:\d{2}:\d{2}`. -/
def dateTimePattern : List CharClass :=
  times 4 isDigit ++ lit "-" ++ times 2 isDigit ++ lit "-" ++ times 2 isDigit ++ lit "T" ++
    times 2 isDigit ++ lit ":" ++ times 2 isDigit ++ lit ":" ++ times 2 isDigit

/-- `/^\d{4}-\d{2}-\d{2}T\d{2}:\d{2}:\d{2}(?:\.\d{1,6})?Z$/`. -/
def isIsoDateText (text : JsString) : Bool :=
  let rest := text.drop 19
  fixed dateTimePattern (text.take 19) &&
    (fixed (lit "Z") rest || (List.range 6).any fun n =>
      fixed (lit "." ++ times (n + 1) isDigit ++ lit "Z") rest)

/-- `Date.parse` of a text of this form. A day behind the last one of its month is one of
the next month; of the fraction the milliseconds count. -/
def dateParse (text : JsString) : Option ℤ :=
  let number (start width : ℕ) : ℕ := ofDigits ((text.drop start).take width)
  let year := number 0 4
  let month := number 5 2
  let day := number 8 2
  let hour := number 11 2
  let minute := number 14 2
  let second := number 17 2
  let fraction := (text.drop 20).dropLast
  let ms := ofDigits ((fraction ++ js "000").take 3)
  if isIsoDateText text ∧ 1 ≤ month ∧ month ≤ 12 ∧ 1 ≤ day ∧ day ≤ 31 ∧
      (hour < 24 ∨ hour = 24 ∧ minute = 0 ∧ second = 0 ∧ ms = 0) ∧ minute < 60 ∧ second < 60 then
    some ((dayFromYear year + daysBeforeMonth (isLeapYear year) (month - 1) + (day - 1)) * msPerDay +
      hour * 3600000 + minute * 60000 + second * 1000 + ms)
  else none

/-! ## What is written is read -/

/-- The first millisecond of the year 10000. -/
def isoDateLimit : ℕ := 253402300800000

/-- The text of some fields. -/
def isoText (year month day hour minute second ms : JsString) : JsString :=
  year ++ js "-" ++ month ++ js "-" ++ day ++ js "T" ++ hour ++ js ":" ++ minute ++ js ":" ++
    second ++ js "." ++ ms ++ js "Z"

/-- The fields of a text stand at fixed places. -/
theorem isoText_fields {year month day hour minute second ms : JsString} (hyear : year.length = 4)
    (hmonth : month.length = 2) (hday : day.length = 2) (hhour : hour.length = 2)
    (hminute : minute.length = 2) (hsecond : second.length = 2) (hms : ms.length = 3) :
    let text := isoText year month day hour minute second ms
    text.take 19 = year ++ js "-" ++ month ++ js "-" ++ day ++ js "T" ++ hour ++ js ":" ++
        minute ++ js ":" ++ second ∧
      text.drop 19 = js "." ++ ms ++ js "Z" ∧ (text.drop 0).take 4 = year ∧
      (text.drop 5).take 2 = month ∧ (text.drop 8).take 2 = day ∧ (text.drop 11).take 2 = hour ∧
      (text.drop 14).take 2 = minute ∧ (text.drop 17).take 2 = second ∧
      ((text.drop 20).dropLast ++ js "000").take 3 = ms := by
  obtain ⟨y₁, y₂, y₃, y₄, rfl⟩ := List.length_eq_four.mp hyear
  obtain ⟨mo₁, mo₂, rfl⟩ := List.length_eq_two.mp hmonth
  obtain ⟨d₁, d₂, rfl⟩ := List.length_eq_two.mp hday
  obtain ⟨h₁, h₂, rfl⟩ := List.length_eq_two.mp hhour
  obtain ⟨mi₁, mi₂, rfl⟩ := List.length_eq_two.mp hminute
  obtain ⟨s₁, s₂, rfl⟩ := List.length_eq_two.mp hsecond
  obtain ⟨f₁, f₂, f₃, rfl⟩ := List.length_eq_three.mp hms
  have hdash : js "-" = [0x2D] := by decide
  have hT : js "T" = [0x54] := by decide
  have hcolon : js ":" = [0x3A] := by decide
  have hpoint : js "." = [0x2E] := by decide
  have hZ : js "Z" = [0x5A] := by decide
  have hzeros : js "000" = [0x30, 0x30, 0x30] := by decide
  simp [isoText, hdash, hT, hcolon, hpoint, hZ, hzeros]

/-- **The parts of a date**: its text, and how they make it up. -/
theorem toISOString_parts {t : ℕ} (h : t < isoDateLimit) :
    ∃ year month day : ℕ, year < 10000 ∧ (1 ≤ month ∧ month ≤ 12) ∧ (1 ≤ day ∧ day ≤ 31) ∧
      dayFromYear year + daysBeforeMonth (isLeapYear year) (month - 1) + (day - 1) =
        (t / msPerDay : ℕ) ∧
      toISOString t = isoText (pad 4 year) (pad 2 month) (pad 2 day)
        (pad 2 (t % msPerDay / 3600000)) (pad 2 (t % msPerDay / 60000 % 60))
        (pad 2 (t % msPerDay / 1000 % 60)) (pad 3 (t % msPerDay % 1000)) := by
  have hlast : t / msPerDay < 2932897 := by
    unfold isoDateLimit at h
    unfold msPerDay
    omega
  unfold toISOString
  dsimp only
  generalize t / msPerDay = date at *
  obtain ⟨hfirst, hle, hlt⟩ := yearOfDay_spec date
  have hyear : yearOfDay date < 10000 := by
    by_contra hnot
    unfold dayFromYear at hle
    omega
  have hsucc := dayFromYear_succ (yearOfDay date)
  generalize yearOfDay date = year at *
  have hdayOfYear : dayFromYear year + (date - dayFromYear year).toNat = date := by omega
  generalize (date - dayFromYear year).toNat = dayOfYear at *
  have hlength : dayOfYear < 366 ∧ (isLeapYear year = true ∨ dayOfYear < 365) := by
    cases hleap : isLeapYear year with
    | true =>
      rw [hleap, if_pos rfl] at hsucc
      exact ⟨by omega, .inl rfl⟩
    | false =>
      rw [hleap, if_neg Bool.false_ne_true] at hsucc
      exact ⟨by omega, .inr (by omega)⟩
  obtain ⟨hmonth, hbefore, hafter⟩ := monthOfDay_spec (isLeapYear year) hlength.1
  specialize hafter hlength.2
  refine ⟨year, monthOfDay (isLeapYear year) dayOfYear + 1,
    dayOfYear - daysBeforeMonth (isLeapYear year) (monthOfDay (isLeapYear year) dayOfYear) + 1,
    hyear, ⟨by omega, by omega⟩, ⟨by omega, by omega⟩, ?_, ?_⟩
  · rw [Nat.add_sub_cancel]
    push_cast
    omega
  · simp only [isoText, if_pos hyear]

/-- **The text of a date has the form of a time stamp.** -/
theorem isIsoDateText_toISOString {t : ℕ} (h : t < isoDateLimit) :
    isIsoDateText (toISOString t) = true := by
  obtain ⟨year, month, day, -, -, -, -, htext⟩ := toISOString_parts h
  rw [htext]
  obtain ⟨htake, hdrop, -⟩ := isoText_fields (length_pad 4 year) (length_pad 2 month)
    (length_pad 2 day) (length_pad 2 (t % msPerDay / 3600000))
    (length_pad 2 (t % msPerDay / 60000 % 60)) (length_pad 2 (t % msPerDay / 1000 % 60))
    (length_pad 3 (t % msPerDay % 1000))
  have hdash : fixed (lit "-") (js "-") = true := by decide
  have hT : fixed (lit "T") (js "T") = true := by decide
  have hcolon : fixed (lit ":") (js ":") = true := by decide
  have hpoint : fixed (lit ".") (js ".") = true := by decide
  have hZ : fixed (lit "Z") (js "Z") = true := by decide
  rw [isIsoDateText, htake, hdrop, Bool.and_eq_true, Bool.or_eq_true]
  refine ⟨?_, .inr ?_⟩
  · exact fixed_append_of (fixed_append_of (fixed_append_of (fixed_append_of (fixed_append_of
      (fixed_append_of (fixed_append_of (fixed_append_of (fixed_append_of (fixed_append_of
      (fixed_pad 4 _) hdash) (fixed_pad 2 _)) hdash) (fixed_pad 2 _)) hT) (fixed_pad 2 _)) hcolon)
      (fixed_pad 2 _)) hcolon) (fixed_pad 2 _)
  · refine List.any_eq_true.mpr ⟨2, by decide, ?_⟩
    exact fixed_append_of (fixed_append_of hpoint (fixed_pad 3 _)) hZ

/-- **`Date.parse` reads what `toISOString` has written.** -/
theorem dateParse_toISOString {t : ℕ} (h : t < isoDateLimit) :
    dateParse (toISOString t) = some (t : ℤ) := by
  have hform := isIsoDateText_toISOString h
  obtain ⟨year, month, day, hyear, hmonth, hday, hsum, htext⟩ := toISOString_parts h
  rw [htext] at hform ⊢
  obtain ⟨-, -, h₁, h₂, h₃, h₄, h₅, h₆, h₇⟩ := isoText_fields (length_pad 4 year)
    (length_pad 2 month) (length_pad 2 day) (length_pad 2 (t % msPerDay / 3600000))
    (length_pad 2 (t % msPerDay / 60000 % 60)) (length_pad 2 (t % msPerDay / 1000 % 60))
    (length_pad 3 (t % msPerDay % 1000))
  have hms : t % msPerDay < 86400000 := Nat.mod_lt _ (by decide)
  have hsplit : t = t / msPerDay * 86400000 + t % msPerDay := by
    have := Nat.div_add_mod t msPerDay
    unfold msPerDay at *
    omega
  have hdigits : ∀ width n, n < 10 ^ width → ofDigits (pad width n) = n := fun width n hn => by
    rw [ofDigits_pad, Nat.mod_eq_of_lt hn]
  unfold dateParse
  simp only [hform, h₁, h₂, h₃, h₄, h₅, h₆, h₇]
  rw [hdigits 4 year (by omega), hdigits 2 month (by omega), hdigits 2 day (by omega),
    hdigits 2 (t % msPerDay / 3600000) (by omega), hdigits 2 (t % msPerDay / 60000 % 60) (by omega),
    hdigits 2 (t % msPerDay / 1000 % 60) (by omega), hdigits 3 (t % msPerDay % 1000) (by omega)]
  rw [if_pos ⟨trivial, hmonth.1, hmonth.2, hday.1, hday.2, by omega, by omega, by omega⟩]
  rw [hsum]
  generalize t % msPerDay = ms at *
  generalize t / msPerDay = days at *
  rw [msPerDay, Option.some.injEq]
  push_cast
  omega

example : toISOString 1772323200000 = js "2026-03-01T00:00:00.000Z" := by decide +kernel

end Js
