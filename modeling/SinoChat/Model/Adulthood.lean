import SinoChat.Common.Calendar

/-!
# The two checks of adulthood

`AuthService.isAdult` compares the calendar date in the legal time zone with the date of
birth; the profiles of clients and cashiers are checked again by the database
(`client_profiles_adult_declaration_check`, `cashier_profiles_adult_declaration_check`),
by the date of the declaration in UTC.

Time is in milliseconds since 1970. What `Intl` makes of the name of a time zone is a
parameter, `offset?`: the minutes it is ahead of UTC, and nothing for a name `Intl`
throws for. A year before the first is written as the year of its era.
-/

namespace SinoChat

open Js

namespace Adulthood

/-! ## The legal time zone -/

/-- The time zone where the setting names none. -/
def defaultTimeZone : JsString := js "America/Argentina/Buenos_Aires"

/-- `environment.LEGAL_TIME_ZONE?.trim() || …` of `loadRuntimeConfig`. -/
def legalTimeZone (setting : Option JsString) : JsString :=
  match setting with
  | some value => if trim value = [] then defaultTimeZone else trim value
  | none => defaultTimeZone

/-- The number of the calendar day at a time. -/
def localDay (offset time : ℤ) : ℤ := (time + offset * 60000) / 86400000

/-! ## `isAdult` -/

/-- The year as `Intl` writes it. -/
def yearOfEra (year : ℤ) : ℤ := if year ≤ 0 then 1 - year else year

/-- `AuthService.isAdult`, or nothing where it throws. It reads the setting as it is. -/
def isAdult (offset? : JsString → Option ℤ) (setting : Option JsString) (dateInput : JsString)
    (decisionTime : ℤ) : Option Bool := do
  let offset ← offset? (setting.getD defaultTimeZone)
  let parts := civil (localDay offset decisionTime)
  let currentYear := yearOfEra parts.year
  match (dateInput.splitOn 0x2D).map ofDigits with
  | year :: month :: day :: _ =>
    let age := currentYear - year
    let age := if parts.month < month ∨ parts.month = month ∧ parts.day < day then age - 1 else age
    return decide (18 ≤ age)
  -- A comparison with what is not a number.
  | _ => return false

/-! ## The check of the database -/

/-- `day - INTERVAL '18 years'`: a day its month does not have becomes the last one. -/
def minus18Years (day : ℤ) : ℤ :=
  let date := civil day
  let year := date.year - 18
  CivilDate.number ⟨year, date.month, min date.day (daysInMonth (isLeapYear year) date.month)⟩

/-- `adult_declaration_check`. -/
def adultDeclarationCheck (dateOfBirth declaredAdultAt createdAt : ℤ) : Bool :=
  createdAt - 300000 ≤ declaredAdultAt &&
    dateOfBirth ≤ minus18Years (localDay 0 declaredAdultAt)

/-! ## Dates of birth -/

/-- A date of birth that the requests accept: a calendar date with a year of four digits. -/
structure BirthDate extends CivilDate where
  valid : toCivilDate.Valid
  fourDigits : 0 ≤ year ∧ year < 10000

/-- `\d{4}-\d{2}-\d{2}`. -/
def BirthDate.text (birth : BirthDate) : JsString :=
  pad 4 birth.year.toNat ++ js "-" ++ pad 2 birth.month ++ js "-" ++ pad 2 birth.day

/-- The eighteenth birthday; one on 29 February is on 1 March in a year without that day. -/
def BirthDate.eighteenth (birth : BirthDate) : CivilDate :=
  if birth.month = 2 ∧ birth.day = 29 ∧ isLeapYear (birth.year + 18) = false then
    ⟨birth.year + 18, 3, 1⟩
  else ⟨birth.year + 18, birth.month, birth.day⟩

end Adulthood

end SinoChat
