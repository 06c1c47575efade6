import SinoChat.Model.Adulthood

/-!
# When the two checks of adulthood agree

Both checks ask whether the eighteenth birthday has come (`isAdult_eq`,
`birth_le_minus18Years`): the years that are added to a leap day or taken from one
make no difference. But one asks for it in the legal time zone and the other in UTC,
so that east of UTC, on the eve of the birthday by UTC, the first admits what the
second rejects (`adulthood_agrees_iff`). And `isAdult` does not read the setting of the
time zone as the configuration does.
-/

namespace SinoChat

open Js

namespace Adulthood

variable {offset? : JsString → Option ℤ} {setting : Option JsString} {birth : BirthDate}

/-! ## The birthday -/

theorem daysInMonth_eq {leap leap' : Bool} {month : ℕ} (h : month ≤ 12) (hne : month ≠ 2) :
    daysInMonth leap month = daysInMonth leap' month := by
  have hall : ∀ leap leap' : Bool, ∀ month : Fin 13, (month : ℕ) ≠ 2 →
      daysInMonth leap month = daysInMonth leap' month := by decide
  exact hall leap leap' ⟨month, by omega⟩ hne

theorem daysInMonth_february (leap : Bool) : daysInMonth leap 2 = 28 + if leap then 1 else 0 := by
  cases leap <;> rfl

/-- The day and month of birth, eighteen years later. -/
def BirthDate.later (birth : BirthDate) : CivilDate :=
  ⟨birth.year + 18, birth.month, birth.day⟩

theorem eighteenth_valid (birth : BirthDate) : birth.eighteenth.Valid := by
  obtain ⟨⟨h1, h12⟩, hday, hlast⟩ := birth.valid
  unfold BirthDate.eighteenth
  split_ifs with hleap
  · have hmarch : ∀ leap : Bool, 1 ≤ daysInMonth leap 3 := by decide
    exact ⟨⟨Nat.le_of_ble_eq_true rfl, Nat.le_of_ble_eq_true rfl⟩, le_refl 1, hmarch _⟩
  · refine ⟨⟨h1, h12⟩, hday, ?_⟩
    show birth.day ≤ daysInMonth (isLeapYear (birth.year + 18)) birth.month
    by_cases hfebruary : birth.month = 2
    · rw [hfebruary, daysInMonth_february] at hlast ⊢
      cases hyear : isLeapYear (birth.year + 18) with
      | true =>
        rw [if_pos rfl]
        split_ifs at hlast <;> omega
      | false =>
        have hnot : birth.day ≠ 29 := fun h29 => hleap ⟨hfebruary, h29, hyear⟩
        rw [if_neg Bool.false_ne_true]
        split_ifs at hlast <;> omega
    · rwa [daysInMonth_eq h12 hfebruary]

/-- In a year without a leap day, no date lies between it and the first of March. -/
theorem later_before_iff {c : CivilDate} (hc : c.Valid) :
    birth.later.Before c ↔ birth.eighteenth.Before c := by
  unfold BirthDate.later BirthDate.eighteenth
  split_ifs with hleap
  · obtain ⟨hmonth, hday, hyear⟩ := hleap
    obtain ⟨-, hc1, hclast⟩ := hc
    unfold CivilDate.Before
    rw [hmonth, hday]
    dsimp only
    by_cases hsame : birth.year + 18 = c.year
    · by_cases hfebruary : c.month = 2
      · rw [← hsame, hyear, hfebruary, daysInMonth_february] at hclast
        simp only [Bool.false_eq_true, if_false] at hclast
        omega
      · omega
    · omega
  · rfl

/-- **The birthday has come**, by day, month and year. -/
theorem later_before_civil (day : ℤ) :
    birth.later.Before (civil day) ↔ birth.eighteenth.number ≤ day := by
  rw [later_before_iff (civil_valid day), ← CivilDate.number_le_iff (eighteenth_valid birth)
    (civil_valid day), number_civil]

/-- **Eighteen years before.** The last day of a month stands for those it does not have. -/
theorem birth_le_minus18Years (day : ℤ) :
    birth.number ≤ minus18Years day ↔ birth.eighteenth.number ≤ day := by
  obtain ⟨⟨h1, h12⟩, hday, hlast⟩ := birth.valid
  obtain ⟨⟨hc1, hc12⟩, hcday, hclast⟩ := civil_valid day
  have hmonth : 1 ≤ daysInMonth (isLeapYear ((civil day).year - 18)) (civil day).month := by
    have hall : ∀ leap : Bool, ∀ month : Fin 13, 1 ≤ (month : ℕ) → 1 ≤ daysInMonth leap month := by
      decide
    exact hall _ ⟨(civil day).month, by omega⟩ hc1
  have hvalid : CivilDate.Valid ⟨(civil day).year - 18, (civil day).month, min (civil day).day
      (daysInMonth (isLeapYear ((civil day).year - 18)) (civil day).month)⟩ :=
    ⟨⟨hc1, hc12⟩, le_min hcday hmonth, min_le_right _ _⟩
  rw [← later_before_civil, minus18Years, CivilDate.number_le_iff birth.valid hvalid]
  unfold CivilDate.Before BirthDate.later
  dsimp only
  rw [le_min_iff]
  by_cases hsame : birth.year = (civil day).year - 18 ∧ birth.month = (civil day).month
  · rw [← hsame.1, ← hsame.2]
    omega
  · omega

/-! ## `isAdult` -/

theorem ofDigits_pad_of_lt {width n : ℕ} (h : n < 10 ^ width) : ofDigits (pad width n) = n := by
  rw [ofDigits_pad, Nat.mod_eq_of_lt h]

/-- A date of birth is read as it is written. -/
theorem split_text (birth : BirthDate) :
    (birth.text.splitOn 0x2D).map ofDigits = [birth.year.toNat, birth.month, birth.day] := by
  obtain ⟨⟨h1, h12⟩, hday, hlast⟩ := birth.valid
  obtain ⟨-, hyear⟩ := birth.fourDigits
  have hdigits : ∀ width n : ℕ, (0x2D : UInt16) ∉ pad width n := by
    intro width n hmem
    have hdigit := (fixed_times.mp (fixed_pad width n)).2 _ hmem
    revert hdigit
    decide
  have hlength : daysInMonth (isLeapYear birth.year) birth.month < 100 := by
    have hall : ∀ leap : Bool, ∀ month : Fin 13, daysInMonth leap month < 100 := by decide
    exact hall _ ⟨birth.month, by omega⟩
  have hdash : js "-" = [0x2D] := by decide
  have htext : birth.text = List.intercalate [0x2D]
      [pad 4 birth.year.toNat, pad 2 birth.month, pad 2 birth.day] := by
    unfold BirthDate.text
    rw [hdash]
    simp [List.intercalate, List.intersperse]
  rw [htext, List.splitOn_intercalate]
  · simp only [List.map_cons, List.map_nil]
    rw [ofDigits_pad_of_lt (by omega), ofDigits_pad_of_lt (by omega), ofDigits_pad_of_lt (by omega)]
  · intro part hpart
    simp only [List.mem_cons, List.not_mem_nil, or_false] at hpart
    rcases hpart with rfl | rfl | rfl
    · exact hdigits _ _
    · exact hdigits _ _
    · exact hdigits _ _
  · simp

/-- **`isAdult` asks whether the birthday has come**, by the year of the era. -/
theorem isAdult_eq (t : ℤ) : isAdult offset? setting birth.text t =
    (offset? (setting.getD defaultTimeZone)).map fun offset =>
      decide (birth.later.Before ⟨yearOfEra (civil (localDay offset t)).year,
        (civil (localDay offset t)).month, (civil (localDay offset t)).day⟩) := by
  obtain ⟨hzero, -⟩ := birth.fourDigits
  have hyear : ((birth.year.toNat : ℕ) : ℤ) = birth.year := Int.toNat_of_nonneg hzero
  rw [isAdult, split_text]
  cases offset? (setting.getD defaultTimeZone) with
  | none => rfl
  | some offset =>
    show some (decide _) = some (decide _)
    refine congrArg some (decide_eq_decide.mpr ?_)
    unfold BirthDate.later CivilDate.Before
    rw [hyear]
    dsimp only
    split_ifs with hbefore <;> omega

theorem localDay_mono {offset t t' : ℤ} (h : t ≤ t') : localDay offset t ≤ localDay offset t' := by
  unfold localDay
  omega

/-- No birthday of the common era is before it. -/
theorem not_later_before {c : CivilDate} (hc : c.year ≤ 0) : ¬ birth.later.Before c := by
  obtain ⟨hzero, -⟩ := birth.fourDigits
  unfold BirthDate.later CivilDate.Before
  dsimp only
  omega

/-- Of a day of the common era, the verdict is that of the calendar. -/
theorem isAdult_of_year {offset t : ℤ} (hzone : offset? (setting.getD defaultTimeZone) = some offset)
    (hyear : 1 ≤ (civil (localDay offset t)).year) : isAdult offset? setting birth.text t =
      some (decide (birth.eighteenth.number ≤ localDay offset t)) := by
  rw [isAdult_eq, hzone, Option.map_some]
  refine congrArg some (decide_eq_decide.mpr ?_)
  rw [← later_before_civil, yearOfEra, if_neg (by omega)]

/-- The check of the database asks whether the birthday has come in UTC. -/
theorem adultDeclarationCheck_iff {declared created : ℤ} (h : created - 300000 ≤ declared) :
    adultDeclarationCheck birth.number declared created = true ↔
      birth.eighteenth.number ≤ localDay 0 declared := by
  rw [adultDeclarationCheck, decide_eq_true h, Bool.true_and, decide_eq_true_eq,
    birth_le_minus18Years]

/-! ## Agreement -/

/-- **What the two checks should have in common.** The verdict of `isAdult` is that the birthday has
come in the legal time zone, it stays so, and what it admits the database accepts. -/
structure Agrees (offset? : JsString → Option ℤ) (setting : Option JsString) (offset : ℤ)
    (birth : BirthDate) (t : ℤ) : Prop where
  verdict : isAdult offset? setting birth.text t =
    some (decide (birth.eighteenth.number ≤ localDay offset t))
  stays : isAdult offset? setting birth.text t = some true →
    ∀ t', t ≤ t' → isAdult offset? setting birth.text t' = some true
  accepted : isAdult offset? setting birth.text t = some true →
    ∀ declared, t ≤ declared → ∀ created, created - 300000 ≤ declared →
      adultDeclarationCheck birth.number declared created = true

/-- A setting that is taken as it is, or none. -/
def Plain (setting : Option JsString) : Prop :=
  ∀ value, setting = some value → trim value = value ∧ value ≠ []

/-- It is the birthday in the legal time zone, and its eve in UTC. -/
def OnTheEve (offset : ℤ) (birth : BirthDate) (t : ℤ) : Prop :=
  birth.eighteenth.number * 86400000 - offset * 60000 ≤ t ∧ t < birth.eighteenth.number * 86400000

/-- A time before the common era, whose year of that era would make the birthday. -/
def Misdated (offset : ℤ) (birth : BirthDate) (t : ℤ) : Prop :=
  (civil (localDay offset t)).year ≤ 0 ∧ birth.later.Before
    ⟨1 - (civil (localDay offset t)).year, (civil (localDay offset t)).month,
      (civil (localDay offset t)).day⟩

theorem getD_eq_of_plain (h : Plain setting) : setting.getD defaultTimeZone = legalTimeZone setting := by
  cases setting with
  | none => rfl
  | some value =>
    obtain ⟨htrim, hne⟩ := h value rfl
    rw [legalTimeZone, htrim, if_neg hne, Option.getD_some]

/-- The birthday has come in one time zone and not in UTC just on its eve. -/
theorem onTheEve_iff {offset t : ℤ} : OnTheEve offset birth t ↔
    birth.eighteenth.number ≤ localDay offset t ∧ ¬ birth.eighteenth.number ≤ localDay 0 t := by
  unfold OnTheEve localDay
  omega

/-- **When the checks agree.** Under an accepted configuration they do exactly where the setting of
the time zone is neither blank nor padded, it is not the eve of the birthday in UTC while it is
the birthday in the legal time zone, and no year before the common era is taken for one of it. -/
theorem adulthood_agrees_iff
    (hnames : ∀ name offset, offset? name = some offset → trim name = name ∧ name ≠ [])
    {offset : ℤ} (hconfig : offset? (legalTimeZone setting) = some offset) (birth : BirthDate)
    (t : ℤ) : Agrees offset? setting offset birth t ↔
      Plain setting ∧ ¬ OnTheEve offset birth t ∧ ¬ Misdated offset birth t := by
  rw [onTheEve_iff]
  constructor
  · intro h
    have hplain : Plain setting := by
      rintro value rfl
      cases hzone : offset? value with
      | some offset' => exact hnames value offset' hzone
      | none =>
        have hverdict := h.verdict
        rw [isAdult_eq, Option.getD_some, hzone] at hverdict
        cases hverdict
    have hzone := hconfig
    rw [← getD_eq_of_plain hplain] at hzone
    refine ⟨hplain, ?_, ?_⟩
    · rintro ⟨hbirthday, heve⟩
      have hadult := h.verdict
      rw [decide_eq_true hbirthday] at hadult
      exact heve ((adultDeclarationCheck_iff (by omega)).mp
        (h.accepted hadult t (le_refl t) t (by omega)))
    · rintro ⟨hyear, hbefore⟩
      have hverdict := h.verdict
      rw [isAdult_eq, hzone, Option.map_some, yearOfEra, if_pos hyear, decide_eq_true hbefore,
        Option.some.injEq, eq_comm, decide_eq_true_eq, ← later_before_civil] at hverdict
      exact not_later_before hyear hverdict
  · rintro ⟨hplain, heve, hera⟩
    have hzone := hconfig
    rw [← getD_eq_of_plain hplain] at hzone
    rcases lt_or_ge 0 (civil (localDay offset t)).year with hyear | hyear
    · have hverdict : isAdult offset? setting birth.text t =
          some (decide (birth.eighteenth.number ≤ localDay offset t)) :=
        isAdult_of_year hzone (by omega)
      have hbirthday : isAdult offset? setting birth.text t = some true →
          birth.eighteenth.number ≤ localDay offset t := by
        intro hadult
        rw [hverdict] at hadult
        exact of_decide_eq_true (Option.some.inj hadult)
      refine ⟨hverdict, fun hadult t' ht' => ?_, fun hadult declared hlater created hcreated => ?_⟩
      · have hmono : localDay offset t ≤ localDay offset t' := localDay_mono ht'
        have hyears : (civil (localDay offset t)).year ≤ (civil (localDay offset t')).year :=
          yearOf_mono hmono
        rw [isAdult_of_year hzone (by omega), decide_eq_true ((hbirthday hadult).trans hmono)]
      · rw [adultDeclarationCheck_iff hcreated]
        have hcome : birth.eighteenth.number ≤ localDay 0 t :=
          not_not.mp fun hnot => heve ⟨hbirthday hadult, hnot⟩
        exact hcome.trans (localDay_mono hlater)
    · -- Before the common era nobody has had the birthday, and nobody is found to.
      have hverdict : isAdult offset? setting birth.text t = some false := by
        rw [isAdult_eq, hzone, Option.map_some, yearOfEra, if_pos hyear,
          decide_eq_false fun hbefore => hera ⟨hyear, hbefore⟩]
      have hnot : ¬ birth.eighteenth.number ≤ localDay offset t := by
        rw [← later_before_civil]
        exact not_later_before hyear
      refine ⟨by rw [hverdict, decide_eq_false hnot], fun hadult => ?_, fun hadult => ?_⟩
      · rw [hverdict] at hadult
        cases hadult
      · rw [hverdict] at hadult
        cases hadult

/-- West of UTC, and in it, no time is on the eve. -/
theorem not_onTheEve {offset : ℤ} (h : offset ≤ 0) (birth : BirthDate) (t : ℤ) :
    ¬ OnTheEve offset birth t := by
  unfold OnTheEve
  omega

/-! ## Time zones -/

namespace Sample

/-- Two time zones by their names. -/
def zones (name : JsString) : Option ℤ :=
  if name = defaultTimeZone then some (-180) else if name = js "Asia/Tokyo" then some 540 else none

theorem zones_names (name : JsString) (offset : ℤ) (h : zones name = some offset) :
    trim name = name ∧ name ≠ [] := by
  rw [zones] at h
  split_ifs at h with hdefault htokyo
  · rw [hdefault]
    decide
  · rw [htokyo]
    decide

/-- Born on 15 June 2000. -/
def june : BirthDate where
  year := 2000
  month := 6
  day := 15
  valid := by decide
  fourDigits := by decide

/-- 14 June 2018, at eight in the evening in UTC. -/
def eve : ℤ := 1529006400000

/-- **East of UTC the database rejects whom `isAdult` admits**; and with a blank setting, which the
configuration accepts, `isAdult` throws. -/
theorem adulthood_disagrees :
    (zones (legalTimeZone (some (js "Asia/Tokyo"))) = some 540 ∧
      isAdult zones (some (js "Asia/Tokyo")) june.text eve = some true ∧
      adultDeclarationCheck june.number eve eve = false ∧
      ¬ Agrees zones (some (js "Asia/Tokyo")) 540 june eve) ∧
    zones (legalTimeZone (some [])) = some (-180) ∧
      isAdult zones (some []) june.text eve = none := by
  have hadult : isAdult zones (some (js "Asia/Tokyo")) june.text eve = some true := by
    decide +kernel
  have hrejected : adultDeclarationCheck june.number eve eve = false := by decide +kernel
  refine ⟨⟨by decide, hadult, hrejected, fun hagrees => ?_⟩, by decide, by decide⟩
  have haccepted := hagrees.accepted hadult eve (le_refl eve) eve (by decide)
  rw [hrejected] at haccepted
  cases haccepted

/-- In the time zone of the default the checks agree at that time. -/
theorem adulthood_agrees_default : Agrees zones none (-180) june eve :=
  (@adulthood_agrees_iff zones none zones_names (-180) (by decide) june eve).mpr
    ⟨nofun, not_onTheEve (by decide) june eve, fun h => absurd h.1 (by decide +kernel)⟩

end Sample

end Adulthood

end SinoChat
