import SinoChat.Common.Canonical
import SinoChat.Common.JsonText

/-!
# What is written is read back

`JSON.parse` reads what `JSON.stringify` writes, as text
(`readText_stringify`) and through its UTF-8 bytes
(`decodeUtf8_stringify`). Numbers are integers of safe range here (`Safe`);
the other ones are read by rounding, which is not described.

A value is read where its text ends, so the induction carries what follows
it, and the fuel it needs is twice the length of the text.
-/

namespace Js

/-! ## Strings -/

theorem hexDigit?_hexDigit {d : ℕ} (h : d < 16) : hexDigit? (hexDigit d) = some d := by
  have all : ∀ d : Fin 16, hexDigit? (hexDigit d) = some d.val := by decide
  exact all ⟨d, h⟩

/-- An escape of any unit reads as that unit. -/
theorem readUnit_hexEscape (u : UInt16) (rest : JsString) :
    readUnit (hexEscape u ++ rest) = some (u, rest) := by
  have hu : u.toNat < 65536 := u.toNat_lt
  have hvalue : 4096 * (u.toNat / 4096) + 256 * (u.toNat / 256 % 16) +
      16 * (u.toNat / 16 % 16) + u.toNat % 16 = u.toNat := by omega
  have hback : u.toNat.toUInt16 = u := UInt16.ofNat_toNat
  have hunit : hexUnit? (hexDigit (u.toNat / 4096)) (hexDigit (u.toNat / 256 % 16))
      (hexDigit (u.toNat / 16 % 16)) (hexDigit (u.toNat % 16)) = some u := by
    rw [hexUnit?, hexDigit?_hexDigit (by omega), hexDigit?_hexDigit (by omega),
      hexDigit?_hexDigit (by omega), hexDigit?_hexDigit (by omega)]
    simp only [Option.bind_some, Option.map_some, hvalue, hback]
  simp only [hexEscape, List.cons_append, List.nil_append, readUnit, if_true, hunit,
    Option.map_some]

/-- A short escape, whatever follows it. -/
theorem readUnit_letter {e u : UInt16} (h : escapeLetter? e = some u) (hu : e ≠ 0x75)
    (rest : JsString) : readUnit (0x5C :: e :: rest) = some (u, rest) := by
  rcases rest with _ | ⟨a, _ | ⟨b, _ | ⟨c, _ | ⟨d, rest⟩⟩⟩⟩ <;> simp [readUnit, h, hu]

/-- A unit that needs no escape reads as itself. -/
theorem readUnit_cons {u : UInt16} (hslash : u ≠ 0x5C) (hcontrol : ¬ u < 0x20)
    (rest : JsString) : readUnit (u :: rest) = some (u, rest) := by
  simp only [readUnit, if_neg hslash, if_neg hcontrol]

theorem readUnit_escapeUnit (u : UInt16) (rest : JsString) :
    readUnit (escapeUnit u ++ rest) = some (u, rest) := by
  unfold escapeUnit
  split_ifs with h₁ h₂ h₃ h₄ h₅ h₆ h₇ h₈
  · subst u; exact readUnit_letter rfl (by decide) rest
  · subst u; exact readUnit_letter rfl (by decide) rest
  · subst u; exact readUnit_letter rfl (by decide) rest
  · subst u; exact readUnit_letter rfl (by decide) rest
  · subst u; exact readUnit_letter rfl (by decide) rest
  · subst u; exact readUnit_letter rfl (by decide) rest
  · subst u; exact readUnit_letter rfl (by decide) rest
  · exact readUnit_hexEscape u rest
  · simp only [Bool.or_eq_true, decide_eq_true_eq, not_or] at h₈
    exact readUnit_cons h₂ h₈.1.1 rest

/-- What a unit is written as does not close the string. -/
theorem escapeUnit_cons (u : UInt16) : ∃ v vs, escapeUnit u = v :: vs ∧ v ≠ 0x22 := by
  unfold escapeUnit
  split_ifs with h₁ h₂ h₃ h₄ h₅ h₆ h₇ h₈
  · exact ⟨_, _, rfl, by decide⟩
  · exact ⟨_, _, rfl, by decide⟩
  · exact ⟨_, _, rfl, by decide⟩
  · exact ⟨_, _, rfl, by decide⟩
  · exact ⟨_, _, rfl, by decide⟩
  · exact ⟨_, _, rfl, by decide⟩
  · exact ⟨_, _, rfl, by decide⟩
  · exact ⟨_, _, rfl, by decide⟩
  · exact ⟨_, _, rfl, h₁⟩

theorem readUnits_step {fuel : ℕ} {u v : UInt16} {vs rest : JsString} (hv : v ≠ 0x22)
    (h : readUnit (v :: vs) = some (u, rest)) :
    readUnits (fuel + 1) (v :: vs) = (readUnits fuel rest).map fun q => (u :: q.1, q.2) := by
  rw [readUnits, if_neg hv, h]
  rfl

theorem readUnits_escapeUnit (fuel : ℕ) (u : UInt16) (rest : JsString) :
    readUnits (fuel + 1) (escapeUnit u ++ rest) =
      (readUnits fuel rest).map fun q => (u :: q.1, q.2) := by
  have hread := readUnit_escapeUnit u rest
  obtain ⟨v, vs, hescape, hv⟩ := escapeUnit_cons u
  rw [hescape] at hread ⊢
  exact readUnits_step hv hread

/-- A surrogate is above the controls, the quote and the backslash. -/
theorem surrogate_bounds {u : UInt16} (h : isHighSurrogate u = true ∨ isLowSurrogate u = true) :
    0xD800 ≤ u.toNat := by
  rcases h with h | h
  · exact (isHighSurrogate_iff.mp h).1
  · have hlow := (isLowSurrogate_iff.mp h).1
    omega

theorem readUnits_surrogate {u : UInt16} (fuel : ℕ)
    (h : isHighSurrogate u = true ∨ isLowSurrogate u = true) (rest : JsString) :
    readUnits (fuel + 1) (u :: rest) = (readUnits fuel rest).map fun q => (u :: q.1, q.2) := by
  have hu := surrogate_bounds h
  have hne : ∀ v : UInt16, v.toNat < 0xD800 → u ≠ v := by
    rintro v hv rfl
    omega
  refine readUnits_step (hne _ (by decide)) (readUnit_cons (hne _ (by decide)) ?_ rest)
  rw [UInt16.lt_iff_toNat_lt]
  have hspace : (0x20 : UInt16).toNat = 0x20 := rfl
  omega

/-- The body of a string is read back up to its closing quote. -/
theorem readUnits_escape (s rest : JsString) {fuel : ℕ} (h : s.length < fuel) :
    readUnits fuel (escape s ++ 0x22 :: rest) = some (s, rest) := by
  induction s using escape.induct generalizing fuel with
  | case1 =>
    obtain ⟨fuel, rfl⟩ : ∃ n, fuel = n + 1 := ⟨fuel - 1, by simp at h; omega⟩
    rfl
  | case2 u =>
    obtain ⟨fuel, rfl⟩ : ∃ n, fuel = n + 2 := ⟨fuel - 2, by simp at h; omega⟩
    rw [escape, readUnits_escapeUnit]
    rfl
  | case3 u v s hpair ih =>
    obtain ⟨fuel, rfl⟩ : ∃ n, fuel = n + 2 := ⟨fuel - 2, by simp at h; omega⟩
    simp only [List.length_cons] at h
    rw [escape, if_pos hpair]
    simp only [Bool.and_eq_true] at hpair
    rw [List.cons_append, List.cons_append, readUnits_surrogate _ (.inl hpair.1),
      readUnits_surrogate _ (.inr hpair.2), ih (by omega)]
    rfl
  | case4 u v s hpair ih =>
    obtain ⟨fuel, rfl⟩ : ∃ n, fuel = n + 1 := ⟨fuel - 1, by simp at h; omega⟩
    simp only [List.length_cons] at h
    rw [escape, if_neg hpair, List.append_assoc, readUnits_escapeUnit, ih (by simp; omega)]
    rfl

theorem length_le_escape (s : JsString) : s.length ≤ (escape s).length := by
  have hunit : ∀ u, 1 ≤ (escapeUnit u).length := by
    intro u
    obtain ⟨v, vs, hescape, -⟩ := escapeUnit_cons u
    simp [hescape]
  induction s using escape.induct with
  | case1 => simp
  | case2 u => exact hunit u
  | case3 u v s hpair ih =>
    rw [escape, if_pos hpair]
    simp only [List.length_cons]
    omega
  | case4 u v s hpair ih =>
    have hu := hunit u
    rw [escape, if_neg hpair, List.length_append]
    simp only [List.length_cons] at ih ⊢
    omega

/-- **A string is read back**, whatever follows it. -/
theorem readString_escape (s rest : JsString) :
    readString (escape s ++ 0x22 :: rest) = some (s, rest) := by
  have hlength := length_le_escape s
  refine readUnits_escape s rest ?_
  simp only [List.length_append, List.length_cons]
  omega

/-! ## Numbers -/

theorem digitsValue_decimal (n : ℕ) : digitsValue (decimal n) = n := by
  rw [digitsValue, map_digitChar_decimal, Nat.ofDigitChars_ten_toDigits]

/-- No number but zero starts with a zero. -/
theorem head_decimal (n : ℕ) : (decimal n).head? = some 0x30 → (decimal n).length = 1 := by
  induction n using Nat.strongRecOn with
  | ind n ih =>
    rcases Nat.lt_or_ge n 10 with hn | hn
    · simp [decimal, Nat.toDigits_of_lt_base hn]
    · have hsplit : decimal n = decimal (n / 10) ++ decimal (n % 10) := by
        rw [decimal, Nat.toDigits_of_base_le (by decide) hn, decimal, decimal,
          Nat.toDigits_of_lt_base (Nat.mod_lt n (by decide)), List.map_append]
      have hzero : ∀ m : ℕ, m ≠ 0 → m < 10 → (decimal m).head? ≠ some 0x30 := by
        intro m hm hlt
        have all : ∀ d : Fin 10, d.val ≠ 0 → (decimal d.val).head? ≠ some 0x30 := by decide
        exact all ⟨m, hlt⟩ hm
      intro hhead
      have hne := decimal_ne_nil (n / 10)
      have hfirst : (decimal (n / 10)).head? = some 0x30 := by
        rw [hsplit, List.head?_append_of_ne_nil _ hne] at hhead
        exact hhead
      -- a one-digit quotient is not zero, and a longer one starts with no zero
      rcases Nat.lt_or_ge (n / 10) 10 with hsmall | hlarge
      · exact absurd hfirst (hzero _ (by omega) hsmall)
      · have hone := ih (n / 10) (by omega) hfirst
        have hlong := (Nat.length_toDigits_le_iff (b := 10) (n := n / 10) (by decide)
          (k := 1) (by decide)).mp (by simpa [decimal] using hone.le)
        omega

theorem readDigits_decimal {n : ℕ} {rest : JsString} (h : NoDigitHead rest) :
    readDigits (decimal n ++ rest) = some (decimal n, rest) := by
  have hdrop : (decimal n ++ rest).dropWhile isDigit = rest := by
    rw [List.dropWhile_append_of_pos fun u hu => isDigit_of_mem_decimal hu]
    cases rest with
    | nil => rfl
    | cons u us => simp [h u rfl]
  rw [readDigits, takeWhile_decimal_append h, if_neg (decimal_ne_nil n), hdrop]

theorem readFraction_of_delimited {rest : JsString} (h : Delimited rest) :
    readFraction rest = some ([], rest) := by
  cases rest with
  | nil => rfl
  | cons u us => rcases delimited_cons.mp h with rfl | rfl | rfl <;> rfl

theorem readExponent_of_delimited {rest : JsString} (h : Delimited rest) :
    readExponent rest = some ([], rest) := by
  cases rest with
  | nil => rfl
  | cons u us => rcases delimited_cons.mp h with rfl | rfl | rfl <;> rfl

theorem readMagnitude_decimal (round : JsString → JsNumber) (negative : Bool) {n : ℕ}
    {rest : JsString} (hsafe : n ≤ 2 ^ 53 - 1) (h : Delimited rest) :
    readMagnitude round negative (decimal n ++ rest) = some (integerOf negative n, rest) := by
  have hhead : ¬ ((decimal n).head? = some 0x30 ∧ 1 < (decimal n).length) := by
    rintro ⟨hzero, hlong⟩
    have hone := head_decimal n hzero
    omega
  rw [readMagnitude, readDigits_decimal h.noDigitHead, Option.bind_some, if_neg hhead,
    readFraction_of_delimited h, Option.bind_some, readExponent_of_delimited h, Option.map_some,
    if_pos ⟨rfl, rfl, by rwa [digitsValue_decimal]⟩, digitsValue_decimal]

/-- **An integer of safe range is read back**, where no number goes on. -/
theorem readNumber_decimalInt (round : JsString → JsNumber) {n : ℤ} {rest : JsString}
    (hsafe : n.natAbs ≤ 2 ^ 53 - 1) (h : Delimited rest) :
    readNumber round (decimalInt n ++ rest) = some (.integer n, rest) := by
  unfold decimalInt
  split_ifs with hn
  · have hne : n.natAbs ≠ 0 := by omega
    have hback : -(n.natAbs : ℤ) = n := by omega
    rw [List.append_assoc]
    change readMagnitude round true (decimal n.natAbs ++ rest) = _
    rw [readMagnitude_decimal round true hsafe h, integerOf, if_pos rfl, if_neg hne, hback]
  · have hback : (n.natAbs : ℤ) = n := by omega
    obtain ⟨u, us, hu⟩ := List.exists_cons_of_ne_nil (decimal_ne_nil n.natAbs)
    have hdigit : isDigit u = true := isDigit_of_mem_decimal (n := n.natAbs) (by simp [hu])
    have hsign : u ≠ 0x2D := by
      rintro rfl
      revert hdigit
      decide
    have hread := readMagnitude_decimal round false hsafe h
    rw [hu, List.cons_append] at hread ⊢
    rw [readNumber, if_neg hsign, hread, integerOf, if_neg Bool.false_ne_true, hback]

/-! ## Values -/

mutual

/-- Every number is an integer of safe range, the negative zero excluded. -/
def Json.Safe : Json → Prop
  | .num (.integer n) => n.natAbs ≤ 2 ^ 53 - 1
  | .num _ => False
  | .arr items => SafeItems items
  | .obj entries => SafeEntries entries
  | _ => True

/-- The same for the items of a list. -/
def SafeItems : List Json → Prop
  | [] => True
  | item :: rest => item.Safe ∧ SafeItems rest

/-- The same for the members of an object. -/
def SafeEntries : List (JsString × Json) → Prop
  | [] => True
  | (_, value) :: rest => value.Safe ∧ SafeEntries rest

end

theorem skipSpace_cons {u : UInt16} (h : isJsonSpace u = false) (rest : JsString) :
    skipSpace (u :: rest) = u :: rest := by
  simp [skipSpace, h]

theorem toText_integer {n : ℤ} (h : n.natAbs ≤ 2 ^ 53 - 1) :
    (JsNumber.integer n).toText = decimalInt n := by
  rw [JsNumber.toText, if_pos (by omega)]

/-- A digit or a minus sign opens a number, no other value and no space. -/
theorem decimalInt_cons (n : ℤ) : ∃ u us, decimalInt n = u :: us ∧
    (isDigit u || decide (u = 0x2D)) = true := by
  unfold decimalInt
  split_ifs with hn
  · exact ⟨_, _, rfl, rfl⟩
  · obtain ⟨u, us, hu⟩ := List.exists_cons_of_ne_nil (decimal_ne_nil n.natAbs)
    have hdigit : isDigit u = true := isDigit_of_mem_decimal (n := n.natAbs) (by simp [hu])
    exact ⟨u, us, hu, by simp [hdigit]⟩

/-- The bounds of what opens a number. -/
theorem number_bounds {u : UInt16} (h : (isDigit u || decide (u = 0x2D)) = true) :
    0x2D ≤ u.toNat ∧ u.toNat ≤ 0x39 := by
  rw [Bool.or_eq_true, decide_eq_true_eq] at h
  rcases h with h | rfl
  · unfold isDigit at h
    rw [Bool.and_eq_true, decide_eq_true_eq, decide_eq_true_eq, UInt16.le_iff_toNat_le,
      UInt16.le_iff_toNat_le] at h
    have hlower : (0x30 : UInt16).toNat = 0x30 := rfl
    have hupper : (0x39 : UInt16).toNat = 0x39 := rfl
    omega
  · decide

theorem not_isJsonSpace_of_lt {u : UInt16} (h : 0x20 < u.toNat) : isJsonSpace u = false := by
  have hne : ∀ v : UInt16, v.toNat ≤ 0x20 → (u == v) = false := by
    intro v hv
    rw [beq_eq_false_iff_ne]
    rintro rfl
    omega
  simp [isJsonSpace, hne 0x20 (by decide), hne 0x09 (by decide), hne 0x0A (by decide),
    hne 0x0D (by decide)]

/-- No value starts with a space or a closing bracket. -/
theorem stringify_cons {j : Json} (h : j.Safe) :
    ∃ u us, stringify j = u :: us ∧ isJsonSpace u = false ∧ u ≠ 0x5D := by
  rcases j with _ | (_ | _) | (n | _ | _) | s | items | entries
  · exact ⟨_, _, rfl, by decide, by decide⟩
  · exact ⟨_, _, rfl, by decide, by decide⟩
  · exact ⟨_, _, rfl, by decide, by decide⟩
  · obtain ⟨u, us, hu, hnumber⟩ := decimalInt_cons n
    have hbounds := number_bounds hnumber
    refine ⟨u, us, (toText_integer h).trans hu, not_isJsonSpace_of_lt (by omega), ?_⟩
    rintro rfl
    exact absurd hbounds.2 (by decide)
  · exact h.elim
  · exact h.elim
  · exact ⟨_, _, rfl, by decide, by decide⟩
  · exact ⟨_, _, rfl, by decide, by decide⟩
  · exact ⟨_, _, rfl, by decide, by decide⟩

variable {round : JsString → JsNumber}

theorem readKey_quote (key rest : JsString) :
    readKey (quote key ++ 0x3A :: rest) = some (key, rest) := by
  have hread := readString_escape key (0x3A :: rest)
  rw [quote, List.cons_append, List.append_assoc, readKey, skipSpace_cons (by decide)]
  dsimp only
  rw [if_pos rfl, List.singleton_append, hread, Option.bind_some]
  dsimp only
  rw [skipSpace_cons (by decide)]
  rfl

theorem readValue_str (fuel : ℕ) (s rest : JsString) :
    readValue round (fuel + 1) (quote s ++ rest) = some (.str s, rest) := by
  rw [quote, List.cons_append, List.append_assoc, readValue, skipSpace_cons (by decide)]
  dsimp only
  rw [if_pos rfl, List.singleton_append, readString_escape]
  rfl

theorem readValue_num {n : ℤ} (fuel : ℕ) {rest : JsString} (hsafe : n.natAbs ≤ 2 ^ 53 - 1)
    (h : Delimited rest) :
    readValue round (fuel + 1) (decimalInt n ++ rest) = some (.num (.integer n), rest) := by
  have hread := readNumber_decimalInt round hsafe h
  obtain ⟨u, us, hu, hnumber⟩ := decimalInt_cons n
  have hbounds := number_bounds hnumber
  have hne : ∀ v : UInt16, 0x39 < v.toNat ∨ v.toNat < 0x2D → u ≠ v := by
    rintro v hv rfl
    omega
  rw [hu, List.cons_append] at hread ⊢
  rw [readValue, skipSpace_cons (not_isJsonSpace_of_lt (by omega))]
  dsimp only
  rw [if_neg (hne _ (by decide)), if_neg (hne _ (by decide)), if_neg (hne _ (by decide)),
    if_pos hnumber, hread]
  rfl

/-- An array with an item, read behind its bracket. -/
theorem readValue_arr {fuel : ℕ} {text rest : JsString} {items : List Json}
    (hlead : ∃ u us, text = u :: us ∧ isJsonSpace u = false ∧ u ≠ 0x5D)
    (h : readItems round fuel text = some (items, rest)) :
    readValue round (fuel + 1) (0x5B :: text) = some (.arr items, rest) := by
  obtain ⟨u, us, rfl, hspace, hu⟩ := hlead
  rw [readValue, skipSpace_cons (by decide)]
  dsimp only
  rw [if_neg (by decide), if_pos rfl, skipSpace_cons hspace]
  dsimp only
  rw [if_neg hu, h]
  rfl

/-- An object with a member, read behind its brace. -/
theorem readValue_obj {fuel : ℕ} {text rest : JsString} {entries : List (JsString × Json)}
    (hlead : ∃ us, text = 0x22 :: us)
    (h : readMembers round fuel text = some (entries, rest)) :
    readValue round (fuel + 1) (0x7B :: text) = some (.obj entries, rest) := by
  obtain ⟨us, rfl⟩ := hlead
  rw [readValue, skipSpace_cons (by decide)]
  dsimp only
  rw [if_neg (by decide), if_neg (by decide), if_pos rfl, skipSpace_cons (by decide)]
  dsimp only
  rw [if_neg (by decide), h]
  rfl

/-- The last item of an array, or one with another behind it. -/
theorem readItems_step {fuel : ℕ} {text rest : JsString} {item : Json}
    (h : readValue round fuel text = some (item, rest)) :
    (∀ tail, rest = 0x5D :: tail →
      readItems round (fuel + 1) text = some ([item], tail)) ∧
    ∀ tail, rest = 0x2C :: tail → readItems round (fuel + 1) text =
      (readItems round fuel tail).map fun p => (item :: p.1, p.2) := by
  constructor <;> rintro tail rfl
  · rw [readItems, h, Option.bind_some]
    dsimp only
    rw [skipSpace_cons (by decide)]
    rfl
  · rw [readItems, h, Option.bind_some]
    dsimp only
    rw [skipSpace_cons (by decide)]
    rfl

theorem readMembers_step {fuel : ℕ} {key text rest : JsString} {value : Json}
    (h : readValue round fuel text = some (value, rest)) :
    (∀ tail, rest = 0x7D :: tail →
      readMembers round (fuel + 1) (quote key ++ 0x3A :: text) = some ([(key, value)], tail)) ∧
    ∀ tail, rest = 0x2C :: tail → readMembers round (fuel + 1) (quote key ++ 0x3A :: text) =
      (readMembers round fuel tail).map fun p => ((key, value) :: p.1, p.2) := by
  constructor <;> rintro tail rfl
  · rw [readMembers, readKey_quote, Option.bind_some, h, Option.bind_some]
    dsimp only
    rw [skipSpace_cons (by decide)]
    rfl
  · rw [readMembers, readKey_quote, Option.bind_some, h, Option.bind_some]
    dsimp only
    rw [skipSpace_cons (by decide)]
    rfl

theorem stringify_arr (items : List Json) :
    stringify (.arr items) = 0x5B :: (joinComma (stringifyItems items) ++ [0x5D]) := by
  simp [stringify, js, unitsOfChar]

theorem stringify_obj (entries : List (JsString × Json)) :
    stringify (.obj entries) = 0x7B :: (joinComma (stringifyEntries entries) ++ [0x7D]) := by
  simp [stringify, js, unitsOfChar]

mutual

/-- **What is written is read back**, where the text of the value ends. -/
theorem readValue_stringify : ∀ (j : Json) (fuel : ℕ) (rest : JsString), j.Safe →
    Delimited rest → 2 * (stringify j).length ≤ fuel →
    readValue round fuel (stringify j ++ rest) = some (j, rest)
  | j, 0, rest, hsafe, _, hfuel => by
    obtain ⟨u, us, hu, -⟩ := stringify_cons hsafe
    rw [hu, List.length_cons] at hfuel
    omega
  | .null, fuel + 1, rest, _, _, _ => rfl
  | .bool true, fuel + 1, rest, _, _, _ => rfl
  | .bool false, fuel + 1, rest, _, _, _ => rfl
  | .num (.integer n), fuel + 1, rest, hsafe, hrest, _ => by
    rw [stringify, toText_integer hsafe, readValue_num fuel hsafe hrest]
  | .num .negativeZero, _ + 1, _, hsafe, _, _ => hsafe.elim
  | .num (.fraction ..), _ + 1, _, hsafe, _, _ => hsafe.elim
  | .str s, fuel + 1, rest, _, _, _ => readValue_str fuel s rest
  | .arr [], fuel + 1, rest, _, _, _ => rfl
  | .arr (item :: items), fuel + 1, rest, hsafe, _, hfuel => by
    obtain ⟨u, us, hu, hlead⟩ := stringify_cons hsafe.1
    rw [stringify_arr, List.length_cons, List.length_append, List.length_singleton] at hfuel
    have hitems := readItems_stringify item items fuel rest hsafe
      (by omega)
    rw [stringify_arr, List.cons_append, List.append_assoc, List.singleton_append]
    refine readValue_arr ?_ hitems
    rw [stringifyItems, joinComma_cons, hu]
    exact ⟨u, _, rfl, hlead⟩
  | .obj [], fuel + 1, rest, _, _, _ => rfl
  | .obj ((key, value) :: entries), fuel + 1, rest, hsafe, _, hfuel => by
    rw [stringify_obj, List.length_cons, List.length_append, List.length_singleton] at hfuel
    have hmembers := readMembers_stringify key value entries fuel rest hsafe
      (by omega)
    rw [stringify_obj, List.cons_append, List.append_assoc, List.singleton_append]
    refine readValue_obj ?_ hmembers
    exact ⟨_, rfl⟩

/-- The items of an array, up to its closing bracket. -/
theorem readItems_stringify : ∀ (item : Json) (items : List Json) (fuel : ℕ) (rest : JsString),
    SafeItems (item :: items) →
    2 * (joinComma (stringifyItems (item :: items))).length < fuel →
    readItems round fuel (joinComma (stringifyItems (item :: items)) ++ 0x5D :: rest) =
      some (item :: items, rest)
  | _, _, 0, _, _, hfuel => by omega
  | item, [], fuel + 1, rest, hsafe, hfuel => by
    have hitem := readValue_stringify item fuel (0x5D :: rest) hsafe.1
      (by simp) (by simp [stringifyItems] at hfuel; omega)
    have hrow : joinComma (stringifyItems [item]) ++ 0x5D :: rest =
        stringify item ++ 0x5D :: rest := by
      simp [stringifyItems]
    rw [hrow]
    exact (readItems_step hitem).1 rest rfl
  | item, next :: items, fuel + 1, rest, hsafe, hfuel => by
    have hrow : joinComma (stringifyItems (item :: next :: items)) ++ 0x5D :: rest =
        stringify item ++
          0x2C :: (joinComma (stringifyItems (next :: items)) ++ 0x5D :: rest) := by
      simp [stringifyItems]
    simp only [stringifyItems, joinComma_cons, commaTail_cons, List.length_append,
      List.length_cons] at hfuel
    have hitem := readValue_stringify item fuel
      (0x2C :: (joinComma (stringifyItems (next :: items)) ++ 0x5D :: rest)) hsafe.1
      (by simp) (by omega)
    have hitems := readItems_stringify next items fuel rest hsafe.2 (by
      simp only [stringifyItems, joinComma_cons, List.length_append]
      omega)
    rw [hrow, (readItems_step hitem).2 _ rfl, hitems]
    rfl

/-- The members of an object, up to its closing brace. -/
theorem readMembers_stringify : ∀ (key : JsString) (value : Json)
    (entries : List (JsString × Json)) (fuel : ℕ) (rest : JsString),
    SafeEntries ((key, value) :: entries) →
    2 * (joinComma (stringifyEntries ((key, value) :: entries))).length < fuel →
    readMembers round fuel
      (joinComma (stringifyEntries ((key, value) :: entries)) ++ 0x7D :: rest) =
      some ((key, value) :: entries, rest)
  | _, _, _, 0, _, _, hfuel => by omega
  | key, value, [], fuel + 1, rest, hsafe, hfuel => by
    simp only [stringifyEntries, joinComma_cons, List.length_append] at hfuel
    have hvalue := readValue_stringify value fuel (0x7D :: rest) hsafe.1
      (by simp) (by omega)
    have hrow : joinComma (stringifyEntries [(key, value)]) ++ 0x7D :: rest =
        quote key ++ 0x3A :: (stringify value ++ 0x7D :: rest) := by
      simp [stringifyEntries, js, unitsOfChar]
    rw [hrow]
    exact (readMembers_step hvalue).1 rest rfl
  | key, value, (key', value') :: entries, fuel + 1, rest, hsafe, hfuel => by
    have hrow : joinComma (stringifyEntries ((key, value) :: (key', value') :: entries)) ++
        0x7D :: rest = quote key ++ 0x3A :: (stringify value ++ 0x2C ::
          (joinComma (stringifyEntries ((key', value') :: entries)) ++ 0x7D :: rest)) := by
      simp [stringifyEntries, js, unitsOfChar]
    simp only [stringifyEntries, joinComma_cons, commaTail_cons, List.length_append,
      List.length_cons] at hfuel
    have hvalue := readValue_stringify value fuel (0x2C ::
      (joinComma (stringifyEntries ((key', value') :: entries)) ++ 0x7D :: rest)) hsafe.1
      (by simp) (by omega)
    have hmembers := readMembers_stringify key' value' entries fuel rest
      hsafe.2 (by
        simp only [stringifyEntries, joinComma_cons, List.length_append]
        omega)
    rw [hrow, (readMembers_step hvalue).2 _ rfl, hmembers]
    rfl

end

/-- **A whole text is read back.** -/
theorem readText_stringify {j : Json} (h : j.Safe) : readText round (stringify j) = some j := by
  have hread : readValue round _ (stringify j ++ []) = _ :=
    readValue_stringify j _ [] h (by simp) (Nat.le_refl _)
  rw [List.append_nil] at hread
  rw [readText, hread]
  rfl

/-! ## Bytes -/

/-- A text of known units, none of them a surrogate. -/
theorem wellFormed_of_all {s : JsString}
    (h : (s.all fun u => !isHighSurrogate u && !isLowSurrogate u) = true) : WellFormed s := by
  refine wellFormed_of_forall fun u hu => ?_
  have hu' := List.all_eq_true.mp h u hu
  rwa [Bool.and_eq_true, Bool.not_eq_true', Bool.not_eq_true'] at hu'

theorem wellFormed_hexEscape (u : UInt16) : WellFormed (hexEscape u) := by
  have hdigit : ∀ d : Fin 16, isHighSurrogate (hexDigit d) = false ∧
      isLowSurrogate (hexDigit d) = false := by decide
  refine wellFormed_of_forall fun v hv => ?_
  have hu : u.toNat < 65536 := u.toNat_lt
  simp only [hexEscape, List.mem_cons, List.not_mem_nil, or_false] at hv
  rcases hv with rfl | rfl | rfl | rfl | rfl | rfl
  · decide
  · decide
  · exact hdigit ⟨u.toNat / 4096, by omega⟩
  · exact hdigit ⟨u.toNat / 256 % 16, by omega⟩
  · exact hdigit ⟨u.toNat / 16 % 16, by omega⟩
  · exact hdigit ⟨u.toNat % 16, by omega⟩

theorem wellFormed_escapeUnit (u : UInt16) : WellFormed (escapeUnit u) := by
  unfold escapeUnit
  split_ifs with h₁ h₂ h₃ h₄ h₅ h₆ h₇ h₈
  · exact wellFormed_of_all rfl
  · exact wellFormed_of_all rfl
  · exact wellFormed_of_all rfl
  · exact wellFormed_of_all rfl
  · exact wellFormed_of_all rfl
  · exact wellFormed_of_all rfl
  · exact wellFormed_of_all rfl
  · exact wellFormed_hexEscape u
  · simp only [Bool.or_eq_true, decide_eq_true_eq, not_or, Bool.not_eq_true] at h₈
    exact .unit h₈.1.2 h₈.2 .nil

/-- A string is written without lone surrogates. -/
theorem wellFormed_escape (s : JsString) : WellFormed (escape s) := by
  induction s using escape.induct with
  | case1 => exact .nil
  | case2 u => exact wellFormed_escapeUnit u
  | case3 u v s hpair ih =>
    rw [escape, if_pos hpair]
    simp only [Bool.and_eq_true] at hpair
    exact .pair hpair.1 hpair.2 ih
  | case4 u v s hpair ih =>
    rw [escape, if_neg hpair]
    exact (wellFormed_escapeUnit u).append ih

theorem wellFormed_quote (s : JsString) : WellFormed (quote s) :=
  .unit rfl rfl ((wellFormed_escape s).append (wellFormed_of_all rfl))

theorem wellFormed_decimalInt (n : ℤ) : WellFormed (decimalInt n) := by
  have hdecimal : ∀ n : ℕ, WellFormed (decimal n) := by
    refine fun n => wellFormed_of_forall fun u hu => ?_
    have hbounds := number_bounds (u := u) (by rw [isDigit_of_mem_decimal hu]; rfl)
    constructor
    · rw [Bool.eq_false_iff, ne_eq, isHighSurrogate_iff]
      omega
    · rw [Bool.eq_false_iff, ne_eq, isLowSurrogate_iff]
      omega
  unfold decimalInt
  split_ifs
  · exact .append (wellFormed_of_all rfl) (hdecimal _)
  · exact hdecimal _

theorem wellFormed_commaTail {texts : List JsString} (h : ∀ t ∈ texts, WellFormed t) :
    WellFormed (commaTail texts) := by
  induction texts with
  | nil => exact .nil
  | cons t ts ih =>
    exact .unit rfl rfl ((h t List.mem_cons_self).append
      (ih fun s hs => h s (List.mem_cons_of_mem _ hs)))

theorem wellFormed_joinComma {texts : List JsString} (h : ∀ t ∈ texts, WellFormed t) :
    WellFormed (joinComma texts) := by
  cases texts with
  | nil => exact .nil
  | cons t ts =>
    exact (h t List.mem_cons_self).append
      (wellFormed_commaTail fun s hs => h s (List.mem_cons_of_mem _ hs))

mutual

theorem wellFormed_stringify : ∀ j : Json, j.Safe → WellFormed (stringify j)
  | .null, _ => wellFormed_of_all rfl
  | .bool true, _ => wellFormed_of_all rfl
  | .bool false, _ => wellFormed_of_all rfl
  | .num (.integer n), h => by
    rw [stringify, toText_integer h]
    exact wellFormed_decimalInt n
  | .num .negativeZero, h => h.elim
  | .num (.fraction ..), h => h.elim
  | .str s, _ => wellFormed_quote s
  | .arr items, h => by
    rw [stringify_arr]
    exact .unit rfl rfl ((wellFormed_joinComma (wellFormed_stringifyItems items h)).append
      (wellFormed_of_all rfl))
  | .obj entries, h => by
    rw [stringify_obj]
    exact .unit rfl rfl ((wellFormed_joinComma (wellFormed_stringifyEntries entries h)).append
      (wellFormed_of_all rfl))

theorem wellFormed_stringifyItems : ∀ items : List Json, SafeItems items →
    ∀ t ∈ stringifyItems items, WellFormed t
  | [], _ => by simp [stringifyItems]
  | item :: rest, h => by
    rw [stringifyItems, List.forall_mem_cons]
    exact ⟨wellFormed_stringify item h.1, wellFormed_stringifyItems rest h.2⟩

theorem wellFormed_stringifyEntries : ∀ entries : List (JsString × Json), SafeEntries entries →
    ∀ t ∈ stringifyEntries entries, WellFormed t
  | [], _ => by simp [stringifyEntries]
  | (key, value) :: rest, h => by
    rw [stringifyEntries, List.forall_mem_cons]
    exact ⟨((wellFormed_quote key).append (wellFormed_of_all rfl)).append
      (wellFormed_stringify value h.1), wellFormed_stringifyEntries rest h.2⟩

end

/-- **The bytes of a text are read back.** -/
theorem decodeUtf8_stringify {j : Json} (h : j.Safe) :
    decodeUtf8 (utf8 (stringify j)) = some (stringify j) :=
  decodeUtf8_utf8 (wellFormed_stringify j h)

end Js
