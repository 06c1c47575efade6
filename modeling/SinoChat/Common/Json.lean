import SinoChat.Common.JsString
import Mathlib.Data.Int.Notation
import Mathlib.Data.List.DropRight

/-!
# JSON values

The values `JSON.parse` returns and `JSON.stringify` writes. An object is
its list of entries in the order `Object.entries` walks them; a number is
its shortest decimal form, which is what the language prints and what
distinguishes two finite numbers.

`stringify` is `JSON.stringify`. Its string part, `quote`, can be read back whatever
follows it (`quote_append_inj`), which is what makes texts built from it uniquely
readable.
-/

namespace Js

/-! ## Numbers -/

/-- A finite number by its shortest decimal form: an integer, the negative
zero, or `±digits × 10^(-places)` with no digit to spare. -/
inductive JsNumber where
  | integer (n : ℤ)
  | negativeZero
  | fraction (negative : Bool) (digits places : ℕ) (shortest : digits % 10 ≠ 0 ∧ 0 < places)
  deriving DecidableEq

/-- The decimal digits of a natural number. -/
def decimal (n : ℕ) : JsString := (Nat.toDigits 10 n).map fun c => c.toNat.toUInt16

/-- The digits of an integer behind its sign. -/
def decimalInt (n : ℤ) : JsString :=
  if n < 0 then js "-" ++ decimal n.natAbs else decimal n.natAbs

namespace JsNumber

/-- `Number.isSafeInteger`; the negative zero is one. -/
def isSafeInteger : JsNumber → Bool
  | integer n => n.natAbs ≤ 2 ^ 53 - 1
  | negativeZero => true
  | fraction .. => false

/-- The exponential form of a number with these digits and this exponent. -/
def exponential (text : JsString) (exponent : ℤ) : JsString :=
  (if text.length == 1 then text else text.take 1 ++ js "." ++ text.drop 1) ++ js "e" ++
    (if exponent < 0 then js "-" else js "+") ++ decimal exponent.natAbs

/-- `String(n)`: the form depends on where the decimal point falls. -/
def toText : JsNumber → JsString
  | integer n =>
    if n.natAbs < 10 ^ 21 then decimalInt n
    else
      let text := decimal n.natAbs
      (if n < 0 then js "-" else []) ++
        exponential (text.rdropWhile (· == 0x30)) (text.length - 1)
  | negativeZero => js "0"
  | fraction negative digits places _ =>
    let text := decimal digits
    let point : ℤ := text.length - places
    (if negative then js "-" else []) ++
      if 0 < point then text.take point.toNat ++ js "." ++ text.drop point.toNat
      else if -6 < point then js "0." ++ List.replicate (-point).toNat 0x30 ++ text
      else exponential text (point - 1)

end JsNumber

/-! ## Values -/

/-- A JSON value. -/
inductive Json where
  | null
  | bool (value : Bool)
  | num (value : JsNumber)
  | str (value : JsString)
  | arr (items : List Json)
  | obj (entries : List (JsString × Json))

namespace Json

/-- A natural number as a value. -/
def ofNat (n : ℕ) : Json := .num (.integer n)

/-- The value of an own property. -/
def get? (key : JsString) : List (JsString × Json) → Option Json
  | [] => none
  | (k, v) :: rest => if k = key then some v else get? key rest

/-- `Object.hasOwn`. -/
def hasOwn (entries : List (JsString × Json)) (key : JsString) : Bool :=
  (get? key entries).isSome

/-- `Object.keys`. -/
def keys (entries : List (JsString × Json)) : List JsString := entries.map Prod.fst

/-- The `record` and `plainRecord` guards: a value that is an object and not an array. -/
def record? : Json → Option (List (JsString × Json))
  | .obj entries => some entries
  | _ => none

/-- The text of a value that is one. -/
def str? : Json → Option JsString
  | .str s => some s
  | _ => none

/-- The items of a value that is a list. -/
def arr? : Json → Option (List Json)
  | .arr items => some items
  | _ => none

/-- The `exactKeys` guard: as many own keys as expected, and every expected one. -/
def exactKeys (entries : List (JsString × Json)) (expected : List JsString) : Bool :=
  (keys entries).length == expected.length && expected.all (hasOwn entries)

end Json

/-! ## Text -/

/-- One lowercase hexadecimal digit. -/
def hexDigit (d : ℕ) : UInt16 := if d < 10 then (0x30 + d).toUInt16 else (0x57 + d).toUInt16

/-- `\uXXXX`. -/
def hexEscape (u : UInt16) : JsString :=
  let n := u.toNat
  [0x5C, 0x75, hexDigit (n / 4096), hexDigit (n / 256 % 16), hexDigit (n / 16 % 16),
    hexDigit (n % 16)]

/-- How one code unit outside a surrogate pair is written in a JSON string. -/
def escapeUnit (u : UInt16) : JsString :=
  if u = 0x22 then [0x5C, 0x22]
  else if u = 0x5C then [0x5C, 0x5C]
  else if u = 0x08 then [0x5C, 0x62]
  else if u = 0x09 then [0x5C, 0x74]
  else if u = 0x0A then [0x5C, 0x6E]
  else if u = 0x0C then [0x5C, 0x66]
  else if u = 0x0D then [0x5C, 0x72]
  else if u < 0x20 || isHighSurrogate u || isLowSurrogate u then hexEscape u
  else [u]

/-- The body of a JSON string: pairs of surrogates as they are, lone ones escaped. -/
def escape : JsString → JsString
  | [] => []
  | [u] => escapeUnit u
  | u :: v :: rest =>
    if isHighSurrogate u && isLowSurrogate v then u :: v :: escape rest
    else escapeUnit u ++ escape (v :: rest)

/-- `JSON.stringify` of a string. -/
def quote (s : JsString) : JsString := 0x22 :: (escape s ++ [0x22])

/-- `Array.prototype.join(",")`. -/
def joinComma : List JsString → JsString
  | [] => []
  | t :: ts => t ++ ts.flatMap fun s => 0x2C :: s

mutual

/-- `JSON.stringify`. -/
def stringify : Json → JsString
  | .null => js "null"
  | .bool true => js "true"
  | .bool false => js "false"
  | .num n => n.toText
  | .str s => quote s
  | .arr items => js "[" ++ joinComma (stringifyItems items) ++ js "]"
  | .obj entries => js "\x7b" ++ joinComma (stringifyEntries entries) ++ js "\x7d"

/-- The texts of the items of an array. -/
def stringifyItems : List Json → List JsString
  | [] => []
  | item :: rest => stringify item :: stringifyItems rest

/-- The texts of the entries of an object. -/
def stringifyEntries : List (JsString × Json) → List JsString
  | [] => []
  | (k, v) :: rest => (quote k ++ js ":" ++ stringify v) :: stringifyEntries rest

end

/-! ## Reading a string back -/

/-- The digit a lowercase hexadecimal character stands for. -/
def hexValue (u : UInt16) : ℕ := if u.toNat < 0x3A then u.toNat - 0x30 else u.toNat - 0x57

/-- The code unit an escape letter other than `u` stands for. -/
def unescapeLetter (u : UInt16) : UInt16 :=
  if u = 0x62 then 0x08
  else if u = 0x74 then 0x09
  else if u = 0x6E then 0x0A
  else if u = 0x66 then 0x0C
  else if u = 0x72 then 0x0D
  else u

/-- Read the body of a JSON string up to its closing quote. -/
def unquote : JsString → Option (JsString × JsString)
  | [] => none
  | 0x22 :: rest => some ([], rest)
  | 0x5C :: 0x75 :: a :: b :: c :: d :: rest =>
    let u := (4096 * hexValue a + 256 * hexValue b + 16 * hexValue c + hexValue d).toUInt16
    (unquote rest).map fun p => (u :: p.1, p.2)
  | 0x5C :: e :: rest => (unquote rest).map fun p => (unescapeLetter e :: p.1, p.2)
  | u :: rest => (unquote rest).map fun p => (u :: p.1, p.2)

theorem hexValue_hexDigit {d : ℕ} (h : d < 16) : hexValue (hexDigit d) = d := by
  have all : ∀ d : Fin 16, hexValue (hexDigit d) = d := by decide
  exact all ⟨d, h⟩

/-- An escape of any code unit reads back as that unit. -/
theorem unquote_hexEscape (u : UInt16) (rest : JsString) :
    unquote (hexEscape u ++ rest) = (unquote rest).map fun p => (u :: p.1, p.2) := by
  have hu : u.toNat < 65536 := u.toNat_lt
  have hvalue : 4096 * (u.toNat / 4096) + 256 * (u.toNat / 256 % 16) +
      16 * (u.toNat / 16 % 16) + u.toNat % 16 = u.toNat := by omega
  have hback : u.toNat.toUInt16 = u := UInt16.ofNat_toNat
  simp only [hexEscape, List.cons_append, List.nil_append, unquote]
  rw [hexValue_hexDigit (by omega), hexValue_hexDigit (by omega), hexValue_hexDigit (by omega),
    hexValue_hexDigit (by omega), hvalue, hback]

/-- A unit that is neither a quote nor a backslash reads as itself. -/
theorem unquote_cons {u : UInt16} (hquote : u ≠ 0x22) (hslash : u ≠ 0x5C) (rest : JsString) :
    unquote (u :: rest) = (unquote rest).map fun p => (u :: p.1, p.2) := by
  rw [unquote]
  · exact fun h => hquote h
  · exact fun a b c d rest' h _ => hslash h
  · exact fun e rest' h _ => hslash h

theorem unquote_escapeUnit (u : UInt16) (rest : JsString) :
    unquote (escapeUnit u ++ rest) = (unquote rest).map fun p => (u :: p.1, p.2) := by
  unfold escapeUnit
  split_ifs with h₁ h₂ h₃ h₄ h₅ h₆ h₇ h₈
  · rw [h₁]; rfl
  · rw [h₂]; rfl
  · rw [h₃]; rfl
  · rw [h₄]; rfl
  · rw [h₅]; rfl
  · rw [h₆]; rfl
  · rw [h₇]; rfl
  · exact unquote_hexEscape u rest
  · exact unquote_cons h₁ h₂ rest

/-- **A quoted string reads back**, whatever follows its closing quote. -/
theorem unquote_escape (s rest : JsString) :
    unquote (escape s ++ 0x22 :: rest) = some (s, rest) := by
  induction s using escape.induct with
  | case1 => rfl
  | case2 u =>
    rw [escape, unquote_escapeUnit]
    rfl
  | case3 u v s hpair ih =>
    -- a pair is written as it is, and no surrogate is a quote or a backslash
    have hne : ∀ w : UInt16, (isHighSurrogate w = true ∨ isLowSurrogate w = true) →
        w ≠ 0x22 ∧ w ≠ 0x5C := by
      rintro w hw
      constructor <;> rintro rfl <;> revert hw <;> decide
    rw [escape, if_pos hpair]
    simp only [Bool.and_eq_true] at hpair
    obtain ⟨hu, hu'⟩ := hne u (.inl hpair.1)
    obtain ⟨hv, hv'⟩ := hne v (.inr hpair.2)
    rw [List.cons_append, List.cons_append, unquote_cons hu hu', unquote_cons hv hv', ih]
    rfl
  | case4 u v s hpair ih =>
    rw [escape, if_neg hpair, List.append_assoc, unquote_escapeUnit, ih]
    rfl

/-- Two texts that start with a quoted string start with the same one. -/
theorem quote_append_inj {s t r r' : JsString} (h : quote s ++ r = quote t ++ r') :
    s = t ∧ r = r' := by
  have body : escape s ++ 0x22 :: r = escape t ++ 0x22 :: r' := by
    simpa [quote] using h
  have read := unquote_escape s r
  rw [body, unquote_escape t r'] at read
  simpa [eq_comm] using read

/-! ## Reading a number back -/

/-- Nothing that follows continues a number. -/
def NoDigitHead (rest : JsString) : Prop := ∀ u ∈ rest.head?, isDigit u = false

theorem isDigit_of_mem_decimal {n : ℕ} {u : UInt16} (h : u ∈ decimal n) : isDigit u = true := by
  obtain ⟨c, hc, rfl⟩ := List.mem_map.mp h
  have hdigit := Nat.isDigit_of_mem_toDigits (by decide) (by decide) hc
  simp only [Char.isDigit, Bool.and_eq_true, decide_eq_true_eq] at hdigit
  have hlo : 48 ≤ c.toNat := hdigit.1
  have hhi : c.toNat ≤ 57 := hdigit.2
  simp only [isDigit, Bool.and_eq_true, decide_eq_true_eq, UInt16.le_iff_toNat_le]
  simp
  omega

/-- The character of a digit unit, the way back from `decimal`. -/
def digitChar (u : UInt16) : Char := Char.ofNat u.toNat

theorem map_digitChar_decimal (n : ℕ) : (decimal n).map digitChar = Nat.toDigits 10 n := by
  rw [decimal, List.map_map]
  refine (List.map_congr_left (g := id) ?_).trans (List.map_id _)
  intro c hc
  have hdigit := Nat.isDigit_of_mem_toDigits (by decide) (by decide) hc
  simp only [Char.isDigit, Bool.and_eq_true, decide_eq_true_eq] at hdigit
  have hhi : c.toNat ≤ 57 := hdigit.2
  have hback : c.toNat.toUInt16.toNat = c.toNat := by
    simp
    omega
  simp only [Function.comp, digitChar, hback, Char.ofNat_toNat, id]

theorem decimal_injective {m n : ℕ} (h : decimal m = decimal n) : m = n := by
  have hdigits : Nat.toDigits 10 m = Nat.toDigits 10 n := by
    rw [← map_digitChar_decimal, h, map_digitChar_decimal]
  rw [← Nat.ofDigitChars_ten_toDigits (n := m), hdigits, Nat.ofDigitChars_ten_toDigits]

theorem takeWhile_decimal_append {n : ℕ} {rest : JsString} (h : NoDigitHead rest) :
    (decimal n ++ rest).takeWhile isDigit = decimal n := by
  rw [List.takeWhile_append_of_pos fun u hu => isDigit_of_mem_decimal hu]
  cases rest with
  | nil => simp
  | cons u us => simp [h u rfl]

/-- The digits of a number end where no digit follows. -/
theorem decimal_append_inj {m n : ℕ} {r r' : JsString} (hr : NoDigitHead r)
    (hr' : NoDigitHead r') (h : decimal m ++ r = decimal n ++ r') : m = n ∧ r = r' := by
  have hdigits : decimal m = decimal n := by
    rw [← takeWhile_decimal_append hr, h, takeWhile_decimal_append hr']
  rw [hdigits] at h
  exact ⟨decimal_injective hdigits, List.append_cancel_left h⟩

theorem decimal_ne_nil (n : ℕ) : decimal n ≠ [] := by
  simp [decimal, Nat.toDigits_ne_nil]

theorem decimalInt_append_inj {m n : ℤ} {r r' : JsString} (hr : NoDigitHead r)
    (hr' : NoDigitHead r') (h : decimalInt m ++ r = decimalInt n ++ r') : m = n ∧ r = r' := by
  -- a minus sign is not a digit, so the signs agree before the digits are compared
  have sign : ∀ (k : ℕ) (x y : JsString), js "-" ++ x = decimal k ++ y → False := by
    intro k x y hxy
    obtain ⟨u, us, hk⟩ := List.exists_cons_of_ne_nil (decimal_ne_nil k)
    have hu : isDigit u = true := isDigit_of_mem_decimal (n := k) (by rw [hk]; simp)
    rw [hk] at hxy
    obtain ⟨rfl, -⟩ := List.cons.inj hxy
    revert hu
    decide
  unfold decimalInt at h
  split_ifs at h with hm hn hn
  · simp only [List.append_assoc] at h
    obtain ⟨habs, hrest⟩ := decimal_append_inj hr hr' (List.append_cancel_left h)
    exact ⟨by omega, hrest⟩
  · rw [List.append_assoc] at h
    exact (sign _ _ _ h).elim
  · rw [List.append_assoc] at h
    exact (sign _ _ _ h.symm).elim
  · obtain ⟨habs, hrest⟩ := decimal_append_inj hr hr' h
    exact ⟨by omega, hrest⟩

end Js
