import SinoChat.Common.Utf8
import SinoChat.Common.JsonText
import Mathlib.Algebra.Order.BigOperators.Group.List
import Mathlib.Algebra.Order.Ring.Nat

/-!
# How many bytes a text takes at most

`unitBytes` bounds what a code unit takes in UTF-8, wherever it stands: the bound is
additive (`unitBytes_append`), unlike the length of the encoding, where two surrogates
join. A quoted string takes six bytes a unit at most (`unitBytes_quote_le`), and an
object the sum of its members (`jsonBytes_obj_le`).
-/

namespace Js

/-! ## Units -/

/-- The bytes a code unit takes at most. -/
def unitWidth (u : UInt16) : ℕ := if u.toNat < 0x80 then 1 else if u.toNat < 0x800 then 2 else 3

/-- The bytes a string takes at most. -/
def unitBytes (s : JsString) : ℕ := (s.map unitWidth).sum

@[simp] theorem unitBytes_nil : unitBytes [] = 0 := rfl

@[simp] theorem unitBytes_cons (u : UInt16) (s : JsString) :
    unitBytes (u :: s) = unitWidth u + unitBytes s := rfl

@[simp] theorem unitBytes_append (s t : JsString) :
    unitBytes (s ++ t) = unitBytes s + unitBytes t := by
  rw [unitBytes, List.map_append, List.sum_append]
  rfl

theorem unitWidth_le (u : UInt16) : unitWidth u ≤ 3 := by
  unfold unitWidth
  split_ifs <;> omega

theorem unitWidth_of_ascii {u : UInt16} (h : u.toNat < 0x80) : unitWidth u = 1 := if_pos h

theorem utf8Width_unit (u : UInt16) : utf8Width u.toNat = unitWidth u := by
  have hu : u.toNat < 0x10000 := u.toNat_lt
  rw [utf8Width, unitWidth, if_pos hu]

/-- **A string takes no more bytes than its units.** -/
theorem byteLength_le_unitBytes (s : JsString) : byteLength s ≤ unitBytes s := by
  rw [byteLength]
  induction s using codePoints.induct with
  | case1 => exact Nat.le_refl 0
  | case2 u => simp [codePoints, utf8Width_unit]
  | case3 u v s hpair ih =>
    -- a pair takes four bytes, its surrogates three each
    obtain ⟨hu, hv⟩ := Bool.and_eq_true_iff.mp hpair
    have hu := isHighSurrogate_iff.mp hu
    have hv := isLowSurrogate_iff.mp hv
    have hwidth : utf8Width (0x10000 + (u.toNat - 0xD800) * 0x400 + (v.toNat - 0xDC00)) ≤ 4 := by
      unfold utf8Width
      split_ifs <;> omega
    have hfirst : unitWidth u = 3 := by
      rw [unitWidth, if_neg (by omega), if_neg (by omega)]
    have hsecond : unitWidth v = 3 := by
      rw [unitWidth, if_neg (by omega), if_neg (by omega)]
    rw [codePoints, if_pos hpair, List.map_cons, List.sum_cons, unitBytes_cons, unitBytes_cons]
    omega
  | case4 u v s hpair ih =>
    rw [codePoints, if_neg hpair, List.map_cons, List.sum_cons, unitBytes_cons, utf8Width_unit]
    omega

theorem unitBytes_of_ascii {s : JsString} (h : ∀ u ∈ s, u.toNat < 0x80) :
    unitBytes s = s.length := by
  induction s with
  | nil => rfl
  | cons u s ih =>
    rw [unitBytes_cons, unitWidth_of_ascii (h u List.mem_cons_self),
      ih fun v hv => h v (List.mem_cons_of_mem _ hv), List.length_cons]
    omega

/-! ## Strings -/

theorem hexDigit_lt {d : ℕ} (h : d < 16) : (hexDigit d).toNat < 0x80 := by
  have all : ∀ d : Fin 16, (hexDigit d).toNat < 0x80 := by decide
  exact all ⟨d, h⟩

/-- An escape takes six bytes. -/
theorem unitBytes_hexEscape (u : UInt16) : unitBytes (hexEscape u) = 6 := by
  have hu : u.toNat < 65536 := u.toNat_lt
  refine unitBytes_of_ascii fun v hv => ?_
  simp only [hexEscape, List.mem_cons, List.not_mem_nil, or_false] at hv
  rcases hv with rfl | rfl | rfl | rfl | rfl | rfl
  · decide
  · decide
  · exact hexDigit_lt (by omega)
  · exact hexDigit_lt (by omega)
  · exact hexDigit_lt (by omega)
  · exact hexDigit_lt (by omega)

theorem unitBytes_escapeUnit_le (u : UInt16) : unitBytes (escapeUnit u) ≤ 6 := by
  have hwidth := unitWidth_le u
  unfold escapeUnit
  split_ifs
  · decide
  · decide
  · decide
  · decide
  · decide
  · decide
  · decide
  · exact (unitBytes_hexEscape u).le
  · simp only [unitBytes_cons, unitBytes_nil]
    omega

theorem unitBytes_escape_le (s : JsString) : unitBytes (escape s) ≤ 6 * s.length := by
  induction s using escape.induct with
  | case1 => exact Nat.le_refl 0
  | case2 u =>
    rw [escape]
    exact unitBytes_escapeUnit_le u
  | case3 u v s hpair ih =>
    have hu := unitWidth_le u
    have hv := unitWidth_le v
    rw [escape, if_pos hpair]
    simp only [unitBytes_cons, List.length_cons]
    omega
  | case4 u v s hpair ih =>
    have hu := unitBytes_escapeUnit_le u
    rw [escape, if_neg hpair, unitBytes_append]
    simp only [List.length_cons] at ih ⊢
    omega

/-- **A quoted string takes six bytes a unit at most.** -/
theorem unitBytes_quote_le (s : JsString) : unitBytes (quote s) ≤ 6 * s.length + 2 := by
  have hescape := unitBytes_escape_le s
  have hmark : unitWidth 0x22 = 1 := by decide
  simp only [quote, unitBytes_cons, unitBytes_append, unitBytes_nil, hmark]
  omega

theorem unitBytes_joinComma_le (ts : List JsString) :
    unitBytes (joinComma ts) ≤ (ts.map fun t => unitBytes t + 1).sum := by
  have htail : ∀ ts : List JsString, unitBytes (ts.flatMap fun s => 0x2C :: s) =
      (ts.map fun t => unitBytes t + 1).sum := by
    intro ts
    have hcomma : unitWidth 0x2C = 1 := by decide
    induction ts with
    | nil => rfl
    | cons t ts ih =>
      simp only [List.flatMap_cons, unitBytes_append, unitBytes_cons, hcomma, List.map_cons,
        List.sum_cons, ih]
      omega
  cases ts with
  | nil => exact Nat.le_refl 0
  | cons t ts =>
    simp only [joinComma, unitBytes_append, List.map_cons, List.sum_cons, htail]
    omega

/-! ## Values -/

/-- The bytes the text of a value takes at most. -/
def jsonBytes (value : Json) : ℕ := unitBytes (stringify value)

theorem jsonBytes_str_le (s : JsString) : jsonBytes (.str s) ≤ 6 * s.length + 2 :=
  unitBytes_quote_le s

/-- A list of texts. -/
theorem jsonBytes_texts_le (ts : List JsString) :
    jsonBytes (.arr (ts.map .str)) ≤ (ts.map fun t => 6 * t.length + 3).sum + 2 := by
  have hitems : stringifyItems (ts.map .str) = ts.map quote := by
    induction ts with
    | nil => rfl
    | cons t ts ih => simp [stringifyItems, stringify, ih]
  have hjoin := unitBytes_joinComma_le (ts.map quote)
  have hsum : ((ts.map quote).map fun t => unitBytes t + 1).sum ≤
      (ts.map fun t => 6 * t.length + 3).sum := by
    rw [List.map_map]
    refine List.sum_le_sum fun t _ => ?_
    have hquote := unitBytes_quote_le t
    simp only [Function.comp]
    omega
  have hopen : unitBytes (js "[") = 1 := by decide
  have hclose : unitBytes (js "]") = 1 := by decide
  simp only [jsonBytes, stringify, unitBytes_append, hitems, hopen, hclose]
  omega

/-- The bytes the members of an object take at most: a quoted key, a colon, the value and a
comma each. -/
def membersBytes (entries : List (JsString × Json)) : ℕ :=
  (entries.map fun e => 6 * e.1.length + 4 + jsonBytes e.2).sum

@[simp] theorem membersBytes_nil : membersBytes [] = 0 := rfl

@[simp] theorem membersBytes_cons (e : JsString × Json) (entries : List (JsString × Json)) :
    membersBytes (e :: entries) = 6 * e.1.length + 4 + jsonBytes e.2 + membersBytes entries := rfl

/-- **An object takes the sum of its members.** -/
theorem jsonBytes_obj_le (entries : List (JsString × Json)) :
    jsonBytes (.obj entries) ≤ membersBytes entries + 2 := by
  have hcolon : unitBytes (js ":") = 1 := by decide
  have hentries : stringifyEntries entries =
      entries.map fun e => quote e.1 ++ js ":" ++ stringify e.2 := by
    induction entries with
    | nil => rfl
    | cons e entries ih => simp [stringifyEntries, ih]
  have hjoin := unitBytes_joinComma_le (stringifyEntries entries)
  have hsum : ((stringifyEntries entries).map fun t => unitBytes t + 1).sum ≤
      membersBytes entries := by
    rw [hentries, List.map_map, membersBytes]
    refine List.sum_le_sum fun e _ => ?_
    have hquote := unitBytes_quote_le e.1
    simp only [Function.comp, unitBytes_append, hcolon, jsonBytes]
    omega
  have hopen : unitBytes (js "\x7b") = 1 := by decide
  have hclose : unitBytes (js "\x7d") = 1 := by decide
  simp only [jsonBytes, stringify, unitBytes_append, hopen, hclose]
  omega

/-- A natural number takes a byte a digit. -/
theorem jsonBytes_ofNat_le {n k : ℕ} (hn : n < 10 ^ (k + 1)) (hk : k < 20) :
    jsonBytes (.ofNat n) ≤ k + 1 := by
  have hdigits : ∀ (k n : ℕ), n < 10 ^ (k + 1) → (Nat.toDigits 10 n).length ≤ k + 1 := by
    intro k
    induction k with
    | zero =>
      intro n hn
      rw [Nat.toDigits_of_lt_base (by omega)]
      simp
    | succ k ih =>
      intro n hn
      by_cases hsmall : n < 10
      · rw [Nat.toDigits_of_lt_base hsmall]
        simp
      · have hrest := ih (n / 10) (by rw [Nat.div_lt_iff_lt_mul (by omega)]; rwa [pow_succ] at hn)
        rw [Nat.toDigits_of_base_le (by omega) (by omega), List.length_append]
        simp only [List.length_singleton]
        omega
  have hpow : 10 ^ (k + 1) ≤ 10 ^ 20 := Nat.pow_le_pow_right (by omega) (by omega)
  have htext : stringify (.ofNat n) = decimal n := by
    simp only [Json.ofNat, stringify, JsNumber.toText, Int.natAbs_natCast]
    rw [if_pos (by omega), decimalInt, if_neg (by omega), Int.natAbs_natCast]
  have hascii : ∀ u ∈ decimal n, u.toNat < 0x80 := by
    intro u hu
    have hdigit := isDigit_of_mem_decimal hu
    simp only [isDigit, Bool.and_eq_true, decide_eq_true_eq, UInt16.le_iff_toNat_le] at hdigit
    have hhi : u.toNat ≤ 0x39 := hdigit.2
    omega
  rw [jsonBytes, htext, unitBytes_of_ascii hascii, decimal, List.length_map]
  exact hdigits k n hn

end Js
