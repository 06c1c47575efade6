import SinoChat.Common.JsString

/-!
# UTF-8

`Buffer.from(text, "utf8")`, and the decoder that refuses what is not UTF-8.
A text without lone surrogates is read back (`decodeUtf8_utf8`), so such texts
have the same bytes only if they are the same.
-/

namespace Js

/-! ## Encoding -/

/-- The bytes of one code point; a lone surrogate is replaced by U+FFFD. -/
def utf8Point (p : ℕ) : List UInt8 :=
  if p < 0x80 then [p.toUInt8]
  else if p < 0x800 then [(0xC0 + p / 0x40).toUInt8, (0x80 + p % 0x40).toUInt8]
  else if 0xD800 ≤ p ∧ p ≤ 0xDFFF then [0xEF, 0xBF, 0xBD]
  else if p < 0x10000 then
    [(0xE0 + p / 0x1000).toUInt8, (0x80 + p / 0x40 % 0x40).toUInt8, (0x80 + p % 0x40).toUInt8]
  else
    [(0xF0 + p / 0x40000).toUInt8, (0x80 + p / 0x1000 % 0x40).toUInt8,
      (0x80 + p / 0x40 % 0x40).toUInt8, (0x80 + p % 0x40).toUInt8]

/-- `Buffer.from(text, "utf8")`. -/
def utf8 (text : JsString) : List UInt8 := (codePoints text).flatMap utf8Point

/-! ## Decoding -/

/-- The code units of a code point. -/
def unitsOfPoint (p : ℕ) : JsString :=
  if p < 0x10000 then [p.toUInt16]
  else [(0xD800 + (p - 0x10000) / 0x400).toUInt16, (0xDC00 + (p - 0x10000) % 0x400).toUInt16]

/-- Where the decoder stands: the code point so far, how many bytes it still
needs, and the bounds of the next one. -/
structure Utf8State where
  point : ℕ
  needed : ℕ
  lower : ℕ
  upper : ℕ

/-- Between two code points. -/
def Utf8State.start : Utf8State := ⟨0, 0, 0x80, 0xBF⟩

/-- The state behind the first byte of a longer code point. -/
def Utf8State.behind (b : ℕ) : Option Utf8State :=
  if 0xC2 ≤ b ∧ b ≤ 0xDF then some ⟨b - 0xC0, 1, 0x80, 0xBF⟩
  else if 0xE0 ≤ b ∧ b ≤ 0xEF then
    some ⟨b - 0xE0, 2, if b = 0xE0 then 0xA0 else 0x80, if b = 0xED then 0x9F else 0xBF⟩
  else if 0xF0 ≤ b ∧ b ≤ 0xF4 then
    some ⟨b - 0xF0, 3, if b = 0xF0 then 0x90 else 0x80, if b = 0xF4 then 0x8F else 0xBF⟩
  else none

/-- The decoder from a state on. -/
def decodeFrom : Utf8State → List UInt8 → Option JsString
  | s, [] => if s.needed = 0 then some [] else none
  | s, b :: rest =>
    if s.needed = 0 then
      if b.toNat < 0x80 then (decodeFrom .start rest).map (unitsOfPoint b.toNat ++ ·)
      else (Utf8State.behind b.toNat).bind fun next => decodeFrom next rest
    else if s.lower ≤ b.toNat ∧ b.toNat ≤ s.upper then
      if s.needed = 1 then
        (decodeFrom .start rest).map (unitsOfPoint (s.point * 0x40 + (b.toNat - 0x80)) ++ ·)
      else decodeFrom ⟨s.point * 0x40 + (b.toNat - 0x80), s.needed - 1, 0x80, 0xBF⟩ rest
    else none

/-- The fatal decoder, which leaves a byte order mark as it is. -/
def decodeUtf8 (bytes : List UInt8) : Option JsString := decodeFrom .start bytes

/-- A code point that is not a surrogate. -/
def IsScalar (p : ℕ) : Prop := p < 0xD800 ∨ 0xDFFF < p ∧ p < 0x110000

theorem toNat_byte {n : ℕ} (h : n < 0x100) : n.toUInt8.toNat = n := by
  simp
  omega

/-- The last byte of a code point. -/
theorem decodeFrom_last {s : Utf8State} {b : ℕ} (hneeded : s.needed = 1) (hb : b < 0x40)
    (hlower : s.lower ≤ 0x80 + b) (hupper : 0x80 + b ≤ s.upper) (rest : List UInt8) :
    decodeFrom s ((0x80 + b).toUInt8 :: rest) =
      (decodeUtf8 rest).map (unitsOfPoint (s.point * 0x40 + b) ++ ·) := by
  rw [decodeFrom, if_neg (by omega), toNat_byte (by omega), if_pos ⟨hlower, hupper⟩,
    if_pos hneeded, Nat.add_sub_cancel_left]
  rfl

/-- A byte between the first and the last. -/
theorem decodeFrom_next {s : Utf8State} {b : ℕ} (hneeded : 2 ≤ s.needed) (hb : b < 0x40)
    (hlower : s.lower ≤ 0x80 + b) (hupper : 0x80 + b ≤ s.upper) (rest : List UInt8) :
    decodeFrom s ((0x80 + b).toUInt8 :: rest) =
      decodeFrom ⟨s.point * 0x40 + b, s.needed - 1, 0x80, 0xBF⟩ rest := by
  rw [decodeFrom, if_neg (by omega), toNat_byte (by omega), if_pos ⟨hlower, hupper⟩,
    if_neg (by omega), Nat.add_sub_cancel_left]

/-- The first byte of a code point of several. -/
theorem decodeUtf8_first {b : ℕ} {s : Utf8State} (hb : b < 0x100) (hlong : 0x80 ≤ b)
    (h : Utf8State.behind b = some s) (rest : List UInt8) :
    decodeUtf8 (b.toUInt8 :: rest) = decodeFrom s rest := by
  have hstart : Utf8State.start.needed = 0 := rfl
  rw [decodeUtf8, decodeFrom, if_pos hstart, toNat_byte hb, if_neg (by omega), h]
  rfl

/-- A code point is read back. -/
theorem decodeUtf8_utf8Point {p : ℕ} (hp : IsScalar p) (rest : List UInt8) :
    decodeUtf8 (utf8Point p ++ rest) = (decodeUtf8 rest).map (unitsOfPoint p ++ ·) := by
  unfold IsScalar at hp
  have hstart : Utf8State.start.needed = 0 := rfl
  unfold utf8Point
  split_ifs with h₁ h₂ h₃ h₄
  · rw [List.singleton_append, decodeUtf8, decodeFrom, if_pos hstart, toNat_byte (by omega),
      if_pos h₁]
    rfl
  · have hback : p / 0x40 * 0x40 + p % 0x40 = p := by omega
    have hfirst : Utf8State.behind (0xC0 + p / 0x40) = some ⟨p / 0x40, 1, 0x80, 0xBF⟩ := by
      rw [Utf8State.behind, if_pos (by omega), Nat.add_sub_cancel_left]
    simp only [List.cons_append, List.nil_append]
    rw [decodeUtf8_first (by omega) (by omega) hfirst,
      decodeFrom_last rfl (by omega) (by dsimp only; omega) (by dsimp only; omega), hback]
  · omega
  · have hback : (p / 0x1000 * 0x40 + p / 0x40 % 0x40) * 0x40 + p % 0x40 = p := by omega
    have hfirst : Utf8State.behind (0xE0 + p / 0x1000) = some ⟨p / 0x1000, 2,
        if 0xE0 + p / 0x1000 = 0xE0 then 0xA0 else 0x80,
        if 0xE0 + p / 0x1000 = 0xED then 0x9F else 0xBF⟩ := by
      rw [Utf8State.behind, if_neg (by omega), if_pos (by omega), Nat.add_sub_cancel_left]
    simp only [List.cons_append, List.nil_append]
    rw [decodeUtf8_first (by omega) (by omega) hfirst, decodeFrom_next (Nat.le_refl 2) (by omega)
      (by dsimp only; split <;> omega) (by dsimp only; split <;> omega),
      decodeFrom_last rfl (by omega) (by dsimp only; omega) (by dsimp only; omega), hback]
  · have hback : ((p / 0x40000 * 0x40 + p / 0x1000 % 0x40) * 0x40 + p / 0x40 % 0x40) * 0x40 +
        p % 0x40 = p := by omega
    have hfirst : Utf8State.behind (0xF0 + p / 0x40000) = some ⟨p / 0x40000, 3,
        if 0xF0 + p / 0x40000 = 0xF0 then 0x90 else 0x80,
        if 0xF0 + p / 0x40000 = 0xF4 then 0x8F else 0xBF⟩ := by
      rw [Utf8State.behind, if_neg (by omega), if_neg (by omega), if_pos (by omega),
        Nat.add_sub_cancel_left]
    simp only [List.cons_append, List.nil_append]
    rw [decodeUtf8_first (by omega) (by omega) hfirst, decodeFrom_next (by dsimp only; omega)
      (by omega) (by dsimp only; split <;> omega) (by dsimp only; split <;> omega),
      decodeFrom_next (Nat.le_refl 2) (by omega) (by dsimp only; omega) (by dsimp only; omega),
      decodeFrom_last rfl (by omega) (by dsimp only; omega) (by dsimp only; omega), hback]

/-! ## Texts without lone surrogates -/

/-- No surrogate stands alone. -/
inductive WellFormed : JsString → Prop
  | nil : WellFormed []
  | unit {u : UInt16} {rest : JsString} : isHighSurrogate u = false → isLowSurrogate u = false →
      WellFormed rest → WellFormed (u :: rest)
  | pair {u v : UInt16} {rest : JsString} : isHighSurrogate u = true → isLowSurrogate v = true →
      WellFormed rest → WellFormed (u :: v :: rest)

theorem WellFormed.append {s t : JsString} (hs : WellFormed s) (ht : WellFormed t) :
    WellFormed (s ++ t) := by
  induction hs with
  | nil => exact ht
  | unit hhigh hlow _ ih => exact .unit hhigh hlow ih
  | pair hhigh hlow _ ih => exact .pair hhigh hlow ih

/-- A text of units that are no surrogates. -/
theorem wellFormed_of_forall {s : JsString}
    (h : ∀ u ∈ s, isHighSurrogate u = false ∧ isLowSurrogate u = false) : WellFormed s := by
  induction s with
  | nil => exact .nil
  | cons u rest ih =>
    obtain ⟨hhigh, hlow⟩ := h u List.mem_cons_self
    exact .unit hhigh hlow (ih fun v hv => h v (List.mem_cons_of_mem _ hv))

theorem codePoints_cons_of_not_high {u : UInt16} (h : isHighSurrogate u = false)
    (rest : JsString) : codePoints (u :: rest) = u.toNat :: codePoints rest := by
  cases rest with
  | nil => rfl
  | cons v rest => rw [codePoints, h, Bool.false_and, if_neg Bool.false_ne_true]

theorem isHighSurrogate_iff {u : UInt16} :
    isHighSurrogate u = true ↔ 0xD800 ≤ u.toNat ∧ u.toNat ≤ 0xDBFF := by
  unfold isHighSurrogate
  rw [Bool.and_eq_true, decide_eq_true_eq, decide_eq_true_eq, UInt16.le_iff_toNat_le,
    UInt16.le_iff_toNat_le]
  rfl

theorem isLowSurrogate_iff {u : UInt16} :
    isLowSurrogate u = true ↔ 0xDC00 ≤ u.toNat ∧ u.toNat ≤ 0xDFFF := by
  unfold isLowSurrogate
  rw [Bool.and_eq_true, decide_eq_true_eq, decide_eq_true_eq, UInt16.le_iff_toNat_le,
    UInt16.le_iff_toNat_le]
  rfl

/-- **A text without lone surrogates is read back.** -/
theorem decodeUtf8_utf8 {text : JsString} (h : WellFormed text) :
    decodeUtf8 (utf8 text) = some text := by
  induction h with
  | nil => rfl
  | @unit u rest hhigh hlow _ ih =>
    have hhigh' := mt isHighSurrogate_iff.mpr (Bool.not_eq_true _ ▸ hhigh)
    have hlow' := mt isLowSurrogate_iff.mpr (Bool.not_eq_true _ ▸ hlow)
    have hlt : u.toNat < 0x10000 := u.toNat_lt
    have hscalar : IsScalar u.toNat := by
      unfold IsScalar
      omega
    have hunits : unitsOfPoint u.toNat = [u] := by
      rw [unitsOfPoint, if_pos hlt]
      simp
    have hcons : utf8 (u :: rest) = utf8Point u.toNat ++ utf8 rest := by
      rw [utf8, codePoints_cons_of_not_high hhigh, List.flatMap_cons]
      rfl
    rw [hcons, decodeUtf8_utf8Point hscalar, ih, hunits]
    rfl
  | @pair u v rest hhigh hlow _ ih =>
    obtain ⟨hu, hu'⟩ := isHighSurrogate_iff.mp hhigh
    obtain ⟨hv, hv'⟩ := isLowSurrogate_iff.mp hlow
    generalize hp : 0x10000 + (u.toNat - 0xD800) * 0x400 + (v.toNat - 0xDC00) = p
    have hscalar : IsScalar p := by
      unfold IsScalar
      omega
    have hunits : unitsOfPoint p = [u, v] := by
      have hfirst : 0xD800 + (p - 0x10000) / 0x400 = u.toNat := by omega
      have hsecond : 0xDC00 + (p - 0x10000) % 0x400 = v.toNat := by omega
      rw [unitsOfPoint, if_neg (by omega), hfirst, hsecond]
      simp
    have hcons : utf8 (u :: v :: rest) = utf8Point p ++ utf8 rest := by
      rw [utf8, codePoints, hhigh, hlow, Bool.and_self, if_pos rfl, hp, List.flatMap_cons]
      rfl
    rw [hcons, decodeUtf8_utf8Point hscalar, ih, hunits]
    rfl

/-- The bytes determine such a text. -/
theorem utf8_injective {s t : JsString} (hs : WellFormed s) (ht : WellFormed t)
    (h : utf8 s = utf8 t) : s = t := by
  have hread := decodeUtf8_utf8 hs
  rw [h, decodeUtf8_utf8 ht] at hread
  exact (Option.some.inj hread).symm

end Js
