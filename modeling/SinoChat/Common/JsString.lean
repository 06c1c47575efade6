import Mathlib.Algebra.Order.Ring.Int
import Mathlib.Data.List.Basic

/-!
# JavaScript strings, and the patterns tested on them

A JavaScript string is the list of its UTF-16 code units; equality, length
and the character classes of a regular expression without the `u` flag are
all about code units, so nothing here decodes them except `codePoints` and
`utf8`, which the language defines by decoding surrogate pairs.

The anchored expressions of validators are nearly all of one shape: a fixed
list of character classes, one a position (`fixed`), or a run of one class
whose length lies in an interval (`run`). Both are computable, and the
first determines the length of what it accepts.
-/

namespace Js

/-- A JavaScript string: its UTF-16 code units. -/
abbrev JsString := List UInt16

instance : LawfulBEq JsString := inferInstance

/-- The code units of one character: itself, or a surrogate pair. -/
def unitsOfChar (c : Char) : JsString :=
  if c.toNat < 0x10000 then [c.toNat.toUInt16]
  else
    [(0xD800 + (c.toNat - 0x10000) / 0x400).toUInt16,
     (0xDC00 + (c.toNat - 0x10000) % 0x400).toUInt16]

/-- The JavaScript string a literal of the source denotes. -/
def js (s : String) : JsString := s.toList.flatMap unitsOfChar

/-! ## Code points and UTF-8 -/

/-- The first half of a pair. -/
def isHighSurrogate (u : UInt16) : Bool := 0xD800 ≤ u && u ≤ 0xDBFF

/-- The second half of a pair. -/
def isLowSurrogate (u : UInt16) : Bool := 0xDC00 ≤ u && u ≤ 0xDFFF

/-- The code points `Array.from` walks: a surrogate pair is one of them, and
a lone surrogate stands for itself. -/
def codePoints : JsString → List ℕ
  | [] => []
  | [u] => [u.toNat]
  | u :: v :: rest =>
    if isHighSurrogate u && isLowSurrogate v then
      (0x10000 + (u.toNat - 0xD800) * 0x400 + (v.toNat - 0xDC00)) :: codePoints rest
    else u.toNat :: codePoints (v :: rest)

/-- Bytes of one code point in UTF-8; a lone surrogate is written as U+FFFD,
which takes three bytes like every other code point of its range. -/
def utf8Width (point : ℕ) : ℕ :=
  if point < 0x80 then 1 else if point < 0x800 then 2 else if point < 0x10000 then 3 else 4

/-- `Buffer.byteLength(s, "utf8")`. -/
def byteLength (s : JsString) : ℕ := ((codePoints s).map utf8Width).sum

/-! ## Character classes -/

/-- One character class of a pattern. -/
abbrev CharClass := UInt16 → Bool

/-- `0` to `9`. -/
def isDigit : CharClass := fun u => 0x30 ≤ u && u ≤ 0x39

/-- `A` to `Z`. -/
def isUpper : CharClass := fun u => 0x41 ≤ u && u ≤ 0x5A

/-- `a` to `z`. -/
def isLower : CharClass := fun u => 0x61 ≤ u && u ≤ 0x7A

/-- `[0-9a-f]`. -/
def isLowerHex : CharClass := fun u => isDigit u || (0x61 ≤ u && u ≤ 0x66)

/-- `[0-9A-F]`. -/
def isUpperHex : CharClass := fun u => isDigit u || (0x41 ≤ u && u ≤ 0x46)

/-- A letter or a digit. -/
def isAlphanumeric : CharClass := fun u => isUpper u || isLower u || isDigit u

/-- `[A-Za-z0-9+/]`. -/
def isBase64 : CharClass := fun u => isAlphanumeric u || u == 0x2B || u == 0x2F

/-- `[A-Za-z0-9_-]`. -/
def isBase64Url : CharClass := fun u => isAlphanumeric u || u == 0x5F || u == 0x2D

/-- `\s`: white space and line terminators. -/
def isSpace : CharClass := fun u =>
  (0x09 ≤ u && u ≤ 0x0D) || u == 0x20 || u == 0xA0 || u == 0x1680 ||
    (0x2000 ≤ u && u ≤ 0x200A) || u == 0x2028 || u == 0x2029 || u == 0x202F ||
    u == 0x205F || u == 0x3000 || u == 0xFEFF

/-- `s.trim()`. -/
def trim (s : JsString) : JsString :=
  ((s.dropWhile isSpace).reverse.dropWhile isSpace).reverse

/-! ## Patterns -/

/-- `^c₁c₂…cₙ$`: one character class per position. -/
def fixed : List CharClass → JsString → Bool
  | [], [] => true
  | c :: cs, u :: us => c u && fixed cs us
  | _, _ => false

/-- `^c{lo,hi}$`. -/
def run (c : CharClass) (lo hi : ℕ) (s : JsString) : Bool :=
  lo ≤ s.length && s.length ≤ hi && s.all c

/-- The classes of a literal part of a pattern. -/
def lit (s : String) : List CharClass := (js s).map fun u v => v == u

/-- The classes of `c{n}`. -/
def times (n : ℕ) (c : CharClass) : List CharClass := List.replicate n c

@[simp] theorem length_times (n : ℕ) (c : CharClass) : (times n c).length = n :=
  List.length_replicate

@[simp] theorem length_lit (s : String) : (lit s).length = (js s).length :=
  List.length_map _

@[simp] theorem fixed_nil {s : JsString} : fixed [] s = true ↔ s = [] := by
  cases s <;> simp [fixed]

@[simp] theorem fixed_cons {c : CharClass} {cs : List CharClass} {u : UInt16} {us : JsString} :
    fixed (c :: cs) (u :: us) = true ↔ c u = true ∧ fixed cs us = true := by
  simp [fixed]

@[simp] theorem not_fixed_cons_nil {c : CharClass} {cs : List CharClass} :
    fixed (c :: cs) [] = false := rfl

/-- A fixed pattern determines the length of what it accepts. -/
theorem length_of_fixed {cs : List CharClass} {s : JsString} (h : fixed cs s = true) :
    s.length = cs.length := by
  induction cs generalizing s with
  | nil => simp [fixed_nil.mp h]
  | cons c cs ih =>
    cases s with
    | nil => simp at h
    | cons u us => simp [ih (fixed_cons.mp h).2]

/-- A pattern whose classes do not see a change of units accepts the changed string likewise. -/
theorem fixed_map {cs : List CharClass} {f : UInt16 → UInt16}
    (h : ∀ c ∈ cs, ∀ u, c (f u) = c u) (s : JsString) : fixed cs (s.map f) = fixed cs s := by
  induction cs generalizing s with
  | nil => cases s <;> rfl
  | cons c cs ih =>
    cases s with
    | nil => rfl
    | cons u us =>
      have hus := ih (fun d hd => h d (List.mem_cons_of_mem _ hd)) us
      rw [List.map_cons, fixed, fixed, h c List.mem_cons_self, hus]

/-- Two fixed patterns in a row accept exactly the concatenations. -/
theorem fixed_append {cs ds : List CharClass} {s : JsString} :
    fixed (cs ++ ds) s = true ↔
      ∃ p q, s = p ++ q ∧ fixed cs p = true ∧ fixed ds q = true := by
  induction cs generalizing s with
  | nil => simp
  | cons c cs ih =>
    cases s with
    | nil =>
      simp only [List.cons_append, not_fixed_cons_nil, Bool.false_eq_true, false_iff]
      rintro ⟨p, q, h, hp, -⟩
      obtain ⟨rfl, rfl⟩ := List.append_eq_nil_iff.mp h.symm
      simp at hp
    | cons u us =>
      rw [List.cons_append, fixed_cons, ih]
      constructor
      · rintro ⟨hc, p, q, rfl, hp, hq⟩
        exact ⟨u :: p, q, rfl, fixed_cons.mpr ⟨hc, hp⟩, hq⟩
      · rintro ⟨p, q, h, hp, hq⟩
        cases p with
        | nil => simp at hp
        | cons v vs =>
          obtain ⟨rfl, rfl⟩ := List.cons.inj h
          exact ⟨(fixed_cons.mp hp).1, vs, q, rfl, (fixed_cons.mp hp).2, hq⟩

/-- The concatenation of two accepted strings is accepted. -/
theorem fixed_append_of {cs ds : List CharClass} {p q : JsString} (hp : fixed cs p = true)
    (hq : fixed ds q = true) : fixed (cs ++ ds) (p ++ q) = true :=
  fixed_append.mpr ⟨p, q, rfl, hp, hq⟩

/-- `c{n}` accepts the strings of `n` characters of the class. -/
theorem fixed_times {n : ℕ} {c : CharClass} {s : JsString} :
    fixed (times n c) s = true ↔ s.length = n ∧ ∀ u ∈ s, c u = true := by
  induction n generalizing s with
  | zero =>
    simp only [times, List.replicate_zero, fixed_nil]
    constructor
    · rintro rfl
      simp
    · exact fun h => List.length_eq_zero_iff.mp h.1
  | succ n ih =>
    cases s with
    | nil => simp [times, List.replicate_succ]
    | cons u us =>
      have hstep : fixed (times (n + 1) c) (u :: us) = true ↔
          c u = true ∧ fixed (times n c) us = true := by
        rw [times, List.replicate_succ, fixed_cons, times]
      rw [hstep, ih]
      simp
      tauto

/-- A literal accepts itself only. -/
theorem fixed_lit {s : String} {t : JsString} : fixed (lit s) t = true ↔ t = js s := by
  have general : ∀ u t : JsString, fixed (u.map fun x v => v == x) t = true ↔ t = u := by
    intro u
    induction u with
    | nil => simp
    | cons x xs ih =>
      rintro (_ | ⟨v, vs⟩)
      · simp
      · simp [ih]
  exact general (js s) t

end Js
