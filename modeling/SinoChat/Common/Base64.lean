import SinoChat.Common.JsString
import Mathlib.Data.List.DropRight

/-!
# Base64

The padded standard alphabet: `Buffer.toString("base64")` and `btoa` write it,
`Buffer.from(text, "base64")` and `atob` read it. Both readers give back the
bytes that were written (`bufferFromBase64_toBase64`, `atob_toBase64`); on
characters of the alphabet alone they agree (`atob_padded`).
-/

namespace Js

/-- The character of six bits. -/
def base64Char (n : ℕ) : UInt16 :=
  if n < 26 then (0x41 + n).toUInt16
  else if n < 52 then (0x61 + (n - 26)).toUInt16
  else if n < 62 then (0x30 + (n - 52)).toUInt16
  else if n = 62 then 0x2B
  else 0x2F

/-- The text of some bytes: four characters for three of them, the last group padded. -/
def toBase64 : List UInt8 → JsString
  | a :: b :: c :: rest =>
    base64Char (a.toNat / 4) :: base64Char (a.toNat % 4 * 16 + b.toNat / 16) ::
      base64Char (b.toNat % 16 * 4 + c.toNat / 64) :: base64Char (c.toNat % 64) :: toBase64 rest
  | [a, b] =>
    [base64Char (a.toNat / 4), base64Char (a.toNat % 4 * 16 + b.toNat / 16),
      base64Char (b.toNat % 16 * 4), 0x3D]
  | [a] => [base64Char (a.toNat / 4), base64Char (a.toNat % 4 * 16), 0x3D, 0x3D]
  | [] => []

/-- The text without its padding. -/
def unpadded (text : JsString) : JsString := text.rdropWhile (· == 0x3D)

/-! ## Decoding -/

/-- The six bits of a character. -/
def base64Digit? (u : UInt16) : Option ℕ :=
  if isUpper u then some (u.toNat - 0x41)
  else if isLower u then some (u.toNat - 0x61 + 26)
  else if isDigit u then some (u.toNat - 0x30 + 52)
  else if u = 0x2B then some 62
  else if u = 0x2F then some 63
  else none

/-- The bytes of groups of six bits; bits that fill no byte are dropped. -/
def bytesOfSextets : List ℕ → List UInt8
  | a :: b :: c :: d :: rest =>
    (a * 4 + b / 16).toUInt8 :: (b % 16 * 16 + c / 4).toUInt8 :: (c % 4 * 64 + d).toUInt8 ::
      bytesOfSextets rest
  | [a, b, c] => [(a * 4 + b / 16).toUInt8, (b % 16 * 16 + c / 4).toUInt8]
  | [a, b] => [(a * 4 + b / 16).toUInt8]
  | _ => []

/-- `Buffer.from(text, "base64")`: both alphabets, and what is in neither is skipped. -/
def bufferFromBase64 (text : JsString) : List UInt8 :=
  bytesOfSextets (text.filterMap fun u =>
    if u = 0x2D then some 62 else if u = 0x5F then some 63 else base64Digit? u)

/-- ASCII white space. -/
def isAsciiSpace : CharClass := fun u =>
  u == 0x09 || u == 0x0A || u == 0x0C || u == 0x0D || u == 0x20

/-- A text without the one or two padding characters at its end. -/
def stripPadding (text : JsString) : JsString :=
  match text.reverse with
  | 0x3D :: 0x3D :: rest => rest.reverse
  | 0x3D :: rest => rest.reverse
  | _ => text

/-- `atob`, its result as bytes. -/
def atob (text : JsString) : Option (List UInt8) :=
  let data := text.filter fun u => !isAsciiSpace u
  let data := if data.length % 4 = 0 then stripPadding data else data
  if data.length % 4 = 1 || !data.all isBase64 then none
  else some (bytesOfSextets (data.filterMap base64Digit?))

/-! ## What is encoded is decoded -/

/-- The groups of six bits that the text of some bytes spells out. -/
def sextetsOf : List UInt8 → List ℕ
  | a :: b :: c :: rest =>
    a.toNat / 4 :: (a.toNat % 4 * 16 + b.toNat / 16) :: (b.toNat % 16 * 4 + c.toNat / 64) ::
      c.toNat % 64 :: sextetsOf rest
  | [a, b] => [a.toNat / 4, a.toNat % 4 * 16 + b.toNat / 16, b.toNat % 16 * 4]
  | [a] => [a.toNat / 4, a.toNat % 4 * 16]
  | [] => []

/-- The padding behind the text of some bytes. -/
def paddingOf : List UInt8 → JsString
  | _ :: _ :: _ :: rest => paddingOf rest
  | [_, _] => [0x3D]
  | [_] => [0x3D, 0x3D]
  | [] => []

theorem toBase64_eq (bytes : List UInt8) :
    toBase64 bytes = (sextetsOf bytes).map base64Char ++ paddingOf bytes := by
  induction bytes using toBase64.induct with
  | case1 a b c rest ih => simp [toBase64, sextetsOf, paddingOf, ih]
  | case2 a b => rfl
  | case3 a => rfl
  | case4 => rfl

theorem sextetsOf_lt {bytes : List UInt8} : ∀ n ∈ sextetsOf bytes, n < 64 := by
  have hbyte : ∀ b : UInt8, b.toNat < 256 := fun b => b.toNat_lt
  induction bytes using toBase64.induct with
  | case1 a b c rest ih =>
    have ha := hbyte a
    have hb := hbyte b
    have hc := hbyte c
    intro n hn
    simp only [sextetsOf, List.mem_cons] at hn
    rcases hn with rfl | rfl | rfl | rfl | hn
    · omega
    · omega
    · omega
    · omega
    · exact ih n hn
  | case2 a b =>
    have ha := hbyte a
    have hb := hbyte b
    intro n hn
    simp only [sextetsOf, List.mem_cons, List.not_mem_nil, or_false] at hn
    rcases hn with rfl | rfl | rfl <;> omega
  | case3 a =>
    have ha := hbyte a
    intro n hn
    simp only [sextetsOf, List.mem_cons, List.not_mem_nil, or_false] at hn
    rcases hn with rfl | rfl <;> omega
  | case4 => simp [sextetsOf]

/-- The groups make up the bytes again. -/
theorem bytesOfSextets_sextetsOf (bytes : List UInt8) :
    bytesOfSextets (sextetsOf bytes) = bytes := by
  have hbyte : ∀ (b : UInt8) (n : ℕ), n = b.toNat → n.toUInt8 = b := by
    rintro b n rfl
    exact UInt8.ofNat_toNat
  induction bytes using toBase64.induct with
  | case1 a b c rest ih =>
    have ha := a.toNat_lt
    have hb := b.toNat_lt
    have hc := c.toNat_lt
    rw [sextetsOf, bytesOfSextets, ih, hbyte a _ (by omega), hbyte b _ (by omega),
      hbyte c _ (by omega)]
  | case2 a b =>
    have ha := a.toNat_lt
    have hb := b.toNat_lt
    rw [sextetsOf, bytesOfSextets, hbyte a _ (by omega), hbyte b _ (by omega)]
  | case3 a =>
    have ha := a.toNat_lt
    rw [sextetsOf, bytesOfSextets, hbyte a _ (by omega)]
  | case4 => rfl

/-- No bits are left behind the last byte. -/
def NoBitsLeft : List ℕ → Prop
  | _ :: _ :: _ :: _ :: rest => NoBitsLeft rest
  | [_, _, c] => c % 4 = 0
  | [_, b] => b % 16 = 0
  | [_] => False
  | [] => True

/-- Groups that leave no bits are the groups of their bytes. -/
theorem sextetsOf_bytesOfSextets {l : List ℕ} (hlt : ∀ n ∈ l, n < 64) (h : NoBitsLeft l) :
    sextetsOf (bytesOfSextets l) = l := by
  have hbyte : ∀ n : ℕ, n < 256 → n.toUInt8.toNat = n := fun n hn => UInt8.toNat_ofNat_of_lt' hn
  induction l using bytesOfSextets.induct with
  | case1 a b c d rest ih =>
    have ha := hlt a (by simp)
    have hb := hlt b (by simp)
    have hc := hlt c (by simp)
    have hd := hlt d (by simp)
    have hrest := ih (fun n hn => hlt n (by simp [hn])) h
    rw [bytesOfSextets, sextetsOf, hrest, hbyte _ (by omega), hbyte _ (by omega),
      hbyte _ (by omega)]
    congr 1
    · omega
    · congr 1
      · omega
      · congr 1
        · omega
        · congr 1
          omega
  | case2 a b c =>
    have ha := hlt a (by simp)
    have hb := hlt b (by simp)
    have hc := hlt c (by simp)
    rw [NoBitsLeft] at h
    rw [bytesOfSextets, sextetsOf, hbyte _ (by omega), hbyte _ (by omega)]
    congr 1
    · omega
    · congr 1
      · omega
      · congr 1
        omega
  | case3 a b =>
    have ha := hlt a (by simp)
    have hb := hlt b (by simp)
    rw [NoBitsLeft] at h
    rw [bytesOfSextets, sextetsOf, hbyte _ (by omega)]
    congr 1
    · omega
    · congr 1
      omega
  | case4 l hfour hthree htwo =>
    rcases l with _ | ⟨a, _ | ⟨b, _ | ⟨c, _ | ⟨d, rest⟩⟩⟩⟩
    · rfl
    · exact absurd h id
    · exact absurd rfl (htwo a b)
    · exact absurd rfl (hthree a b c)
    · exact absurd rfl (hfour a b c d rest)

theorem base64Digit?_base64Char {n : ℕ} (h : n < 64) : base64Digit? (base64Char n) = some n := by
  have all : ∀ n : Fin 64, base64Digit? (base64Char n) = some n.val := by decide
  exact all ⟨n, h⟩

/-- Every character of the alphabet stands for one group of bits. -/
theorem base64Digit?_eq_some {u : UInt16} {n : ℕ} :
    base64Digit? u = some n ↔ n < 64 ∧ u = base64Char n := by
  constructor
  · intro h
    have hback : ∀ m : ℕ, u.toNat = m → u = m.toUInt16 := by
      rintro m rfl
      exact UInt16.ofNat_toNat.symm
    rw [base64Digit?] at h
    split_ifs at h with hupper hlower hdigit hplus hslash
    · simp only [isUpper, Bool.and_eq_true, decide_eq_true_eq, UInt16.le_iff_toNat_le] at hupper
      obtain ⟨hlo, hhi⟩ := hupper
      simp only [UInt16.reduceToNat] at hlo hhi
      obtain rfl := Option.some.inj h
      refine ⟨by omega, ?_⟩
      rw [base64Char, if_pos (by omega)]
      exact hback _ (by omega)
    · simp only [isLower, Bool.and_eq_true, decide_eq_true_eq, UInt16.le_iff_toNat_le] at hlower
      obtain ⟨hlo, hhi⟩ := hlower
      simp only [UInt16.reduceToNat] at hlo hhi
      obtain rfl := Option.some.inj h
      refine ⟨by omega, ?_⟩
      rw [base64Char, if_neg (by omega), if_pos (by omega)]
      exact hback _ (by omega)
    · simp only [isDigit, Bool.and_eq_true, decide_eq_true_eq, UInt16.le_iff_toNat_le] at hdigit
      obtain ⟨hlo, hhi⟩ := hdigit
      simp only [UInt16.reduceToNat] at hlo hhi
      obtain rfl := Option.some.inj h
      refine ⟨by omega, ?_⟩
      rw [base64Char, if_neg (by omega), if_neg (by omega), if_pos (by omega)]
      exact hback _ (by omega)
    · obtain rfl := Option.some.inj h
      exact ⟨by omega, by rw [hplus]; rfl⟩
    · obtain rfl := Option.some.inj h
      exact ⟨by omega, by rw [hslash]; rfl⟩
  · rintro ⟨hlt, rfl⟩
    exact base64Digit?_base64Char hlt

theorem isBase64_base64Char {n : ℕ} (h : n < 64) : isBase64 (base64Char n) = true := by
  have all : ∀ n : Fin 64, isBase64 (base64Char n) = true := by decide
  exact all ⟨n, h⟩

/-- What a character of the alphabet is not. -/
theorem isBase64_excludes {u : UInt16} (h : isBase64 u = true) :
    u ≠ 0x3D ∧ u ≠ 0x2D ∧ u ≠ 0x5F ∧ isAsciiSpace u = false := by
  have hne : ∀ v : UInt16, isBase64 v = false → u ≠ v := by
    rintro v hv rfl
    rw [h] at hv
    cases hv
  refine ⟨hne _ (by decide), hne _ (by decide), hne _ (by decide), ?_⟩
  simp only [isAsciiSpace, Bool.or_eq_false_iff, beq_eq_false_iff_ne]
  exact ⟨⟨⟨⟨hne _ (by decide), hne _ (by decide)⟩, hne _ (by decide)⟩, hne _ (by decide)⟩,
    hne _ (by decide)⟩

theorem filterMap_base64Char {ns : List ℕ} (h : ∀ n ∈ ns, n < 64) :
    (ns.map base64Char).filterMap base64Digit? = ns := by
  induction ns with
  | nil => rfl
  | cons n ns ih =>
    rw [List.map_cons, List.filterMap_cons, base64Digit?_base64Char (h n List.mem_cons_self),
      ih fun m hm => h m (List.mem_cons_of_mem _ hm)]

/-- Within the alphabet the two readers see the same digits. -/
theorem bufferFromBase64_eq {text : JsString} (h : ∀ u ∈ text, isBase64 u = true) :
    bufferFromBase64 text = bytesOfSextets (text.filterMap base64Digit?) := by
  rw [bufferFromBase64]
  congr 1
  refine List.filterMap_congr fun u hu => ?_
  obtain ⟨-, hminus, hunderscore, -⟩ := isBase64_excludes (h u hu)
  rw [if_neg hminus, if_neg hunderscore]

theorem isBase64_of_mem_sextets {bytes : List UInt8} {u : UInt16}
    (h : u ∈ (sextetsOf bytes).map base64Char) : isBase64 u = true := by
  obtain ⟨n, hn, rfl⟩ := List.mem_map.mp h
  exact isBase64_base64Char (sextetsOf_lt n hn)

/-- **The text of some bytes is decoded to them.** -/
theorem bufferFromBase64_toBase64 (bytes : List UInt8) :
    bufferFromBase64 (toBase64 bytes) = bytes := by
  have hpadding : ∀ bytes : List UInt8, (paddingOf bytes).filterMap (fun u =>
      if u = 0x2D then some 62 else if u = 0x5F then some 63 else base64Digit? u) = [] := by
    intro bytes
    induction bytes using toBase64.induct with
    | case1 a b c rest ih => exact ih
    | case2 a b => rfl
    | case3 a => rfl
    | case4 => rfl
  have hdata : bufferFromBase64 ((sextetsOf bytes).map base64Char) = _ :=
    bufferFromBase64_eq fun u hu => isBase64_of_mem_sextets hu
  rw [filterMap_base64Char sextetsOf_lt, bytesOfSextets_sextetsOf] at hdata
  rw [toBase64_eq, bufferFromBase64, List.filterMap_append, hpadding, List.append_nil]
  exact hdata

/-- Without its padding, the text of some bytes is their characters. -/
theorem unpadded_toBase64 (bytes : List UInt8) :
    unpadded (toBase64 bytes) = (sextetsOf bytes).map base64Char := by
  have hpadding : ∀ bytes : List UInt8, ∀ u ∈ paddingOf bytes, (u == 0x3D) = true := by
    intro bytes
    induction bytes using toBase64.induct with
    | case1 a b c rest ih => exact ih
    | case2 a b => simp [paddingOf]
    | case3 a => simp [paddingOf]
    | case4 => simp [paddingOf]
  have hpads : ∀ u ∈ (paddingOf bytes).reverse, (u == 0x3D) = true :=
    fun u hu => hpadding bytes u (List.mem_reverse.mp hu)
  rw [unpadded, toBase64_eq, List.rdropWhile, List.reverse_append,
    List.dropWhile_append_of_pos hpads, ← List.rdropWhile, List.rdropWhile_eq_self_iff]
  intro hne
  have hchar := isBase64_of_mem_sextets (List.getLast_mem hne)
  simpa using (isBase64_excludes hchar).1

/-- So many characters as groups of six bits cover the bytes. -/
theorem length_sextetsOf (bytes : List UInt8) :
    (sextetsOf bytes).length = (bytes.length * 8 + 5) / 6 := by
  induction bytes using toBase64.induct with
  | case1 a b c rest ih =>
    simp only [sextetsOf, List.length_cons, ih]
    omega
  | case2 a b => simp [sextetsOf]
  | case3 a => simp [sextetsOf]
  | case4 => rfl

/-- The characters of some bytes end where no byte ends in the middle of a group. -/
theorem length_sextetsOf_mod (bytes : List UInt8) :
    (sextetsOf bytes).length % 4 ≠ 1 ∧
      paddingOf bytes = List.replicate ((4 - (sextetsOf bytes).length % 4) % 4) 0x3D := by
  induction bytes using toBase64.induct with
  | case1 a b c rest ih =>
    simp only [sextetsOf, paddingOf, List.length_cons]
    have hmod : ((sextetsOf rest).length + 1 + 1 + 1 + 1) % 4 = (sextetsOf rest).length % 4 := by
      omega
    rw [hmod]
    exact ih
  | case2 a b => exact ⟨by simp [sextetsOf], rfl⟩
  | case3 a => exact ⟨by simp [sextetsOf], rfl⟩
  | case4 => exact ⟨by simp [sextetsOf], rfl⟩

/-- **Behind their padding, the characters of the alphabet are what `atob` decodes.** -/
theorem atob_padded {text : JsString} (h : ∀ u ∈ text, isBase64 u = true)
    (hlength : text.length % 4 ≠ 1) :
    atob (text ++ List.replicate ((4 - text.length % 4) % 4) 0x3D) =
      some (bufferFromBase64 text) := by
  have hspace : (text ++ List.replicate ((4 - text.length % 4) % 4) 0x3D).filter
      (fun u => !isAsciiSpace u) = text ++ List.replicate ((4 - text.length % 4) % 4) 0x3D := by
    refine List.filter_eq_self.mpr fun u hu => ?_
    rcases List.mem_append.mp hu with hu | hu
    · rw [(isBase64_excludes (h u hu)).2.2.2]
      rfl
    · rw [List.eq_of_mem_replicate hu]
      rfl
  have hlast : ∀ u ∈ text.reverse.head?, u ≠ 0x3D := by
    intro u hu
    rw [List.head?_reverse] at hu
    exact (isBase64_excludes (h u (List.mem_of_getLast? hu))).1
  have hstrip : stripPadding (text ++ List.replicate ((4 - text.length % 4) % 4) 0x3D) =
      text := by
    have hcount : (4 - text.length % 4) % 4 = 0 ∨ (4 - text.length % 4) % 4 = 1 ∨
        (4 - text.length % 4) % 4 = 2 := by omega
    obtain ⟨rev, hrev⟩ : ∃ rev, text = rev.reverse := ⟨text.reverse, by simp⟩
    rw [hrev, List.reverse_reverse] at hlast
    rcases hcount with hcount | hcount | hcount <;> rw [hcount, hrev]
    · rcases rev with _ | ⟨u, rev⟩
      · rfl
      · have hu := hlast u rfl
        simp [stripPadding, hu]
    · rcases rev with _ | ⟨u, rev⟩
      · rfl
      · have hu := hlast u rfl
        simp [stripPadding, hu]
    · simp [stripPadding, List.replicate]
  have hmod : (text ++ List.replicate ((4 - text.length % 4) % 4) 0x3D).length % 4 = 0 := by
    rw [List.length_append, List.length_replicate]
    omega
  have hall : text.all isBase64 = true := List.all_eq_true.mpr h
  rw [atob, hspace]
  simp only [hmod, if_true, hstrip, hall, Bool.not_true, Bool.or_false,
    decide_eq_true_eq]
  rw [if_neg hlength, bufferFromBase64_eq h]

theorem atob_toBase64 (bytes : List UInt8) : atob (toBase64 bytes) = some bytes := by
  obtain ⟨hlength, hpadding⟩ := length_sextetsOf_mod bytes
  have hdigits : ((sextetsOf bytes).map base64Char).length % 4 ≠ 1 := by rwa [List.length_map]
  have hatob := atob_padded (fun u hu => isBase64_of_mem_sextets hu) hdigits
  rw [List.length_map, ← hpadding, ← toBase64_eq,
    bufferFromBase64_eq fun u hu => isBase64_of_mem_sextets hu,
    filterMap_base64Char sextetsOf_lt, bytesOfSextets_sextetsOf] at hatob
  exact hatob

end Js
