import SinoChat.Common.Base64
import SinoChat.Common.Utf8

/-!
# Base64url, and bytes as text

`Buffer.toString("base64url")`: the alphabet with `-` and `_`, and no padding. What
is written is read back (`bufferFromBase64_toBase64Url`). `Buffer.toString("utf8")`
replaces what is not UTF-8; what a fatal decoder takes it reads to the same text
(`bufferToString_of_decodeUtf8`).
-/

namespace Js

/-! ## Base64url -/

/-- A character in the alphabet of base64url. -/
def base64UrlUnit (u : UInt16) : UInt16 := if u = 0x2B then 0x2D else if u = 0x2F then 0x5F else u

/-- `Buffer.toString("base64url")`. -/
def toBase64Url (bytes : List UInt8) : JsString := (unpadded (toBase64 bytes)).map base64UrlUnit

theorem toBase64Url_eq (bytes : List UInt8) :
    toBase64Url bytes = (sextetsOf bytes).map fun n => base64UrlUnit (base64Char n) := by
  rw [toBase64Url, unpadded_toBase64, List.map_map]
  rfl

theorem length_toBase64Url (bytes : List UInt8) :
    (toBase64Url bytes).length = (bytes.length * 8 + 5) / 6 := by
  rw [toBase64Url_eq, List.length_map, length_sextetsOf]

theorem isBase64Url_of_mem {bytes : List UInt8} {u : UInt16} (h : u ∈ toBase64Url bytes) :
    isBase64Url u = true := by
  have hall : ∀ n : Fin 64, isBase64Url (base64UrlUnit (base64Char n)) = true := by decide
  rw [toBase64Url_eq] at h
  obtain ⟨n, hn, rfl⟩ := List.mem_map.mp h
  exact hall ⟨n, sextetsOf_lt n hn⟩

/-- **Both readers of base64 take the other alphabet.** -/
theorem bufferFromBase64_toBase64Url (bytes : List UInt8) :
    bufferFromBase64 (toBase64Url bytes) = bytes := by
  have hall : ∀ n : Fin 64,
      (let u := base64UrlUnit (base64Char n)
       if u = 0x2D then some 62 else if u = 0x5F then some 63 else base64Digit? u) = some n.val := by
    decide
  have hdigits : ∀ ns : List ℕ, (∀ n ∈ ns, n < 64) →
      (ns.map fun n => base64UrlUnit (base64Char n)).filterMap (fun u =>
        if u = 0x2D then some 62 else if u = 0x5F then some 63 else base64Digit? u) = ns := by
    intro ns
    induction ns with
    | nil => simp
    | cons n rest ih =>
      intro hlt
      obtain ⟨hn, hrest⟩ := List.forall_mem_cons.mp hlt
      have hdigit := hall ⟨n, hn⟩
      simp only at hdigit
      rw [List.map_cons, List.filterMap_cons, hdigit, ih hrest]
  rw [toBase64Url_eq, bufferFromBase64, hdigits _ sextetsOf_lt, bytesOfSextets_sextetsOf]

theorem toBase64Url_injective : Function.Injective toBase64Url := fun a b h => by
  rw [← bufferFromBase64_toBase64Url a, h, bufferFromBase64_toBase64Url]

/-! ## Replacement -/

/-- What a first byte gives: a text, and the state behind it. -/
def firstByte (b : UInt8) : JsString × Utf8State :=
  if b.toNat < 0x80 then (unitsOfPoint b.toNat, .start)
  else match Utf8State.behind b.toNat with
    | some next => ([], next)
    | none => ([0xFFFD], .start)

/-- What a byte gives in a state. One that does not go on with a code point ends it, and
is a first byte then. -/
def nextByte (s : Utf8State) (b : UInt8) : JsString × Utf8State :=
  if s.needed = 0 then firstByte b
  else if s.lower ≤ b.toNat ∧ b.toNat ≤ s.upper then
    let point := s.point * 0x40 + (b.toNat - 0x80)
    if s.needed = 1 then (unitsOfPoint point, .start)
    else ([], ⟨point, s.needed - 1, 0x80, 0xBF⟩)
  else (0xFFFD :: (firstByte b).1, (firstByte b).2)

/-- The decoder that replaces, from a state on. -/
def replaceFrom : Utf8State → List UInt8 → JsString
  | s, [] => if s.needed = 0 then [] else [0xFFFD]
  | s, b :: rest => (nextByte s b).1 ++ replaceFrom (nextByte s b).2 rest

/-- `buffer.toString("utf8")`. -/
def bufferToString (bytes : List UInt8) : JsString := replaceFrom .start bytes

theorem replaceFrom_of_decodeFrom {s : Utf8State} {bytes : List UInt8} {text : JsString}
    (h : decodeFrom s bytes = some text) : replaceFrom s bytes = text := by
  induction bytes generalizing s text with
  | nil =>
    rw [decodeFrom] at h
    split_ifs at h with hneeded
    obtain rfl := Option.some.inj h
    rw [replaceFrom, if_pos hneeded]
  | cons b rest ih =>
    rw [decodeFrom] at h
    rw [replaceFrom]
    split_ifs at h with hneeded hascii hrange hlast
    · obtain ⟨tail, htail, rfl⟩ := Option.map_eq_some_iff.mp h
      rw [nextByte, if_pos hneeded, firstByte, if_pos hascii, ih htail]
    · obtain ⟨next, hnext, htail⟩ := Option.bind_eq_some_iff.mp h
      rw [nextByte, if_pos hneeded, firstByte, if_neg hascii, hnext]
      exact ih htail
    · obtain ⟨tail, htail, rfl⟩ := Option.map_eq_some_iff.mp h
      simp only [nextByte, if_neg hneeded, if_pos hrange, if_pos hlast, ih htail]
    · simp only [nextByte, if_neg hneeded, if_pos hrange, if_neg hlast, ih h, List.nil_append]

theorem bufferToString_of_decodeUtf8 {bytes : List UInt8} {text : JsString}
    (h : decodeUtf8 bytes = some text) : bufferToString bytes = text :=
  replaceFrom_of_decodeFrom h

/-! ## Bytes of ASCII texts -/

theorem not_surrogate_of_ascii {u : UInt16} (h : u.toNat < 0x80) :
    isHighSurrogate u = false ∧ isLowSurrogate u = false := by
  constructor
  · by_contra hnot
    have := isHighSurrogate_iff.mp (Bool.eq_true_of_not_eq_false hnot)
    omega
  · by_contra hnot
    have := isLowSurrogate_iff.mp (Bool.eq_true_of_not_eq_false hnot)
    omega

end Js
