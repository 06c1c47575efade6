import SinoChat.Common.CanonicalText
import SinoChat.Model.ToDeviceRequest

/-!
# The canonical encoding of signed and hashed values

`encodeMatrixCanonicalJson` writes the bytes that are signed and hashed. Two
values have one encoding exactly when they are the same up to the order of
object keys, and a reader of the bytes gets the value back
(`encodeMatrixCanonicalJson_faithful`).
-/

namespace SinoChat

open Js

/-- `encodeMatrixCanonicalJson`. -/
def encodeMatrixCanonicalJson (value : Json) : Except ErrorCode (List UInt8) :=
  match encodeCanonical value with
  | some text => .ok (utf8 text)
  | none => .error "MATRIX_CANONICAL_JSON_NUMBER_INVALID"

/-- An accepted value has a canonical value, whose text is written. -/
theorem encodeMatrixCanonicalJson_eq_ok {value : Json} {bytes : List UInt8} :
    encodeMatrixCanonicalJson value = .ok bytes ↔
      ∃ c, canonicalize value = some c ∧ bytes = utf8 (render c) := by
  rw [encodeMatrixCanonicalJson, encodeCanonical_eq]
  cases canonicalize value with
  | none => simp
  | some c => simp [eq_comm]

/-- Values with one encoding are the same. -/
theorem same_of_encode_eq {v w : Json} {bytes : List UInt8} (hv : v.Distinct) (hw : w.Distinct)
    (h : encodeMatrixCanonicalJson v = .ok bytes) (h' : encodeMatrixCanonicalJson w = .ok bytes) :
    Same v w := by
  obtain ⟨c, hc, rfl⟩ := encodeMatrixCanonicalJson_eq_ok.mp h
  obtain ⟨d, hd, hbytes⟩ := encodeMatrixCanonicalJson_eq_ok.mp h'
  obtain rfl := (regular_of_canonicalize v hv hc).eq_of_bytes (regular_of_canonicalize w hw hd) hbytes
  exact same_of_canonicalize_eq v hc hd

/-- The same values have one encoding, if any. -/
theorem encode_eq_of_same {v w : Json} {bytes : List UInt8} (hsame : Same v w) (hv : v.Distinct)
    (h : encodeMatrixCanonicalJson v = .ok bytes) : encodeMatrixCanonicalJson w = .ok bytes := by
  obtain ⟨c, hc, rfl⟩ := encodeMatrixCanonicalJson_eq_ok.mp h
  exact encodeMatrixCanonicalJson_eq_ok.mpr ⟨c, canonicalize_eq_of_same hsame hv hc, rfl⟩

/-- **Canonical JSON is a faithful encoding**: the bytes are equal exactly for
values that are the same up to the order of keys; the text they decode to lists
the keys of every object in strictly increasing code-point order, and
`JSON.parse` makes the encoded value of it. -/
theorem encodeMatrixCanonicalJson_faithful (round : JsString → JsNumber) {v w : Json}
    {bytes bytes' : List UInt8} (hv : v.Distinct) (hw : w.Distinct)
    (hbytes : encodeMatrixCanonicalJson v = .ok bytes)
    (hbytes' : encodeMatrixCanonicalJson w = .ok bytes') :
    (bytes = bytes' ↔ Same v w) ∧
      ∃ text written value, decodeUtf8 bytes = some text ∧
        readText round text = some written ∧ written.Increasing ∧
        parseJson round text = some value ∧ Same value v := by
  obtain ⟨c, hc, rfl⟩ := encodeMatrixCanonicalJson_eq_ok.mp hbytes
  obtain ⟨d, hd, rfl⟩ := encodeMatrixCanonicalJson_eq_ok.mp hbytes'
  have hregular := regular_of_canonicalize v hv hc
  have hread : readText round (render c) = _ := hregular.readText_render
  refine ⟨⟨fun h => ?_, fun h => ?_⟩, render c, c.toJson, c.toJson.own,
    hregular.decodeUtf8_render, hread, hregular.increasing, by rw [parseJson, hread]; rfl, ?_⟩
  · obtain rfl := hregular.eq_of_bytes (regular_of_canonicalize w hw hd) h
    exact same_of_canonicalize_eq v hc hd
  · rw [Option.some.inj (hd.symm.trans (canonicalize_eq_of_same h hv hc))]
  · have hdistinct := hregular.increasing.distinct
    exact same_of_canonicalize_eq _
      (canonicalize_eq_of_same (same_own hdistinct) hdistinct hregular.canonical) hc

/-- One object listed in two orders; the emoji comes behind the private use
area by code points, and before it by code units. -/
theorem encodeMatrixCanonicalJson_faithful_emoji :
    let smile : JsString × Json := ([0xD83D, 0xDE00], .num (.integer (-7)))
    let plain : JsString × Json := ([0xE000], .null)
    let bytes := utf8 ([0x7B] ++ quote [0xE000] ++ js ":null," ++ quote [0xD83D, 0xDE00] ++
      js ":-7" ++ [0x7D])
    (bytes = bytes ↔ Same (.obj [smile, plain]) (.obj [plain, smile])) ∧
      ∃ text written value, decodeUtf8 bytes = some text ∧
        readText (fun _ => .negativeZero) text = some written ∧ written.Increasing ∧
        parseJson (fun _ => .negativeZero) text = some value ∧
        Same value (.obj [smile, plain]) :=
  encodeMatrixCanonicalJson_faithful _ ⟨by decide, trivial, trivial, trivial⟩
    ⟨by decide, trivial, trivial, trivial⟩ rfl rfl

end SinoChat
