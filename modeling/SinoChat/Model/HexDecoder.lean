import SinoChat.Model.MessageContent

/-!
# The loop of `decodeUnpaddedBase64ToHex`

`messageContent.ts` decodes unpadded base64 with a bit accumulator. Its numbers go
through the bitwise operators, so the accumulator is a word of 32 bits here, and the
inner loop is the recursion on the number of bits that wait. The text is walked by
characters: a surrogate pair is one of them.
-/

namespace SinoChat

open Js

namespace HexDecoder

/-- The characters of `for (const character of value)`. -/
def characters : JsString → List JsString
  | [] => []
  | [u] => [[u]]
  | u :: v :: rest =>
    if isHighSurrogate u && isLowSurrogate v then [u, v] :: characters rest
    else [u] :: characters (v :: rest)

/-- The alphabet of the decoder, which is searched for each character. -/
def alphabet (urlSafe : Bool) : JsString :=
  if urlSafe then js "ABCDEFGHIJKLMNOPQRSTUVWXYZabcdefghijklmnopqrstuvwxyz0123456789-_"
  else js "ABCDEFGHIJKLMNOPQRSTUVWXYZabcdefghijklmnopqrstuvwxyz0123456789+/"

/-- `text.indexOf(part)`, where it is not negative. -/
def indexOf? (part : JsString) : JsString → Option ℕ
  | [] => if part = [] then some 0 else none
  | u :: rest => if part.isPrefixOf (u :: rest) then some 0 else (indexOf? part rest).map (· + 1)

/-- `n.toString(16)`. -/
def toString16 (n : ℕ) : JsString :=
  if n < 16 then [hexDigit n] else toString16 (n / 16) ++ [hexDigit (n % 16)]

/-- `text.padStart(width, "0")`. -/
def padStart (width : ℕ) (text : JsString) : JsString :=
  List.replicate (width - text.length) 0x30 ++ text

/-- The variables of the loop. -/
structure Decoder where
  accumulator : BitVec 32
  bits : ℕ
  output : JsString

/-- `bits === 0 ? 0 : (1 << bits) - 1`. -/
def mask (bits : ℕ) : BitVec 32 := if bits = 0 then 0 else ((1 : BitVec 32) <<< bits) - 1

/-- `while (bits >= 8)`, with one byte written in each round. -/
def drain (accumulator : BitVec 32) : ℕ → JsString → Decoder
  | bits + 8, output =>
    let byte := (accumulator >>> bits) &&& 0xff
    drain (accumulator &&& mask bits) bits (output ++ padStart 2 (toString16 byte.toNat))
  | bits, output => ⟨accumulator, bits, output⟩

/-- `(accumulator << 6) | sextet`. -/
def shiftIn (accumulator : BitVec 32) (sextet : ℕ) : BitVec 32 :=
  accumulator <<< 6 ||| BitVec.ofNat 32 sextet

/-- One character. -/
def step (urlSafe : Bool) (s : Decoder) (character : JsString) : Except ErrorCode Decoder := do
  let sextet ← orThrow (indexOf? character (alphabet urlSafe)) "SINOCHAT_ATTACHMENT_INFO_INVALID"
  return drain (shiftIn s.accumulator sextet) (s.bits + 6) s.output

/-- The loop over some characters. -/
def read (urlSafe : Bool) (text : List JsString) : Except ErrorCode Decoder :=
  text.foldlM (step urlSafe) ⟨0, 0, []⟩

/-- `decodeUnpaddedBase64ToHex`. -/
def decodeUnpaddedBase64ToHex (value : JsString) (urlSafe : Bool) : Except ErrorCode JsString := do
  let s ← read urlSafe (characters value)
  require (!(0 < s.bits && s.accumulator ≠ 0)) "SINOCHAT_ATTACHMENT_INFO_INVALID"
  return s.output

end HexDecoder

end SinoChat
