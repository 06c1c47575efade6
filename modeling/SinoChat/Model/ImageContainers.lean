import SinoChat.Model.Http

/-!
# The containers of an image

`matrixImageAttachment.ts`: which bytes are taken for a JPEG, a PNG or a WebP.
The PNG and the WebP scanner walk along chunks whose lengths the file names.

A read outside the bytes is a fault here, so that nothing is said of the value
JavaScript would make of it; `ascii` has a default for such a read, which is
left to the same fault.
-/

namespace SinoChat

open Js

namespace ImageAttachment

/-- A read outside the bytes. -/
structure OutOfBounds where
  offset : ℕ
  deriving DecidableEq

/-! ## Reading -/

/-- `bytes[offset]`. -/
def byteAt (bytes : List UInt8) (offset : ℕ) : Except OutOfBounds ℕ :=
  orThrow (bytes[offset]?.map UInt8.toNat) ⟨offset⟩

/-- `ascii`. -/
def ascii (bytes : List UInt8) (offset : ℕ) : ℕ → Except OutOfBounds JsString
  | 0 => .ok []
  | length + 1 => do
    let byte ← byteAt bytes offset
    let value ← ascii bytes (offset + 1) length
    return byte.toUInt16 :: value

/-- Four bytes, the highest first. -/
def readUint32BigEndian (bytes : List UInt8) (offset : ℕ) : Except OutOfBounds ℕ := do
  let a ← byteAt bytes offset
  let b ← byteAt bytes (offset + 1)
  let c ← byteAt bytes (offset + 2)
  let d ← byteAt bytes (offset + 3)
  return a * 0x1000000 + b <<< 16 + c <<< 8 + d

/-- Four bytes, the lowest first. -/
def readUint32LittleEndian (bytes : List UInt8) (offset : ℕ) : Except OutOfBounds ℕ := do
  let a ← byteAt bytes offset
  let b ← byteAt bytes (offset + 1)
  let c ← byteAt bytes (offset + 2)
  let d ← byteAt bytes (offset + 3)
  return a + b <<< 8 + c <<< 16 + d * 0x1000000

/-! ## JPEG -/

/-- The markers at both ends of a JPEG file. -/
def looksLikeJpeg (bytes : List UInt8) : Except OutOfBounds Bool :=
  if bytes.length < 8 then .ok false
  else do
    let b0 ← byteAt bytes 0
    let b1 ← byteAt bytes 1
    let b2 ← byteAt bytes 2
    let b3 ← byteAt bytes 3
    let beforeLast ← byteAt bytes (bytes.length - 2)
    let last ← byteAt bytes (bytes.length - 1)
    return b0 = 0xff && b1 = 0xd8 && b2 = 0xff && b3 ≠ 0x00 && b3 ≠ 0xff &&
      beforeLast = 0xff && last = 0xd9

/-! ## PNG -/

/-- The first eight bytes of a PNG file. -/
def pngSignature : List ℕ := [0x89, 0x50, 0x4e, 0x47, 0x0d, 0x0a, 0x1a, 0x0a]

/-- Whether the bytes from an offset on are the expected ones. -/
def startsWith (bytes : List UInt8) (offset : ℕ) : List ℕ → Except OutOfBounds Bool
  | [] => .ok true
  | expected :: rest => do
    let byte ← byteAt bytes offset
    let others ← startsWith bytes (offset + 1) rest
    return byte = expected && others

/-- `[A-Za-z]`. -/
def isLetter : CharClass := fun u => isUpper u || isLower u

/-- The loop of `looksLikePng`. -/
def scanPng (bytes : List UInt8) (offset chunkIndex : ℕ) (sawImageData : Bool) :
    Except OutOfBounds Bool :=
  if offset + 12 ≤ bytes.length then do
    let length ← readUint32BigEndian bytes offset
    let type ← ascii bytes (offset + 4) 4
    let nextOffset := offset + 12 + length
    if nextOffset > bytes.length || !fixed (times 4 isLetter) type then .ok false
    else if chunkIndex = 0 && (type ≠ js "IHDR" || length ≠ 13) then .ok false
    else
      let sawImageData := sawImageData || type = js "IDAT"
      if type = js "IEND" then
        .ok (length = 0 && sawImageData && nextOffset = bytes.length)
      else scanPng bytes nextOffset (chunkIndex + 1) sawImageData
  else .ok false
termination_by bytes.length - offset

/-- The signature, and chunks that tile the rest of the file. -/
def looksLikePng (bytes : List UInt8) : Except OutOfBounds Bool :=
  if bytes.length < 45 then .ok false
  else do
    let signed ← startsWith bytes 0 pngSignature
    if signed then scanPng bytes 8 0 false else .ok false

/-! ## WebP -/

/-- `[\x20-\x7e]`. -/
def isPrintable : CharClass := fun u => 0x20 ≤ u && u ≤ 0x7E

/-- The chunks that hold an image. -/
def webpImageTypes : List JsString := [js "VP8 ", js "VP8L", js "VP8X", js "ANMF"]

/-- The loop of `looksLikeWebP`, and what is returned behind it. -/
def scanWebP (bytes : List UInt8) (offset : ℕ) (sawImageChunk : Bool) : Except OutOfBounds Bool :=
  if offset + 8 ≤ bytes.length then do
    let type ← ascii bytes offset 4
    let length ← readUint32LittleEndian bytes (offset + 4)
    let paddedLength := length + length % 2
    let nextOffset := offset + 8 + paddedLength
    if nextOffset > bytes.length || !fixed (times 4 isPrintable) type then .ok false
    else scanWebP bytes nextOffset (sawImageChunk || webpImageTypes.contains type)
  else .ok (sawImageChunk && offset = bytes.length)
termination_by bytes.length - offset

/-- The head of a RIFF file of type WebP, and chunks that tile the rest of it. -/
def looksLikeWebP (bytes : List UInt8) : Except OutOfBounds Bool :=
  if bytes.length < 20 then .ok false
  else do
    let riff ← ascii bytes 0 4
    let webp ← ascii bytes 8 4
    let size ← readUint32LittleEndian bytes 4
    if riff ≠ js "RIFF" || webp ≠ js "WEBP" || size ≠ bytes.length - 8 then .ok false
    else scanWebP bytes 12 false

/-! ## The type of an image -/

/-- The containers that are accepted. -/
inductive AllowedImageMimeType where
  | jpeg | png | webp
  deriving DecidableEq

/-- The first container the bytes look like. -/
def detectAllowedImageMimeType (bytes : List UInt8) :
    Except OutOfBounds (Option AllowedImageMimeType) := do
  let jpeg ← looksLikeJpeg bytes
  if jpeg then return some .jpeg
  let png ← looksLikePng bytes
  if png then return some .png
  let webp ← looksLikeWebP bytes
  return if webp then some .webp else none

end ImageAttachment

end SinoChat
