import SinoChat.Common.JsMap
import SinoChat.Common.Json
import SinoChat.Common.Sorting
import SinoChat.Common.Utf8

/-!
# Reading JSON

`JSON.parse`: the grammar of JSON texts, and the value a text stands for. A
text is read to a value whose objects have all members in the order of the
text (`readValue`); the object that results has each key once, with the
number keys in front (`Json.own`).

Which number a token denotes that is not the decimal form of a safe integer is
left to a parameter, `round`.
-/

namespace Js

/-! ## Strings -/

/-- White space between values. -/
def isJsonSpace : CharClass := fun u => u == 0x20 || u == 0x09 || u == 0x0A || u == 0x0D

/-- The text behind its white space. -/
def skipSpace (text : JsString) : JsString := text.dropWhile isJsonSpace

/-- The value of a hexadecimal digit. -/
def hexDigit? (u : UInt16) : Option ℕ :=
  if isDigit u then some (u.toNat - 0x30)
  else if isLowerHex u then some (u.toNat - 0x57)
  else if isUpperHex u then some (u.toNat - 0x37)
  else none

/-- The unit four hexadecimal digits stand for. -/
def hexUnit? (a b c d : UInt16) : Option UInt16 :=
  (hexDigit? a).bind fun a => (hexDigit? b).bind fun b => (hexDigit? c).bind fun c =>
    (hexDigit? d).map fun d => (4096 * a + 256 * b + 16 * c + d).toUInt16

/-- The unit the letter of a short escape stands for. -/
def escapeLetter? (u : UInt16) : Option UInt16 :=
  if u = 0x22 ∨ u = 0x5C ∨ u = 0x2F then some u
  else if u = 0x62 then some 0x08
  else if u = 0x66 then some 0x0C
  else if u = 0x6E then some 0x0A
  else if u = 0x72 then some 0x0D
  else if u = 0x74 then some 0x09
  else none

/-- Read a unit of a string: what is written as itself or behind a backslash. -/
def readUnit : JsString → Option (UInt16 × JsString)
  | [] => none
  | u :: rest =>
    if u = 0x5C then
      match rest with
      | e :: a :: b :: c :: d :: rest' =>
        if e = 0x75 then (hexUnit? a b c d).map fun v => (v, rest')
        else (escapeLetter? e).map fun v => (v, a :: b :: c :: d :: rest')
      | e :: rest' => (escapeLetter? e).map fun v => (v, rest')
      | [] => none
    else if u < 0x20 then none
    else some (u, rest)

/-- Read a string behind its opening quote, with as many units as `fuel` at most. -/
def readUnits : ℕ → JsString → Option (JsString × JsString)
  | 0, _ => none
  | fuel + 1, text =>
    match text with
    | [] => none
    | u :: rest =>
      if u = 0x22 then some ([], rest)
      else (readUnit text).bind fun p => (readUnits fuel p.2).map fun q => (p.1 :: q.1, q.2)

/-- Read a string behind its opening quote. -/
def readString (text : JsString) : Option (JsString × JsString) := readUnits text.length text

/-! ## Numbers -/

/-- The number a row of digits stands for. -/
def digitsValue (digits : JsString) : ℕ := Nat.ofDigitChars 10 (digits.map digitChar) 0

/-- The digits in front of a text, at least one. -/
def readDigits (text : JsString) : Option (JsString × JsString) :=
  let digits := text.takeWhile isDigit
  if digits = [] then none else some (digits, text.dropWhile isDigit)

/-- The digits behind a point. -/
def readFraction : JsString → Option (JsString × JsString)
  | [] => some ([], [])
  | u :: rest =>
    if u = 0x2E then (readDigits rest).map fun p => (u :: p.1, p.2) else some ([], u :: rest)

/-- The exponent, with or without a sign. -/
def readExponent : JsString → Option (JsString × JsString)
  | [] => some ([], [])
  | u :: rest =>
    if u = 0x65 ∨ u = 0x45 then
      match rest with
      | s :: rest' =>
        if s = 0x2B ∨ s = 0x2D then (readDigits rest').map fun p => (u :: s :: p.1, p.2)
        else (readDigits rest).map fun p => (u :: p.1, p.2)
      | [] => none
    else some ([], u :: rest)

/-- The number of an integer token. -/
def integerOf (negative : Bool) (n : ℕ) : JsNumber :=
  if negative then if n = 0 then .negativeZero else .integer (-n) else .integer n

/-- Read a number without its sign. -/
def readMagnitude (round : JsString → JsNumber) (negative : Bool) (text : JsString) :
    Option (JsNumber × JsString) :=
  (readDigits text).bind fun whole =>
    if whole.1.head? = some 0x30 ∧ 1 < whole.1.length then none
    else (readFraction whole.2).bind fun fraction => (readExponent fraction.2).map fun exponent =>
      if fraction.1 = [] ∧ exponent.1 = [] ∧ digitsValue whole.1 ≤ 2 ^ 53 - 1 then
        (integerOf negative (digitsValue whole.1), exponent.2)
      else
        (round ((if negative then [0x2D] else []) ++ whole.1 ++ fraction.1 ++ exponent.1),
          exponent.2)

/-- Read a number with its sign. -/
def readNumber (round : JsString → JsNumber) : JsString → Option (JsNumber × JsString)
  | [] => none
  | u :: rest =>
    if u = 0x2D then readMagnitude round true rest else readMagnitude round false (u :: rest)

/-! ## Values -/

/-- Read one of the three literals. -/
def readLiteral (text : JsString) : Option (Json × JsString) :=
  if js "null" <+: text then some (.null, text.drop 4)
  else if js "true" <+: text then some (.bool true, text.drop 4)
  else if js "false" <+: text then some (.bool false, text.drop 5)
  else none

/-- Read a key with its colon. -/
def readKey (text : JsString) : Option (JsString × JsString) :=
  match skipSpace text with
  | [] => none
  | u :: rest =>
    if u = 0x22 then
      (readString rest).bind fun p =>
        match skipSpace p.2 with
        | [] => none
        | v :: rest' => if v = 0x3A then some (p.1, rest') else none
    else none

mutual

/-- Read a value; `fuel` bounds the nesting. -/
def readValue (round : JsString → JsNumber) : ℕ → JsString → Option (Json × JsString)
  | 0, _ => none
  | fuel + 1, text =>
    match skipSpace text with
    | [] => none
    | u :: rest =>
      if u = 0x22 then (readString rest).map fun p => (.str p.1, p.2)
      else if u = 0x5B then
        match skipSpace rest with
        | [] => none
        | v :: rest' =>
          if v = 0x5D then some (.arr [], rest')
          else (readItems round fuel rest).map fun p => (.arr p.1, p.2)
      else if u = 0x7B then
        match skipSpace rest with
        | [] => none
        | v :: rest' =>
          if v = 0x7D then some (.obj [], rest')
          else (readMembers round fuel rest).map fun p => (.obj p.1, p.2)
      else if isDigit u || u = 0x2D then
        (readNumber round (u :: rest)).map fun p => (.num p.1, p.2)
      else readLiteral (u :: rest)

/-- Read the items of an array that has one, with its closing bracket. -/
def readItems (round : JsString → JsNumber) : ℕ → JsString → Option (List Json × JsString)
  | 0, _ => none
  | fuel + 1, text =>
    (readValue round fuel text).bind fun item =>
      match skipSpace item.2 with
      | [] => none
      | u :: rest =>
        if u = 0x2C then (readItems round fuel rest).map fun p => (item.1 :: p.1, p.2)
        else if u = 0x5D then some ([item.1], rest)
        else none

/-- Read the members of an object that has one, with its closing brace. -/
def readMembers (round : JsString → JsNumber) :
    ℕ → JsString → Option (List (JsString × Json) × JsString)
  | 0, _ => none
  | fuel + 1, text =>
    (readKey text).bind fun key => (readValue round fuel key.2).bind fun value =>
      match skipSpace value.2 with
      | [] => none
      | u :: rest =>
        if u = 0x2C then
          (readMembers round fuel rest).map fun p => ((key.1, value.1) :: p.1, p.2)
        else if u = 0x7D then some ([(key.1, value.1)], rest)
        else none

end

/-- Read a whole text. -/
def readText (round : JsString → JsNumber) (text : JsString) : Option Json :=
  (readValue round (2 * text.length) text).bind fun p =>
    if skipSpace p.2 = [] then some p.1 else none

/-! ## Own properties -/

/-- A key that is an array index. -/
def isArrayIndex (key : JsString) : Bool :=
  key = decimal (digitsValue key) && key.all isDigit && digitsValue key < 2 ^ 32 - 1

/-- `OrdinaryOwnPropertyKeys`: array indices in ascending order, then the
other keys as they came. -/
def ownOrder {α : Type} (entries : List (JsString × α)) : List (JsString × α) :=
  ((entries.filter fun e => isArrayIndex e.1).sortBy fun e => digitsValue e.1) ++
    entries.filter fun e => !isArrayIndex e.1

mutual

/-- The value with the objects a reader makes of the members it reads. -/
def Json.own : Json → Json
  | .arr items => .arr (ownItems items)
  | .obj entries => .obj (ownOrder (JsMap.ofEntries (ownEntries entries)))
  | json => json

/-- The same for the items of a list. -/
def ownItems : List Json → List Json
  | [] => []
  | item :: rest => item.own :: ownItems rest

/-- The same for the members of an object. -/
def ownEntries : List (JsString × Json) → List (JsString × Json)
  | [] => []
  | (key, value) :: rest => (key, value.own) :: ownEntries rest

end

/-- **`JSON.parse`.** -/
def parseJson (round : JsString → JsNumber) (text : JsString) : Option Json :=
  (readText round text).map Json.own

end Js
