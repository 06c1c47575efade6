import SinoChat.Common.Json
import Mathlib.Data.List.Lex
import Mathlib.Data.List.Sort

/-!
# Canonical JSON, and its unique readability

Canonical JSON writes an object with its keys in code-point order and admits
integers of safe range only. Two values with the same canonical text are the
same value up to the order of object keys (`canonicalize_eq_of_encode`), so
a digest of that text identifies the value as far as the digest identifies
its input.

The text of a value is read back by one induction over values whose
statement carries what follows the text (`render_append_inj`): a number ends
where no digit follows, every other value ends by itself.
-/

namespace Js

/-! ## The encoding -/

/-- `compareUnicodeCodePoints(left, right) <= 0`. -/
def codePointLe (left right : JsString) : Bool := decide (codePoints left ≤ codePoints right)

/-- Entries in the code-point order of their keys. -/
def sortByKey {α : Type*} (entries : List (JsString × α)) : List (JsString × α) :=
  entries.insertionSort fun a b => codePointLe a.1 b.1 = true

/-- The text of one member of an object. -/
def member (entry : JsString × JsString) : JsString := quote entry.1 ++ js ":" ++ entry.2

mutual

/-- The canonical text of a value; `none` where a number has no canonical form. -/
def encodeCanonical : Json → Option JsString
  | .null => some (js "null")
  | .bool true => some (js "true")
  | .bool false => some (js "false")
  | .str s => some (quote s)
  | .num (.integer n) => if n.natAbs ≤ 2 ^ 53 - 1 then some (decimalInt n) else none
  | .num _ => none
  | .arr items =>
    (encodeItems items).map fun texts => js "[" ++ joinComma texts ++ js "]"
  | .obj entries =>
    (encodeEntries entries).map fun texts =>
      js "\x7b" ++ joinComma ((sortByKey texts).map member) ++ js "\x7d"

/-- The canonical texts of the items of an array. -/
def encodeItems : List Json → Option (List JsString)
  | [] => some []
  | item :: rest =>
    (encodeCanonical item).bind fun text => (encodeItems rest).map fun texts => text :: texts

/-- The keys of an object with the canonical texts of their values. -/
def encodeEntries : List (JsString × Json) → Option (List (JsString × JsString))
  | [] => some []
  | (key, value) :: rest =>
    (encodeCanonical value).bind fun text =>
      (encodeEntries rest).map fun texts => (key, text) :: texts

end

/-! ## Canonical values -/

/-- A value with a canonical form, its objects sorted by key. -/
inductive Canonical where
  | null
  | bool (value : Bool)
  | int (value : ℤ)
  | str (value : JsString)
  | arr (items : List Canonical)
  | obj (entries : List (JsString × Canonical))

mutual

/-- The canonical value of a value: what is left when the order of object
keys is forgotten. -/
def canonicalize : Json → Option Canonical
  | .null => some .null
  | .bool b => some (.bool b)
  | .str s => some (.str s)
  | .num (.integer n) => if n.natAbs ≤ 2 ^ 53 - 1 then some (.int n) else none
  | .num _ => none
  | .arr items => (canonicalizeItems items).map .arr
  | .obj entries => (canonicalizeEntries entries).map fun es => .obj (sortByKey es)

/-- The same for the items of a list. -/
def canonicalizeItems : List Json → Option (List Canonical)
  | [] => some []
  | item :: rest =>
    (canonicalize item).bind fun c => (canonicalizeItems rest).map fun cs => c :: cs

/-- The same for the members of an object. -/
def canonicalizeEntries : List (JsString × Json) → Option (List (JsString × Canonical))
  | [] => some []
  | (key, value) :: rest =>
    (canonicalize value).bind fun c => (canonicalizeEntries rest).map fun cs => (key, c) :: cs

end

mutual

/-- The text of a canonical value. -/
def render : Canonical → JsString
  | .null => js "null"
  | .bool true => js "true"
  | .bool false => js "false"
  | .int n => decimalInt n
  | .str s => quote s
  | .arr items => js "[" ++ joinComma (renderItems items) ++ js "]"
  | .obj entries => js "\x7b" ++ joinComma (renderEntries entries) ++ js "\x7d"

/-- The same for the items of a list. -/
def renderItems : List Canonical → List JsString
  | [] => []
  | item :: rest => render item :: renderItems rest

/-- The same for the members of an object. -/
def renderEntries : List (JsString × Canonical) → List JsString
  | [] => []
  | (key, value) :: rest => (quote key ++ js ":" ++ render value) :: renderEntries rest

end

theorem renderEntries_eq_map (entries : List (JsString × Canonical)) :
    renderEntries entries = (entries.map fun e => (e.1, render e.2)).map member := by
  induction entries with
  | nil => rfl
  | cons e rest ih => simp [renderEntries, ih, member]

/-- Sorting by key does not look at what the keys carry. -/
theorem sortByKey_map {α β : Type*} (f : α → β) (entries : List (JsString × α)) :
    (sortByKey entries).map (fun e => (e.1, f e.2)) =
      sortByKey (entries.map fun e => (e.1, f e.2)) :=
  List.map_insertionSort _ _ _ _ fun _ _ _ _ => Iff.rfl

mutual

/-- **The encoding is the text of the canonical value.** -/
theorem encodeCanonical_eq : ∀ j : Json, encodeCanonical j = (canonicalize j).map render
  | .null => rfl
  | .bool true => rfl
  | .bool false => rfl
  | .str _ => rfl
  | .num (.integer n) => by
    simp only [encodeCanonical, canonicalize]
    split_ifs <;> rfl
  | .num .negativeZero => rfl
  | .num (.fraction ..) => rfl
  | .arr items => by
    simp only [encodeCanonical, canonicalize, encodeItems_eq items, Option.map_map]
    rfl
  | .obj entries => by
    simp only [encodeCanonical, canonicalize, encodeEntries_eq entries, Option.map_map]
    congr 1
    funext es
    simp only [Function.comp, render, renderEntries_eq_map, sortByKey_map]

theorem encodeItems_eq : ∀ items : List Json,
    encodeItems items = (canonicalizeItems items).map renderItems
  | [] => rfl
  | item :: rest => by
    simp only [encodeItems, canonicalizeItems, encodeCanonical_eq item, encodeItems_eq rest]
    cases canonicalize item <;> cases canonicalizeItems rest <;> rfl

theorem encodeEntries_eq : ∀ entries : List (JsString × Json),
    encodeEntries entries =
      (canonicalizeEntries entries).map fun es => es.map fun e => (e.1, render e.2)
  | [] => rfl
  | (key, value) :: rest => by
    simp only [encodeEntries, canonicalizeEntries, encodeCanonical_eq value,
      encodeEntries_eq rest]
    cases canonicalize value <;> cases canonicalizeEntries rest <;> rfl

end

/-! ## Unique readability -/

/-- What may follow a value: the end of the text, a comma or a closing bracket. -/
def Delimited (rest : JsString) : Prop := ∀ u ∈ rest.head?, u = 0x2C ∨ u = 0x5D ∨ u = 0x7D

theorem Delimited.noDigitHead {rest : JsString} (h : Delimited rest) : NoDigitHead rest := by
  intro u hu
  rcases h u hu with rfl | rfl | rfl <;> decide

@[simp] theorem delimited_nil : Delimited [] := by simp [Delimited]

@[simp] theorem delimited_cons {u : UInt16} {rest : JsString} :
    Delimited (u :: rest) ↔ u = 0x2C ∨ u = 0x5D ∨ u = 0x7D := by
  simp [Delimited]

/-- The items after the first, each behind its comma. -/
def commaTail (texts : List JsString) : JsString := texts.flatMap fun s => 0x2C :: s

@[simp] theorem commaTail_nil : commaTail [] = [] := rfl

@[simp] theorem commaTail_cons (t : JsString) (ts : List JsString) :
    commaTail (t :: ts) = 0x2C :: (t ++ commaTail ts) := rfl

@[simp] theorem joinComma_cons (t : JsString) (ts : List JsString) :
    joinComma (t :: ts) = t ++ commaTail ts := rfl

theorem delimited_commaTail {texts : List JsString} {u : UInt16} {rest : JsString}
    (h : u = 0x5D ∨ u = 0x7D) : Delimited (commaTail texts ++ u :: rest) := by
  cases texts with
  | nil => simpa using Or.inr h
  | cons t ts => simp

/-- What the first unit of a text says about the value: a letter, a quote, a
bracket, a brace, and otherwise a number. -/
def leadOf : Canonical → UInt16
  | .null => 0x6E
  | .bool true => 0x74
  | .bool false => 0x66
  | .int _ => 0x30
  | .str _ => 0x22
  | .arr _ => 0x5B
  | .obj _ => 0x7B

/-- The first unit of a text, all digits and the minus sign taken for one. -/
def lead (u : UInt16) : UInt16 := if isDigit u || u == 0x2D then 0x30 else u

theorem lead_render (c : Canonical) : ∃ u us, render c = u :: us ∧ lead u = leadOf c := by
  rcases c with _ | (_ | _) | n | s | items | entries
  · exact ⟨_, _, rfl, rfl⟩
  · exact ⟨_, _, rfl, rfl⟩
  · exact ⟨_, _, rfl, rfl⟩
  · rw [render, decimalInt]
    split_ifs
    · exact ⟨_, _, rfl, rfl⟩
    · obtain ⟨u, us, hu⟩ := List.exists_cons_of_ne_nil (decimal_ne_nil n.natAbs)
      refine ⟨u, us, hu, ?_⟩
      have hdigit : isDigit u = true := isDigit_of_mem_decimal (n := n.natAbs) (by rw [hu]; simp)
      simp [lead, hdigit, leadOf]
  · exact ⟨_, _, rfl, rfl⟩
  · exact ⟨_, _, rfl, rfl⟩
  · exact ⟨_, _, rfl, rfl⟩

theorem leadOf_eq_of_render {a b : Canonical} {r r' : JsString}
    (h : render a ++ r = render b ++ r') : leadOf a = leadOf b := by
  obtain ⟨u, us, hu, hlead⟩ := lead_render a
  obtain ⟨v, vs, hv, hlead'⟩ := lead_render b
  rw [hu, hv] at h
  rw [← hlead, ← hlead', (List.cons.inj h).1]

theorem leadOf_ne_closing (c : Canonical) : leadOf c ≠ 0x5D ∧ leadOf c ≠ 0x7D := by
  rcases c with _ | (_ | _) | n | s | items | entries <;> simp [leadOf]

/-- A closing bracket opens no value. -/
theorem render_ne_closing {c : Canonical} {u : UInt16} {r r' : JsString}
    (hu : u = 0x5D ∨ u = 0x7D) : render c ++ r ≠ u :: r' := by
  obtain ⟨v, vs, hv, hlead⟩ := lead_render c
  rw [hv]
  intro h
  obtain ⟨rfl, -⟩ := List.cons.inj h
  rcases hu with rfl | rfl
  · exact (leadOf_ne_closing c).1 hlead.symm
  · exact (leadOf_ne_closing c).2 hlead.symm

mutual

/-- **Canonical texts are uniquely readable**: two texts that start with the
text of a value start with the same value. -/
theorem render_append_inj : ∀ (a b : Canonical) {r r' : JsString}, Delimited r → Delimited r' →
    render a ++ r = render b ++ r' → a = b ∧ r = r'
  | .null, b, r, r', hr, hr', h => by
    have hlead := leadOf_eq_of_render h
    rcases b with _ | (_ | _) | n | s | items | entries <;> simp [leadOf] at hlead
    exact ⟨rfl, List.append_cancel_left h⟩
  | .bool true, b, r, r', hr, hr', h => by
    have hlead := leadOf_eq_of_render h
    rcases b with _ | (_ | _) | n | s | items | entries <;> simp [leadOf] at hlead
    exact ⟨rfl, List.append_cancel_left h⟩
  | .bool false, b, r, r', hr, hr', h => by
    have hlead := leadOf_eq_of_render h
    rcases b with _ | (_ | _) | n | s | items | entries <;> simp [leadOf] at hlead
    exact ⟨rfl, List.append_cancel_left h⟩
  | .int m, b, r, r', hr, hr', h => by
    have hlead := leadOf_eq_of_render h
    rcases b with _ | (_ | _) | n | s | items | entries <;> simp [leadOf] at hlead
    obtain ⟨rfl, hrest⟩ := decimalInt_append_inj hr.noDigitHead hr'.noDigitHead h
    exact ⟨rfl, hrest⟩
  | .str s, b, r, r', hr, hr', h => by
    have hlead := leadOf_eq_of_render h
    rcases b with _ | (_ | _) | n | t | items | entries <;> simp [leadOf] at hlead
    obtain ⟨rfl, hrest⟩ := quote_append_inj h
    exact ⟨rfl, hrest⟩
  | .arr xs, b, r, r', hr, hr', h => by
    have hlead := leadOf_eq_of_render h
    rcases b with _ | (_ | _) | n | t | ys | entries <;> simp [leadOf] at hlead
    have body : joinComma (renderItems xs) ++ 0x5D :: r =
        joinComma (renderItems ys) ++ 0x5D :: r' := by
      simp only [render, List.append_assoc] at h
      exact List.append_cancel_left h
    obtain ⟨rfl, hrest⟩ := renderItems_append_inj xs ys body
    exact ⟨rfl, hrest⟩
  | .obj xs, b, r, r', hr, hr', h => by
    have hlead := leadOf_eq_of_render h
    rcases b with _ | (_ | _) | n | t | items | ys <;> simp [leadOf] at hlead
    have body : joinComma (renderEntries xs) ++ 0x7D :: r =
        joinComma (renderEntries ys) ++ 0x7D :: r' := by
      simp only [render, List.append_assoc] at h
      exact List.append_cancel_left h
    obtain ⟨rfl, hrest⟩ := renderEntries_append_inj xs ys body
    exact ⟨rfl, hrest⟩

/-- The items of an array, up to its closing bracket. -/
theorem renderItems_append_inj : ∀ (xs ys : List Canonical) {r r' : JsString},
    joinComma (renderItems xs) ++ 0x5D :: r = joinComma (renderItems ys) ++ 0x5D :: r' →
      xs = ys ∧ r = r'
  | [], [], r, r', h => ⟨rfl, (List.cons.inj h).2⟩
  | [], y :: ys, r, r', h => by
    rw [renderItems, renderItems, joinComma_cons, List.append_assoc] at h
    exact absurd h.symm (render_ne_closing (.inl rfl))
  | x :: xs, [], r, r', h => by
    rw [renderItems, renderItems, joinComma_cons, List.append_assoc] at h
    exact absurd h (render_ne_closing (.inl rfl))
  | x :: xs, y :: ys, r, r', h => by
    simp only [renderItems, joinComma_cons, List.append_assoc] at h
    obtain ⟨rfl, htail⟩ := render_append_inj x y (delimited_commaTail (.inl rfl))
      (delimited_commaTail (.inl rfl)) h
    obtain ⟨rfl, hrest⟩ := renderItems_tail_inj xs ys htail
    exact ⟨rfl, hrest⟩

/-- The items after the first. -/
theorem renderItems_tail_inj : ∀ (xs ys : List Canonical) {r r' : JsString},
    commaTail (renderItems xs) ++ 0x5D :: r = commaTail (renderItems ys) ++ 0x5D :: r' →
      xs = ys ∧ r = r'
  | [], [], r, r', h => ⟨rfl, (List.cons.inj h).2⟩
  | [], y :: ys, r, r', h => by simp [renderItems] at h
  | x :: xs, [], r, r', h => by simp [renderItems] at h
  | x :: xs, y :: ys, r, r', h => by
    simp only [renderItems, commaTail_cons, List.cons_append, List.append_assoc,
      List.cons.injEq, true_and] at h
    obtain ⟨rfl, htail⟩ := render_append_inj x y (delimited_commaTail (.inl rfl))
      (delimited_commaTail (.inl rfl)) h
    obtain ⟨rfl, hrest⟩ := renderItems_tail_inj xs ys htail
    exact ⟨rfl, hrest⟩

/-- The entries of an object, up to its closing brace. -/
theorem renderEntries_append_inj : ∀ (xs ys : List (JsString × Canonical)) {r r' : JsString},
    joinComma (renderEntries xs) ++ 0x7D :: r = joinComma (renderEntries ys) ++ 0x7D :: r' →
      xs = ys ∧ r = r'
  | [], [], r, r', h => ⟨rfl, (List.cons.inj h).2⟩
  | [], (k, y) :: ys, r, r', h => by simp [renderEntries, joinComma, quote] at h
  | (k, x) :: xs, [], r, r', h => by simp [renderEntries, joinComma, quote] at h
  | (k, x) :: xs, (l, y) :: ys, r, r', h => by
    simp only [renderEntries, joinComma_cons, List.append_assoc] at h
    obtain ⟨rfl, hvalue⟩ := quote_append_inj h
    obtain ⟨rfl, htail⟩ := render_append_inj x y (delimited_commaTail (.inr rfl))
      (delimited_commaTail (.inr rfl)) (List.append_cancel_left hvalue)
    obtain ⟨rfl, hrest⟩ := renderEntries_tail_inj xs ys htail
    exact ⟨rfl, hrest⟩

/-- The entries after the first. -/
theorem renderEntries_tail_inj : ∀ (xs ys : List (JsString × Canonical)) {r r' : JsString},
    commaTail (renderEntries xs) ++ 0x7D :: r = commaTail (renderEntries ys) ++ 0x7D :: r' →
      xs = ys ∧ r = r'
  | [], [], r, r', h => ⟨rfl, (List.cons.inj h).2⟩
  | [], (k, y) :: ys, r, r', h => by simp [renderEntries] at h
  | (k, x) :: xs, [], r, r', h => by simp [renderEntries] at h
  | (k, x) :: xs, (l, y) :: ys, r, r', h => by
    simp only [renderEntries, commaTail_cons, List.cons_append, List.append_assoc,
      List.cons.injEq, true_and] at h
    obtain ⟨rfl, hvalue⟩ := quote_append_inj h
    obtain ⟨rfl, htail⟩ := render_append_inj x y (delimited_commaTail (.inr rfl))
      (delimited_commaTail (.inr rfl)) (List.append_cancel_left hvalue)
    obtain ⟨rfl, hrest⟩ := renderEntries_tail_inj xs ys htail
    exact ⟨rfl, hrest⟩

end

theorem render_injective {a b : Canonical} (h : render a = render b) : a = b := by
  have happ : render a ++ [] = render b ++ [] := by rw [h]
  exact (render_append_inj a b delimited_nil delimited_nil happ).1

/-- **Equal canonical texts are texts of the same value** up to key order. -/
theorem canonicalize_eq_of_encode {a b : Json} {text : JsString}
    (ha : encodeCanonical a = some text) (hb : encodeCanonical b = some text) :
    canonicalize a = canonicalize b := by
  rw [encodeCanonical_eq] at ha hb
  obtain ⟨c, hc, hct⟩ := Option.map_eq_some_iff.mp ha
  obtain ⟨d, hd, hdt⟩ := Option.map_eq_some_iff.mp hb
  rw [hc, hd, render_injective (hct.trans hdt.symm)]

/-- Values equal up to key order have one canonical text. -/
theorem encode_eq_of_canonicalize {a b : Json} (h : canonicalize a = canonicalize b) :
    encodeCanonical a = encodeCanonical b := by
  rw [encodeCanonical_eq, encodeCanonical_eq, h]

end Js
