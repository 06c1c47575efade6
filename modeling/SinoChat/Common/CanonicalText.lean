import SinoChat.Common.JsonReadback
import SinoChat.Common.JsonSame

/-!
# Reading a canonical text

A canonical text is what `stringify` writes of a value whose objects list their
keys in strictly increasing code-point order (`Canonical.toJson`). So it is
read back to that value (`readText_render`), which is the encoded one up to
the order of keys.
-/

namespace Js

/-! ## The value a canonical text spells out -/

mutual

/-- The value whose text is the canonical text. -/
def Canonical.toJson : Canonical → Json
  | .null => .null
  | .bool b => .bool b
  | .int n => .num (.integer n)
  | .str s => .str s
  | .arr items => .arr (toJsonItems items)
  | .obj entries => .obj (toJsonEntries entries)

/-- The same for the items of a list. -/
def toJsonItems : List Canonical → List Json
  | [] => []
  | item :: rest => item.toJson :: toJsonItems rest

/-- The same for the members of an object. -/
def toJsonEntries : List (JsString × Canonical) → List (JsString × Json)
  | [] => []
  | (key, value) :: rest => (key, value.toJson) :: toJsonEntries rest

end

mutual

/-- **Keys in order**: every object lists its keys in strictly increasing
code-point order. -/
def Json.Increasing : Json → Prop
  | .arr items => IncreasingItems items
  | .obj entries => (entries.Pairwise fun a b => codePoints a.1 < codePoints b.1) ∧
      IncreasingEntries entries
  | _ => True

/-- The same for the items of a list. -/
def IncreasingItems : List Json → Prop
  | [] => True
  | item :: rest => item.Increasing ∧ IncreasingItems rest

/-- The same for the members of an object. -/
def IncreasingEntries : List (JsString × Json) → Prop
  | [] => True
  | (_, value) :: rest => value.Increasing ∧ IncreasingEntries rest

end

mutual

/-- Keys in strict order are there once. -/
theorem Json.Increasing.distinct : ∀ {v : Json}, v.Increasing → v.Distinct
  | .null, _ => trivial
  | .bool _, _ => trivial
  | .num _, _ => trivial
  | .str _, _ => trivial
  | .arr _, h => distinctItems_of_increasing h
  | .obj _, h => by
    refine ⟨List.pairwise_map.mpr (h.1.imp fun {a b} hlt heq => ?_),
      distinctEntries_of_increasing h.2⟩
    rw [heq] at hlt
    exact lt_irrefl _ hlt

theorem distinctItems_of_increasing : ∀ {items : List Json}, IncreasingItems items →
    DistinctItems items
  | [], _ => trivial
  | _ :: _, h => ⟨h.1.distinct, distinctItems_of_increasing h.2⟩

theorem distinctEntries_of_increasing : ∀ {entries : List (JsString × Json)},
    IncreasingEntries entries → DistinctEntries entries
  | [], _ => trivial
  | (_, _) :: _, h => ⟨h.1.distinct, distinctEntries_of_increasing h.2⟩

end

mutual

/-- The canonical text is the text of that value. -/
theorem stringify_toJson : ∀ c : Canonical, c.toJson.Safe → stringify c.toJson = render c
  | .null, _ => rfl
  | .bool true, _ => rfl
  | .bool false, _ => rfl
  | .int n, h => toText_integer h
  | .str _, _ => rfl
  | .arr items, h => by
    rw [Canonical.toJson, stringify, stringifyItems_toJson items h, render]
  | .obj entries, h => by
    rw [Canonical.toJson, stringify, stringifyEntries_toJson entries h, render]

theorem stringifyItems_toJson : ∀ items : List Canonical, SafeItems (toJsonItems items) →
    stringifyItems (toJsonItems items) = renderItems items
  | [], _ => rfl
  | item :: rest, h => by
    rw [toJsonItems, stringifyItems, stringify_toJson item h.1, stringifyItems_toJson rest h.2,
      renderItems]

theorem stringifyEntries_toJson : ∀ entries : List (JsString × Canonical),
    SafeEntries (toJsonEntries entries) →
    stringifyEntries (toJsonEntries entries) = renderEntries entries
  | [], _ => rfl
  | (key, value) :: rest, h => by
    rw [toJsonEntries, stringifyEntries, stringify_toJson value h.1,
      stringifyEntries_toJson rest h.2, renderEntries]

end

/-! ## Canonical values of values -/

/-- What holds of the canonical value of a value: it spells out a value with
its keys in order, of which it is the canonical value. -/
structure Canonical.Regular (c : Canonical) : Prop where
  safe : c.toJson.Safe
  increasing : c.toJson.Increasing
  canonical : canonicalize c.toJson = some c

theorem items_regular {cs : List Canonical} (h : ∀ c ∈ cs, c.Regular) :
    SafeItems (toJsonItems cs) ∧ IncreasingItems (toJsonItems cs) ∧
      canonicalizeItems (toJsonItems cs) = some cs := by
  induction cs with
  | nil => exact ⟨trivial, trivial, rfl⟩
  | cons c cs ih =>
    have hc := h c List.mem_cons_self
    obtain ⟨hsafe, hincreasing, hcanonical⟩ := ih fun d hd => h d (List.mem_cons_of_mem _ hd)
    exact ⟨⟨hc.safe, hsafe⟩, ⟨hc.increasing, hincreasing⟩, by
      simp [toJsonItems, canonicalizeItems, hc.canonical, hcanonical]⟩

theorem entries_regular {es : List (JsString × Canonical)} (h : ∀ e ∈ es, e.2.Regular) :
    SafeEntries (toJsonEntries es) ∧ IncreasingEntries (toJsonEntries es) ∧
      canonicalizeEntries (toJsonEntries es) = some es := by
  induction es with
  | nil => exact ⟨trivial, trivial, rfl⟩
  | cons e es ih =>
    have he := h e List.mem_cons_self
    obtain ⟨hsafe, hincreasing, hcanonical⟩ := ih fun d hd => h d (List.mem_cons_of_mem _ hd)
    exact ⟨⟨he.safe, hsafe⟩, ⟨he.increasing, hincreasing⟩, by
      simp [toJsonEntries, canonicalizeEntries, he.canonical, hcanonical]⟩

theorem toJsonEntries_eq_map (es : List (JsString × Canonical)) :
    toJsonEntries es = es.map fun e => (e.1, e.2.toJson) := by
  induction es with
  | nil => rfl
  | cons e es ih => simp [toJsonEntries, ih]

/-- Sorting what is sorted changes nothing. -/
theorem sortByKey_sortByKey {es : List (JsString × Canonical)}
    (h : (es.map Prod.fst).Nodup) : sortByKey (sortByKey es) = sortByKey es := by
  have hnodup : ((sortByKey es).map Prod.fst).Nodup :=
    ((sortByKey_perm es).map Prod.fst).nodup_iff.mpr h
  exact sortByKey_eq_of_perm hnodup (sortByKey_perm es)

mutual

/-- **The canonical value of a value spells out a value in order.** -/
theorem regular_of_canonicalize : ∀ (v : Json) {c : Canonical}, v.Distinct →
    canonicalize v = some c → c.Regular
  | .null, c, _, h => by
    cases h
    exact ⟨trivial, trivial, rfl⟩
  | .bool b, c, _, h => by
    cases h
    exact ⟨trivial, trivial, rfl⟩
  | .num (.integer n), c, _, h => by
    rw [canonicalize] at h
    split_ifs at h with hsafe
    cases h
    exact ⟨hsafe, trivial, by rw [Canonical.toJson, canonicalize, if_pos hsafe]⟩
  | .num .negativeZero, c, _, h => by cases h
  | .num (.fraction ..), c, _, h => by cases h
  | .str s, c, _, h => by
    cases h
    exact ⟨trivial, trivial, rfl⟩
  | .arr items, c, hdistinct, h => by
    obtain ⟨cs, hcs, rfl⟩ := Option.map_eq_some_iff.mp h
    obtain ⟨hsafe, hincreasing, hcanonical⟩ :=
      items_regular (regularItems_of_canonicalize items hdistinct hcs)
    exact ⟨hsafe, hincreasing, by rw [Canonical.toJson, canonicalize, hcanonical]; rfl⟩
  | .obj entries, c, hdistinct, h => by
    obtain ⟨es, hes, rfl⟩ := Option.map_eq_some_iff.mp h
    have hnodup : (es.map Prod.fst).Nodup := by
      rw [keys_canonicalizeEntries hes]
      exact hdistinct.1
    have hregular := regularEntries_of_canonicalize entries hdistinct.2 hes
    obtain ⟨hsafe, hincreasing, hcanonical⟩ :=
      entries_regular fun e he => hregular e ((sortByKey_perm es).mem_iff.mp he)
    refine ⟨hsafe, ⟨?_, hincreasing⟩, ?_⟩
    · rw [toJsonEntries_eq_map, List.pairwise_map]
      exact sortByKey_increasing hnodup
    · rw [Canonical.toJson, canonicalize, hcanonical, Option.map_some, sortByKey_sortByKey hnodup]

theorem regularItems_of_canonicalize : ∀ (items : List Json) {cs : List Canonical},
    DistinctItems items → canonicalizeItems items = some cs → ∀ c ∈ cs, c.Regular
  | [], cs, _, h => by
    cases h
    simp
  | item :: rest, cs, hdistinct, h => by
    obtain ⟨c, hc, h⟩ := Option.bind_eq_some_iff.mp h
    obtain ⟨cs, hcs, rfl⟩ := Option.map_eq_some_iff.mp h
    rw [List.forall_mem_cons]
    exact ⟨regular_of_canonicalize item hdistinct.1 hc,
      regularItems_of_canonicalize rest hdistinct.2 hcs⟩

theorem regularEntries_of_canonicalize : ∀ (entries : List (JsString × Json))
    {es : List (JsString × Canonical)}, DistinctEntries entries →
    canonicalizeEntries entries = some es → ∀ e ∈ es, e.2.Regular
  | [], es, _, h => by
    cases h
    simp
  | (key, value) :: rest, es, hdistinct, h => by
    obtain ⟨c, hc, h⟩ := Option.bind_eq_some_iff.mp h
    obtain ⟨cs, hcs, rfl⟩ := Option.map_eq_some_iff.mp h
    rw [List.forall_mem_cons]
    exact ⟨regular_of_canonicalize value hdistinct.1 hc,
      regularEntries_of_canonicalize rest hdistinct.2 hcs⟩

end

/-- **A canonical text is read back** to the value it spells out. -/
theorem Canonical.Regular.readText_render {round : JsString → JsNumber} {c : Canonical}
    (h : c.Regular) : readText round (render c) = some c.toJson := by
  rw [← stringify_toJson c h.safe, readText_stringify h.safe]

/-- The bytes of a canonical text are read back. -/
theorem Canonical.Regular.decodeUtf8_render {c : Canonical} (h : c.Regular) :
    decodeUtf8 (utf8 (render c)) = some (render c) := by
  rw [← stringify_toJson c h.safe, decodeUtf8_stringify h.safe]

/-- Canonical texts with the same bytes are the same. -/
theorem Canonical.Regular.eq_of_bytes {c d : Canonical} (hc : c.Regular) (hd : d.Regular)
    (h : utf8 (render c) = utf8 (render d)) : c = d := by
  have hwell : ∀ {c : Canonical}, c.Regular → WellFormed (render c) := fun {c} hc =>
    stringify_toJson c hc.safe ▸ wellFormed_stringify c.toJson hc.safe
  exact render_injective (utf8_injective (hwell hc) (hwell hd) h)

/-! ## Values a reader leaves as they are -/

/-- A reader lists the members of an object as they came, where no key is of
digits only or there twice. -/
theorem own_obj {entries : List (JsString × Json)}
    (hnodup : decide (entries.map Prod.fst).Nodup = true)
    (hletter : (entries.map Prod.fst).all (fun key => !key.all isDigit) = true)
    (hown : ownEntries entries = entries) : (Json.obj entries).own = .obj entries := by
  have hindex : ∀ e ∈ entries, isArrayIndex e.1 = false := by
    intro e he
    have hkey := List.all_eq_true.mp hletter e.1 (List.mem_map_of_mem he)
    rw [Bool.not_eq_true'] at hkey
    rw [isArrayIndex, hkey, Bool.and_false, Bool.false_and]
  have hfilter : entries.filter (fun e => isArrayIndex e.1) = [] :=
    List.filter_eq_nil_iff.mpr fun e he => by simp [hindex e he]
  have hrest : entries.filter (fun e => !isArrayIndex e.1) = entries :=
    List.filter_eq_self.mpr fun e he => by simp [hindex e he]
  rw [Json.own, hown, JsMap.ofEntries_eq (of_decide_eq_true hnodup), ownOrder, hfilter, hrest]
  rfl

mutual

/-- Every object has distinct keys, none of digits only, and every number is safe. -/
def Json.listed : Json → Bool
  | .num (.integer n) => n.natAbs ≤ 2 ^ 53 - 1
  | .num _ => false
  | .arr items => listedItems items
  | .obj entries => decide (entries.map Prod.fst).Nodup &&
      (entries.map Prod.fst).all (fun key => !key.all isDigit) && listedEntries entries
  | _ => true

/-- The same for the items of a list. -/
def listedItems : List Json → Bool
  | [] => true
  | item :: rest => item.listed && listedItems rest

/-- The same for the members of an object. -/
def listedEntries : List (JsString × Json) → Bool
  | [] => true
  | (_, value) :: rest => value.listed && listedEntries rest

end

mutual

/-- A reader makes the value itself of it. -/
theorem own_of_listed : ∀ {j : Json}, j.listed = true → j.own = j
  | .null, _ => rfl
  | .bool _, _ => rfl
  | .num _, _ => rfl
  | .str _, _ => rfl
  | .arr _, h => congrArg Json.arr (ownItems_of_listed h)
  | .obj entries, h => by
    rw [Json.listed, Bool.and_eq_true, Bool.and_eq_true] at h
    exact own_obj h.1.1 h.1.2 (ownEntries_of_listed h.2)

theorem ownItems_of_listed : ∀ {items : List Json}, listedItems items = true →
    ownItems items = items
  | [], _ => rfl
  | item :: rest, h => by
    rw [listedItems, Bool.and_eq_true] at h
    rw [ownItems, own_of_listed h.1, ownItems_of_listed h.2]

theorem ownEntries_of_listed : ∀ {entries : List (JsString × Json)},
    listedEntries entries = true → ownEntries entries = entries
  | [], _ => rfl
  | (key, value) :: rest, h => by
    rw [listedEntries, Bool.and_eq_true] at h
    rw [ownEntries, own_of_listed h.1, ownEntries_of_listed h.2]

end

mutual

theorem safe_of_listed : ∀ {j : Json}, j.listed = true → j.Safe
  | .null, _ => trivial
  | .bool _, _ => trivial
  | .num (.integer _), h => by
    rw [Json.listed, decide_eq_true_eq] at h
    exact h
  | .str _, _ => trivial
  | .arr _, h => safeItems_of_listed h
  | .obj entries, h => by
    rw [Json.listed, Bool.and_eq_true] at h
    exact safeEntries_of_listed h.2

theorem safeItems_of_listed : ∀ {items : List Json}, listedItems items = true → SafeItems items
  | [], _ => trivial
  | item :: rest, h => by
    rw [listedItems, Bool.and_eq_true] at h
    exact ⟨safe_of_listed h.1, safeItems_of_listed h.2⟩

theorem safeEntries_of_listed : ∀ {entries : List (JsString × Json)},
    listedEntries entries = true → SafeEntries entries
  | [], _ => trivial
  | (key, value) :: rest, h => by
    rw [listedEntries, Bool.and_eq_true] at h
    exact ⟨safe_of_listed h.1, safeEntries_of_listed h.2⟩

end

/-- **Such a value survives serialisation.** -/
theorem parseJson_stringify {round : JsString → JsNumber} {j : Json} (h : j.listed = true) :
    parseJson round (stringify j) = some j := by
  rw [parseJson, readText_stringify (safe_of_listed h), Option.map_some, own_of_listed h]

end Js
