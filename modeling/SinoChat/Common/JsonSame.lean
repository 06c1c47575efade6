import SinoChat.Common.Canonical
import SinoChat.Common.JsonText

/-!
# Equality up to the order of keys

Two values are the same when they differ in the order of object keys at most
(`Same`). Canonical forms decide it: the same values have one canonical value
(`canonicalize_eq_of_same`), and values with one canonical value are the same
(`same_of_canonicalize_eq`).

An object has each key once (`Distinct`); of such a value a reader makes the
same value, whatever order its objects list their keys in (`same_own`).
-/

namespace Js

/-! ## Values with each key once -/

mutual

/-- Every object has each of its keys once. -/
def Json.Distinct : Json → Prop
  | .arr items => DistinctItems items
  | .obj entries => (entries.map Prod.fst).Nodup ∧ DistinctEntries entries
  | _ => True

/-- The same for the items of a list. -/
def DistinctItems : List Json → Prop
  | [] => True
  | item :: rest => item.Distinct ∧ DistinctItems rest

/-- The same for the members of an object. -/
def DistinctEntries : List (JsString × Json) → Prop
  | [] => True
  | (_, value) :: rest => value.Distinct ∧ DistinctEntries rest

end

/-! ## The relation -/

mutual

/-- **The same value** up to the order of object keys. -/
inductive Same : Json → Json → Prop
  | null : Same .null .null
  | bool (b : Bool) : Same (.bool b) (.bool b)
  | num (n : JsNumber) : Same (.num n) (.num n)
  | str (s : JsString) : Same (.str s) (.str s)
  | arr {items items' : List Json} : SameItems items items' → Same (.arr items) (.arr items')
  | obj {entries middle entries' : List (JsString × Json)} : SameEntries entries middle →
      middle.Perm entries' → Same (.obj entries) (.obj entries')

/-- The same items in the same places. -/
inductive SameItems : List Json → List Json → Prop
  | nil : SameItems [] []
  | cons {item item' : Json} {rest rest' : List Json} : Same item item' →
      SameItems rest rest' → SameItems (item :: rest) (item' :: rest')

/-- The same values under the same keys, place by place. -/
inductive SameEntries : List (JsString × Json) → List (JsString × Json) → Prop
  | nil : SameEntries [] []
  | cons {value value' : Json} {rest rest' : List (JsString × Json)} (key : JsString) :
      Same value value' → SameEntries rest rest' →
      SameEntries ((key, value) :: rest) ((key, value') :: rest')

end

theorem SameEntries.keys_eq : ∀ {entries entries' : List (JsString × Json)},
    SameEntries entries entries' → entries.map Prod.fst = entries'.map Prod.fst
  | _, _, .nil => rfl
  | _, _, .cons key _ hrest => by simp [hrest.keys_eq]

/-! ## Sorting by code points -/

/-- The order in which code points walk a string. -/
theorem unitsOfPoint_codePoints (s : JsString) :
    (codePoints s).flatMap unitsOfPoint = s := by
  have hunit : ∀ u : UInt16, unitsOfPoint u.toNat = [u] := by
    intro u
    rw [unitsOfPoint, if_pos u.toNat_lt]
    simp
  induction s using codePoints.induct with
  | case1 => rfl
  | case2 u => simp [codePoints, hunit]
  | case3 u v s hpair ih =>
    rw [codePoints, if_pos hpair, List.flatMap_cons, ih]
    simp only [Bool.and_eq_true] at hpair
    obtain ⟨hu, hu'⟩ := isHighSurrogate_iff.mp hpair.1
    obtain ⟨hv, hv'⟩ := isLowSurrogate_iff.mp hpair.2
    rw [unitsOfPoint, if_neg (by omega)]
    have hfirst : 0xD800 + (0x10000 + (u.toNat - 0xD800) * 0x400 + (v.toNat - 0xDC00) -
        0x10000) / 0x400 = u.toNat := by omega
    have hsecond : 0xDC00 + (0x10000 + (u.toNat - 0xD800) * 0x400 + (v.toNat - 0xDC00) -
        0x10000) % 0x400 = v.toNat := by omega
    rw [hfirst, hsecond]
    simp
  | case4 u v s hpair ih =>
    rw [codePoints, if_neg hpair, List.flatMap_cons, ih, hunit]
    rfl

/-- A string is determined by its code points. -/
theorem codePoints_injective : Function.Injective codePoints := fun s t h => by
  rw [← unitsOfPoint_codePoints s, h, unitsOfPoint_codePoints t]

variable {α : Type*}

theorem codePointLe_iff {s t : JsString} :
    codePointLe s t = true ↔ codePoints s ≤ codePoints t := by
  simp [codePointLe]

instance : IsTrans (JsString × α) fun a b => codePointLe a.1 b.1 = true :=
  ⟨fun a b c => by
    simp only [codePointLe_iff]
    exact le_trans⟩

instance : Std.Total fun a b : JsString × α => codePointLe a.1 b.1 = true :=
  ⟨fun a b => by
    simp only [codePointLe_iff]
    exact le_total _ _⟩

theorem sortByKey_perm (entries : List (JsString × α)) : (sortByKey entries).Perm entries :=
  List.perm_insertionSort _ entries

/-- **Keys in strictly increasing code-point order**, where each is there once. -/
theorem sortByKey_increasing {entries : List (JsString × α)}
    (h : (entries.map Prod.fst).Nodup) :
    (sortByKey entries).Pairwise fun a b => codePoints a.1 < codePoints b.1 := by
  have hle : (sortByKey entries).Pairwise fun a b => codePointLe a.1 b.1 = true :=
    List.pairwise_insertionSort _ entries
  have hnodup : ((sortByKey entries).map Prod.fst).Nodup :=
    ((sortByKey_perm entries).map Prod.fst).nodup_iff.mpr h
  have hne : (sortByKey entries).Pairwise fun a b => a.1 ≠ b.1 := List.pairwise_map.mp hnodup
  refine hle.imp₂ (fun a b hab hkeys => ?_) hne
  exact lt_of_le_of_ne (codePointLe_iff.mp hab) fun heq => hkeys (codePoints_injective heq)

/-- The order the entries come in does not matter, where each key is there once. -/
theorem sortByKey_eq_of_perm {entries entries' : List (JsString × α)}
    (hnodup : (entries.map Prod.fst).Nodup) (h : entries.Perm entries') :
    sortByKey entries = sortByKey entries' := by
  have hperm : (sortByKey entries).Perm (sortByKey entries') :=
    (sortByKey_perm entries).trans (h.trans (sortByKey_perm entries').symm)
  have hnodup' : (entries'.map Prod.fst).Nodup := (h.map Prod.fst).nodup_iff.mp hnodup
  have hantisymm : ∀ a b : JsString × α, a ∈ sortByKey entries → b ∈ sortByKey entries' →
      codePoints a.1 < codePoints b.1 → codePoints b.1 < codePoints a.1 → a = b :=
    fun a b _ _ hab hba => absurd hba (lt_asymm hab)
  exact hperm.eq_of_pairwise hantisymm (sortByKey_increasing hnodup)
    (sortByKey_increasing hnodup')

/-! ## Canonical forms decide the relation -/

/-- The keys of an object are those of its canonical form. -/
theorem keys_canonicalizeEntries : ∀ {entries : List (JsString × Json)}
    {es : List (JsString × Canonical)}, canonicalizeEntries entries = some es →
    es.map Prod.fst = entries.map Prod.fst
  | [], _, h => by
    cases h
    rfl
  | (key, value) :: rest, es, h => by
    obtain ⟨c, -, h⟩ := Option.bind_eq_some_iff.mp h
    obtain ⟨cs, hcs, rfl⟩ := Option.map_eq_some_iff.mp h
    simp [keys_canonicalizeEntries hcs]

/-- The canonical entries follow the entries into any order. -/
theorem exists_perm_canonicalizeEntries {entries : List (JsString × Json)}
    {es es' : List (JsString × Canonical)} (h : canonicalizeEntries entries = some es)
    (hperm : es.Perm es') :
    ∃ entries', entries.Perm entries' ∧ canonicalizeEntries entries' = some es' := by
  induction hperm generalizing entries with
  | nil => exact ⟨entries, .refl _, h⟩
  | @cons e es es' _ ih =>
    obtain - | ⟨⟨key, value⟩, rest⟩ := entries
    · cases h
    · obtain ⟨c, hc, h⟩ := Option.bind_eq_some_iff.mp h
      obtain ⟨cs, hcs, hes⟩ := Option.map_eq_some_iff.mp h
      obtain ⟨rfl, rfl⟩ := List.cons.inj hes
      obtain ⟨rest', hrest, hrest'⟩ := ih hcs
      exact ⟨(key, value) :: rest', hrest.cons _, by simp [canonicalizeEntries, hc, hrest']⟩
  | @swap e f es =>
    obtain - | ⟨⟨key, value⟩, - | ⟨⟨key', value'⟩, rest⟩⟩ := entries
    · cases h
    · obtain ⟨c, hc, h⟩ := Option.bind_eq_some_iff.mp h
      cases h
    · obtain ⟨c, hc, h⟩ := Option.bind_eq_some_iff.mp h
      obtain ⟨cs, hcs, hes⟩ := Option.map_eq_some_iff.mp h
      obtain ⟨c', hc', hcs⟩ := Option.bind_eq_some_iff.mp hcs
      obtain ⟨cs', hcs', rfl⟩ := Option.map_eq_some_iff.mp hcs
      simp only [List.cons.injEq] at hes
      obtain ⟨rfl, rfl, rfl⟩ := hes
      exact ⟨(key', value') :: (key, value) :: rest, .swap .., by
        simp [canonicalizeEntries, hc, hc', hcs']⟩
  | trans _ _ ih ih' =>
    obtain ⟨middle, hmiddle, hmiddle'⟩ := ih h
    obtain ⟨entries', hentries, hentries'⟩ := ih' hmiddle'
    exact ⟨entries', hmiddle.trans hentries, hentries'⟩

mutual

/-- **Values with one canonical form are the same.** -/
theorem same_of_canonicalize_eq : ∀ (v : Json) {w : Json} {c : Canonical},
    canonicalize v = some c → canonicalize w = some c → Same v w
  | .null, w, c, hv, hw => by
    cases hv
    rcases w with _ | b | (n | _ | _) | s | items | entries <;> simp [canonicalize] at hw
    exact .null
  | .bool b, w, c, hv, hw => by
    cases hv
    rcases w with _ | b' | (n | _ | _) | s | items | entries <;> simp [canonicalize] at hw
    exact hw ▸ .bool _
  | .num (.integer n), w, c, hv, hw => by
    rw [canonicalize] at hv
    split_ifs at hv
    cases hv
    rcases w with _ | b' | (n | _ | _) | s | items | entries <;> simp [canonicalize] at hw
    exact hw.2 ▸ .num _
  | .num .negativeZero, w, c, hv, hw => by cases hv
  | .num (.fraction ..), w, c, hv, hw => by cases hv
  | .str s, w, c, hv, hw => by
    cases hv
    rcases w with _ | b' | (n | _ | _) | s | items | entries <;> simp [canonicalize] at hw
    exact hw ▸ .str _
  | .arr items, w, c, hv, hw => by
    obtain ⟨cs, hcs, rfl⟩ := Option.map_eq_some_iff.mp hv
    rcases w with _ | b' | (n | _ | _) | s | items' | entries <;> simp [canonicalize] at hw
    exact .arr (sameItems_of_canonicalize_eq items hcs hw)
  | .obj entries, w, c, hv, hw => by
    obtain ⟨es, hes, rfl⟩ := Option.map_eq_some_iff.mp hv
    rcases w with _ | b' | (n | _ | _) | s | items | entries' <;> simp [canonicalize] at hw
    obtain ⟨es', hes', hsorted⟩ := hw
    -- both sort to one list, so the second entries come into the order of the first
    have hperm : es'.Perm es :=
      (sortByKey_perm es').symm.trans (hsorted ▸ sortByKey_perm es)
    obtain ⟨middle, hmiddle, hcanonical⟩ := exists_perm_canonicalizeEntries hes' hperm
    exact .obj (sameEntries_of_canonicalize_eq entries hes hcanonical) hmiddle.symm

theorem sameItems_of_canonicalize_eq : ∀ (items : List Json) {items' : List Json}
    {cs : List Canonical}, canonicalizeItems items = some cs →
    canonicalizeItems items' = some cs → SameItems items items'
  | [], items', cs, h, h' => by
    cases h
    obtain - | ⟨item', rest'⟩ := items'
    · exact .nil
    · obtain ⟨c', -, h'⟩ := Option.bind_eq_some_iff.mp h'
      obtain ⟨cs', -, heq⟩ := Option.map_eq_some_iff.mp h'
      cases heq
  | item :: rest, items', cs, h, h' => by
    obtain ⟨c, hc, h⟩ := Option.bind_eq_some_iff.mp h
    obtain ⟨cs, hcs, rfl⟩ := Option.map_eq_some_iff.mp h
    obtain - | ⟨item', rest'⟩ := items'
    · simp [canonicalizeItems] at h'
    · obtain ⟨c', hc', h'⟩ := Option.bind_eq_some_iff.mp h'
      obtain ⟨cs', hcs', heq⟩ := Option.map_eq_some_iff.mp h'
      obtain ⟨rfl, rfl⟩ := List.cons.inj heq
      exact .cons (same_of_canonicalize_eq item hc hc') (sameItems_of_canonicalize_eq rest hcs hcs')

theorem sameEntries_of_canonicalize_eq : ∀ (entries : List (JsString × Json))
    {entries' : List (JsString × Json)} {es : List (JsString × Canonical)},
    canonicalizeEntries entries = some es → canonicalizeEntries entries' = some es →
    SameEntries entries entries'
  | [], entries', es, h, h' => by
    cases h
    obtain - | ⟨⟨key', value'⟩, rest'⟩ := entries'
    · exact .nil
    · obtain ⟨c', -, h'⟩ := Option.bind_eq_some_iff.mp h'
      obtain ⟨cs', -, heq⟩ := Option.map_eq_some_iff.mp h'
      cases heq
  | (key, value) :: rest, entries', es, h, h' => by
    obtain ⟨c, hc, h⟩ := Option.bind_eq_some_iff.mp h
    obtain ⟨cs, hcs, rfl⟩ := Option.map_eq_some_iff.mp h
    obtain - | ⟨⟨key', value'⟩, rest'⟩ := entries'
    · simp [canonicalizeEntries] at h'
    · obtain ⟨c', hc', h'⟩ := Option.bind_eq_some_iff.mp h'
      obtain ⟨cs', hcs', heq⟩ := Option.map_eq_some_iff.mp h'
      simp only [List.cons.injEq, Prod.mk.injEq] at heq
      obtain ⟨⟨rfl, rfl⟩, rfl⟩ := heq
      exact .cons key' (same_of_canonicalize_eq value hc hc')
        (sameEntries_of_canonicalize_eq rest hcs hcs')

end

/-- The canonical entries of the same entries in another order. -/
theorem canonicalizeEntries_perm {entries entries' : List (JsString × Json)}
    (h : entries.Perm entries') {es : List (JsString × Canonical)}
    (hes : canonicalizeEntries entries = some es) :
    ∃ es', canonicalizeEntries entries' = some es' ∧ es.Perm es' := by
  induction h generalizing es with
  | nil => exact ⟨es, hes, .refl _⟩
  | @cons e rest rest' _ ih =>
    obtain ⟨key, value⟩ := e
    obtain ⟨c, hc, hes⟩ := Option.bind_eq_some_iff.mp hes
    obtain ⟨cs, hcs, rfl⟩ := Option.map_eq_some_iff.mp hes
    obtain ⟨cs', hcs', hperm⟩ := ih hcs
    exact ⟨(key, c) :: cs', by simp [canonicalizeEntries, hc, hcs'], hperm.cons _⟩
  | swap e f rest =>
    obtain ⟨key, value⟩ := e
    obtain ⟨key', value'⟩ := f
    obtain ⟨c, hc, hes⟩ := Option.bind_eq_some_iff.mp hes
    obtain ⟨cs, hcs, rfl⟩ := Option.map_eq_some_iff.mp hes
    obtain ⟨c', hc', hcs⟩ := Option.bind_eq_some_iff.mp hcs
    obtain ⟨cs', hcs', rfl⟩ := Option.map_eq_some_iff.mp hcs
    exact ⟨(key, c') :: (key', c) :: cs', by simp [canonicalizeEntries, hc, hc', hcs'], .swap ..⟩
  | trans _ _ ih ih' =>
    obtain ⟨middle, hmiddle, hperm⟩ := ih hes
    obtain ⟨es', hes', hperm'⟩ := ih' hmiddle
    exact ⟨es', hes', hperm.trans hperm'⟩

mutual

/-- **The same values have one canonical form**, where each key is there once. -/
theorem canonicalize_eq_of_same : ∀ {v w : Json} {c : Canonical}, Same v w → v.Distinct →
    canonicalize v = some c → canonicalize w = some c
  | _, _, _, .null, _, h => h
  | _, _, _, .bool _, _, h => h
  | _, _, _, .num _, _, h => h
  | _, _, _, .str _, _, h => h
  | _, _, _, .arr hitems, hdistinct, h => by
    obtain ⟨cs, hcs, rfl⟩ := Option.map_eq_some_iff.mp h
    rw [canonicalize, canonicalizeItems_eq_of_same hitems hdistinct hcs]
    rfl
  | _, _, _, .obj hentries hperm, hdistinct, h => by
    obtain ⟨es, hes, rfl⟩ := Option.map_eq_some_iff.mp h
    have hmiddle := canonicalizeEntries_eq_of_same hentries hdistinct.2 hes
    obtain ⟨es', hes', hperm'⟩ := canonicalizeEntries_perm hperm hmiddle
    have hnodup : (es.map Prod.fst).Nodup := by
      rw [keys_canonicalizeEntries hes]
      exact hdistinct.1
    rw [canonicalize, hes', sortByKey_eq_of_perm hnodup hperm']
    rfl

theorem canonicalizeItems_eq_of_same : ∀ {items items' : List Json} {cs : List Canonical},
    SameItems items items' → DistinctItems items → canonicalizeItems items = some cs →
    canonicalizeItems items' = some cs
  | _, _, _, .nil, _, h => h
  | _, _, _, .cons hitem hrest, hdistinct, h => by
    obtain ⟨c, hc, h⟩ := Option.bind_eq_some_iff.mp h
    obtain ⟨cs, hcs, rfl⟩ := Option.map_eq_some_iff.mp h
    rw [canonicalizeItems, canonicalize_eq_of_same hitem hdistinct.1 hc,
      canonicalizeItems_eq_of_same hrest hdistinct.2 hcs]
    rfl

theorem canonicalizeEntries_eq_of_same : ∀ {entries entries' : List (JsString × Json)}
    {es : List (JsString × Canonical)}, SameEntries entries entries' →
    DistinctEntries entries → canonicalizeEntries entries = some es →
    canonicalizeEntries entries' = some es
  | _, _, _, .nil, _, h => h
  | _, _, _, .cons key hvalue hrest, hdistinct, h => by
    obtain ⟨c, hc, h⟩ := Option.bind_eq_some_iff.mp h
    obtain ⟨cs, hcs, rfl⟩ := Option.map_eq_some_iff.mp h
    rw [canonicalizeEntries, canonicalize_eq_of_same hvalue hdistinct.1 hc,
      canonicalizeEntries_eq_of_same hrest hdistinct.2 hcs]
    rfl

end

/-! ## What a reader makes of a value -/

theorem JsMap.set_eq_append {κ : Type*} [DecidableEq κ] {key : κ} {value : α} {map : JsMap κ α}
    (h : key ∉ map.map Prod.fst) : JsMap.set key value map = map ++ [(key, value)] := by
  induction map with
  | nil => rfl
  | cons entry rest ih =>
    simp only [List.map_cons, List.mem_cons, not_or] at h
    rw [JsMap.set, if_neg (Ne.symm h.1), ih h.2]
    rfl

/-- A map of entries with each key once lists these entries. -/
theorem JsMap.ofEntries_eq {κ : Type*} [DecidableEq κ] {entries : List (κ × α)}
    (h : (entries.map Prod.fst).Nodup) : JsMap.ofEntries entries = entries := by
  have general : ∀ (entries : List (κ × α)) (map : JsMap κ α),
      ((map ++ entries).map Prod.fst).Nodup →
      entries.foldl (fun map entry => JsMap.set entry.1 entry.2 map) map = map ++ entries := by
    intro entries
    induction entries with
    | nil => simp
    | cons entry rest ih =>
      intro map hnodup
      have hnew : entry.1 ∉ map.map Prod.fst := by
        rw [List.map_append, List.nodup_append] at hnodup
        intro hmem
        exact hnodup.2.2 _ hmem entry.1 (by simp) rfl
      have hrow : map ++ entry :: rest = (map ++ [(entry.1, entry.2)]) ++ rest := by simp
      rw [hrow] at hnodup ⊢
      rw [List.foldl_cons, JsMap.set_eq_append hnew, ih _ hnodup]
  exact general entries [] h

theorem ownOrder_perm {β : Type} (entries : List (JsString × β)) : (ownOrder entries).Perm entries := by
  refine .trans ((List.sortBy_perm _ _).append_right _) ?_
  exact List.filter_append_perm (fun e => isArrayIndex e.1) entries

mutual

/-- **A reader makes the same value** of one with each key once. -/
theorem same_own : ∀ {v : Json}, v.Distinct → Same v v.own
  | .null, _ => .null
  | .bool b, _ => .bool b
  | .num n, _ => .num n
  | .str s, _ => .str s
  | .arr _, h => .arr (sameItems_own h)
  | .obj entries, h => by
    have hsame := sameEntries_own h.2
    have hnodup : ((ownEntries entries).map Prod.fst).Nodup := hsame.keys_eq ▸ h.1
    refine .obj hsame ?_
    rw [JsMap.ofEntries_eq hnodup]
    exact (ownOrder_perm _).symm

theorem sameItems_own : ∀ {items : List Json}, DistinctItems items →
    SameItems items (ownItems items)
  | [], _ => .nil
  | _ :: _, h => .cons (same_own h.1) (sameItems_own h.2)

theorem sameEntries_own : ∀ {entries : List (JsString × Json)}, DistinctEntries entries →
    SameEntries entries (ownEntries entries)
  | [], _ => .nil
  | (key, _) :: _, h => .cons key (same_own h.1) (sameEntries_own h.2)

end

end Js
