import SinoChat.Common.JsonSame

/-!
# Values of a given shape

A reader that takes exactly the expected keys and looks each value up takes the
objects that are, up to the order of keys, a given one (`same_obj_iff`): the keys
are the expected ones, and the value under each is the same as the given one. At
the leaves the same value is the value itself.
-/

namespace Js

open Json

/-! ## Looking up -/

theorem get?_eq_some_of_mem {entries : List (JsString × Json)} {key : JsString} {value : Json}
    (hnodup : (entries.map Prod.fst).Nodup) (h : (key, value) ∈ entries) :
    Json.get? key entries = some value := by
  induction entries with
  | nil => simp at h
  | cons e rest ih =>
    simp only [List.map_cons, List.nodup_cons] at hnodup
    rcases List.mem_cons.mp h with rfl | hmem
    · simp [Json.get?]
    · have hne : e.1 ≠ key := by
        intro heq
        exact hnodup.1 (List.mem_map.mpr ⟨_, hmem, heq.symm⟩)
      rw [Json.get?, if_neg hne, ih hnodup.2 hmem]

theorem mem_of_get?_eq_some {entries : List (JsString × Json)} {key : JsString} {value : Json}
    (h : Json.get? key entries = some value) : (key, value) ∈ entries := by
  induction entries with
  | nil => cases h
  | cons e rest ih =>
    by_cases he : e.1 = key
    · rw [Json.get?, if_pos he] at h
      obtain rfl := Option.some.inj h
      exact List.mem_cons.mpr (.inl (Prod.ext he.symm rfl))
    · rw [Json.get?, if_neg he] at h
      exact List.mem_cons_of_mem _ (ih h)

/-- A key is there exactly when it is listed. -/
theorem hasOwn_iff {entries : List (JsString × Json)} {key : JsString} :
    Json.hasOwn entries key = true ↔ key ∈ Json.keys entries := by
  induction entries with
  | nil => simp [Json.hasOwn, Json.get?, Json.keys]
  | cons e rest ih =>
    by_cases he : e.1 = key
    · simp [Json.hasOwn, Json.get?, Json.keys, he]
    · have hne : key ≠ e.1 := fun heq => he heq.symm
      simp only [Json.hasOwn, Json.get?, if_neg he, Json.keys, List.map_cons, List.mem_cons, hne,
        false_or]
      exact ih

/-- As many keys as expected, with every expected one among them, are the expected ones. -/
theorem keys_perm_of_exactKeys {entries : List (JsString × Json)} {expected : List JsString}
    (hnodup : expected.Nodup) (h : Json.exactKeys entries expected = true) :
    expected.Perm (Json.keys entries) := by
  obtain ⟨hlength, hall⟩ := Bool.and_eq_true_iff.mp h
  have hsub : expected ⊆ Json.keys entries := fun key hkey =>
    hasOwn_iff.mp (List.all_eq_true.mp hall key hkey)
  exact (List.subperm_of_subset hnodup hsub).perm_of_length_le (beq_iff_eq.mp hlength).le

theorem exactKeys_of_perm {entries : List (JsString × Json)} {expected : List JsString}
    (h : expected.Perm (Json.keys entries)) : Json.exactKeys entries expected = true := by
  refine Bool.and_eq_true_iff.mpr ⟨beq_iff_eq.mpr h.length_eq.symm, ?_⟩
  exact List.all_eq_true.mpr fun key hkey => hasOwn_iff.mpr (h.subset hkey)

/-- The order in which keys are expected does not matter. -/
theorem exactKeys_perm {entries : List (JsString × Json)} {expected expected' : List JsString}
    (h : expected.Perm expected') :
    Json.exactKeys entries expected = Json.exactKeys entries expected' := by
  rw [Json.exactKeys, Json.exactKeys, h.length_eq, h.all_eq]

/-- **The members in some order**: their keys are listed, and each is looked up. -/
theorem perm_iff_get? {entries members : List (JsString × Json)}
    (hnodup : (members.map Prod.fst).Nodup) :
    entries.Perm members ↔ (members.map Prod.fst).Perm (Json.keys entries) ∧
      ∀ member ∈ members, Json.get? member.1 entries = some member.2 := by
  constructor
  · intro h
    have hkeys : (members.map Prod.fst).Perm (Json.keys entries) := (h.map Prod.fst).symm
    exact ⟨hkeys, fun member hmember =>
      get?_eq_some_of_mem (hkeys.nodup_iff.mp hnodup) (h.mem_iff.mpr hmember)⟩
  · rintro ⟨hkeys, hmembers⟩
    have hsub : members ⊆ entries := fun member hmember =>
      mem_of_get?_eq_some (hmembers member hmember)
    have hlength : entries.length ≤ members.length := by
      have heq := hkeys.length_eq
      simp only [Json.keys, List.length_map] at heq
      omega
    exact ((List.subperm_of_subset (List.Nodup.of_map Prod.fst hnodup) hsub).perm_of_length_le
      hlength).symm

/-- What is looked up in a value with each key once has each key once. -/
theorem DistinctEntries.get? : ∀ {entries : List (JsString × Json)} {key : JsString}
    {value : Json}, DistinctEntries entries → Json.get? key entries = some value → value.Distinct
  | (k, v) :: rest, key, value, hdistinct, h => by
    by_cases hk : k = key
    · rw [Json.get?, if_pos hk] at h
      obtain rfl := Option.some.inj h
      exact hdistinct.1
    · rw [Json.get?, if_neg hk] at h
      exact DistinctEntries.get? hdistinct.2 h

/-! ## Values of a kind -/

theorem record?_eq_some {value : Option Json} {entries : List (JsString × Json)} :
    value.bind Json.record? = some entries ↔ value = some (.obj entries) := by
  constructor
  · intro h
    obtain ⟨found, rfl, hfound⟩ := Option.bind_eq_some_iff.mp h
    cases found with
    | obj entries' =>
      obtain rfl := Option.some.inj hfound
      rfl
    | null => cases hfound
    | bool b => cases hfound
    | num n => cases hfound
    | str s => cases hfound
    | arr items => cases hfound
  · rintro rfl
    rfl

theorem str?_eq_some {value : Option Json} {text : JsString} :
    value.bind Json.str? = some text ↔ value = some (.str text) := by
  constructor
  · intro h
    obtain ⟨found, rfl, hfound⟩ := Option.bind_eq_some_iff.mp h
    cases found with
    | str s =>
      obtain rfl := Option.some.inj hfound
      rfl
    | null => cases hfound
    | bool b => cases hfound
    | num n => cases hfound
    | arr items => cases hfound
    | obj entries => cases hfound
  · rintro rfl
    rfl

/-! ## The same value at a leaf -/

@[simp] theorem same_null_iff {value : Json} : Same value .null ↔ value = .null := by
  constructor
  · rintro ⟨⟩
    rfl
  · rintro rfl
    exact .null

@[simp] theorem same_bool_iff {value : Json} {b : Bool} : Same value (.bool b) ↔ value = .bool b := by
  constructor
  · rintro ⟨⟩
    rfl
  · rintro rfl
    exact .bool b

@[simp] theorem same_num_iff {value : Json} {n : JsNumber} :
    Same value (.num n) ↔ value = .num n := by
  constructor
  · rintro ⟨⟩
    rfl
  · rintro rfl
    exact .num n

@[simp] theorem same_str_iff {value : Json} {s : JsString} : Same value (.str s) ↔ value = .str s := by
  constructor
  · rintro ⟨⟩
    rfl
  · rintro rfl
    exact .str s

theorem sameItems_texts_iff {items : List Json} {texts : List JsString} :
    SameItems items (texts.map .str) ↔ items = texts.map .str := by
  induction texts generalizing items with
  | nil =>
    constructor
    · rintro ⟨⟩
      rfl
    · rintro rfl
      exact .nil
  | cons text texts ih =>
    constructor
    · rintro (_ | ⟨hitem, hrest⟩)
      rw [same_str_iff.mp hitem, ih.mp hrest]
      rfl
    · rintro rfl
      exact .cons (.str text) (ih.mpr rfl)

/-- The same value as a list of texts is that list. -/
theorem same_texts_iff {value : Json} {texts : List JsString} :
    Same value (.arr (texts.map .str)) ↔ value = .arr (texts.map .str) := by
  constructor
  · rintro (_ | _ | _ | _ | hitems | _)
    rw [sameItems_texts_iff.mp hitems]
  · rintro rfl
    exact .arr (sameItems_texts_iff.mpr rfl)

/-! ## The same object -/

theorem SameEntries.length_eq {entries entries' : List (JsString × Json)}
    (h : SameEntries entries entries') : entries.length = entries'.length := by
  simpa using congrArg List.length h.keys_eq

/-- What stands under a key on one side stands there on the other. -/
theorem SameEntries.exists_mem : ∀ {entries entries' : List (JsString × Json)}
    {key : JsString} {value : Json}, SameEntries entries entries' → (key, value) ∈ entries' →
    ∃ value', (key, value') ∈ entries ∧ Same value' value
  | _, _, _, _, .nil, hmem => by cases hmem
  | _, _, _, _, .cons key hvalue hrest, hmem => by
    rcases List.mem_cons.mp hmem with heq | hmem
    · obtain ⟨rfl, rfl⟩ := Prod.mk.inj heq
      exact ⟨_, List.mem_cons_self, hvalue⟩
    · obtain ⟨value', hmem', hsame⟩ := hrest.exists_mem hmem
      exact ⟨value', List.mem_cons_of_mem _ hmem', hsame⟩

theorem sameEntries_map {entries : List (JsString × Json)} {f : JsString → Json}
    (h : ∀ entry ∈ entries, Same entry.2 (f entry.1)) :
    SameEntries entries (entries.map fun entry => (entry.1, f entry.1)) := by
  induction entries with
  | nil => exact .nil
  | cons entry rest ih =>
    refine .cons entry.1 (h entry List.mem_cons_self) (ih fun e he => ?_)
    exact h e (List.mem_cons_of_mem _ he)

/-- **The same object**: exactly the expected keys, and the same value under each. -/
theorem same_obj_iff {value : Json} {members : List (JsString × Json)}
    (hnodup : (members.map Prod.fst).Nodup) :
    Same value (.obj members) ↔ ∃ entries, value = .obj entries ∧
      Json.exactKeys entries (members.map Prod.fst) = true ∧
      ∀ member ∈ members, ∃ found, Json.get? member.1 entries = some found ∧
        Same found member.2 := by
  constructor
  · intro h
    cases h with
    | @obj entries middle _ hsame hperm =>
      have hkeys : (members.map Prod.fst).Perm (Json.keys entries) := by
        have heq : Json.keys entries = middle.map Prod.fst := hsame.keys_eq
        rw [heq]
        exact (hperm.map Prod.fst).symm
      refine ⟨entries, rfl, exactKeys_of_perm hkeys, fun member hmember => ?_⟩
      obtain ⟨found, hfound, hvalue⟩ :=
        hsame.exists_mem (hperm.mem_iff.mpr hmember)
      exact ⟨found, get?_eq_some_of_mem (hkeys.nodup_iff.mp hnodup) hfound, hvalue⟩
  · rintro ⟨entries, rfl, hexact, hmembers⟩
    have hkeys := keys_perm_of_exactKeys hnodup hexact
    have hnodup' : (entries.map Prod.fst).Nodup := hkeys.nodup_iff.mp hnodup
    -- the member of a key
    let f : JsString → Json := fun key => (Json.get? key members).getD .null
    have hmember : ∀ member ∈ members, f member.1 = member.2 := fun member h => by
      have hget : Json.get? member.1 members = some member.2 := get?_eq_some_of_mem hnodup h
      simp only [f, hget, Option.getD_some]
    refine @Same.obj entries (entries.map fun entry => (entry.1, f entry.1)) members ?_ ?_
    · refine sameEntries_map fun entry hentry => ?_
      have hkey : entry.1 ∈ members.map Prod.fst :=
        hkeys.mem_iff.mpr (List.mem_map.mpr ⟨entry, hentry, rfl⟩)
      obtain ⟨member, hm, heq⟩ := List.mem_map.mp hkey
      obtain ⟨found, hfound, hsame⟩ := hmembers member hm
      rw [heq] at hfound
      have hget : Json.get? entry.1 entries = some entry.2 := get?_eq_some_of_mem hnodup' hentry
      rw [hget] at hfound
      obtain rfl := Option.some.inj hfound
      rw [← heq, hmember member hm]
      exact hsame
    · have hmiddle : (entries.map fun entry => (entry.1, f entry.1)) =
          (Json.keys entries).map fun key => (key, f key) := by
        rw [Json.keys, List.map_map]
        rfl
      have hall : (members.map Prod.fst).map (fun key => (key, f key)) = members := by
        rw [List.map_map]
        refine (List.map_congr_left fun member h => ?_).trans (List.map_id _)
        exact Prod.ext rfl (hmember member h)
      rw [hmiddle]
      conv_rhs => rw [← hall]
      exact (hkeys.symm).map _

/-- What stands under a key of the same objects is the same. -/
theorem Same.member {entries members : List (JsString × Json)} {key : JsString} {v w : Json}
    (h : Same (.obj entries) (.obj members)) (hnodup : (members.map Prod.fst).Nodup)
    (hv : (key, v) ∈ entries) (hw : (key, w) ∈ members) : Same v w := by
  obtain ⟨entries', hentries, hexact, hmembers⟩ := (same_obj_iff hnodup).mp h
  obtain rfl := Json.obj.inj hentries
  have hkeys := keys_perm_of_exactKeys hnodup hexact
  obtain ⟨found, hfound, hsame⟩ := hmembers _ hw
  have hget := get?_eq_some_of_mem (hkeys.nodup_iff.mp hnodup) hv
  obtain rfl : v = found := Option.some.inj (hget.symm.trans hfound)
  exact hsame

/-- The same object as one of a single key. -/
theorem same_single_iff {value : Json} {key : JsString} {member : Json} :
    Same value (.obj [(key, member)]) ↔ ∃ entries found, value = .obj entries ∧
      Json.exactKeys entries [key] = true ∧ Json.get? key entries = some found ∧
      Same found member := by
  have hnodup : ([(key, member)].map Prod.fst).Nodup := List.nodup_singleton key
  rw [same_obj_iff hnodup]
  constructor
  · rintro ⟨entries, rfl, hexact, hmembers⟩
    obtain ⟨found, hfound, hsame⟩ := hmembers _ (List.mem_singleton_self _)
    exact ⟨entries, found, rfl, hexact, hfound, hsame⟩
  · rintro ⟨entries, found, rfl, hexact, hfound, hsame⟩
    refine ⟨entries, rfl, hexact, fun member' hmember => ?_⟩
    obtain rfl := List.mem_singleton.mp hmember
    exact ⟨found, hfound, hsame⟩

/-! ## Keys that are there once -/

theorem distinctEntries_iff {entries : List (JsString × Json)} :
    DistinctEntries entries ↔ ∀ e ∈ entries, e.2.Distinct := by
  induction entries with
  | nil => simp [DistinctEntries]
  | cons e rest ih => simp [DistinctEntries, ih]

mutual

/-- The same value has each key once, too. -/
theorem Same.distinct : ∀ {v w : Json}, Same v w → v.Distinct → w.Distinct
  | _, _, .null, h => h
  | _, _, .bool _, h => h
  | _, _, .num _, h => h
  | _, _, .str _, h => h
  | _, _, .arr hitems, h => SameItems.distinct hitems h
  | _, _, .obj hentries hperm, h => by
    have hkeys := (hperm.map Prod.fst).nodup_iff.mp (hentries.keys_eq ▸ h.1)
    have hmiddle := distinctEntries_iff.mp (SameEntries.distinct hentries h.2)
    exact ⟨hkeys, distinctEntries_iff.mpr fun e he => hmiddle e (hperm.mem_iff.mpr he)⟩

theorem SameItems.distinct : ∀ {items items' : List Json}, SameItems items items' →
    DistinctItems items → DistinctItems items'
  | _, _, .nil, h => h
  | _, _, .cons hitem hrest, h => ⟨Same.distinct hitem h.1, SameItems.distinct hrest h.2⟩

theorem SameEntries.distinct : ∀ {entries entries' : List (JsString × Json)},
    SameEntries entries entries' → DistinctEntries entries → DistinctEntries entries'
  | _, _, .nil, h => h
  | _, _, .cons _ hvalue hrest, h => ⟨Same.distinct hvalue h.1, SameEntries.distinct hrest h.2⟩

end

end Js
