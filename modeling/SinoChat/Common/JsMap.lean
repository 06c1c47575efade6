import Mathlib.Data.List.Basic

/-!
# JavaScript maps

A `Map` as the list of its entries in insertion order: setting a key that is
there changes its value in place, setting a new one appends it. A map built
by setting entries one after another holds, for each key, the last value set
(`get?_ofEntries`).
-/

namespace Js

/-- A `Map` by its entries. -/
abbrev JsMap (κ α : Type*) := List (κ × α)

namespace JsMap

variable {κ α : Type*} [DecidableEq κ]

/-- `map.set(key, value)`. -/
def set (key : κ) (value : α) : JsMap κ α → JsMap κ α
  | [] => [(key, value)]
  | (k, v) :: rest => if k = key then (k, value) :: rest else (k, v) :: set key value rest

/-- `map.get(key)`. -/
def get? (key : κ) : JsMap κ α → Option α
  | [] => none
  | (k, v) :: rest => if k = key then some v else get? key rest

/-- `new Map(entries)`. -/
def ofEntries (entries : List (κ × α)) : JsMap κ α :=
  entries.foldl (fun map entry => set entry.1 entry.2 map) []

theorem get?_set (key k : κ) (value : α) (map : JsMap κ α) :
    get? k (set key value map) = if key = k then some value else get? k map := by
  induction map with
  | nil => simp [set, get?]
  | cons entry rest ih =>
    obtain ⟨l, v⟩ := entry
    by_cases hl : l = key
    · subst hl
      by_cases hk : l = k <;> simp [set, get?, hk]
    · by_cases hk : l = k
      · subst hk
        simp [set, get?, hl, Ne.symm hl]
      · simp [set, get?, hl, hk, ih]

/-- `map.delete(key)`. -/
def delete (key : κ) (map : JsMap κ α) : JsMap κ α := map.filter fun entry => entry.1 ≠ key

theorem get?_delete (key k : κ) (map : JsMap κ α) :
    get? k (delete key map) = if k = key then none else get? k map := by
  induction map with
  | nil => simp [delete, get?]
  | cons entry rest ih =>
    obtain ⟨key', value⟩ := entry
    rw [delete] at ih ⊢
    by_cases hkey : key' = key
    · rw [List.filter_cons_of_neg (by simpa using hkey), ih, get?]
      by_cases hk : k = key
      · rw [if_pos hk, if_pos hk]
      · rw [if_neg hk, if_neg hk, if_neg fun h => hk (h.symm.trans hkey)]
    · rw [List.filter_cons_of_pos (by simpa using hkey), get?, get?, ih]
      by_cases hk : k = key
      · rw [if_pos hk, if_pos hk, if_neg fun h => hkey (h.trans hk)]
      · rw [if_neg hk, if_neg hk]

/-- The keys of a map after a `set`. -/
theorem mem_keys_set {key k : κ} {value : α} {map : JsMap κ α} :
    k ∈ (set key value map).map Prod.fst ↔ k = key ∨ k ∈ map.map Prod.fst := by
  induction map with
  | nil => simp [set]
  | cons entry rest ih =>
    obtain ⟨l, v⟩ := entry
    by_cases hl : l = key
    · subst hl
      simp [set]
    · simp only [set, if_neg hl, List.map_cons, List.mem_cons, ih]
      tauto

theorem nodup_keys_set {key : κ} {value : α} {map : JsMap κ α}
    (h : (map.map Prod.fst).Nodup) : ((set key value map).map Prod.fst).Nodup := by
  induction map with
  | nil => simp [set]
  | cons entry rest ih =>
    obtain ⟨l, v⟩ := entry
    simp only [List.map_cons, List.nodup_cons] at h
    by_cases hl : l = key
    · simp [set, hl]
      exact ⟨by simpa [hl] using h.1, h.2⟩
    · simp only [set, if_neg hl, List.map_cons, List.nodup_cons, mem_keys_set]
      exact ⟨by tauto, ih h.2⟩

/-- What holds of the empty map and is kept by every `set` holds of the map. -/
theorem ofEntries_induction {P : JsMap κ α → Prop} (entries : List (κ × α)) (hnil : P [])
    (hset : ∀ map, ∀ entry ∈ entries, P map → P (set entry.1 entry.2 map)) :
    P (ofEntries entries) := by
  have general : ∀ (rest : List (κ × α)) (map : JsMap κ α), (∀ e ∈ rest, e ∈ entries) → P map →
      P (rest.foldl (fun map entry => set entry.1 entry.2 map) map) := by
    intro rest
    induction rest with
    | nil => exact fun map _ h => h
    | cons entry rest ih =>
      intro map hmem h
      exact ih _ (fun e he => hmem e (List.mem_cons_of_mem _ he))
        (hset map entry (hmem entry List.mem_cons_self) h)
  exact general entries [] (fun _ he => he) hnil

theorem nodup_keys_ofEntries (entries : List (κ × α)) :
    ((ofEntries entries).map Prod.fst).Nodup :=
  ofEntries_induction (P := fun map => (map.map Prod.fst).Nodup) entries (by simp)
    fun _ _ _ h => nodup_keys_set h

/-- A key's value is the last one set. -/
theorem get?_ofEntries (entries : List (κ × α)) (k : κ) :
    get? k (ofEntries entries) =
      (entries.reverse.find? fun entry => entry.1 = k).map Prod.snd := by
  have general : ∀ (entries : List (κ × α)) (map : JsMap κ α),
      get? k (entries.foldl (fun map entry => set entry.1 entry.2 map) map) =
        ((entries.reverse.find? fun entry => entry.1 = k).map Prod.snd).or (get? k map) := by
    intro entries
    induction entries with
    | nil => simp
    | cons entry rest ih =>
      intro map
      obtain ⟨l, v⟩ := entry
      rw [List.foldl_cons, ih, get?_set, List.reverse_cons, List.find?_append]
      cases rest.reverse.find? fun entry => entry.1 = k with
      | some found => simp
      | none => by_cases hl : l = k <;> simp [hl]
  rw [ofEntries, general]
  simp [get?]

theorem mem_of_get?_eq_some {key : κ} {value : α} {map : JsMap κ α}
    (h : get? key map = some value) : (key, value) ∈ map := by
  induction map with
  | nil => simp [get?] at h
  | cons entry rest ih =>
    obtain ⟨l, v⟩ := entry
    rw [get?] at h
    split_ifs at h with hl
    · cases h
      simp [hl]
    · exact List.mem_cons_of_mem _ (ih h)

theorem get?_eq_some_of_mem {key : κ} {value : α} {map : JsMap κ α}
    (hnodup : (map.map Prod.fst).Nodup) (h : (key, value) ∈ map) : get? key map = some value := by
  induction map with
  | nil => simp at h
  | cons entry rest ih =>
    obtain ⟨l, v⟩ := entry
    simp only [List.map_cons, List.nodup_cons] at hnodup
    rcases List.mem_cons.mp h with heq | hmem
    · cases heq
      simp [get?]
    · have hne : l ≠ key := by
        rintro rfl
        exact hnodup.1 (List.mem_map.mpr ⟨_, hmem, rfl⟩)
      simp [get?, hne, ih hnodup.2 hmem]

end JsMap

end Js
