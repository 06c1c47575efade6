import Mathlib.Data.List.Nodup

/-!
# Tables with a primary key

A relation as a database keeps it: a list of rows no two of which agree on
the key. The list is the order in which an unordered query may return its
rows; the key makes a lookup by it single-valued, so `find?` and membership
say the same (`find?_eq_some`).
-/

/-- Rows with pairwise different keys. -/
structure Table (κ α : Type*) (key : α → κ) where
  rows : List α
  nodup : (rows.map key).Nodup

namespace Table

variable {κ α : Type*} {key : α → κ}

instance : Membership α (Table κ α key) := ⟨fun t a => a ∈ t.rows⟩

theorem mem_def {t : Table κ α key} {a : α} : a ∈ t ↔ a ∈ t.rows := Iff.rfl

/-- The table without rows. -/
def empty : Table κ α key := ⟨[], List.nodup_nil⟩

instance : Inhabited (Table κ α key) := ⟨empty⟩

@[simp] theorem rows_empty : (empty : Table κ α key).rows = [] := rfl

/-- A key names at most one row. -/
theorem eq_of_key_eq {t : Table κ α key} {a b : α} (ha : a ∈ t) (hb : b ∈ t)
    (h : key a = key b) : a = b :=
  List.inj_on_of_nodup_map t.nodup ha hb h

/-- The rows a condition selects. -/
def filter (t : Table κ α key) (p : α → Bool) : Table κ α key :=
  ⟨t.rows.filter p, t.nodup.sublist (List.filter_sublist.map key)⟩

@[simp] theorem rows_filter (t : Table κ α key) (p : α → Bool) :
    (t.filter p).rows = t.rows.filter p := rfl

@[simp] theorem mem_filter {t : Table κ α key} {p : α → Bool} {a : α} :
    a ∈ t.filter p ↔ a ∈ t ∧ p a = true := List.mem_filter

/-- Update every row, none of them in its key. -/
def modify (t : Table κ α key) (f : α → α) (hf : ∀ a, key (f a) = key a) : Table κ α key :=
  ⟨t.rows.map f, by
    have hkeys : (t.rows.map f).map key = t.rows.map key := by
      rw [List.map_map]
      exact List.map_congr_left fun a _ => hf a
    rw [hkeys]
    exact t.nodup⟩

@[simp] theorem rows_modify (t : Table κ α key) (f : α → α) (hf : ∀ a, key (f a) = key a) :
    (t.modify f hf).rows = t.rows.map f := rfl

@[simp] theorem mem_modify {t : Table κ α key} {f : α → α} {hf : ∀ a, key (f a) = key a}
    {b : α} : b ∈ t.modify f hf ↔ ∃ a ∈ t, f a = b := List.mem_map

/-- An update that changes no row. -/
theorem modify_eq_self {t : Table κ α key} {f : α → α} {hf : ∀ a, key (f a) = key a}
    (h : ∀ a ∈ t, f a = a) : t.modify f hf = t := by
  obtain ⟨rows, nodup⟩ := t
  have hrows : rows.map f = rows := by
    conv_rhs => rw [← List.map_id rows]
    exact List.map_congr_left h
  simp [modify, hrows]

variable [DecidableEq κ]

/-- The row of a key. -/
def find? (t : Table κ α key) (k : κ) : Option α := t.rows.find? fun a => key a = k

theorem find?_eq_some {t : Table κ α key} {k : κ} {a : α} :
    t.find? k = some a ↔ a ∈ t ∧ key a = k := by
  constructor
  · intro h
    exact ⟨List.mem_of_find?_eq_some h, by simpa using List.find?_some h⟩
  · rintro ⟨ha, hk⟩
    obtain ⟨b, hb⟩ : ∃ b, t.find? k = some b :=
      Option.isSome_iff_exists.mp (List.find?_isSome.mpr ⟨a, ha, by simpa using hk⟩)
    have hbk : key b = k := by simpa using List.find?_some hb
    rw [hb, eq_of_key_eq (List.mem_of_find?_eq_some hb) ha (hbk.trans hk.symm)]

theorem find?_eq_none {t : Table κ α key} {k : κ} :
    t.find? k = none ↔ ∀ a ∈ t, key a ≠ k := by
  simp [find?, mem_def]

/-- Add a row of a new key. -/
def insert (t : Table κ α key) (a : α) (h : t.find? (key a) = none) : Table κ α key :=
  ⟨t.rows ++ [a], by
    rw [List.map_append]
    refine t.nodup.append (List.nodup_singleton _) ?_
    intro k hk hk'
    obtain ⟨b, hb, rfl⟩ := List.mem_map.mp hk
    exact find?_eq_none.mp h b hb (by simpa using hk')⟩

@[simp] theorem mem_insert {t : Table κ α key} {a b : α} {h : t.find? (key a) = none} :
    b ∈ t.insert a h ↔ b ∈ t ∨ b = a := by
  simp [mem_def, insert]

theorem find?_insert {t : Table κ α key} {a : α} {h : t.find? (key a) = none} {k : κ} :
    (t.insert a h).find? k = if key a = k then some a else t.find? k := by
  split
  · rename_i hk
    exact find?_eq_some.mpr ⟨mem_insert.mpr (.inr rfl), hk⟩
  · rename_i hk
    simp [find?, insert, List.find?_append, hk]

theorem find?_modify {t : Table κ α key} {f : α → α} {hf : ∀ a, key (f a) = key a} {k : κ} :
    (t.modify f hf).find? k = (t.find? k).map f := by
  simp [find?, List.find?_map, Function.comp_def, hf]

/-- The table without the row of a key. -/
def remove (t : Table κ α key) (k : κ) : Table κ α key := t.filter fun a => key a ≠ k

@[simp] theorem mem_remove {t : Table κ α key} {k : κ} {a : α} :
    a ∈ t.remove k ↔ a ∈ t ∧ key a ≠ k := by
  simp [remove]

theorem find?_remove {t : Table κ α key} {k k' : κ} :
    (t.remove k).find? k' = if k' = k then none else t.find? k' := by
  split
  · rename_i hk
    subst hk
    exact find?_eq_none.mpr fun a ha => (mem_remove.mp ha).2
  · rename_i hk
    cases hf : t.find? k' with
    | none =>
      exact find?_eq_none.mpr fun a ha => find?_eq_none.mp hf a (mem_remove.mp ha).1
    | some a =>
      obtain ⟨ha, hka⟩ := find?_eq_some.mp hf
      exact find?_eq_some.mpr ⟨mem_remove.mpr ⟨ha, by rwa [hka]⟩, hka⟩

/-! ## The row of a key -/

/-- Update the row of a key, not in its key. -/
def update (t : Table κ α key) (k : κ) (f : α → α) (hf : ∀ a, key (f a) = key a) :
    Table κ α key :=
  t.modify (fun a => if key a = k then f a else a) (by intro a; split <;> simp [hf])

theorem mem_update {t : Table κ α key} {k : κ} {f : α → α} {hf : ∀ a, key (f a) = key a} {b : α} :
    b ∈ t.update k f hf ↔ (∃ a ∈ t, key a = k ∧ f a = b) ∨ b ∈ t ∧ key b ≠ k := by
  simp only [update, mem_modify]
  constructor
  · rintro ⟨a, ha, hb⟩
    split at hb
    · exact .inl ⟨a, ha, ‹_›, hb⟩
    · subst hb
      exact .inr ⟨ha, ‹_›⟩
  · rintro (⟨a, ha, hk, hb⟩ | ⟨hb, hk⟩)
    · exact ⟨a, ha, by rw [if_pos hk, hb]⟩
    · exact ⟨b, hb, if_neg hk⟩

theorem find?_update {t : Table κ α key} {k k' : κ} {f : α → α} {hf : ∀ a, key (f a) = key a} :
    (t.update k f hf).find? k' = if k' = k then (t.find? k).map f else t.find? k' := by
  rw [update, find?_modify]
  split
  · rename_i hk
    subst hk
    cases hfind : t.find? k' with
    | none => rfl
    | some a => simp [(find?_eq_some.mp hfind).2]
  · rename_i hk
    cases hfind : t.find? k' with
    | none => rfl
    | some a => simp [(find?_eq_some.mp hfind).2, hk]

/-! ## Counting rows -/

/-- How many rows meet a condition. -/
def count (t : Table κ α key) (p : α → Bool) : ℕ := t.rows.countP p

omit [DecidableEq κ] in
theorem count_modify {t : Table κ α key} {f : α → α} {hf : ∀ a, key (f a) = key a} {p : α → Bool} :
    (t.modify f hf).count p = t.count fun a => p (f a) := by
  simp [count, List.countP_map, Function.comp_def]

omit [DecidableEq κ] in
theorem count_congr {t : Table κ α key} {p q : α → Bool} (h : ∀ a ∈ t, p a = q a) :
    t.count p = t.count q :=
  List.countP_congr fun a ha => by rw [h a ha]

theorem count_insert {t : Table κ α key} {a : α} {h : t.find? (key a) = none} {p : α → Bool} :
    (t.insert a h).count p = t.count p + if p a then 1 else 0 := by
  simp [count, insert, List.countP_append, List.countP_singleton]

/-- An update of one row moves the count by that row alone. -/
theorem count_update {t : Table κ α key} {k : κ} {f : α → α} {hf : ∀ a, key (f a) = key a} {a : α}
    (h : t.find? k = some a) {p : α → Bool} :
    (t.update k f hf).count p + (if p a then 1 else 0) = t.count p + if p (f a) then 1 else 0 := by
  obtain ⟨hmem, rfl⟩ := find?_eq_some.mp h
  obtain ⟨rows, nodup⟩ := t
  change (rows.map fun b => if key b = key a then f b else b).countP p + _ = rows.countP p + _
  induction rows with
  | nil => cases hmem
  | cons b rows ih =>
    rw [List.map_cons, List.nodup_cons] at nodup
    rw [List.map_cons, List.countP_cons, List.countP_cons]
    rcases List.mem_cons.mp hmem with rfl | hmem
    · have hrest : (rows.map fun b => if key b = key a then f b else b) = rows := by
        conv_rhs => rw [← List.map_id rows]
        refine List.map_congr_left fun b hb => if_neg fun hk => nodup.1 ?_
        exact hk ▸ List.mem_map_of_mem hb
      rw [hrest, if_pos rfl]
      omega
    · have hne : key b ≠ key a := fun hk => nodup.1 (hk ▸ List.mem_map_of_mem hmem)
      have hrest := ih nodup.2 hmem (find?_eq_some.mpr ⟨hmem, rfl⟩)
      rw [if_neg hne]
      omega

/-- An update of rows that keeps the condition keeps the count. -/
theorem count_update_of_eq {t : Table κ α key} {k : κ} {f : α → α}
    {hf : ∀ a, key (f a) = key a} {p : α → Bool} (hp : ∀ a ∈ t, key a = k → p (f a) = p a) :
    (t.update k f hf).count p = t.count p := by
  simp only [count, update, rows_modify, List.countP_map]
  refine List.countP_congr fun a ha => ?_
  by_cases hk : key a = k
  · simp [hk, hp a ha hk]
  · simp [hk]

omit [DecidableEq κ] in
theorem count_eq_zero {t : Table κ α key} {p : α → Bool} :
    t.count p = 0 ↔ ∀ a ∈ t, p a = false := by
  simp [count, mem_def]

omit [DecidableEq κ] in
/-- Rows that a condition counts at most once are one row. -/
theorem eq_of_count_le_one {t : Table κ α key} {p : α → Bool} (h : t.count p ≤ 1) {a b : α}
    (ha : a ∈ t) (hb : b ∈ t) (hpa : p a = true) (hpb : p b = true) : a = b := by
  have hfilter : (t.rows.filter p).length ≤ 1 := by rwa [← List.countP_eq_length_filter]
  obtain ⟨c, hc⟩ : ∃ c, t.rows.filter p = [c] := by
    rcases hl : t.rows.filter p with _ | ⟨c, _ | ⟨d, rest⟩⟩
    · exact absurd (hl ▸ List.mem_filter.mpr ⟨ha, hpa⟩) List.not_mem_nil
    · exact ⟨c, rfl⟩
    · simp [hl] at hfilter
  have hac := hc ▸ List.mem_filter.mpr ⟨ha, hpa⟩
  have hbc := hc ▸ List.mem_filter.mpr ⟨hb, hpb⟩
  rw [List.mem_singleton] at hac hbc
  exact hac.trans hbc.symm

omit [DecidableEq κ] in
theorem exists_of_count_pos {t : Table κ α key} {p : α → Bool} (h : 0 < t.count p) :
    ∃ a ∈ t, p a = true := by
  obtain ⟨a, ha, hpa⟩ := List.countP_pos_iff.mp h
  exact ⟨a, ha, hpa⟩

end Table
