import Mathlib.Data.List.Basic

/-!
# A table under open transactions

The rows of a table as a database with row versions keeps them: a row an open
transaction has inserted is there for that transaction alone, and the version it has
written over a row is too. A commit makes its rows and versions everybody's, an abort
takes them away (`Row.SeenBy.commit`, `committed_abort`).

A unique index counts the rows of all transactions (`Unique`), so that neither a
commit nor an abort can break it (`Unique.commit`, `Unique.abort`). A row stays there for
whom it is there, whatever others commit or abort, with what all its versions keep
(`There.commit`, `There.abort`).
-/

namespace Heap

/-- A row, and what an open transaction has done to it. -/
structure Row (α : Type*) where
  value : α
  /-- The open transaction that has inserted it. -/
  insertedBy : Option ℕ
  /-- The version an open transaction has written over it, and holds it locked with. -/
  update : Option (ℕ × α)
  deriving DecidableEq

variable {α β : Type*}

/-- The row is there for a transaction, or for everybody outside the open ones. -/
def Row.SeenBy (t : Option ℕ) (r : Row α) : Prop := r.insertedBy = none ∨ r.insertedBy = t

instance (t : Option ℕ) (r : Row α) : Decidable (r.SeenBy t) :=
  inferInstanceAs (Decidable (_ ∨ _))

/-- The version of a row that a transaction sees. -/
def Row.version (t : ℕ) (r : Row α) : α :=
  match r.update with
  | some (u, v) => if u = t then v else r.value
  | none => r.value

/-- The row is locked by another open transaction. -/
def Row.lockedAgainst (t : ℕ) (r : Row α) : Bool :=
  match r.update with
  | some (u, _) => u ≠ t
  | none => false

/-- The rows a transaction sees, each in its version. -/
def seen (t : ℕ) (rows : List (Row α)) : List α :=
  (rows.filter fun r => decide (r.SeenBy (some t))).map (·.version t)

/-- The rows outside the open transactions. -/
def committed (rows : List (Row α)) : List α :=
  (rows.filter fun r => decide (r.SeenBy none)).map (·.value)

/-! ## Operations -/

/-- New rows of an open transaction, or rows that are there at once. -/
def insert (t : Option ℕ) (values : List α) (rows : List (Row α)) : List (Row α) :=
  rows ++ values.map fun value => ⟨value, t, none⟩

/-- Write new versions of the rows a transaction sees and that meet a condition. -/
def write (t : ℕ) (p : α → Bool) (f : α → α) (rows : List (Row α)) : List (Row α) :=
  rows.map fun r =>
    if r.SeenBy (some t) ∧ p (r.version t) = true then { r with update := some (t, f (r.version t)) }
    else r

/-- A row after a transaction is committed. -/
def Row.commit (t : ℕ) (r : Row α) : Row α where
  value := r.version t
  insertedBy := if r.insertedBy = some t then none else r.insertedBy
  update := if r.lockedAgainst t then r.update else none

/-- A row after a transaction is aborted that has not inserted it. -/
def Row.rollBack (t : ℕ) (r : Row α) : Row α :=
  { r with update := if r.lockedAgainst t then r.update else none }

/-- The rows behind the commit of a transaction. -/
def commit (t : ℕ) (rows : List (Row α)) : List (Row α) := rows.map (·.commit t)

/-- The rows behind its rollback: what it inserted is gone. -/
def abort (t : ℕ) (rows : List (Row α)) : List (Row α) :=
  (rows.filter fun r => r.insertedBy ≠ some t).map (·.rollBack t)

/-! ## What is visible -/

variable {t u : ℕ} {rows : List (Row α)} {r : Row α}

theorem Row.seenBy_none : r.SeenBy none ↔ r.insertedBy = none := or_self_iff

theorem Row.SeenBy.mono (h : r.SeenBy none) (v : Option ℕ) : r.SeenBy v :=
  .inl (Row.seenBy_none.mp h)

theorem Row.seenBy_commit_self : (r.commit t).SeenBy none ↔ r.SeenBy (some t) := by
  rw [Row.seenBy_none, Row.commit, Row.SeenBy]
  by_cases h : r.insertedBy = some t
  · simp [h]
  · simp [h]

theorem Row.SeenBy.commit {v : Option ℕ} (h : r.SeenBy v) : (r.commit t).SeenBy v := by
  rw [Row.SeenBy, Row.commit]
  rcases h with h | h
  · simp [h]
  · by_cases ht : r.insertedBy = some t
    · simp [ht]
    · exact .inr ((if_neg ht).trans h)

/-- **An abort.** Nothing happens to what was there. -/
theorem committed_abort (t : ℕ) (rows : List (Row α)) :
    committed (abort t rows) = committed rows := by
  rw [committed, committed, abort, List.filter_map, List.map_map, List.filter_filter]
  have hfilter : ∀ r ∈ rows, (((fun r : Row α => decide (r.SeenBy none)) ∘ fun r => r.rollBack t) r &&
      decide (r.insertedBy ≠ some t)) = decide (r.SeenBy none) := by
    intro r _
    have hrow : (r.rollBack t).SeenBy none ↔ r.SeenBy none := Iff.rfl
    by_cases h : r.SeenBy none
    · have hne : r.insertedBy ≠ some t := by
        rw [Row.seenBy_none.mp h]
        nofun
      simp [hrow, h, hne]
    · simp [hrow, h]
  rw [List.filter_congr hfilter]
  rfl

theorem mem_committed {a : α} : a ∈ committed rows ↔ ∃ r ∈ rows, r.SeenBy none ∧ r.value = a := by
  rw [committed]
  simp only [List.mem_map, List.mem_filter, decide_eq_true_eq]
  exact ⟨fun ⟨r, ⟨hr, hs⟩, hv⟩ => ⟨r, hr, hs, hv⟩, fun ⟨r, hr, hs, hv⟩ => ⟨r, ⟨hr, hs⟩, hv⟩⟩

theorem mem_seen {a : α} :
    a ∈ seen t rows ↔ ∃ r ∈ rows, r.SeenBy (some t) ∧ r.version t = a := by
  rw [seen]
  simp only [List.mem_map, List.mem_filter, decide_eq_true_eq]
  exact ⟨fun ⟨r, ⟨hr, hs⟩, hv⟩ => ⟨r, hr, hs, hv⟩, fun ⟨r, hr, hs, hv⟩ => ⟨r, ⟨hr, hs⟩, hv⟩⟩

/-! ## Unique indexes -/

/-- What every version of a row agrees on. -/
def Keeps (key : α → β) (rows : List (Row α)) : Prop :=
  ∀ r ∈ rows, ∀ u v, r.update = some (u, v) → key v = key r.value

/-- Two entries of a unique index; a null is never equal to another. -/
def Differ (a b : Option β) : Prop := ∀ k, a = some k → b ≠ some k

/-- A unique index over the rows of all transactions. -/
def Unique (key : α → Option β) (rows : List (Row α)) : Prop :=
  (rows.map fun r => key r.value).Pairwise Differ

theorem Row.key_version {key : α → β} (h : Keeps key rows) (hr : r ∈ rows) (t : ℕ) :
    key (r.version t) = key r.value := by
  rw [Row.version]
  cases hupdate : r.update with
  | none => rfl
  | some written =>
    obtain ⟨u, v⟩ := written
    by_cases ht : u = t
    · simp only [if_pos ht]
      exact h r hr u v hupdate
    · simp only [if_neg ht]

/-- The versions of a row that never changes. -/
theorem Row.version_eq (h : Keeps id rows) (hr : r ∈ rows) (t : ℕ) : r.version t = r.value :=
  show id (r.version t) = id r.value from Row.key_version h hr t

theorem map_key_commit {key : α → β} (h : Keeps key rows) (t : ℕ) :
    (commit t rows).map (fun r => key r.value) = rows.map fun r => key r.value := by
  rw [commit, List.map_map]
  exact List.map_congr_left fun r hr => Row.key_version h hr t

variable {key : α → Option β}

theorem Unique.commit (h : Unique key rows) (hkeeps : Keeps key rows) (t : ℕ) :
    Unique key (commit t rows) := by
  rw [Unique, map_key_commit hkeeps]
  exact h

theorem Unique.abort (h : Unique key rows) (t : ℕ) : Unique key (abort t rows) := by
  rw [Unique, Heap.abort, List.map_map]
  exact h.sublist ((List.filter_sublist).map _)

theorem Unique.write (h : Unique key rows) (t : ℕ) (p : α → Bool) (f : α → α) :
    Unique key (write t p f rows) := by
  rw [Unique, Heap.write, List.map_map]
  have hsame : ∀ r ∈ rows, ((fun r : Row α => key r.value) ∘ fun r =>
      if r.SeenBy (some t) ∧ p (r.version t) = true then
        { r with update := some (t, f (r.version t)) } else r) r = key r.value := by
    intro r _
    simp only [Function.comp]
    split_ifs <;> rfl
  rw [List.map_congr_left hsame]
  exact h

/-- An insertion that the index lets pass. -/
theorem Unique.insert (h : Unique key rows) {values : List α}
    (hvalues : (values.map key).Pairwise Differ)
    (hnew : ∀ r ∈ rows, ∀ value ∈ values, Differ (key r.value) (key value))
    (t : Option ℕ) : Unique key (insert t values rows) := by
  have hmap : (values.map fun value => (⟨value, t, none⟩ : Row α)).map (fun r => key r.value) =
      values.map key := by
    rw [List.map_map]
    rfl
  rw [Unique, Heap.insert, List.map_append, List.pairwise_append, hmap]
  refine ⟨h, hvalues, ?_⟩
  intro a ha b hb
  obtain ⟨r, hr, rfl⟩ := List.mem_map.mp ha
  obtain ⟨value, hvalue, rfl⟩ := List.mem_map.mp hb
  exact hnew r hr value hvalue

theorem eq_of_pairwise {l : List (Row α)} (h : l.Pairwise fun a b => Differ (key a.value) (key b.value))
    {r r' : Row α} {k : β} (hr : r ∈ l) (hr' : r' ∈ l) (hk : key r.value = some k)
    (hk' : key r'.value = some k) : r = r' := by
  induction l with
  | nil => cases hr
  | cons a rest ih =>
    obtain ⟨ha, hrest⟩ := List.pairwise_cons.mp h
    rcases List.mem_cons.mp hr with rfl | hmem
    · rcases List.mem_cons.mp hr' with rfl | hmem'
      · rfl
      · exact absurd hk' (ha r' hmem' k hk)
    · rcases List.mem_cons.mp hr' with rfl | hmem'
      · exact absurd hk (ha r hmem k hk')
      · exact ih hrest hmem hmem'

/-- **One row for one entry.** -/
theorem Unique.eq (h : Unique key rows) {r r' : Row α} {k : β} (hr : r ∈ rows) (hr' : r' ∈ rows)
    (hk : key r.value = some k) (hk' : key r'.value = some k) : r = r' :=
  eq_of_pairwise (List.pairwise_map.mp h) hr hr' hk hk'

/-- The entries of the rows outside the open transactions are distinct. -/
theorem Unique.nodup_committed (h : Unique key rows) : ((committed rows).filterMap key).Nodup := by
  have hvalues : (rows.map (·.value)).Pairwise fun a b => Differ (key a) (key b) :=
    List.pairwise_map.mpr (List.pairwise_map.mp h)
  have hcommitted := hvalues.sublist ((List.filter_sublist (p := fun r : Row α =>
    decide (r.SeenBy none))).map (·.value))
  refine List.pairwise_filterMap.mpr (hcommitted.imp fun hdiffer => ?_)
  intro k hk k' hk' heq
  exact hdiffer k hk (heq ▸ hk')

/-! ## Versions -/

theorem Keeps.commit {key : α → β} (h : Keeps key rows) (t : ℕ) : Keeps key (commit t rows) := by
  intro _ hmem u v hupdate
  obtain ⟨r, hr, rfl⟩ := List.mem_map.mp hmem
  rw [Row.commit] at hupdate ⊢
  simp only at hupdate ⊢
  split_ifs at hupdate
  rw [Row.key_version h hr t]
  exact h r hr u v hupdate

theorem Keeps.abort {key : α → β} (h : Keeps key rows) (t : ℕ) : Keeps key (abort t rows) := by
  intro _ hmem u v hupdate
  obtain ⟨r, hr, rfl⟩ := List.mem_map.mp hmem
  rw [Row.rollBack] at hupdate ⊢
  simp only at hupdate ⊢
  split_ifs at hupdate
  exact h r (List.mem_filter.mp hr).1 u v hupdate

theorem Keeps.insert {key : α → β} (h : Keeps key rows) (t : Option ℕ) (values : List α) :
    Keeps key (insert t values rows) := by
  intro r hr u v hupdate
  rcases List.mem_append.mp hr with hr | hr
  · exact h r hr u v hupdate
  · obtain ⟨value, -, rfl⟩ := List.mem_map.mp hr
    cases hupdate

theorem Keeps.write {key : α → β} (h : Keeps key rows) {f : α → α} (hf : ∀ a, key (f a) = key a)
    (t : ℕ) (p : α → Bool) : Keeps key (write t p f rows) := by
  intro _ hmem u v hupdate
  obtain ⟨r, hr, rfl⟩ := List.mem_map.mp hmem
  split_ifs at hupdate ⊢ with hwrite
  · obtain ⟨rfl, rfl⟩ := Prod.mk.inj (Option.some.inj hupdate)
    rw [hf]
    exact Row.key_version h hr t
  · exact h r hr u v hupdate

/-! ## Rows that are there -/

/-- A row is there, with what its versions keep. -/
def There (v : Option ℕ) (key : α → β) (rows : List (Row α)) (b : β) : Prop :=
  ∃ r ∈ rows, r.SeenBy v ∧ key r.value = b

section There

variable {v : Option ℕ} {key : α → β} {b : β}

theorem There.insert (h : There v key rows b) (t : Option ℕ) (values : List α) :
    There v key (insert t values rows) b := by
  obtain ⟨r, hr, hseen, hkey⟩ := h
  exact ⟨r, List.mem_append_left _ hr, hseen, hkey⟩

theorem there_insert {value : α} {values : List α} (h : value ∈ values) (t : Option ℕ) :
    There t key (insert t values rows) (key value) :=
  ⟨⟨value, t, none⟩, List.mem_append_right _ (List.mem_map.mpr ⟨value, h, rfl⟩), .inr rfl, rfl⟩

theorem There.write (h : There v key rows b) (t : ℕ) (p : α → Bool) (f : α → α) :
    There v key (write t p f rows) b := by
  obtain ⟨r, hr, hseen, hkey⟩ := h
  refine ⟨_, List.mem_map.mpr ⟨r, hr, rfl⟩, ?_, ?_⟩
  · split_ifs
    · exact hseen
    · exact hseen
  · split_ifs
    · exact hkey
    · exact hkey

theorem There.commit (h : There v key rows b) (hkeeps : Keeps key rows) (t : ℕ) :
    There v key (commit t rows) b := by
  obtain ⟨r, hr, hseen, hkey⟩ := h
  exact ⟨r.commit t, List.mem_map.mpr ⟨r, hr, rfl⟩, hseen.commit,
    (Row.key_version hkeeps hr t).trans hkey⟩

/-- What a transaction saw is there for everybody once it is committed. -/
theorem There.publish (h : There (some t) key rows b) (hkeeps : Keeps key rows) :
    There none key (Heap.commit t rows) b := by
  obtain ⟨r, hr, hseen, hkey⟩ := h
  exact ⟨r.commit t, List.mem_map.mpr ⟨r, hr, rfl⟩, Row.seenBy_commit_self.mpr hseen,
    (Row.key_version hkeeps hr t).trans hkey⟩

theorem There.abort (h : There v key rows b) (hother : v ≠ some t) :
    There v key (Heap.abort t rows) b := by
  obtain ⟨r, hr, hseen, hkey⟩ := h
  have hne : r.insertedBy ≠ some t := by
    rcases hseen with hnone | hv
    · rw [hnone]
      nofun
    · rw [hv]
      exact hother
  exact ⟨r.rollBack t, List.mem_map.mpr ⟨r, List.mem_filter.mpr ⟨hr, by simpa using hne⟩, rfl⟩,
    hseen, hkey⟩

theorem There.mono (h : There none key rows b) (v : Option ℕ) : There v key rows b := by
  obtain ⟨r, hr, hseen, hkey⟩ := h
  exact ⟨r, hr, hseen.mono v, hkey⟩

end There

end Heap
