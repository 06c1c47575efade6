import Mathlib.Data.List.Sort
import Mathlib.Order.Defs.LinearOrder

/-!
# Sorting by a key

`ORDER BY` and `Array.prototype.sort` over a linearly ordered key: the
insertion sort of a list by the key of its items, with what a query is read
for: the same rows, in increasing order, and the first of them. A list that
is in order already is left as it is.
-/

namespace List

variable {α κ : Type*} [LinearOrder κ]

/-- The items in the order of their keys. -/
def sortBy (key : α → κ) (l : List α) : List α := l.insertionSort fun a b => key a ≤ key b

variable {key : α → κ} {l : List α}

@[simp] theorem mem_sortBy {a : α} : a ∈ l.sortBy key ↔ a ∈ l :=
  List.mem_insertionSort _

theorem sortBy_perm (key : α → κ) (l : List α) : (l.sortBy key).Perm l :=
  List.perm_insertionSort _ l

@[simp] theorem length_sortBy : (l.sortBy key).length = l.length :=
  List.length_insertionSort _ l

/-- The sorted list is in order. -/
theorem pairwise_sortBy (key : α → κ) (l : List α) :
    (l.sortBy key).Pairwise fun a b => key a ≤ key b := by
  have : Std.Total fun a b : α => key a ≤ key b := ⟨fun a b => le_total _ _⟩
  have : IsTrans α fun a b : α => key a ≤ key b := ⟨fun a b c => le_trans⟩
  exact List.pairwise_insertionSort _ l

/-- Rows in order stay where they are. -/
theorem sortBy_eq_self (h : l.Pairwise fun a b => key a ≤ key b) : l.sortBy key = l :=
  h.insertionSort_eq

/-- The sorted list is in strict order when no two rows share a key. -/
theorem pairwise_sortBy_lt (h : (l.map key).Nodup) :
    (l.sortBy key).Pairwise fun a b => key a < key b := by
  have hnodup : ((l.sortBy key).map key).Nodup := ((sortBy_perm key l).map key).nodup_iff.mpr h
  have hne : (l.sortBy key).Pairwise fun a b => key a ≠ key b := List.pairwise_map.mp hnodup
  exact (pairwise_sortBy key l).imp₂ (fun a b hle hne => lt_of_le_of_ne hle hne) hne

/-- The first of the rows is the least. -/
theorem head_sortBy_le {a b : α} (ha : (l.sortBy key).head? = some a) (hb : b ∈ l) :
    key a ≤ key b := by
  obtain ⟨rest, hrest⟩ : ∃ rest, l.sortBy key = a :: rest := by
    cases hl : l.sortBy key with
    | nil => simp [hl] at ha
    | cons x xs =>
      rw [hl] at ha
      cases ha
      exact ⟨xs, rfl⟩
  have hb' : b ∈ l.sortBy key := mem_sortBy.mpr hb
  have hpair := pairwise_sortBy key l
  rw [hrest] at hb' hpair
  rcases List.mem_cons.mp hb' with rfl | hmem
  · exact le_rfl
  · exact List.rel_of_pairwise_cons hpair hmem

/-- In strict order a list within another is a part of it, in place. -/
theorem sublist_of_subset_of_key_lt {m : List α} (hl : l.Pairwise fun a b => key a < key b)
    (hm : m.Pairwise fun a b => key a < key b) (hsub : l ⊆ m) : l.Sublist m := by
  have hirrefl : Std.Irrefl fun a b : α => key a < key b := ⟨fun a => lt_irrefl _⟩
  have hantisymm : Std.Antisymm fun a b : α => key a < key b :=
    ⟨fun a b hab hba => absurd hba hab.asymm⟩
  exact sublist_of_subperm_of_pairwise (subperm_of_subset hl.nodup hsub) hl hm

/-- Lists of the same items in order are one list where no two items share a key. -/
theorem sortBy_eq_of_mem_iff {m : List α} (hkey : Function.Injective key) (hl : l.Nodup)
    (hm : m.Nodup) (h : ∀ a, a ∈ l ↔ a ∈ m) : l.sortBy key = m.sortBy key := by
  have hperm : (l.sortBy key).Perm (m.sortBy key) :=
    (sortBy_perm key l).trans (((List.perm_ext_iff_of_nodup hl hm).mpr h).trans
      (sortBy_perm key m).symm)
  refine hperm.eq_of_pairwise ?_ (pairwise_sortBy key l) (pairwise_sortBy key m)
  intro a b _ _ hab hba
  exact hkey (le_antisymm hab hba)

/-! ## Sorting in parts -/

/-- An item that comes before a whole part is put into the other. -/
theorem orderedInsert_append_of_le {a : α} {m : List α} (h : ∀ b ∈ m, key a ≤ key b) :
    (l ++ m).orderedInsert (fun a b => key a ≤ key b) a =
      l.orderedInsert (fun a b => key a ≤ key b) a ++ m := by
  induction l with
  | nil =>
    cases m with
    | nil => rfl
    | cons b rest => simp [h b List.mem_cons_self]
  | cons c rest ih => by_cases hc : key a ≤ key c <;> simp [hc, ih]

/-- An item that comes behind a whole part is put into the other. -/
theorem orderedInsert_append_of_lt {a : α} {m : List α} (h : ∀ b ∈ l, key b < key a) :
    (l ++ m).orderedInsert (fun a b => key a ≤ key b) a =
      l ++ m.orderedInsert (fun a b => key a ≤ key b) a := by
  induction l with
  | nil => rfl
  | cons c rest ih =>
    have hc : ¬ key a ≤ key c := not_le.mpr (h c List.mem_cons_self)
    simp [hc, ih fun b hb => h b (List.mem_cons_of_mem _ hb)]

/-- **Sorting cuts at any key**: first the items up to it, then those behind. -/
theorem sortBy_split (key : α → κ) (mid : κ) (l : List α) :
    l.sortBy key =
      (l.filter fun a => key a ≤ mid).sortBy key ++ (l.filter fun a => mid < key a).sortBy key := by
  induction l with
  | nil => rfl
  | cons a rest ih =>
    have hcons : (a :: rest).sortBy key =
        (rest.sortBy key).orderedInsert (fun a b => key a ≤ key b) a := rfl
    rw [hcons, ih]
    by_cases ha : key a ≤ mid
    · have hnot : ¬ mid < key a := not_lt.mpr ha
      rw [orderedInsert_append_of_le, List.filter_cons_of_pos (by simpa using ha),
        List.filter_cons_of_neg (by simpa using hnot)]
      · rfl
      · intro b hb
        have hmid := (List.mem_filter.mp (mem_sortBy.mp hb)).2
        exact ha.trans (of_decide_eq_true hmid).le
    · have hmid : mid < key a := not_le.mp ha
      rw [orderedInsert_append_of_lt, List.filter_cons_of_neg (by simpa using ha),
        List.filter_cons_of_pos (by simpa using hmid)]
      · rfl
      · intro b hb
        have hle := (List.mem_filter.mp (mem_sortBy.mp hb)).2
        exact (of_decide_eq_true hle).trans_lt hmid

/-! ## The first rows of a sorted list -/

/-- In strict order, a row up to the last of the first `n` is one of them. -/
theorem mem_take_of_key_le {n : ℕ} {a last : α} (h : l.Pairwise fun a b => key a < key b)
    (ha : a ∈ l) (hlast : (l.take n).getLast? = some last) (hle : key a ≤ key last) :
    a ∈ l.take n := by
  rw [← List.take_append_drop n l] at h ha
  rcases List.mem_append.mp ha with htake | hdrop
  · exact htake
  · -- a row behind the first `n` would come after the last of them
    have hlt := (List.pairwise_append.mp h).2.2 last (List.mem_of_getLast? hlast) a hdrop
    exact absurd hle (not_le.mpr hlt)

end List
