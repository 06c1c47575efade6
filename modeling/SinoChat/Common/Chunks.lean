import Mathlib.Data.List.Basic

/-!
# A list in chunks

The slices of a list at the offsets `0, n, 2n, …`: one after the other they are
the list (`flatten_chunks`), and none is longer than `n`.
-/

namespace Js

variable {α : Type*}

/-- `entries.slice(offset, offset + n)` for every `offset` of the loop. -/
def chunks (n : ℕ) (entries : List α) : List (List α) :=
  (List.range ((entries.length + n - 1) / n)).map fun i => (entries.drop (n * i)).take n

theorem length_le_of_mem_chunks {n : ℕ} {entries chunk : List α} (h : chunk ∈ chunks n entries) :
    chunk.length ≤ n := by
  obtain ⟨i, -, rfl⟩ := List.mem_map.mp h
  exact List.length_take_le n _

/-- The first slices make the beginning of the list. -/
theorem flatten_slices (n k : ℕ) (entries : List α) :
    ((List.range k).map fun i => (entries.drop (n * i)).take n).flatten =
      entries.take (n * k) := by
  induction k with
  | zero => simp
  | succ k ih =>
    rw [List.range_succ, List.map_append, List.flatten_append, ih, Nat.mul_succ, List.take_add]
    simp

/-- **The chunks in their order are the list.** -/
theorem flatten_chunks {n : ℕ} (hn : 0 < n) (entries : List α) :
    (chunks n entries).flatten = entries := by
  rw [chunks, flatten_slices, List.take_of_length_le]
  have hmod := Nat.div_add_mod (entries.length + n - 1) n
  have hlt := Nat.mod_lt (entries.length + n - 1) hn
  omega

end Js
