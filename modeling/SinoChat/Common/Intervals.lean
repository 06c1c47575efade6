import Mathlib.Algebra.Order.Ring.Int
import Mathlib.Data.List.Chain
import Mathlib.Order.Defs.LinearOrder

/-!
# Chains of half-open intervals

Items with a lower and an upper end, read as the intervals `(lo, hi]`. In a
chain where each item starts where the one before ended, the intervals are
pairwise disjoint and every point between the two ends of the chain lies in
exactly one of them (`countP_covers`).
-/

namespace Intervals

variable {α κ : Type*} [LinearOrder κ] {lo hi : α → κ}

/-- Every interval is well formed and starts where the one before it ended. -/
structure Contiguous (lo hi : α → κ) (l : List α) : Prop where
  le : ∀ a ∈ l, lo a ≤ hi a
  adjoin : l.IsChain fun a b => hi a = lo b

/-- The point lies in the interval. -/
def covers (lo hi : α → κ) (x : κ) (a : α) : Bool := lo a < x && x ≤ hi a

@[simp] theorem covers_eq_true {x : κ} {a : α} :
    covers lo hi x a = true ↔ lo a < x ∧ x ≤ hi a := by
  simp [covers]

namespace Contiguous

theorem tail {a : α} {l : List α} (h : Contiguous lo hi (a :: l)) : Contiguous lo hi l where
  le := fun b hb => h.le b (List.mem_cons_of_mem a hb)
  adjoin := h.adjoin.tail

/-- Every later interval lies above the end of the first. -/
theorem hi_le_lo {a b : α} {l : List α} (h : Contiguous lo hi (a :: l)) (hb : b ∈ l) :
    hi a ≤ lo b := by
  induction l generalizing a with
  | nil => simp at hb
  | cons c l ih =>
    have hac : hi a = lo c := (List.isChain_cons_cons.mp h.adjoin).1
    rcases List.mem_cons.mp hb with rfl | hmem
    · exact hac.le
    · have hc := h.le c (by simp)
      have hcb := ih h.tail hmem
      exact hac.le.trans (hc.trans hcb)

/-- **The intervals are pairwise disjoint.** -/
theorem pairwise_disjoint {l : List α} (h : Contiguous lo hi l) :
    l.Pairwise fun a b => ∀ x, ¬ (covers lo hi x a = true ∧ covers lo hi x b = true) := by
  induction l with
  | nil => exact .nil
  | cons a l ih =>
    refine List.pairwise_cons.mpr ⟨?_, ih h.tail⟩
    intro b hb x hx
    obtain ⟨ha, hb'⟩ := hx
    have hle := h.hi_le_lo hb
    rw [covers_eq_true] at ha hb'
    exact absurd (ha.2.trans hle) (not_le.mpr hb'.1)

/-- The chain ends no lower than it starts. -/
theorem lo_le_hi_getLast {a : α} {l : List α} (h : Contiguous lo hi (a :: l)) :
    hi a ≤ hi ((a :: l).getLast (List.cons_ne_nil a l)) := by
  rcases List.mem_cons.mp (List.getLast_mem (List.cons_ne_nil a l)) with heq | hmem
  · exact (congrArg hi heq).ge
  · exact (h.hi_le_lo hmem).trans (h.le _ (List.mem_cons_of_mem a hmem))

/-- **A point between the ends of the chain lies in exactly one interval**,
and a point outside in none. -/
theorem countP_covers {a : α} {l : List α} (h : Contiguous lo hi (a :: l)) (x : κ) :
    (a :: l).countP (covers lo hi x) =
      if lo a < x ∧ x ≤ hi ((a :: l).getLast (List.cons_ne_nil a l)) then 1 else 0 := by
  induction l generalizing a with
  | nil =>
    by_cases hx : covers lo hi x a = true
    · rw [List.countP_singleton, if_pos hx, List.getLast_singleton, if_pos (covers_eq_true.mp hx)]
    · rw [List.countP_singleton, if_neg hx, List.getLast_singleton,
        if_neg (mt covers_eq_true.mpr hx)]
  | cons b l ih =>
    have hab : hi a = lo b := (List.isChain_cons_cons.mp h.adjoin).1
    have ha : lo a ≤ hi a := h.le a (by simp)
    have hb : lo b ≤ hi b := h.le b (by simp)
    have hlast := h.tail.lo_le_hi_getLast
    rw [List.countP_cons, ih h.tail, List.getLast_cons (List.cons_ne_nil b l), ← hab]
    generalize hi ((b :: l).getLast (List.cons_ne_nil b l)) = last at hlast
    rcases le_or_gt x (hi a) with hx | hx
    · -- up to the end of the first interval the rest has nothing
      have hrest : ¬ (hi a < x ∧ x ≤ last) := fun hcov => absurd hx (not_le.mpr hcov.1)
      have hup : x ≤ last := hx.trans (hab.le.trans (hb.trans hlast))
      rw [if_neg hrest]
      by_cases hlo : lo a < x
      · rw [if_pos (covers_eq_true.mpr ⟨hlo, hx⟩), if_pos ⟨hlo, hup⟩]
      · rw [if_neg fun hcov => hlo (covers_eq_true.mp hcov).1, if_neg fun hcov => hlo hcov.1]
    · -- behind it the first interval has nothing
      have hfirst : covers lo hi x a = false := by
        simp [covers, not_le.mpr hx]
      have hlo : lo a < x := ha.trans_lt hx
      simp [hfirst, hlo, hx]

end Contiguous

end Intervals
