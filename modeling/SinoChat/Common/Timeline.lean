import Mathlib.Data.List.Induction
import Mathlib.Data.List.Nodup
import Mathlib.Order.Lattice

/-!
# Timelines

Entries that take effect one after the other, each until the next one does. The entry in
force at a time is the last one that has started (`entryAt`). An entry that is appended
takes over from its start on and leaves the past alone (`entryAt_append`).

A table of such entries writes the end of each into its row: the last row has none, and
every other ends where the next one starts (`Abutting`). In such a table the row whose
interval contains a time is the entry in force (`Abutting.covers_iff`), and a new entry is
written by closing the open row at its start (`Abutting.close_append`).
-/

namespace Timeline

variable {α β κ : Type*} [LinearOrder κ] {start : α → κ} {stop : α → Option κ}

/-! ## The entry in force -/

/-- The entries are in strict order of their starts. -/
def Ordered (start : α → κ) (l : List α) : Prop := l.Pairwise fun a b => start a < start b

/-- The last entry that has started at a time. -/
def entryAt (start : α → κ) (l : List α) (t : κ) : Option α :=
  (l.filter fun a => decide (start a ≤ t)).getLast?

@[simp] theorem entryAt_nil (t : κ) : entryAt start [] t = none := rfl

/-- **What an appended entry changes**: from its start on it is in force. -/
theorem entryAt_append (l : List α) (a : α) (t : κ) :
    entryAt start (l ++ [a]) t = if start a ≤ t then some a else entryAt start l t := by
  unfold entryAt
  rw [List.filter_append]
  split_ifs with h
  · rw [List.filter_cons_of_pos (by simpa using h), List.filter_nil, List.getLast?_concat]
  · rw [List.filter_cons_of_neg (by simpa using h), List.filter_nil, List.append_nil]

/-- Another form of the same entries. -/
theorem entryAt_map {f : α → β} {start' : β → κ} {l : List α}
    (hf : ∀ a ∈ l, start' (f a) = start a) (t : κ) :
    entryAt start' (l.map f) t = (entryAt start l t).map f := by
  have hfilter : (l.map f).filter (fun b => decide (start' b ≤ t)) =
      (l.filter fun a => decide (start a ≤ t)).map f := by
    rw [List.filter_map]
    refine congrArg (List.map f) (List.filter_congr fun a ha => ?_)
    simp [hf a ha]
  rw [entryAt, hfilter, List.getLast?_map, entryAt]

/-- **The entry in force is the one that started last.** -/
theorem entryAt_eq_some_iff {l : List α} (hl : Ordered start l) {a : α} {t : κ} :
    entryAt start l t = some a ↔
      a ∈ l ∧ start a ≤ t ∧ ∀ b ∈ l, start b ≤ t → start b ≤ start a := by
  induction l using List.reverseRecOn with
  | nil => simp
  | append_singleton l c ih =>
    have hlast : ∀ b ∈ l, start b < start c := fun b hb =>
      (List.pairwise_append.mp hl).2.2 b hb c List.mem_cons_self
    specialize ih (List.pairwise_append.mp hl).1
    rw [entryAt_append]
    split_ifs with h
    · constructor
      · intro hc
        obtain rfl := Option.some.inj hc
        refine ⟨by simp, h, fun b hb _ => ?_⟩
        rcases List.mem_append.mp hb with hb | hb
        · exact (hlast b hb).le
        · rw [List.mem_singleton.mp hb]
      · rintro ⟨hmem, -, hmax⟩
        rcases List.mem_append.mp hmem with hmem | hmem
        · exact absurd (hmax c (by simp) h) (not_le.mpr (hlast a hmem))
        · rw [List.mem_singleton.mp hmem]
    · rw [ih]
      constructor
      · rintro ⟨hmem, ht, hmax⟩
        refine ⟨by simp [hmem], ht, fun b hb hbt => ?_⟩
        rcases List.mem_append.mp hb with hb | hb
        · exact hmax b hb hbt
        · rw [List.mem_singleton.mp hb] at hbt
          exact absurd hbt h
      · rintro ⟨hmem, ht, hmax⟩
        rcases List.mem_append.mp hmem with hmem | hmem
        · exact ⟨hmem, ht, fun b hb => hmax b (by simp [hb])⟩
        · rw [List.mem_singleton.mp hmem] at ht
          exact absurd ht h

theorem Ordered.nodup {l : List α} (h : Ordered start l) : l.Nodup :=
  h.imp fun hab heq => absurd (heq ▸ hab) (lt_irrefl _)

/-- An entry is told by its start. -/
theorem Ordered.eq_of_start_eq {l : List α} (h : Ordered start l) {a b : α} (ha : a ∈ l)
    (hb : b ∈ l) (hab : start a = start b) : a = b := by
  have hnodup : (l.map start).Nodup :=
    List.pairwise_map.mpr (h.imp fun hlt => hlt.ne)
  exact List.inj_on_of_nodup_map hnodup ha hb hab

/-! ## Rows with an end -/

/-- The interval of a row, `[start, stop)`, contains a time. -/
def covers (start : α → κ) (stop : α → Option κ) (t : κ) (a : α) : Bool :=
  decide (start a ≤ t) && (stop a).all fun e => decide (t < e)

@[simp] theorem covers_eq_true {t : κ} {a : α} :
    covers start stop t a = true ↔ start a ≤ t ∧ ∀ e, stop a = some e → t < e := by
  simp [covers, Option.all_eq_true]

/-- Every row ends where the next one starts, later than it started itself; the last row
has no end. -/
def Abutting (start : α → κ) (stop : α → Option κ) : List α → Prop
  | [] => True
  | [a] => stop a = none
  | a :: b :: l => start a < start b ∧ stop a = some (start b) ∧ Abutting start stop (b :: l)

namespace Abutting

theorem tail {a : α} {l : List α} (h : Abutting start stop (a :: l)) :
    Abutting start stop l := by
  cases l with
  | nil => trivial
  | cons b l => exact h.2.2

/-- A row starts before all that come behind it. -/
theorem lt_of_mem {a b : α} {l : List α} (h : Abutting start stop (a :: l)) (hb : b ∈ l) :
    start a < start b := by
  induction l generalizing a with
  | nil => cases hb
  | cons c l ih =>
    have hac : start a < start c := h.1
    rcases List.mem_cons.mp hb with rfl | hb
    · exact hac
    · exact lt_trans hac (ih h.2.2 hb)

theorem ordered {l : List α} (h : Abutting start stop l) : Ordered start l := by
  induction l with
  | nil => exact .nil
  | cons a l ih => exact .cons (fun b hb => h.lt_of_mem hb) (ih h.tail)

/-- **The row whose interval contains a time is the entry in force.** -/
theorem covers_iff {l : List α} (h : Abutting start stop l) {t : κ} {a : α} :
    a ∈ l ∧ covers start stop t a = true ↔ entryAt start l t = some a := by
  rw [entryAt_eq_some_iff h.ordered, covers_eq_true]
  induction l with
  | nil => simp
  | cons b l ih =>
    cases l with
    | nil =>
      have hopen : stop b = none := h
      constructor
      · rintro ⟨hmem, ht, -⟩
        refine ⟨hmem, ht, fun c hc _ => ?_⟩
        rw [List.mem_singleton.mp hc, List.mem_singleton.mp hmem]
      · rintro ⟨hmem, ht, -⟩
        refine ⟨hmem, ht, fun e he => ?_⟩
        rw [List.mem_singleton.mp hmem, hopen] at he
        cases he
    | cons c l =>
      have hstop : stop b = some (start c) := h.2.1
      have hrest : Abutting start stop (c :: l) := h.2.2
      have hlt : ∀ d ∈ c :: l, start b < start d := fun d hd => h.lt_of_mem hd
      specialize ih hrest
      constructor
      · rintro ⟨hmem, ht, hend⟩
        rcases List.mem_cons.mp hmem with rfl | hmem'
        · refine ⟨List.mem_cons_self, ht, fun d hd hdt => ?_⟩
          rcases List.mem_cons.mp hd with rfl | hd
          · exact le_rfl
          · -- whatever starts behind the first row starts no earlier than that row ends
            have hle : start c ≤ start d := by
              rcases List.mem_cons.mp hd with rfl | hd
              · exact le_rfl
              · exact (hrest.lt_of_mem hd).le
            exact absurd (hle.trans hdt) (not_le.mpr (hend _ hstop))
        · obtain ⟨-, -, hmax⟩ := ih.mp ⟨hmem', ht, hend⟩
          refine ⟨hmem, ht, fun d hd hdt => ?_⟩
          rcases List.mem_cons.mp hd with rfl | hd
          · exact (hlt a hmem').le
          · exact hmax d hd hdt
      · rintro ⟨hmem, ht, hmax⟩
        rcases List.mem_cons.mp hmem with rfl | hmem
        · refine ⟨List.mem_cons_self, ht, fun e he => lt_of_not_ge fun hle => ?_⟩
          rw [hstop] at he
          obtain rfl := Option.some.inj he
          exact absurd (hmax c (by simp) hle) (not_le.mpr (hlt c List.mem_cons_self))
        · have hin := ih.mpr ⟨hmem, ht, fun d hd => hmax d (List.mem_cons_of_mem _ hd)⟩
          exact ⟨List.mem_cons_of_mem _ hin.1, hin.2⟩

/-- The rows of a condition that one row at most meets. -/
theorem filter_eq_toList {l : List α} (h : Abutting start stop l) {p : α → Bool} {o : Option α}
    (hp : ∀ a, a ∈ l ∧ p a = true ↔ o = some a) : l.filter p = o.toList := by
  have hmem : ∀ a, a ∈ l.filter p ↔ a ∈ o.toList := by
    intro a
    rw [List.mem_filter, hp, Option.mem_toList]
  cases o with
  | none => exact List.eq_nil_iff_forall_not_mem.mpr fun a ha => by simpa using (hmem a).mp ha
  | some a =>
    exact List.perm_singleton.mp ((List.perm_ext_iff_of_nodup (h.ordered.nodup.filter _)
      (List.nodup_singleton a)).mpr hmem)

/-- At most one row contains a time, and that row is the entry in force. -/
theorem filter_covers {l : List α} (h : Abutting start stop l) (t : κ) :
    l.filter (covers start stop t) = (entryAt start l t).toList :=
  h.filter_eq_toList fun _ => h.covers_iff

/-- The only row without an end is the last. -/
theorem stop_eq_none_iff {l : List α} (h : Abutting start stop l) {a : α} :
    a ∈ l ∧ stop a = none ↔ l.getLast? = some a := by
  induction l with
  | nil => simp
  | cons b l ih =>
    cases l with
    | nil =>
      have hopen : stop b = none := h
      rw [List.mem_singleton, List.getLast?_singleton, Option.some.injEq]
      constructor
      · rintro ⟨rfl, -⟩
        rfl
      · rintro rfl
        exact ⟨rfl, hopen⟩
    | cons c l =>
      have hstop : stop b = some (start c) := h.2.1
      rw [List.getLast?_cons_cons, ← ih h.2.2, List.mem_cons (a := a) (b := b)]
      constructor
      · rintro ⟨rfl | hmem, hnone⟩
        · rw [hstop] at hnone
          cases hnone
        · exact ⟨hmem, hnone⟩
      · rintro ⟨hmem, hnone⟩
        exact ⟨.inr hmem, hnone⟩

/-- A row that has an end ends where the next entry starts. -/
theorem stop_eq_some_iff {l : List α} (h : Abutting start stop l) {a : α} (ha : a ∈ l) {e : κ} :
    stop a = some e ↔ (l.find? fun b => decide (start a < start b)).map start = some e := by
  induction l with
  | nil => cases ha
  | cons b l ih =>
    have hskip : ∀ c ∈ l, decide (start c < start b) = false := fun c hc =>
      decide_eq_false (lt_asymm (h.lt_of_mem hc))
    rcases List.mem_cons.mp ha with rfl | ha
    · rw [List.find?_cons_of_neg (by simp)]
      cases l with
      | nil =>
        have hopen : stop a = none := h
        simp [hopen]
      | cons c l =>
        have hstop : stop a = some (start c) := h.2.1
        rw [hstop, List.find?_cons_of_pos (by simpa using h.1), Option.map_some]
    · rw [List.find?_cons_of_neg (by simp [hskip a ha])]
      exact ih h.tail ha

/-- **A new entry**: the row without an end is closed where the new one starts. -/
theorem close_append {l : List α} {f : α → α} {b : α} (h : Abutting start stop l)
    (hstart : ∀ a, start (f a) = start a) (hkeep : ∀ a e, stop a = some e → stop (f a) = some e)
    (hclose : ∀ a, stop a = none → stop (f a) = some (start b)) (hlt : ∀ a ∈ l, start a < start b)
    (hopen : stop b = none) : Abutting start stop (l.map f ++ [b]) := by
  induction l with
  | nil => exact hopen
  | cons a l ih =>
    have hrest := ih h.tail fun c hc => hlt c (List.mem_cons_of_mem _ hc)
    cases l with
    | nil => exact ⟨(hstart a).symm ▸ hlt a List.mem_cons_self, hclose a h, hrest⟩
    | cons c l =>
      refine ⟨?_, ?_, hrest⟩
      · rw [hstart, hstart]
        exact h.1
      · rw [hstart]
        exact hkeep a _ h.2.1

end Abutting

end Timeline
