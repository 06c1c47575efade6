import SinoChat.Client.MessageBinding

/-!
# Which texts `isWellFormedUnicode` accepts

The texts without a lone surrogate, and those that end in a high surrogate behind such a
text: the unit behind the last one is not a number, and no comparison with it fails.
-/

namespace SinoChat

open Js

namespace MessageContent

/-! ## Surrogates and their neighbours -/

/-- Every high surrogate comes right before a low one, every low one right behind a high
one. -/
structure PairedSurrogates (s : JsString) : Prop where
  followed : ∀ i u, s[i]? = some u → isHighSurrogate u = true →
    ∃ v, s[i + 1]? = some v ∧ isLowSurrogate v = true
  preceded : ∀ i v, s[i]? = some v → isLowSurrogate v = true →
    ∃ j u, i = j + 1 ∧ s[j]? = some u ∧ isHighSurrogate u = true

theorem not_low_of_high {u : UInt16} (h : isHighSurrogate u = true) : isLowSurrogate u = false := by
  simp only [isHighSurrogate, isLowSurrogate, Bool.and_eq_true, decide_eq_true_eq,
    Bool.and_eq_false_iff, decide_eq_false_iff_not, UInt16.le_iff_toNat_le] at h ⊢
  have hhigh : u.toNat ≤ 0xDBFF := h.2
  exact .inl fun hlow => absurd (hlow.trans hhigh) (by decide)

theorem pairedSurrogates_of_wellFormed {s : JsString} (h : WellFormed s) : PairedSurrogates s := by
  induction h with
  | nil => exact ⟨nofun, nofun⟩
  | @unit u rest hhigh hlow hrest ih =>
    refine ⟨fun i x hx hxhigh => ?_, fun i x hx hxlow => ?_⟩
    · cases i with
      | zero =>
        obtain rfl : u = x := by simpa using hx
        rw [hhigh] at hxhigh
        cases hxhigh
      | succ i => simpa using ih.followed i x (by simpa using hx) hxhigh
    · cases i with
      | zero =>
        obtain rfl : u = x := by simpa using hx
        rw [hlow] at hxlow
        cases hxlow
      | succ i =>
        obtain ⟨j, y, rfl, hy, hyhigh⟩ := ih.preceded i x (by simpa using hx) hxlow
        exact ⟨j + 1, y, rfl, by simpa using hy, hyhigh⟩
  | @pair u v rest hhigh hlow hrest ih =>
    refine ⟨fun i x hx hxhigh => ?_, fun i x hx hxlow => ?_⟩
    · rcases i with _ | _ | i
      · exact ⟨v, by simp, hlow⟩
      · obtain rfl : v = x := by simpa using hx
        rw [not_low_of_high hxhigh] at hlow
        cases hlow
      · simpa using ih.followed i x (by simpa using hx) hxhigh
    · rcases i with _ | _ | i
      · obtain rfl : u = x := by simpa using hx
        rw [not_low_of_high hhigh] at hxlow
        cases hxlow
      · exact ⟨0, u, rfl, by simp, hhigh⟩
      · obtain ⟨j, y, rfl, hy, hyhigh⟩ := ih.preceded i x (by simpa using hx) hxlow
        exact ⟨j + 2, y, rfl, by simpa using hy, hyhigh⟩

/-- A text behind a unit that is no surrogate. -/
theorem PairedSurrogates.of_unit {u : UInt16} {rest : JsString} (h : PairedSurrogates (u :: rest))
    (hhigh : isHighSurrogate u = false) : PairedSurrogates rest := by
  refine ⟨fun i x hx hxhigh => ?_, fun i x hx hxlow => ?_⟩
  · simpa using h.followed (i + 1) x (by simpa using hx) hxhigh
  · obtain ⟨j, y, hij, hy, hyhigh⟩ := h.preceded (i + 1) x (by simpa using hx) hxlow
    obtain rfl : i = j := by omega
    cases i with
    | zero =>
      obtain rfl : u = y := by simpa using hy
      rw [hhigh] at hyhigh
      cases hyhigh
    | succ i => exact ⟨i, y, rfl, by simpa using hy, hyhigh⟩

/-- A text behind a pair. -/
theorem PairedSurrogates.of_pair {u v : UInt16} {rest : JsString}
    (h : PairedSurrogates (u :: v :: rest)) (hlow : isLowSurrogate v = true) :
    PairedSurrogates rest := by
  refine ⟨fun i x hx hxhigh => ?_, fun i x hx hxlow => ?_⟩
  · simpa using h.followed (i + 2) x (by simpa using hx) hxhigh
  · obtain ⟨j, y, hij, hy, hyhigh⟩ := h.preceded (i + 2) x (by simpa using hx) hxlow
    obtain rfl : j = i + 1 := by omega
    cases i with
    | zero =>
      obtain rfl : v = y := by simpa using hy
      rw [not_low_of_high hyhigh] at hlow
      cases hlow
    | succ i => exact ⟨i, y, rfl, by simpa using hy, hyhigh⟩

theorem wellFormed_of_pairedSurrogates {s : JsString} (h : PairedSurrogates s) :
    WellFormed s := by
  induction hn : s.length using Nat.strong_induction_on generalizing s with
  | _ n ih =>
    subst hn
    cases s with
    | nil => exact .nil
    | cons u rest =>
      cases hhigh : isHighSurrogate u with
      | false =>
        have hlow : isLowSurrogate u = false := by
          by_contra hnot
          obtain ⟨j, -, hj, -⟩ := h.preceded 0 u rfl (Bool.not_eq_false _ ▸ hnot)
          omega
        exact .unit hhigh hlow (ih rest.length (by simp) (h.of_unit hhigh) rfl)
      | true =>
        obtain ⟨v, hv, hlow⟩ := h.followed 0 u rfl hhigh
        cases rest with
        | nil => cases hv
        | cons w rest =>
          obtain rfl : w = v := by simpa using hv
          exact .pair hhigh hlow
            (ih rest.length (by simp only [List.length_cons]; omega) (h.of_pair hlow) rfl)

/-- **Both ways to say that no surrogate stands alone.** -/
theorem pairedSurrogates_iff {s : JsString} : PairedSurrogates s ↔ WellFormed s :=
  ⟨wellFormed_of_pairedSurrogates, pairedSurrogates_of_wellFormed⟩

/-! ## What is accepted -/

/-- The text ends in a high surrogate behind a text without lone surrogates. -/
def EndsUnpaired (s : JsString) : Prop :=
  ∃ p u, s = p ++ [u] ∧ isHighSurrogate u = true ∧ PairedSurrogates p

theorem EndsUnpaired.cons {u : UInt16} {rest : JsString} (hhigh : isHighSurrogate u = false)
    (hlow : isLowSurrogate u = false) (h : EndsUnpaired rest) : EndsUnpaired (u :: rest) := by
  obtain ⟨p, x, rfl, hx, hp⟩ := h
  exact ⟨u :: p, x, rfl, hx,
    pairedSurrogates_iff.mpr (.unit hhigh hlow (pairedSurrogates_iff.mp hp))⟩

theorem EndsUnpaired.pair {u v : UInt16} {rest : JsString} (hhigh : isHighSurrogate u = true)
    (hlow : isLowSurrogate v = true) (h : EndsUnpaired rest) : EndsUnpaired (u :: v :: rest) := by
  obtain ⟨p, x, rfl, hx, hp⟩ := h
  exact ⟨u :: v :: p, x, rfl, hx,
    pairedSurrogates_iff.mpr (.pair hhigh hlow (pairedSurrogates_iff.mp hp))⟩

/-- What is accepted has no lone surrogate but the last unit. -/
theorem paired_or_endsUnpaired (s : JsString) (h : isWellFormedUnicode s = true) :
    WellFormed s ∨ EndsUnpaired s := by
  induction s using isWellFormedUnicode.induct with
  | case1 => exact .inl .nil
  | case2 u =>
    have hlow : isLowSurrogate u = false := by simpa [isWellFormedUnicode] using h
    cases hhigh : isHighSurrogate u with
    | false => exact .inl (.unit hhigh hlow .nil)
    | true => exact .inr ⟨[], u, rfl, hhigh, pairedSurrogates_iff.mpr .nil⟩
  | case3 u v rest hhigh ih =>
    rw [isWellFormedUnicode, if_pos hhigh, Bool.and_eq_true] at h
    obtain ⟨hlow, hrest⟩ := h
    rcases ih hrest with hwell | hends
    · exact .inl (.pair hhigh hlow hwell)
    · exact .inr (hends.pair hhigh hlow)
  | case4 u v rest hhigh ih =>
    rw [isWellFormedUnicode, if_neg hhigh, Bool.and_eq_true, Bool.not_eq_true'] at h
    obtain ⟨hlow, hrest⟩ := h
    rw [Bool.not_eq_true] at hhigh
    rcases ih hrest with hwell | hends
    · exact .inl (.unit hhigh hlow hwell)
    · exact .inr (hends.cons hhigh hlow)

/-- A text without lone surrogates is accepted, and so is one unit more that is not a low
surrogate. -/
theorem accepted_append {p : JsString} (h : WellFormed p) {last : JsString}
    (hlast : last.length ≤ 1) (hlow : ∀ u ∈ last, isLowSurrogate u = false) :
    isWellFormedUnicode (p ++ last) = true := by
  have htail : isWellFormedUnicode last = true := by
    rcases last with _ | ⟨u, _ | ⟨v, rest⟩⟩
    · rfl
    · simpa [isWellFormedUnicode] using hlow u
    · simp at hlast
  induction h with
  | nil => exact htail
  | @unit u rest hhigh hlowUnit hrest ih =>
    rw [List.cons_append]
    cases hcase : rest ++ last with
    | nil => simpa [isWellFormedUnicode] using hlowUnit
    | cons v more =>
      rw [hcase] at ih
      simp [isWellFormedUnicode, hhigh, hlowUnit, ih]
  | @pair u v rest hhigh hlowUnit hrest ih =>
    simp [isWellFormedUnicode, hhigh, hlowUnit, ih]

/-- A text does not both end unpaired and have no lone surrogate. -/
theorem EndsUnpaired.not_paired {s : JsString} (h : EndsUnpaired s) : ¬ PairedSurrogates s := by
  obtain ⟨p, u, rfl, hhigh, -⟩ := h
  intro hpaired
  obtain ⟨v, hv, -⟩ := hpaired.followed p.length u (by simp) hhigh
  simp at hv

/-- **What `isWellFormedUnicode` accepts.** -/
theorem isWellFormedUnicode_iff {s : JsString} :
    isWellFormedUnicode s = true ↔ PairedSurrogates s ∨ EndsUnpaired s := by
  constructor
  · intro h
    rcases paired_or_endsUnpaired s h with hwell | hends
    · exact .inl (pairedSurrogates_iff.mpr hwell)
    · exact .inr hends
  · rintro (hpaired | ⟨p, u, rfl, hhigh, hp⟩)
    · have hnil := @accepted_append s (pairedSurrogates_iff.mp hpaired) [] (Nat.zero_le 1) (by simp)
      rwa [List.append_nil] at hnil
    · refine accepted_append (pairedSurrogates_iff.mp hp) (Nat.le_refl 1) fun x hx => ?_
      rw [List.mem_singleton.mp hx]
      exact not_low_of_high hhigh

/-! ## Exactness -/

/-- At a text the check says whether a surrogate stands alone, and if one does, no message
with that text is decoded. -/
structure ExactAt (s : JsString) : Prop where
  accepts : isWellFormedUnicode s = true ↔ PairedSurrogates s
  decodes : ∀ round urlHost eventType value binding base,
    decodeSinoChatMessageContent round urlHost eventType value binding = .ok (.text base s) →
      PairedSurrogates s

/-- **The check is exact but for a high surrogate at the end.** -/
theorem isWellFormedUnicode_exact_iff (s : JsString) : ExactAt s ↔ ¬ EndsUnpaired s := by
  constructor
  · intro hexact hends
    exact hends.not_paired (hexact.accepts.mp (isWellFormedUnicode_iff.mpr (.inr hends)))
  · intro hnot
    have haccepts : isWellFormedUnicode s = true ↔ PairedSurrogates s := by
      rw [isWellFormedUnicode_iff, or_iff_left hnot]
    refine ⟨haccepts, fun round urlHost eventType value binding base h => ?_⟩
    obtain ⟨hcontent, -⟩ := decode_eq_ok h
    cases hcontent with
    | text hbase hform =>
      simp only [Bool.and_eq_true] at hform
      exact haccepts.mp hform.2

/-- A greeting cut in the middle of an emoji. -/
def cutText : JsString := js "Hi " ++ [0xD83D]

/-- It is accepted, and a message with it is decoded. -/
theorem cutText_accepted :
    isWellFormedUnicode cutText = true ∧ ¬ PairedSurrogates cutText ∧
      decodeSinoChatMessageContent (fun _ => .integer 0) (fun _ => true)
        (.str sinoChatMessageEventType)
        (SinoChatMessageContent.text greetingContent.base cutText).toJson
        (SinoChatMessageContent.text greetingContent.base cutText).toBinding =
          .ok (.text greetingContent.base cutText) := by
  refine ⟨by decide, fun h => ?_, rfl⟩
  obtain ⟨v, hv, -⟩ := h.followed 3 0xD83D rfl rfl
  cases hv

end MessageContent

end SinoChat
