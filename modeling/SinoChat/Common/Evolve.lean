import SinoChat.Common.Table

/-!
# How the rows of a table change

A step of a system leaves every row where it was or changes it, and adds rows. `Evolves`
says so for a relation between the row before and the row after and a condition on the
new ones. It holds of the updates and insertions a step is made of (`Evolves.update`,
`Evolves.insert`) and of one after the other (`Evolves.trans`).
-/

namespace Table

variable {κ α : Type*} {key : α → κ}

/-- Every row is kept, changed as `R` says; every other row is new, as `N` says. -/
structure Evolves (R : α → α → Prop) (N : α → Prop) (t t' : Table κ α key) : Prop where
  kept : ∀ a ∈ t, ∃ b ∈ t', key b = key a ∧ R a b
  origin : ∀ b ∈ t', (∃ a ∈ t, key b = key a ∧ R a b) ∨ N b ∧ ∀ a ∈ t, key a ≠ key b

namespace Evolves

variable {R R' : α → α → Prop} {N N' : α → Prop} {t t' : Table κ α key}

/-- A weaker relation. -/
theorem mono (h : Evolves R N t t') (hR : ∀ a ∈ t, ∀ b ∈ t', R a b → R' a b)
    (hN : ∀ b ∈ t', N b → N' b) : Evolves R' N' t t' := by
  refine ⟨fun a ha => ?_, fun b hb => ?_⟩
  · obtain ⟨b, hb, hkey, hab⟩ := h.kept a ha
    exact ⟨b, hb, hkey, hR a ha b hb hab⟩
  · rcases h.origin b hb with ⟨a, ha, hkey, hab⟩ | ⟨hnew, hfresh⟩
    · exact .inl ⟨a, ha, hkey, hR a ha b hb hab⟩
    · exact .inr ⟨hN b hb hnew, hfresh⟩

/-- The table is as it was. -/
theorem refl (hR : ∀ a ∈ t, R a a) : Evolves R N t t :=
  ⟨fun a ha => ⟨a, ha, rfl, hR a ha⟩, fun a ha => .inl ⟨a, ha, rfl, hR a ha⟩⟩

theorem modify {f : α → α} (hf : ∀ a, key (f a) = key a) (hR : ∀ a ∈ t, R a (f a)) :
    Evolves R N t (t.modify f hf) := by
  refine ⟨fun a ha => ⟨f a, mem_modify.mpr ⟨a, ha, rfl⟩, hf a, hR a ha⟩, fun b hb => ?_⟩
  obtain ⟨a, ha, rfl⟩ := mem_modify.mp hb
  exact .inl ⟨a, ha, hf a, hR a ha⟩

variable [DecidableEq κ]

theorem update {k : κ} {f : α → α} (hf : ∀ a, key (f a) = key a)
    (hR : ∀ a ∈ t, key a = k → R a (f a)) (hrest : ∀ a ∈ t, key a ≠ k → R a a) :
    Evolves R N t (t.update k f hf) := by
  refine modify _ fun a ha => ?_
  split_ifs with hk
  · exact hR a ha hk
  · exact hrest a ha hk

theorem insert {a : α} (hfree : t.find? (key a) = none) (hR : ∀ b ∈ t, R b b) (hN : N a) :
    Evolves R N t (t.insert a hfree) := by
  refine ⟨fun b hb => ⟨b, mem_insert.mpr (.inl hb), rfl, hR b hb⟩, fun b hb => ?_⟩
  rcases mem_insert.mp hb with hb | rfl
  · exact .inl ⟨b, hb, rfl, hR b hb⟩
  · exact .inr ⟨hN, find?_eq_none.mp hfree⟩

/-- A change of rows, then new rows. -/
theorem then_insert {a : α} (h : Evolves R N t t') (hfree : t'.find? (key a) = none) (hN : N a) :
    Evolves R N t (t'.insert a hfree) := by
  refine ⟨fun b hb => ?_, fun b hb => ?_⟩
  · obtain ⟨c, hc, hkey, hbc⟩ := h.kept b hb
    exact ⟨c, mem_insert.mpr (.inl hc), hkey, hbc⟩
  · rcases mem_insert.mp hb with hb | rfl
    · exact h.origin b hb
    · refine .inr ⟨hN, fun c hc hkey => ?_⟩
      obtain ⟨d, hd, hdc, -⟩ := h.kept c hc
      exact find?_eq_none.mp hfree d hd (hdc.trans hkey)

omit [DecidableEq κ] in
/-- One change after another. -/
theorem trans {S T : α → α → Prop} {t'' : Table κ α key} (h : Evolves R N t t')
    (h' : Evolves S N' t' t'') (hT : ∀ a ∈ t, ∀ b ∈ t', ∀ c ∈ t'', R a b → S b c → T a c)
    (hN : ∀ b ∈ t', ∀ c ∈ t'', N b → S b c → N c) (hN' : ∀ c ∈ t'', N' c → N c) :
    Evolves T N t t'' := by
  refine ⟨fun a ha => ?_, fun c hc => ?_⟩
  · obtain ⟨b, hb, hba, hab⟩ := h.kept a ha
    obtain ⟨c, hc, hcb, hbc⟩ := h'.kept b hb
    exact ⟨c, hc, hcb.trans hba, hT a ha b hb c hc hab hbc⟩
  · rcases h'.origin c hc with ⟨b, hb, hcb, hbc⟩ | ⟨hnew, hfresh⟩
    · rcases h.origin b hb with ⟨a, ha, hba, hab⟩ | ⟨hnew, hfresh⟩
      · exact .inl ⟨a, ha, hcb.trans hba, hT a ha b hb c hc hab hbc⟩
      · exact .inr ⟨hN b hb c hc hnew hbc, fun a ha hkey => hfresh a ha (hkey.trans hcb)⟩
    · refine .inr ⟨hN' c hc hnew, fun a ha hkey => ?_⟩
      obtain ⟨b, hb, hba, -⟩ := h.kept a ha
      exact hfresh b hb (hba.trans hkey)

omit [DecidableEq κ] in
/-- The row that a row became. -/
theorem kept_of_key (h : Evolves R N t t') {a b : α} (ha : a ∈ t) (hb : b ∈ t')
    (hkey : key b = key a) : R a b := by
  obtain ⟨c, hc, hck, hac⟩ := h.kept a ha
  rwa [eq_of_key_eq hb hc (hkey.trans hck.symm)]

theorem find?_kept (h : Evolves R N t t') {k : κ} {a : α} (ha : t.find? k = some a) :
    ∃ b, t'.find? k = some b ∧ R a b := by
  obtain ⟨hmem, rfl⟩ := find?_eq_some.mp ha
  obtain ⟨b, hb, hkey, hab⟩ := h.kept a hmem
  exact ⟨b, find?_eq_some.mpr ⟨hb, hkey⟩, hab⟩

end Evolves

end Table
