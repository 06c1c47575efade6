import SinoChat.Common.JsonReadback
import SinoChat.Common.JsonSame
import Mathlib.Algebra.Order.BigOperators.Group.List
import Mathlib.Algebra.Order.Ring.Nat

/-!
# Values are no longer than their texts

What `JSON.parse` reads spends at least the characters that `JSON.stringify`
writes of an object of plain strings (`byteLength_stringify_le`): such strings
need no escapes, and the text may spend more on spaces, escapes and members
that a later one replaces. A decoded text has no more units than there were
bytes (`length_decodeUtf8_le`).
-/

namespace Js

/-! ## Bytes -/

theorem length_unitsOfPoint_le (p : ℕ) : (unitsOfPoint p).length ≤ 2 := by
  unfold unitsOfPoint
  split_ifs <;> simp

/-- A code point in progress has spent a byte. -/
theorem length_decodeFrom_le (s : Utf8State) (bytes : List UInt8) {text : JsString}
    (h : decodeFrom s bytes = some text) :
    text.length ≤ bytes.length + if s.needed = 0 then 0 else 1 := by
  have hstart : Utf8State.start.needed = 0 := rfl
  induction bytes generalizing s text with
  | nil =>
    rw [decodeFrom] at h
    split_ifs at h
    cases h
    simp
  | cons b rest ih =>
    rw [decodeFrom] at h
    rw [List.length_cons]
    split_ifs at h with h₀ h₁ h₂ h₃
    · obtain ⟨tail, htail, rfl⟩ := Option.map_eq_some_iff.mp h
      have hrest := ih _ htail
      rw [if_pos hstart] at hrest
      have hone : (unitsOfPoint b.toNat).length = 1 := by
        rw [unitsOfPoint, if_pos (by omega)]
        rfl
      rw [List.length_append, hone]
      omega
    · obtain ⟨next, -, hnext⟩ := Option.bind_eq_some_iff.mp h
      have hrest := ih _ hnext
      split_ifs at hrest <;> omega
    · obtain ⟨tail, htail, rfl⟩ := Option.map_eq_some_iff.mp h
      have hrest := ih _ htail
      rw [if_pos hstart] at hrest
      have htwo := length_unitsOfPoint_le (s.point * 0x40 + (b.toNat - 0x80))
      rw [List.length_append, if_neg h₀]
      omega
    · have hrest := ih _ h
      rw [if_neg h₀]
      split_ifs at hrest <;> omega

/-- **A decoded text has no more units than there were bytes.** -/
theorem length_decodeUtf8_le {bytes : List UInt8} {text : JsString}
    (h : decodeUtf8 bytes = some text) : text.length ≤ bytes.length := by
  have hlength := length_decodeFrom_le _ _ h
  simpa [Utf8State.start] using hlength

/-! ## What reading spends -/

/-- The characters a string takes at least. -/
def strWeight : Json → ℕ
  | .str s => s.length + 2
  | _ => 0

/-- The characters the members of an object take at least, with the colon and
the comma or brace of each. -/
def memberWeight (entries : List (JsString × Json)) : ℕ :=
  (entries.map fun e => e.1.length + 4 + strWeight e.2).sum

theorem length_skipSpace_le (text : JsString) : (skipSpace text).length ≤ text.length :=
  (List.dropWhile_suffix _).length_le

theorem readUnit_spends {text rest : JsString} {u : UInt16}
    (h : readUnit text = some (u, rest)) : rest.length < text.length := by
  rcases text with _ | ⟨v, tail⟩
  · cases h
  · rw [readUnit.eq_def] at h
    dsimp only at h
    split_ifs at h with hslash hcontrol
    · rcases tail with _ | ⟨e, _ | ⟨a, _ | ⟨b, _ | ⟨c, _ | ⟨d, tail⟩⟩⟩⟩⟩
      · cases h
      all_goals
        dsimp only at h
        try split_ifs at h
        all_goals
          obtain ⟨w, -, hw⟩ := Option.map_eq_some_iff.mp h
          cases hw
          simp only [List.length_cons]
          omega
    · cases h
      simp

theorem readUnits_spends {fuel : ℕ} {text s rest : JsString}
    (h : readUnits fuel text = some (s, rest)) : s.length + rest.length + 1 ≤ text.length := by
  induction fuel generalizing text s rest with
  | zero => cases h
  | succ fuel ih =>
    rcases text with _ | ⟨u, tail⟩
    · cases h
    · rw [readUnits] at h
      split_ifs at h with hclose
      · cases h
        simp
      · obtain ⟨p, hp, h⟩ := Option.bind_eq_some_iff.mp h
        obtain ⟨q, hq, hpq⟩ := Option.map_eq_some_iff.mp h
        have hunit := readUnit_spends hp
        have hrest := ih hq
        cases hpq
        simp only [List.length_cons] at hunit ⊢
        omega

theorem readKey_spends {text key rest : JsString} (h : readKey text = some (key, rest)) :
    key.length + 3 + rest.length ≤ text.length := by
  have hskip := length_skipSpace_le text
  rw [readKey] at h
  rcases hspace : skipSpace text with _ | ⟨u, tail⟩ <;> rw [hspace] at h hskip
  · cases h
  · dsimp only at h
    split_ifs at h with hquote
    obtain ⟨p, hp, h⟩ := Option.bind_eq_some_iff.mp h
    have hkey := readUnits_spends hp
    have hskip' := length_skipSpace_le p.2
    rcases hspace' : skipSpace p.2 with _ | ⟨v, tail'⟩ <;> rw [hspace'] at h hskip'
    · cases h
    · dsimp only at h
      split_ifs at h with hcolon
      cases h
      simp only [List.length_cons] at hskip hskip'
      omega

theorem readDigits_spends {text digits rest : JsString}
    (h : readDigits text = some (digits, rest)) : rest.length ≤ text.length := by
  rw [readDigits] at h
  split_ifs at h with hnil
  cases h
  exact (List.dropWhile_suffix _).length_le

theorem readFraction_spends {text digits rest : JsString}
    (h : readFraction text = some (digits, rest)) : rest.length ≤ text.length := by
  rcases text with _ | ⟨u, tail⟩
  · cases h
    exact Nat.le_refl _
  · rw [readFraction] at h
    split_ifs at h with hpoint
    · obtain ⟨p, hp, hpq⟩ := Option.map_eq_some_iff.mp h
      cases hpq
      have hdigits := readDigits_spends hp
      rw [List.length_cons]
      omega
    · cases h
      exact Nat.le_refl _

theorem readExponent_spends {text digits rest : JsString}
    (h : readExponent text = some (digits, rest)) : rest.length ≤ text.length := by
  rcases text with _ | ⟨u, tail⟩
  · cases h
    exact Nat.le_refl _
  · rw [readExponent.eq_def] at h
    dsimp only at h
    split_ifs at h with hletter
    · rcases tail with _ | ⟨s, tail⟩
      · cases h
      · dsimp only at h
        split_ifs at h with hsign
        all_goals
          obtain ⟨p, hp, hpq⟩ := Option.map_eq_some_iff.mp h
          cases hpq
          have hdigits := readDigits_spends hp
          simp only [List.length_cons] at hdigits ⊢
          omega
    · cases h
      exact Nat.le_refl _

variable {round : JsString → JsNumber}

theorem readMagnitude_spends {negative : Bool} {text rest : JsString} {n : JsNumber}
    (h : readMagnitude round negative text = some (n, rest)) : rest.length ≤ text.length := by
  rw [readMagnitude] at h
  obtain ⟨whole, hwhole, h⟩ := Option.bind_eq_some_iff.mp h
  by_cases hzero : whole.1.head? = some 0x30 ∧ 1 < whole.1.length
  · rw [if_pos hzero] at h
    cases h
  rw [if_neg hzero] at h
  obtain ⟨fraction, hfraction, h⟩ := Option.bind_eq_some_iff.mp h
  obtain ⟨exponent, hexponent, h⟩ := Option.map_eq_some_iff.mp h
  have hrest : exponent.2 = rest := by
    split_ifs at h <;> cases h <;> rfl
  have h₁ := readDigits_spends hwhole
  have h₂ := readFraction_spends hfraction
  have h₃ := readExponent_spends hexponent
  rw [hrest] at h₃
  omega

theorem readNumber_spends {text rest : JsString} {n : JsNumber}
    (h : readNumber round text = some (n, rest)) : rest.length ≤ text.length := by
  rcases text with _ | ⟨u, tail⟩
  · cases h
  · rw [readNumber] at h
    split_ifs at h with hsign
    · have hrest := readMagnitude_spends h
      rw [List.length_cons]
      omega
    · exact readMagnitude_spends h

theorem readLiteral_spends {text rest : JsString} {v : Json}
    (h : readLiteral text = some (v, rest)) :
    strWeight v + rest.length ≤ text.length ∧ ∀ entries, v ≠ .obj entries := by
  rw [readLiteral] at h
  split_ifs at h
  all_goals
    cases h
    refine ⟨?_, fun _ hv => by cases hv⟩
    simp only [strWeight, List.length_drop]
    omega

/-- A reader of values takes no more from a text than it has. -/
def ValueSpends (round : JsString → JsNumber) (fuel : ℕ) : Prop :=
  ∀ {text rest : JsString} {v : Json}, readValue round fuel text = some (v, rest) →
    strWeight v + rest.length ≤ text.length ∧
    ∀ entries, v = .obj entries → memberWeight entries + 1 + rest.length ≤ text.length

/-- The same for the items of an array. -/
def ItemsSpend (round : JsString → JsNumber) (fuel : ℕ) : Prop :=
  ∀ {text rest : JsString} {items : List Json},
    readItems round fuel text = some (items, rest) → rest.length ≤ text.length

/-- The same for the members of an object. -/
def MembersSpend (round : JsString → JsNumber) (fuel : ℕ) : Prop :=
  ∀ {text rest : JsString} {entries : List (JsString × Json)},
    readMembers round fuel text = some (entries, rest) →
      memberWeight entries + rest.length ≤ text.length

/-- What is behind the first character that counts. -/
theorem length_lt_of_skipSpace {text tail : JsString} {u : UInt16}
    (h : skipSpace text = u :: tail) : tail.length < text.length := by
  have hskip := length_skipSpace_le text
  rwa [h, List.length_cons] at hskip

/-- A value is a string, an array, an object, a number or a name. -/
theorem valueSpends_succ {fuel : ℕ} (hitems : ItemsSpend round fuel)
    (hmembers : MembersSpend round fuel) : ValueSpends round (fuel + 1) := by
  intro text rest v h
  rw [readValue] at h
  rcases hspace : skipSpace text with _ | ⟨u, tail⟩ <;> rw [hspace] at h
  · cases h
  have hskip := length_lt_of_skipSpace hspace
  dsimp only at h
  split_ifs at h with hquote hbracket hbrace hnumber
  · obtain ⟨p, hp, hpq⟩ := Option.map_eq_some_iff.mp h
    have hstring := readUnits_spends hp
    cases hpq
    refine ⟨?_, fun _ hv => by cases hv⟩
    rw [strWeight]
    omega
  · rcases hspace' : skipSpace tail with _ | ⟨v', tail'⟩ <;> rw [hspace'] at h
    · cases h
    have hskip' := length_lt_of_skipSpace hspace'
    dsimp only at h
    split_ifs at h with hclose
    · cases h
      exact ⟨by simp only [strWeight]; omega, fun _ hv => by cases hv⟩
    · obtain ⟨p, hp, hpq⟩ := Option.map_eq_some_iff.mp h
      have hrest := hitems hp
      cases hpq
      exact ⟨by simp only [strWeight]; omega, fun _ hv => by cases hv⟩
  · rcases hspace' : skipSpace tail with _ | ⟨v', tail'⟩ <;> rw [hspace'] at h
    · cases h
    have hskip' := length_lt_of_skipSpace hspace'
    dsimp only at h
    split_ifs at h with hclose
    · cases h
      refine ⟨by simp only [strWeight]; omega, ?_⟩
      rintro entries ⟨⟩
      simp only [memberWeight, List.map_nil, List.sum_nil]
      omega
    · obtain ⟨p, hp, hpq⟩ := Option.map_eq_some_iff.mp h
      have hrest := hmembers hp
      cases hpq
      refine ⟨by simp only [strWeight]; omega, ?_⟩
      rintro entries ⟨⟩
      omega
  · obtain ⟨p, hp, hpq⟩ := Option.map_eq_some_iff.mp h
    have hrest := readNumber_spends hp
    cases hpq
    rw [List.length_cons] at hrest
    exact ⟨by simp only [strWeight]; omega, fun _ hv => by cases hv⟩
  · obtain ⟨hweight, hobj⟩ := readLiteral_spends h
    rw [List.length_cons] at hweight
    exact ⟨by omega, fun entries hv => absurd hv (hobj entries)⟩

/-- Items are values with commas between them. -/
theorem itemsSpend_succ {fuel : ℕ} (hvalue : ValueSpends round fuel)
    (hitems : ItemsSpend round fuel) : ItemsSpend round (fuel + 1) := by
  intro text rest items h
  rw [readItems] at h
  obtain ⟨item, hitem, h⟩ := Option.bind_eq_some_iff.mp h
  have hspent := (hvalue hitem).1
  rcases hspace : skipSpace item.2 with _ | ⟨u, tail⟩ <;> rw [hspace] at h
  · cases h
  have hskip := length_lt_of_skipSpace hspace
  dsimp only at h
  split_ifs at h with hcomma hclose
  · obtain ⟨p, hp, hpq⟩ := Option.map_eq_some_iff.mp h
    have hrest := hitems hp
    cases hpq
    omega
  · cases h
    omega

/-- Members are keys with their values, and commas between them. -/
theorem membersSpend_succ {fuel : ℕ} (hvalue : ValueSpends round fuel)
    (hmembers : MembersSpend round fuel) : MembersSpend round (fuel + 1) := by
  intro text rest entries h
  rw [readMembers] at h
  obtain ⟨key, hkey, h⟩ := Option.bind_eq_some_iff.mp h
  obtain ⟨value, hread, h⟩ := Option.bind_eq_some_iff.mp h
  have hkeySpent := readKey_spends hkey
  have hspent := (hvalue hread).1
  rcases hspace : skipSpace value.2 with _ | ⟨u, tail⟩ <;> rw [hspace] at h
  · cases h
  have hskip := length_lt_of_skipSpace hspace
  dsimp only at h
  split_ifs at h with hcomma hclose
  · obtain ⟨p, hp, hpq⟩ := Option.map_eq_some_iff.mp h
    have hrest := hmembers hp
    cases hpq
    simp only [memberWeight, List.map_cons, List.sum_cons] at hrest ⊢
    omega
  · cases h
    simp only [memberWeight, List.map_cons, List.map_nil, List.sum_cons, List.sum_nil]
    omega

/-- **Reading spends the characters of what is read.** -/
theorem read_spends (fuel : ℕ) :
    ValueSpends round fuel ∧ ItemsSpend round fuel ∧ MembersSpend round fuel := by
  induction fuel with
  | zero =>
    refine ⟨?_, ?_, ?_⟩
    · intro text rest v h
      rw [readValue] at h
      cases h
    · intro text rest items h
      rw [readItems] at h
      cases h
    · intro text rest entries h
      rw [readMembers] at h
      cases h
  | succ fuel ih =>
    obtain ⟨hvalue, hitems, hmembers⟩ := ih
    exact ⟨valueSpends_succ hitems hmembers, itemsSpend_succ hvalue hitems,
      membersSpend_succ hvalue hmembers⟩

/-- The members of an object that is read take no more than the text. -/
theorem memberWeight_readText {text : JsString} {entries : List (JsString × Json)}
    (h : readText round text = some (.obj entries)) :
    memberWeight entries + 1 ≤ text.length := by
  obtain ⟨p, hp, h⟩ := Option.bind_eq_some_iff.mp h
  split_ifs at h with hend
  obtain ⟨v, rest⟩ := p
  cases h
  have hspends := ((read_spends _).1 hp).2 entries rfl
  omega

/-! ## The properties of an object that is read -/

theorem strWeight_own (v : Json) : strWeight v.own = strWeight v := by
  cases v <;> rfl

theorem memberWeight_ownEntries (entries : List (JsString × Json)) :
    memberWeight (ownEntries entries) = memberWeight entries := by
  induction entries with
  | nil => rfl
  | cons e rest ih =>
    simp only [memberWeight, ownEntries, List.map_cons, List.sum_cons, strWeight_own] at ih ⊢
    rw [ih]

theorem JsMap.mem_of_mem_ofEntries {κ α : Type*} [DecidableEq κ] {entries : List (κ × α)}
    {e : κ × α} (h : e ∈ JsMap.ofEntries entries) : e ∈ entries := by
  have hset : ∀ (map : JsMap κ α) (key : κ) (value : α) (e : κ × α),
      e ∈ JsMap.set key value map → e = (key, value) ∨ e ∈ map := by
    intro map key value e
    induction map with
    | nil => simp [JsMap.set]
    | cons first rest ih =>
      intro he
      rw [JsMap.set] at he
      split_ifs at he with hkey
      · rcases List.mem_cons.mp he with rfl | he
        · exact .inl (by rw [hkey])
        · exact .inr (List.mem_cons_of_mem _ he)
      · rcases List.mem_cons.mp he with rfl | he
        · exact .inr List.mem_cons_self
        · exact (ih he).imp_right (List.mem_cons_of_mem _)
  refine JsMap.ofEntries_induction (P := fun map => ∀ e ∈ map, e ∈ entries) entries (by simp)
    (fun map entry hentry hmap e he => ?_) e h
  rcases hset map _ _ e he with rfl | hmem
  · exact hentry
  · exact hmap e hmem

/-- Replaced members only make the text longer. -/
theorem memberWeight_own_le {entries entries' : List (JsString × Json)}
    (h : (Json.obj entries).own = .obj entries') :
    memberWeight entries' ≤ memberWeight entries := by
  rw [Json.own] at h
  obtain rfl := Json.obj.inj h
  have hsub : (JsMap.ofEntries (ownEntries entries)).Subperm (ownEntries entries) :=
    List.subperm_of_subset (.of_map _ (JsMap.nodup_keys_ofEntries _))
      fun e he => JsMap.mem_of_mem_ofEntries he
  obtain ⟨middle, hperm, hsublist⟩ := (ownOrder_perm _).subperm.trans hsub
  calc memberWeight (ownOrder (JsMap.ofEntries (ownEntries entries)))
      = memberWeight middle := (hperm.map _).sum_eq.symm
    _ ≤ memberWeight (ownEntries entries) := (hsublist.map _).sum_le_sum fun _ _ => Nat.zero_le _
    _ = memberWeight entries := memberWeight_ownEntries entries

/-! ## Plain strings -/

/-- A character that needs no escape and one byte. -/
def isPlain : CharClass := fun u => 0x20 ≤ u && u < 0x7F && u ≠ 0x22 && u ≠ 0x5C

theorem escape_of_plain {s : JsString} (h : ∀ u ∈ s, isPlain u = true) : escape s = s := by
  have hsurrogate : ∀ u, isPlain u = true → isHighSurrogate u = false ∧
      isLowSurrogate u = false := by
    intro u hu
    have hlt : u.toNat < 0x7F := by
      simp only [isPlain, Bool.and_eq_true, decide_eq_true_eq, UInt16.lt_iff_toNat_lt] at hu
      exact hu.1.1.2
    constructor
    · rw [Bool.eq_false_iff, ne_eq, isHighSurrogate_iff]
      omega
    · rw [Bool.eq_false_iff, ne_eq, isLowSurrogate_iff]
      omega
  have hunit : ∀ u, isPlain u = true → escapeUnit u = [u] := by
    intro u hu
    have hhigh := (hsurrogate u hu).1
    have hlow := (hsurrogate u hu).2
    have hne : ∀ v : UInt16, isPlain v = false → u ≠ v := by
      rintro v hv rfl
      rw [hu] at hv
      cases hv
    have hcontrol : ¬ u < 0x20 := by
      simp only [isPlain, Bool.and_eq_true, decide_eq_true_eq] at hu
      simpa using hu.1.1.1
    simp [escapeUnit, hne 0x22 (by decide), hne 0x5C (by decide), hne 0x08 (by decide),
      hne 0x09 (by decide), hne 0x0A (by decide), hne 0x0C (by decide), hne 0x0D (by decide),
      hcontrol, hhigh, hlow]
  induction s using escape.induct with
  | case1 => rfl
  | case2 u => exact hunit u (h u List.mem_cons_self)
  | case3 u v s hpair ih =>
    rw [(hsurrogate u (h u List.mem_cons_self)).1] at hpair
    cases hpair
  | case4 u v s hpair ih =>
    rw [escape, if_neg hpair, hunit u (h u List.mem_cons_self),
      ih fun w hw => h w (List.mem_cons_of_mem _ hw)]
    rfl

/-- One byte for each character. -/
theorem byteLength_of_ascii {s : JsString} (h : ∀ u ∈ s, u.toNat < 0x80) :
    byteLength s = s.length := by
  induction s with
  | nil => rfl
  | cons u s ih =>
    have hu := h u List.mem_cons_self
    have hhigh : isHighSurrogate u = false := by
      rw [Bool.eq_false_iff, ne_eq, isHighSurrogate_iff]
      omega
    have hrest := ih fun v hv => h v (List.mem_cons_of_mem _ hv)
    rw [byteLength] at hrest ⊢
    rw [codePoints_cons_of_not_high hhigh, List.map_cons, List.sum_cons, hrest, utf8Width,
      if_pos hu, List.length_cons, Nat.add_comm]

/-- A plain string is written between quotes, one byte for each character. -/
theorem quote_of_plain {s : JsString} (h : ∀ u ∈ s, isPlain u = true) :
    (quote s).length = s.length + 2 ∧ ∀ u ∈ quote s, u.toNat < 0x80 := by
  rw [quote, escape_of_plain h]
  refine ⟨by simp, fun u hu => ?_⟩
  rcases List.mem_cons.mp hu with rfl | hu
  · decide
  · rcases List.mem_append.mp hu with hu | hu
    · have hplain := h u hu
      simp only [isPlain, Bool.and_eq_true, decide_eq_true_eq, UInt16.lt_iff_toNat_lt] at hplain
      have hlt : u.toNat < 0x7F := hplain.1.1.2
      omega
    · rw [List.mem_singleton.mp hu]
      decide

/-- The texts of members that are plain strings. -/
theorem stringifyEntries_of_plain {entries : List (JsString × Json)}
    (h : ∀ e ∈ entries, (∀ u ∈ e.1, isPlain u = true) ∧
      ∃ s, e.2 = .str s ∧ ∀ u ∈ s, isPlain u = true) :
    (commaTail (stringifyEntries entries)).length = memberWeight entries ∧
      ∀ u ∈ commaTail (stringifyEntries entries), u.toNat < 0x80 := by
  induction entries with
  | nil => simp [stringifyEntries, memberWeight]
  | cons e rest ih =>
    obtain ⟨key, value⟩ := e
    obtain ⟨hkey, s, rfl, hs⟩ := h (key, value) List.mem_cons_self
    obtain ⟨hlength, hascii⟩ := ih fun e he => h e (List.mem_cons_of_mem _ he)
    obtain ⟨hkeyLength, hkeyAscii⟩ := quote_of_plain hkey
    obtain ⟨hvalueLength, hvalueAscii⟩ := quote_of_plain hs
    have hrow : commaTail (stringifyEntries ((key, .str s) :: rest)) =
        0x2C :: (quote key ++ (0x3A :: (quote s ++ commaTail (stringifyEntries rest)))) := by
      simp [stringifyEntries, stringify, js, unitsOfChar]
    rw [hrow]
    constructor
    · have hweight : memberWeight ((key, .str s) :: rest) =
          key.length + 4 + (s.length + 2) + memberWeight rest := rfl
      simp only [List.length_cons, List.length_append, hkeyLength, hvalueLength, hlength,
        hweight]
      omega
    · intro u hu
      simp only [List.mem_cons, List.mem_append] at hu
      rcases hu with rfl | hu | rfl | hu | hu
      · decide
      · exact hkeyAscii u hu
      · decide
      · exact hvalueAscii u hu
      · exact hascii u hu

/-- The text of an object of plain strings. -/
theorem byteLength_stringify_of_plain {entries : List (JsString × Json)} (hne : entries ≠ [])
    (h : ∀ e ∈ entries, (∀ u ∈ e.1, isPlain u = true) ∧
      ∃ s, e.2 = .str s ∧ ∀ u ∈ s, isPlain u = true) :
    byteLength (stringify (.obj entries)) = memberWeight entries + 1 := by
  obtain ⟨hlength, hascii⟩ := stringifyEntries_of_plain h
  obtain ⟨⟨key, value⟩, rest, rfl⟩ := List.exists_cons_of_ne_nil hne
  have hrow : 0x2C :: joinComma (stringifyEntries ((key, value) :: rest)) =
      commaTail (stringifyEntries ((key, value) :: rest)) := rfl
  rw [← hrow] at hlength hascii
  rw [List.length_cons] at hlength
  rw [stringify_obj, byteLength_of_ascii]
  · rw [List.length_cons, List.length_append, List.length_singleton]
    omega
  · intro u hu
    simp only [List.mem_cons, List.mem_append, List.not_mem_nil, or_false] at hu
    rcases hu with rfl | hu | rfl
    · decide
    · exact hascii u (List.mem_cons_of_mem _ hu)
    · decide

/-- **An object of plain strings is written in no more bytes than it was read from.** -/
theorem byteLength_stringify_le {text : JsString} {entries : List (JsString × Json)}
    (hparse : parseJson round text = some (.obj entries)) (hne : entries ≠ [])
    (h : ∀ e ∈ entries, (∀ u ∈ e.1, isPlain u = true) ∧
      ∃ s, e.2 = .str s ∧ ∀ u ∈ s, isPlain u = true) :
    byteLength (stringify (.obj entries)) ≤ text.length := by
  obtain ⟨v, hv, hown⟩ := Option.map_eq_some_iff.mp hparse
  obtain ⟨raw, rfl⟩ : ∃ raw, v = .obj raw := by
    cases v with
    | obj raw => exact ⟨raw, rfl⟩
    | _ => cases hown
  have hread := memberWeight_readText hv
  have hweight := memberWeight_own_le hown
  rw [byteLength_stringify_of_plain hne h]
  omega

end Js
