import SinoChat.Client.MessageContent
import SinoChat.Model.Contracts

/-!
# A user and a device by their Matrix identifiers

Behind every identifier stand the 32 hexadecimal digits of a UUID (`IsHex`).
The encoders and the decoders are each described by them (`encodesUser`,
`decodesUser`, `encodesDevice`, `decodesDevice`), and the laws between an encoder
and its decoder follow. A user id is read without regard to case, so its decoder
accepts every spelling whose lower case the encoder writes; a device id is read
as it is written, but for UUIDs of version 4 only.
-/

namespace SinoChat

open Js

namespace Contracts

open MessageContent (isHex isLineUnit)

variable {urlHost : JsString → Bool}

/-! ## Letter case -/

/-- A class that tells no cases apart, nor the Kelvin sign from the letter k. -/
theorem class_lowerUnit {c : CharClass}
    (h : ∀ k : Fin 26, c (0x41 + k.val).toUInt16 = c (0x61 + k.val).toUInt16)
    (hkelvin : c 0x6B = c 0x212A) (u : UInt16) : c (lowerUnit u) = c u := by
  by_cases hu : u = 0x212A
  · rw [hu]
    exact hkelvin
  · have hlower : lowerUnit u = MessageContent.lowerUnit u := by
      simp [lowerUnit, MessageContent.lowerUnit, hu]
    rw [hlower]
    exact MessageContent.class_lowerUnit h u

/-- A hexadecimal digit stays one in lower case. -/
theorem isHex_lowerUnit (u : UInt16) : isHex (lowerUnit u) = isHex u :=
  class_lowerUnit (by decide) (by decide) u

/-- Lower case keeps a unit within its line. -/
theorem isLineUnit_lowerUnit (u : UInt16) : isLineUnit (lowerUnit u) = isLineUnit u :=
  class_lowerUnit (by decide) (by decide) u

/-- Only a dash becomes one. -/
theorem beq_dash_lowerUnit (u : UInt16) : (lowerUnit u == 0x2D) = (u == 0x2D) :=
  @class_lowerUnit (fun v => v == 0x2D) (by decide) (by decide) u

/-- Lower case is lower case already. -/
theorem lowerUnit_lowerUnit (u : UInt16) : lowerUnit (lowerUnit u) = lowerUnit u := by
  have hupper : isUpper (lowerUnit u) = false := by
    by_cases hu : u = 0x212A
    · rw [hu]
      rfl
    · have := MessageContent.isUpper_lowerUnit u
      simpa [lowerUnit, MessageContent.lowerUnit, hu] using this
  have hkelvin : lowerUnit u ≠ 0x212A := by
    unfold lowerUnit
    split_ifs with hu hk
    · intro heq
      have hu' := (Bool.and_eq_true_iff.mp hu).2
      have hbound : u.toNat ≤ 0x5A := by simpa [UInt16.le_iff_toNat_le] using hu'
      have hsum := congrArg UInt16.toNat heq
      simp at hsum
      omega
    · decide
    · exact hk
  rw [lowerUnit, hupper]
  simp [hkelvin]

@[simp] theorem toLowerCase_toLowerCase (text : JsString) :
    toLowerCase (toLowerCase text) = toLowerCase text := by
  simp [toLowerCase, lowerUnit_lowerUnit]

@[simp] theorem toLowerCase_append (a b : JsString) :
    toLowerCase (a ++ b) = toLowerCase a ++ toLowerCase b := List.map_append

/-! ## Hexadecimal digits -/

/-- The 32 digits of a UUID, in lower case. -/
structure IsHex (hex : JsString) : Prop where
  length : hex.length = 32
  digits : ∀ u ∈ hex, isLowerHex u = true

/-- The digits in lower case are sixteen. -/
theorem mem_of_isLowerHex {u : UInt16} (h : isLowerHex u = true) :
    u ∈ js "0123456789abcdef" := by
  have hbounds : 0x30 ≤ u.toNat ∧ u.toNat ≤ 0x39 ∨ 0x61 ≤ u.toNat ∧ u.toNat ≤ 0x66 := by
    simpa [isLowerHex, isDigit, UInt16.le_iff_toNat_le] using h
  have hdigit : ∀ k : Fin 10, (0x30 + k.val).toUInt16 ∈ js "0123456789abcdef" := by decide
  have hletter : ∀ k : Fin 6, (0x61 + k.val).toUInt16 ∈ js "0123456789abcdef" := by decide
  rw [← UInt16.ofNat_toNat (x := u)]
  rcases hbounds with ⟨hlo, hhi⟩ | ⟨hlo, hhi⟩
  · have := hdigit ⟨u.toNat - 0x30, by omega⟩
    rwa [Nat.add_sub_cancel' hlo] at this
  · have := hletter ⟨u.toNat - 0x61, by omega⟩
    rwa [Nat.add_sub_cancel' hlo] at this

/-- What the changes of case do to a digit. -/
theorem digit_cases {u : UInt16} (h : isLowerHex u = true) :
    lowerUnit u = u ∧ lowerUnit (upperUnit u) = u ∧ isUpperHex (upperUnit u) = true ∧
      isHex u = true ∧ (u != 0x2D) = true := by
  have hall : ((js "0123456789abcdef").all fun u => lowerUnit u = u &&
      lowerUnit (upperUnit u) = u && isUpperHex (upperUnit u) && isHex u && u != 0x2D) = true := by
    decide +kernel
  have := List.all_eq_true.mp hall u (mem_of_isLowerHex h)
  simpa [and_assoc] using this

/-- A digit in lower case is one of them. -/
theorem isLowerHex_lowerUnit {u : UInt16} (h : isHex u = true) :
    isLowerHex (lowerUnit u) = true := by
  rcases Bool.or_eq_true_iff.mp h with hlower | hupper
  · rw [(digit_cases hlower).1]
    exact hlower
  rcases Bool.or_eq_true_iff.mp hupper with hdigit | hletter
  · have hlower : isLowerHex u = true := by simp [isLowerHex, hdigit]
    rw [(digit_cases hlower).1]
    exact hlower
  · have hbounds : 0x41 ≤ u.toNat ∧ u.toNat ≤ 0x46 := by
      simpa [UInt16.le_iff_toNat_le] using hletter
    have hlower : ∀ k : Fin 6, isLowerHex (lowerUnit (0x41 + k.val).toUInt16) = true := by decide
    have := hlower ⟨u.toNat - 0x41, by omega⟩
    rwa [Nat.add_sub_cancel' hbounds.1, Nat.toUInt16, UInt16.ofNat_toNat] at this

namespace IsHex

variable {hex : JsString}

/-- Thirty-two digits are an identifier's, in lower case. -/
theorem of_fixed {text : JsString} (h : fixed (times 32 isHex) text = true) :
    IsHex (toLowerCase text) := by
  obtain ⟨hlength, hdigits⟩ := fixed_times.mp h
  refine ⟨by simp [toLowerCase, hlength], fun v hv => ?_⟩
  obtain ⟨u, hu, rfl⟩ := List.mem_map.mp hv
  exact isLowerHex_lowerUnit (hdigits u hu)

/-- An identifier's digits are thirty-two. -/
theorem fixed_isHex (h : IsHex hex) : fixed (times 32 isHex) hex = true :=
  fixed_times.mpr ⟨h.length, fun u hu => (digit_cases (h.digits u hu)).2.2.2.1⟩

/-- They are in lower case already. -/
theorem toLowerCase_eq (h : IsHex hex) : toLowerCase hex = hex := by
  have : hex.map lowerUnit = hex.map id :=
    List.map_congr_left fun u hu => (digit_cases (h.digits u hu)).1
  rwa [List.map_id] at this

/-- They come back from upper case. -/
theorem toLowerCase_toUpperCase (h : IsHex hex) : toLowerCase (toUpperCase hex) = hex := by
  rw [toLowerCase, toUpperCase, List.map_map]
  have : hex.map (lowerUnit ∘ upperUnit) = hex.map id :=
    List.map_congr_left fun u hu => (digit_cases (h.digits u hu)).2.1
  rwa [List.map_id] at this

/-- In upper case they are thirty-two as well. -/
theorem fixed_toUpperCase (h : IsHex hex) :
    fixed (times 32 isUpperHex) (toUpperCase hex) = true := by
  refine fixed_times.mpr ⟨by simp [toUpperCase, h.length], fun v hv => ?_⟩
  obtain ⟨u, hu, rfl⟩ := List.mem_map.mp hv
  exact (digit_cases (h.digits u hu)).2.2.1

end IsHex

/-! ## UUIDs -/

/-- Five groups, each by its own pattern. -/
theorem fixed_groups {a b c d e : List CharClass} {s : JsString} :
    fixed (a ++ lit "-" ++ b ++ lit "-" ++ c ++ lit "-" ++ d ++ lit "-" ++ e) s = true ↔
      ∃ p q r t v, s = p ++ js "-" ++ q ++ js "-" ++ r ++ js "-" ++ t ++ js "-" ++ v ∧
        fixed a p = true ∧ fixed b q = true ∧ fixed c r = true ∧ fixed d t = true ∧
        fixed e v = true := by
  simp only [fixed_append, fixed_lit]
  constructor
  · rintro ⟨_, v, rfl, ⟨_, _, rfl, ⟨_, t, rfl, ⟨_, _, rfl, ⟨_, r, rfl, ⟨_, _, rfl, ⟨_, q, rfl,
      ⟨p, _, rfl, hp, rfl⟩, hq⟩, rfl⟩, hr⟩, rfl⟩, ht⟩, rfl⟩, hv⟩
    exact ⟨p, q, r, t, v, rfl, hp, hq, hr, ht, hv⟩
  · rintro ⟨p, q, r, t, v, rfl, hp, hq, hr, ht, hv⟩
    exact ⟨_, v, rfl, ⟨_, _, rfl, ⟨_, t, rfl, ⟨_, _, rfl, ⟨_, r, rfl, ⟨_, _, rfl, ⟨_, q, rfl,
      ⟨p, _, rfl, hp, rfl⟩, hq⟩, rfl⟩, hr⟩, rfl⟩, ht⟩, rfl⟩, hv⟩

/-- The digits of the groups with the dashes between them. -/
theorem dashed_append {p q r t v : JsString} (hp : p.length = 8) (hq : q.length = 4)
    (hr : r.length = 4) (ht : t.length = 4) :
    dashed (p ++ q ++ r ++ t ++ v) =
      p ++ js "-" ++ q ++ js "-" ++ r ++ js "-" ++ t ++ js "-" ++ v := by
  simp [dashed, List.drop_append, hp, hq, hr, ht, List.drop_eq_nil_of_le]

/-- The digits of a UUID by their groups. -/
theorem IsHex.groups {hex : JsString} (h : IsHex hex) : ∃ p q r t v,
    hex = p ++ q ++ r ++ t ++ v ∧ fixed (times 8 isLowerHex) p = true ∧
      fixed (times 4 isLowerHex) q = true ∧ fixed (times 4 isLowerHex) r = true ∧
      fixed (times 4 isLowerHex) t = true ∧ fixed (times 12 isLowerHex) v = true := by
  have hsplit : times 32 isLowerHex = times 8 isLowerHex ++ times 4 isLowerHex ++
      times 4 isLowerHex ++ times 4 isLowerHex ++ times 12 isLowerHex := rfl
  have hfixed := fixed_times.mpr ⟨h.length, h.digits⟩
  rw [hsplit] at hfixed
  simp only [fixed_append] at hfixed
  obtain ⟨_, v, rfl, ⟨_, t, rfl, ⟨_, r, rfl, ⟨p, q, rfl, hp, hq⟩, hr⟩, ht⟩, hv⟩ := hfixed
  exact ⟨p, q, r, t, v, rfl, hp, hq, hr, ht, hv⟩

theorem isHex_group {n : ℕ} {p : JsString} (h : fixed (times n isLowerHex) p = true) :
    fixed (times n isHex) p = true := by
  obtain ⟨hlength, hdigits⟩ := fixed_times.mp h
  exact fixed_times.mpr ⟨hlength, fun u hu => (digit_cases (hdigits u hu)).2.2.2.1⟩

theorem filter_group {n : ℕ} {p : JsString} (h : fixed (times n isLowerHex) p = true) :
    p.filter (· != 0x2D) = p :=
  List.filter_eq_self.mpr fun u hu => (digit_cases ((fixed_times.mp h).2 u hu)).2.2.2.2

namespace IsHex

variable {hex : JsString}

/-- Without its dashes an identifier is its digits. -/
theorem filter_dashed (h : IsHex hex) : (dashed hex).filter (· != 0x2D) = hex := by
  obtain ⟨p, q, r, t, v, rfl, hp, hq, hr, ht, hv⟩ := h.groups
  rw [dashed_append (length_of_fixed hp) (length_of_fixed hq) (length_of_fixed hr)
    (length_of_fixed ht)]
  have hdash : (js "-").filter (· != 0x2D) = [] := rfl
  simp only [List.filter_append, filter_group hp, filter_group hq, filter_group hr,
    filter_group ht, filter_group hv, hdash, List.append_nil]

/-- The digits are those of one UUID only. -/
theorem eq_of_dashed {other : JsString} (h : IsHex hex) (hother : IsHex other)
    (heq : dashed hex = dashed other) : hex = other := by
  rw [← h.filter_dashed, heq, hother.filter_dashed]

/-- An identifier of such digits is in lower case. -/
theorem toLowerCase_dashed (h : IsHex hex) : toLowerCase (dashed hex) = dashed hex := by
  have hsplit : ∀ text : JsString, toLowerCase (dashed text) = dashed (toLowerCase text) := by
    intro text
    have hdash : toLowerCase (js "-") = js "-" := rfl
    simp only [dashed, toLowerCase_append, hdash]
    simp only [toLowerCase, List.map_take, List.map_drop]
  rw [hsplit, h.toLowerCase_eq]

/-- Digits with dashes are an identifier. -/
theorem isUuid_dashed (h : IsHex hex) : isUuid (dashed hex) = true := by
  obtain ⟨p, q, r, t, v, rfl, hp, hq, hr, ht, hv⟩ := h.groups
  rw [dashed_append (length_of_fixed hp) (length_of_fixed hq) (length_of_fixed hr)
    (length_of_fixed ht)]
  exact fixed_groups.mpr ⟨p, q, r, t, v, rfl, isHex_group hp, isHex_group hq, isHex_group hr,
    isHex_group ht, isHex_group hv⟩

end IsHex

/-- An identifier stays one in lower case, and only an identifier becomes one. -/
theorem isUuid_toLowerCase (value : JsString) : isUuid (toLowerCase value) = isUuid value := by
  have hhex : ∀ n, ∀ c ∈ times n isHex, ∀ u, c (lowerUnit u) = c u := by
    intro n c hc u
    rw [List.eq_of_mem_replicate hc]
    exact isHex_lowerUnit u
  have hdash : ∀ c ∈ lit "-", ∀ u, c (lowerUnit u) = c u := by
    intro c hc u
    obtain rfl : c = fun v => v == 0x2D := List.mem_singleton.mp hc
    exact beq_dash_lowerUnit u
  refine fixed_map ?_ value
  simp only [uuidGroups, List.forall_mem_append]
  exact ⟨⟨⟨⟨⟨⟨⟨⟨hhex 8, hdash⟩, hhex 4⟩, hdash⟩, hhex 4⟩, hdash⟩, hhex 4⟩, hdash⟩, hhex 12⟩

/-- Behind a UUID in whatever case there are its digits. -/
theorem exists_isHex {value : JsString} (h : isUuid value = true) :
    ∃ hex, IsHex hex ∧ toLowerCase value = dashed hex := by
  obtain ⟨p, q, r, t, v, rfl, hp, hq, hr, ht, hv⟩ := fixed_groups.mp h
  have hlength : ∀ {n : ℕ} {g : JsString}, fixed (times n isHex) g = true →
      (toLowerCase g).length = n := by
    intro n g hg
    rw [toLowerCase, List.length_map, length_of_fixed hg, length_times]
  have hall : fixed (times 32 isHex) (p ++ q ++ r ++ t ++ v) = true := by
    have hsplit : times 32 isHex = times 8 isHex ++ times 4 isHex ++ times 4 isHex ++
      times 4 isHex ++ times 12 isHex := rfl
    rw [hsplit]
    exact fixed_append_of (fixed_append_of (fixed_append_of (fixed_append_of hp hq) hr) ht) hv
  refine ⟨_, IsHex.of_fixed hall, ?_⟩
  have hdash : toLowerCase (js "-") = js "-" := rfl
  simp only [toLowerCase_append, hdash]
  rw [dashed_append (hlength hp) (hlength hq) (hlength hr) (hlength ht)]

/-- **The digits of a UUID.** -/
theorem uuidHex_eq_ok {value hex : JsString} {errorCode : ErrorCode} :
    uuidHex value errorCode = .ok hex ↔ IsHex hex ∧ toLowerCase value = dashed hex := by
  have hfilter : toLowerCase (value.filter (· != 0x2D)) =
      (toLowerCase value).filter (· != 0x2D) := by
    rw [toLowerCase, toLowerCase, List.filter_map]
    congr 1
    refine List.filter_congr fun u _ => ?_
    have := beq_dash_lowerUnit u
    simp only [Function.comp, bne, this]
  constructor
  · intro h
    obtain ⟨_, huuid, h⟩ := bind_eq_ok.mp h
    cases h
    obtain ⟨hex, hhex, hvalue⟩ := exists_isHex (require_eq_ok.mp huuid)
    rw [hfilter, hvalue, hhex.filter_dashed]
    exact ⟨hhex, rfl⟩
  · rintro ⟨hhex, hvalue⟩
    have huuid : isUuid value = true := by
      rw [← isUuid_toLowerCase, hvalue, hhex.isUuid_dashed]
    rw [uuidHex, huuid, hfilter, hvalue, hhex.filter_dashed]
    rfl

/-! ## Server names -/

/-- A class without line terminators. -/
theorem isLineUnit_of (c : CharClass) {u : UInt16} (hu : c u = true)
    (hc : ([0x0A, 0x0D, 0x2028, 0x2029].any c) = false) : isLineUnit u = true := by
  simp only [List.any_cons, List.any_nil, Bool.or_false, Bool.or_eq_false_iff] at hc
  obtain ⟨h₁, h₂, h₃, h₄⟩ := hc
  have hne : ∀ v, c v = false → u ≠ v := fun v hv heq => by
    rw [heq, hv] at hu
    cases hu
  simp [isLineUnit, hne _ h₁, hne _ h₂, hne _ h₃, hne _ h₄]

/-- A host is one line that is not empty. -/
theorem line_of_isServerHost {host : JsString} (h : MessageContent.isServerHost host = true) :
    host ≠ [] ∧ ∀ u ∈ host, isLineUnit u = true := by
  rcases Bool.or_eq_true_iff.mp h with hname | haddress
  · simp only [Bool.and_eq_true, List.all_eq_true] at hname
    obtain ⟨⟨hhead, -⟩, hall⟩ := hname
    refine ⟨fun hnil => ?_, fun u hu => isLineUnit_of
      (fun u => MessageContent.isNameUnit u || u == 0x2E || u == 0x2D) (hall u hu) (by decide)⟩
    rw [hnil] at hhead
    cases hhead
  · simp only [Bool.and_eq_true, decide_eq_true_eq, List.all_eq_true] at haddress
    obtain ⟨⟨⟨hlength, hhead⟩, hlast⟩, hall⟩ := haddress
    cases host with
    | nil => cases hhead
    | cons first rest =>
      obtain rfl : first = 0x5B := by simpa using hhead
      refine ⟨by simp, fun u hu => ?_⟩
      rcases List.mem_cons.mp hu with rfl | hu
      · rfl
      have hne : rest ≠ [] := List.ne_nil_of_mem hu
      have hclose : rest.getLast hne = 0x5D := by
        have := @List.getLast?_cons_of_ne_nil _ 0x5B rest hne
        rw [this, List.getLast?_eq_some_getLast hne] at hlast
        exact Option.some.inj hlast
      rw [← List.dropLast_append_getLast hne] at hu
      rcases List.mem_append.mp hu with hmid | hend
      · exact isLineUnit_of (fun u => isLowerHex u || u == 0x3A || u == 0x2E)
          (hall u (by simpa using hmid)) (by decide)
      · rw [List.mem_singleton.mp hend, hclose]
        rfl

/-- So is a server name. -/
theorem line_of_isServerName {name : JsString} (h : MessageContent.isServerName name = true) :
    name ≠ [] ∧ ∀ u ∈ name, isLineUnit u = true := by
  rcases Bool.or_eq_true_iff.mp h with hhost | hport
  · exact line_of_isServerHost hhost
  · obtain ⟨k, -, hk⟩ := List.any_eq_true.mp hport
    obtain ⟨hdigits, hhost⟩ := Bool.and_eq_true_iff.mp hk
    obtain ⟨hne, hline⟩ := line_of_isServerHost hhost
    refine ⟨fun hnil => hne (by rw [hnil, List.take_nil]), fun u hu => ?_⟩
    rw [← List.take_append_drop (name.length - (k + 2)) name] at hu
    rcases List.mem_append.mp hu with hleft | hright
    · exact hline u hleft
    · obtain ⟨colon, digits, hsplit, hcolon, hall⟩ := fixed_append.mp hdigits
      rw [hsplit, fixed_lit.mp hcolon] at hright
      rcases List.mem_append.mp hright with hfirst | hrest
      · rw [List.mem_singleton.mp hfirst]
        rfl
      · exact isLineUnit_of isDigit ((fixed_times.mp hall).2 u hrest) (by decide)

/-- A name in the form the source gives it. -/
theorem normalizeMatrixServerName_eq_ok {value name : JsString} :
    normalizeMatrixServerName urlHost value = .ok name ↔
      name = toLowerCase (trim value) ∧ isNormalizedServerName name = true ∧
        urlHost name = true := by
  constructor
  · intro h
    obtain ⟨_, hname, h⟩ := bind_eq_ok.mp h
    obtain ⟨_, hurl, h⟩ := bind_eq_ok.mp h
    cases h
    exact ⟨rfl, require_eq_ok.mp hname, require_eq_ok.mp hurl⟩
  · rintro ⟨rfl, hname, hurl⟩
    simp [normalizeMatrixServerName, hname, hurl, require, bind, Except.bind, pure, Except.pure]

/-! ## Users -/

/-- **The Matrix id of a user** is written from the digits of the UUID. -/
theorem encodesUser {userId serverName name id : JsString}
    (hname : normalizeMatrixServerName urlHost serverName = .ok name) :
    matrixUserIdFromUuid urlHost userId serverName = .ok id ↔
      ∃ hex, IsHex hex ∧ toLowerCase userId = dashed hex ∧ id = js "@u" ++ hex ++ js ":" ++ name := by
  simp only [matrixUserIdFromUuid, hname]
  constructor
  · intro h
    obtain ⟨hex, hhex, h⟩ := bind_eq_ok.mp h
    cases h
    obtain ⟨hhex, huser⟩ := uuidHex_eq_ok.mp hhex
    exact ⟨hex, hhex, huser, rfl⟩
  · rintro ⟨hex, hhex, huser, rfl⟩
    rw [uuidHex_eq_ok.mpr ⟨hhex, huser⟩]
    rfl

/-- The head of a user id does not depend on the case. -/
theorem userIdHead_lowerUnit : ∀ c ∈ userIdHead, ∀ u, c (lowerUnit u) = c u := by
  have hat : ∀ c ∈ lit "@", ∀ u, c (lowerUnit u) = c u := by
    intro c hc
    obtain rfl : c = fun v => v == 0x40 := List.mem_singleton.mp hc
    exact @class_lowerUnit (fun v => v == 0x40) (by decide) (by decide)
  have hletter : ∀ c ∈ [fun u : UInt16 => u == 0x75 || u == 0x55], ∀ u, c (lowerUnit u) = c u := by
    intro c hc
    rw [List.mem_singleton.mp hc]
    exact @class_lowerUnit (fun u => u == 0x75 || u == 0x55) (by decide) (by decide)
  have hhex : ∀ c ∈ times 32 isHex, ∀ u, c (lowerUnit u) = c u := by
    intro c hc u
    rw [List.eq_of_mem_replicate hc]
    exact isHex_lowerUnit u
  have hcolon : ∀ c ∈ lit ":", ∀ u, c (lowerUnit u) = c u := by
    intro c hc
    obtain rfl : c = fun v => v == 0x3A := List.mem_singleton.mp hc
    exact @class_lowerUnit (fun v => v == 0x3A) (by decide) (by decide)
  simp only [userIdHead, List.forall_mem_append]
  exact ⟨⟨⟨hat, hletter⟩, hhex⟩, hcolon⟩

/-- **A text matches the source's expression** for this server when its lower case is written
from digits and the name. -/
theorem isMatrixUserIdText_iff {id name : JsString}
    (hname : MessageContent.isServerName name = true) :
    (isMatrixUserIdText id = true ∧ toLowerCase (id.drop 35) = name) ↔
      ∃ hex, IsHex hex ∧ toLowerCase id = js "@u" ++ hex ++ js ":" ++ name := by
  obtain ⟨hne, hline⟩ := line_of_isServerName hname
  constructor
  · rintro ⟨htext, hrest⟩
    simp only [isMatrixUserIdText, Bool.and_eq_true] at htext
    have hhead := htext.1.1
    simp only [userIdHead, fixed_append, fixed_lit] at hhead
    obtain ⟨_, _, htake, ⟨_, digits, rfl, ⟨_, letter, rfl, rfl, hletter⟩, hdigits⟩, rfl⟩ := hhead
    have hlower : toLowerCase letter = js "u" := by
      cases letter with
      | nil => cases hletter
      | cons u rest =>
        obtain ⟨hu, hnil⟩ := fixed_cons.mp hletter
        obtain rfl := fixed_nil.mp hnil
        simp only [Bool.or_eq_true, beq_iff_eq] at hu
        rcases hu with rfl | rfl <;> rfl
    refine ⟨_, IsHex.of_fixed hdigits, ?_⟩
    rw [← List.take_append_drop 35 id, htake]
    simp only [toLowerCase_append, hlower, hrest]
    rfl
  · rintro ⟨hex, hhex, hid⟩
    have hlength : (js "@u" ++ hex ++ js ":").length = 35 := by
      simp only [List.length_append, hhex.length]
      rfl
    have hrest : toLowerCase (id.drop 35) = name := by
      rw [toLowerCase, List.map_drop, ← toLowerCase, hid, List.drop_append_of_le_length hlength.ge,
        List.drop_eq_nil_of_le hlength.le, List.nil_append]
    have hhead : fixed userIdHead (id.take 35) = true := by
      have htake : (id.take 35).map lowerUnit = js "@u" ++ hex ++ js ":" := by
        rw [List.map_take, ← toLowerCase, hid, ← hlength, List.take_left]
      rw [← fixed_map userIdHead_lowerUnit, htake]
      exact fixed_append_of (fixed_append_of (by decide) hhex.fixed_isHex) (by decide)
    refine ⟨?_, hrest⟩
    simp only [isMatrixUserIdText, hhead, Bool.true_and, Bool.and_eq_true, decide_eq_true_eq,
      List.all_eq_true]
    refine ⟨fun hnil => hne (by rw [← hrest, hnil]; rfl), fun u hu => ?_⟩
    rw [← isLineUnit_lowerUnit]
    exact hline _ (hrest ▸ List.mem_map_of_mem hu)

/-- **A user is read from the spellings whose lower case is written from its digits.** -/
theorem decodesUser {id serverName name userId : JsString}
    (hname : normalizeMatrixServerName urlHost serverName = .ok name) :
    sinochatUserIdFromMatrixUserId urlHost id serverName = .ok userId ↔
      ∃ hex, IsHex hex ∧ userId = dashed hex ∧
        toLowerCase id = js "@u" ++ hex ++ js ":" ++ name := by
  have hnormal := (normalizeMatrixServerName_eq_ok.mp hname).2.1
  have hserver : MessageContent.isServerName name = true := by
    simp only [isNormalizedServerName, Bool.and_eq_true] at hnormal
    exact hnormal.1.1.1.1.1
  -- the digits the decoder takes are those the lower case is written from
  have hdigits : ∀ hex, toLowerCase id = js "@u" ++ hex ++ js ":" ++ name → IsHex hex →
      toLowerCase ((id.drop 2).take 32) = hex := by
    intro hex hid hhex
    have hdrop : (js "@u" ++ hex ++ js ":" ++ name).drop 2 = hex ++ (js ":" ++ name) := by
      rw [List.append_assoc, List.append_assoc]
      rfl
    rw [toLowerCase, List.map_take, List.map_drop, ← toLowerCase, hid, hdrop, ← hhex.length,
      List.take_left]
  simp only [sinochatUserIdFromMatrixUserId, hname]
  constructor
  · intro h
    obtain ⟨_, hnormalized, h⟩ := bind_eq_ok.mp h
    obtain rfl := Except.ok.inj hnormalized
    obtain ⟨_, htext, h⟩ := bind_eq_ok.mp h
    obtain ⟨_, -, h⟩ := bind_eq_ok.mp h
    cases h
    simp only [require_eq_ok, Bool.and_eq_true, decide_eq_true_eq] at htext
    obtain ⟨hex, hhex, hid⟩ := (isMatrixUserIdText_iff hserver).mp htext
    exact ⟨hex, hhex, by rw [hdigits hex hid hhex], hid⟩
  · rintro ⟨hex, hhex, rfl, hid⟩
    obtain ⟨htext, hrest⟩ := (isMatrixUserIdText_iff hserver).mpr ⟨hex, hhex, hid⟩
    rw [htext, hrest, hdigits hex hid hhex, hhex.isUuid_dashed]
    simp [require, bind, Except.bind, pure, Except.pure]

/-- The identifiers of a deployment, whose server name is in its form already, are read
alike. -/
theorem sinochatUserIdFromMatrixUserId_eq_some {id name : JsString} {userId : Uuid} :
    SinoChat.sinochatUserIdFromMatrixUserId id name = some userId ↔
      ∃ hex, IsHex hex ∧ userId.text = dashed hex ∧
        toLowerCase id = js "@u" ++ hex ++ js ":" ++ name := by
  unfold SinoChat.sinochatUserIdFromMatrixUserId
  constructor
  · intro h
    obtain ⟨⟨hletters, hlength, hhex, hcolon, hname⟩, h⟩ := Option.ite_none_right_eq_some.mp h
    unfold Uuid.ofText? at h
    split_ifs at h with huuid
    cases h
    refine ⟨_, ⟨hlength, List.all_eq_true.mp hhex⟩, rfl, ?_⟩
    have hsplit : id = id.take 2 ++ (id.drop 2).take 32 ++ (id.drop 34).take 1 ++ id.drop 35 := by
      have hfirst := List.take_append_drop 2 id
      have hdigits := List.take_append_drop 32 (id.drop 2)
      have hlast := List.take_append_drop 1 (id.drop 34)
      rw [List.drop_drop] at hdigits hlast
      rw [List.append_assoc, List.append_assoc, hlast, hdigits, hfirst]
    have hlower := congrArg toLowerCase hsplit
    simp only [toLowerCase_append, hcolon] at hlower
    rw [hlower, show toLowerCase (id.take 2) = _ from hletters,
      show toLowerCase (id.drop 35) = _ from hname]
    rfl
  · rintro ⟨hex, hhex, huser, hid⟩
    obtain ⟨_, rest, rfl, hfront, hrest⟩ := List.map_eq_append_iff.mp hid
    obtain ⟨_, colon, rfl, hfront, hcolon⟩ := List.map_eq_append_iff.mp hfront
    obtain ⟨letters, digits, rfl, hletters, rfl⟩ := List.map_eq_append_iff.mp hfront
    have hlength : digits.length = 32 := by simpa using hhex.length
    have htwo : letters.length = 2 := by
      rw [← List.length_map lowerUnit, hletters]
      rfl
    have hone : colon = js ":" := by
      cases colon with
      | nil => cases hcolon
      | cons u us =>
        obtain ⟨hu, hus⟩ := List.cons.inj hcolon
        obtain rfl := List.map_eq_nil_iff.mp hus
        have := @class_lowerUnit (fun v => v == 0x3A) (by decide) (by decide) u
        rw [hu] at this
        exact congrArg (fun v => [v]) (eq_of_beq this.symm)
    subst hone
    have htext : (letters ++ digits ++ js ":" ++ rest).take 2 = letters ∧
        ((letters ++ digits ++ js ":" ++ rest).drop 2).take 32 = digits ∧
        ((letters ++ digits ++ js ":" ++ rest).drop 34).take 1 = js ":" ∧
        (letters ++ digits ++ js ":" ++ rest).drop 35 = rest := by
      simp [List.drop_append, htwo, hlength, List.drop_eq_nil_of_le, js, unitsOfChar]
    obtain ⟨h₁, h₂, h₃, h₄⟩ := htext
    rw [h₁, h₂, h₃, h₄]
    rw [if_pos ⟨hletters, hhex.length, List.all_eq_true.mpr hhex.digits, rfl, hrest⟩, ← huser]
    exact Uuid.ofText?_text userId

/-- **The two decoders agree** on a server whose name is in its form. -/
theorem sinochatUserIdFromMatrixUserId_agree {id name : JsString} {userId : Uuid}
    (hname : normalizeMatrixServerName urlHost name = .ok name) :
    SinoChat.sinochatUserIdFromMatrixUserId id name = some userId ↔
      sinochatUserIdFromMatrixUserId urlHost id name = .ok userId.text := by
  rw [sinochatUserIdFromMatrixUserId_eq_some, decodesUser hname]

/-! ## Devices -/

/-- **The Matrix id of a device** is written from the digits of the UUID. -/
theorem encodesDevice {deviceId id : JsString} :
    matrixDeviceIdFromUuid deviceId = .ok id ↔
      ∃ hex, IsHex hex ∧ toLowerCase deviceId = dashed hex ∧ id = js "D" ++ toUpperCase hex := by
  unfold matrixDeviceIdFromUuid
  constructor
  · intro h
    obtain ⟨hex, hhex, h⟩ := bind_eq_ok.mp h
    cases h
    obtain ⟨hhex, hdevice⟩ := uuidHex_eq_ok.mp hhex
    exact ⟨hex, hhex, hdevice, rfl⟩
  · rintro ⟨hex, hhex, hdevice, rfl⟩
    rw [uuidHex_eq_ok.mpr ⟨hhex, hdevice⟩]
    rfl

/-- Digits in upper case make a device id. -/
theorem isMatrixDeviceId_of_isHex {hex : JsString} (h : IsHex hex) :
    isMatrixDeviceId (js "D" ++ toUpperCase hex) = true :=
  fixed_append_of (fixed_lit.mpr rfl) h.fixed_toUpperCase

/-- A device id is made of such digits. -/
theorem isHex_of_isMatrixDeviceId {id : JsString} (h : isMatrixDeviceId id = true) :
    IsHex (toLowerCase (id.drop 1)) := by
  obtain ⟨letter, digits, rfl, hletter, hdigits⟩ := fixed_append.mp h
  obtain rfl := fixed_lit.mp hletter
  obtain ⟨hlength, hall⟩ := fixed_times.mp hdigits
  refine IsHex.of_fixed (fixed_times.mpr ⟨hlength, fun u hu => ?_⟩)
  rw [isHex, hall u hu, Bool.or_true]

/-- The digits of a device that the encoder wrote, as the decoder takes them. -/
theorem toLowerCase_drop {hex : JsString} (h : IsHex hex) :
    toLowerCase ((js "D" ++ toUpperCase hex).drop 1) = hex :=
  h.toLowerCase_toUpperCase

/-- **A device is read from what the encoder writes** for a UUID of version 4. -/
theorem decodesDevice {id deviceId : JsString} :
    sinochatDeviceIdFromMatrixDeviceId id = .ok deviceId ↔
      ∃ hex, IsHex hex ∧ deviceId = dashed hex ∧ isUuidV4Canonical deviceId = true ∧
        id = js "D" ++ toUpperCase hex := by
  unfold sinochatDeviceIdFromMatrixDeviceId
  constructor
  · intro h
    obtain ⟨_, hform, h⟩ := bind_eq_ok.mp h
    obtain ⟨_, hversion, h⟩ := bind_eq_ok.mp h
    obtain ⟨encoded, hencoded, h⟩ := bind_eq_ok.mp h
    obtain ⟨_, hsame, h⟩ := bind_eq_ok.mp h
    cases h
    have hdigits := isHex_of_isMatrixDeviceId (require_eq_ok.mp hform)
    obtain ⟨hex, hhex, hdevice, rfl⟩ := encodesDevice.mp hencoded
    rw [hdigits.toLowerCase_dashed] at hdevice
    exact ⟨hex, hhex, hdevice, require_eq_ok.mp hversion,
      (of_decide_eq_true (require_eq_ok.mp hsame)).symm⟩
  · rintro ⟨hex, hhex, rfl, hversion, rfl⟩
    have hencoded : matrixDeviceIdFromUuid (dashed hex) = .ok (js "D" ++ toUpperCase hex) :=
      encodesDevice.mpr ⟨hex, hhex, hhex.toLowerCase_dashed, rfl⟩
    rw [isMatrixDeviceId_of_isHex hhex, toLowerCase_drop hhex]
    simp [hversion, hencoded, require, bind, Except.bind, pure, Except.pure]

/-- The device id of a UUID of another version is refused. -/
theorem refusesDevice {hex : JsString} (h : IsHex hex)
    (hversion : isUuidV4Canonical (dashed hex) = false) :
    sinochatDeviceIdFromMatrixDeviceId (js "D" ++ toUpperCase hex) =
      .error "MATRIX_DEVICE_ID_INVALID" := by
  rw [sinochatDeviceIdFromMatrixDeviceId, isMatrixDeviceId_of_isHex h, toLowerCase_drop h]
  simp [hversion, require, bind, Except.bind]

/-! ## The laws -/

/-- **The decoder of user ids is the inverse of the encoder**, and accepts the spellings of
what the encoder writes, which differ in letter case only. -/
structure UserIdsInvert (urlHost : JsString → Bool) (serverName : JsString) : Prop where
  inverse : ∀ userId, isUuid userId = true →
    ∃ id, matrixUserIdFromUuid urlHost userId serverName = .ok id ∧
      sinochatUserIdFromMatrixUserId urlHost id serverName = .ok (toLowerCase userId)
  accepted : ∀ id userId, sinochatUserIdFromMatrixUserId urlHost id serverName = .ok userId ↔
    toLowerCase userId = userId ∧
      matrixUserIdFromUuid urlHost userId serverName = .ok (toLowerCase id)
  unique : ∀ id id' userId, sinochatUserIdFromMatrixUserId urlHost id serverName = .ok userId →
    sinochatUserIdFromMatrixUserId urlHost id' serverName = .ok userId →
    toLowerCase id = toLowerCase id'

/-- **The decoder of device ids is the inverse of the encoder on UUIDs of version 4**, refuses
the others, and accepts only what the encoder writes. -/
structure DeviceIdsInvert : Prop where
  inverse : ∀ deviceId, isUuid deviceId = true → ∃ id, matrixDeviceIdFromUuid deviceId = .ok id ∧
    sinochatDeviceIdFromMatrixDeviceId id =
      if isUuidV4Canonical (toLowerCase deviceId) then .ok (toLowerCase deviceId)
      else .error "MATRIX_DEVICE_ID_INVALID"
  accepted : ∀ id deviceId, sinochatDeviceIdFromMatrixDeviceId id = .ok deviceId ↔
    isUuidV4Canonical deviceId = true ∧ toLowerCase deviceId = deviceId ∧
      matrixDeviceIdFromUuid deviceId = .ok id
  unique : ∀ id id' deviceId, sinochatDeviceIdFromMatrixDeviceId id = .ok deviceId →
    sinochatDeviceIdFromMatrixDeviceId id' = .ok deviceId → id = id'

/-- **The user ids of the two sides invert each other.** -/
theorem userIdsInvert {serverName name : JsString}
    (hname : normalizeMatrixServerName urlHost serverName = .ok name) :
    UserIdsInvert urlHost serverName where
  inverse := by
    intro userId huuid
    obtain ⟨hex, hhex, huser⟩ := exists_isHex huuid
    refine ⟨_, (encodesUser hname).mpr ⟨hex, hhex, huser, rfl⟩,
      (decodesUser hname).mpr ⟨hex, hhex, huser, ?_⟩⟩
    have hlower : toLowerCase name = name := by
      rw [(normalizeMatrixServerName_eq_ok.mp hname).1, toLowerCase_toLowerCase]
    simp only [toLowerCase_append, hhex.toLowerCase_eq, hlower]
    rfl
  accepted := by
    intro id userId
    rw [decodesUser hname, encodesUser hname]
    constructor
    · rintro ⟨hex, hhex, rfl, hid⟩
      exact ⟨hhex.toLowerCase_dashed, hex, hhex, hhex.toLowerCase_dashed, hid⟩
    · rintro ⟨hlower, hex, hhex, huser, hid⟩
      exact ⟨hex, hhex, hlower ▸ huser, hid⟩
  unique := by
    intro id id' userId hid hid'
    obtain ⟨hex, hhex, huser, hid⟩ := (decodesUser hname).mp hid
    obtain ⟨hex', hhex', huser', hid'⟩ := (decodesUser hname).mp hid'
    obtain rfl := hhex.eq_of_dashed hhex' (huser.symm.trans huser')
    rw [hid, hid']

/-- **So do the device ids.** -/
theorem deviceIdsInvert : DeviceIdsInvert where
  inverse := by
    intro deviceId huuid
    obtain ⟨hex, hhex, hdevice⟩ := exists_isHex huuid
    refine ⟨_, encodesDevice.mpr ⟨hex, hhex, hdevice, rfl⟩, ?_⟩
    rw [hdevice]
    cases hversion : isUuidV4Canonical (dashed hex) with
    | true => exact decodesDevice.mpr ⟨hex, hhex, rfl, hversion, rfl⟩
    | false => exact refusesDevice hhex hversion
  accepted := by
    intro id deviceId
    rw [decodesDevice, encodesDevice]
    constructor
    · rintro ⟨hex, hhex, rfl, hversion, hid⟩
      exact ⟨hversion, hhex.toLowerCase_dashed, hex, hhex, hhex.toLowerCase_dashed, hid⟩
    · rintro ⟨hversion, hlower, hex, hhex, hdevice, hid⟩
      exact ⟨hex, hhex, hlower ▸ hdevice, hversion, hid⟩
  unique := by
    intro id id' deviceId hid hid'
    obtain ⟨hex, hhex, hdevice, -, hid⟩ := decodesDevice.mp hid
    obtain ⟨hex', hhex', hdevice', -, hid'⟩ := decodesDevice.mp hid'
    obtain rfl := hhex.eq_of_dashed hhex' (hdevice.symm.trans hdevice')
    rw [hid, hid']

/-- **Identifiers and UUIDs correspond** on every server: users up to letter case, devices of
version 4 exactly. -/
theorem matrix_ids_invert {serverName name : JsString}
    (hname : normalizeMatrixServerName urlHost serverName = .ok name) :
    UserIdsInvert urlHost serverName ∧ DeviceIdsInvert :=
  ⟨userIdsInvert hname, deviceIdsInvert⟩

/-- The server of the source's tests. -/
theorem matrix_ids_invert_invalid :
    UserIdsInvert (fun _ => true) (js "SinoChat.Invalid") ∧ DeviceIdsInvert :=
  @matrix_ids_invert _ _ (js "sinochat.invalid") (by decide +kernel)

/-- Two spellings of one user are accepted, and the device id of a UUID of version 1 is
refused by the decoder that is to invert its encoder. -/
theorem spellings_of_one_user :
    sinochatUserIdFromMatrixUserId (fun _ => true)
        (js "@u11111111111141118111111111111111:sinochat.invalid") (js "sinochat.invalid") =
      .ok (js "11111111-1111-4111-8111-111111111111") ∧
    sinochatUserIdFromMatrixUserId (fun _ => true)
        (js "@U11111111111141118111111111111111:SinoChat.Invalid") (js "sinochat.invalid") =
      .ok (js "11111111-1111-4111-8111-111111111111") ∧
    matrixDeviceIdFromUuid (js "01234567-89ab-1cde-8fab-0123456789ab") =
      .ok (js "D0123456789AB1CDE8FAB0123456789AB") ∧
    sinochatDeviceIdFromMatrixDeviceId (js "D0123456789AB1CDE8FAB0123456789AB") =
      .error "MATRIX_DEVICE_ID_INVALID" := by
  decide +kernel

end Contracts

end SinoChat
