import SinoChat.Client.ImageMetadata
import SinoChat.Model.HexDecoder

/-!
# The bit accumulator of the decoder

The loop on words of 32 bits does what exact arithmetic does (`Decoder.Fits.push`): fewer than
eight bits wait between two characters, so with the next six no bit is shifted
out. What the loop then accepts are the texts of bytes.
-/

namespace SinoChat

open Js

namespace HexDecoder

open ImageAttachment (bufferFromBase64_bytesToBase64 bytesToBase64 bytesToHex sextetChar
  sextet?_eq_some)
open MessageContent (HexState sextet?)

/-! ## The alphabet -/

/-- One unit is a prefix if it comes first. -/
theorem isPrefixOf_singleton (u v : UInt16) (rest : JsString) :
    ([u] : JsString).isPrefixOf (v :: rest) = (u == v) := by
  simp [List.isPrefixOf]

/-- In a text without repetitions a character stands at one place. -/
theorem indexOf?_singleton {text : JsString} (hnodup : text.Nodup) {u : UInt16} {n : ℕ} :
    indexOf? [u] text = some n ↔ text[n]? = some u := by
  induction text generalizing n with
  | nil => simp [indexOf?]
  | cons v rest ih =>
    obtain ⟨hv, hrest⟩ := List.nodup_cons.mp hnodup
    rw [indexOf?, isPrefixOf_singleton]
    by_cases huv : u = v
    · subst huv
      rw [if_pos (beq_self_eq_true u)]
      cases n with
      | zero => simp
      | succ n =>
        have hnot : rest[n]? ≠ some u := fun h => hv (List.mem_of_getElem? h)
        simp [hnot]
    · rw [if_neg (by simpa using huv)]
      cases n with
      | zero => simp [Ne.symm huv]
      | succ n => simp [ih hrest]

/-- A part is not found if its first unit is nowhere. -/
theorem indexOf?_of_notMem {u : UInt16} {part text : JsString} (h : u ∉ text) :
    indexOf? (u :: part) text = none := by
  induction text with
  | nil => rfl
  | cons v rest ih =>
    obtain ⟨huv, hrest⟩ := not_or.mp (List.mem_cons.not.mp h)
    have hprefix : (u :: part).isPrefixOf (v :: rest) = false := by
      simp [List.isPrefixOf, huv]
    rw [indexOf?, hprefix, if_neg Bool.false_ne_true, ih hrest, Option.map_none]

/-- A part is found within the text. -/
theorem indexOf?_lt {part text : JsString} {n : ℕ} (hpart : part ≠ [])
    (h : indexOf? part text = some n) : n < text.length := by
  induction text generalizing n with
  | nil => simp [indexOf?, hpart] at h
  | cons v rest ih =>
    rw [indexOf?] at h
    split_ifs at h with hprefix
    · cases h
      simp
    · obtain ⟨m, hm, rfl⟩ := Option.map_eq_some_iff.mp h
      have := ih hm
      simpa using this

/-- The alphabet lists the digits in order. -/
theorem alphabet_eq (urlSafe : Bool) :
    alphabet urlSafe = (List.range 64).map (sextetChar urlSafe) := by
  cases urlSafe <;> decide

/-- No digit comes twice. -/
theorem alphabet_nodup (urlSafe : Bool) : (alphabet urlSafe).Nodup := by
  cases urlSafe <;> decide

/-- There are sixty-four digits. -/
theorem length_alphabet (urlSafe : Bool) : (alphabet urlSafe).length = 64 := by
  rw [alphabet_eq, List.length_map, List.length_range]

/-- A unit of the text has the place in the alphabet that its group of six bits has. -/
theorem indexOf?_unit (urlSafe : Bool) (u : UInt16) :
    indexOf? [u] (alphabet urlSafe) = sextet? urlSafe u := by
  ext n
  rw [indexOf?_singleton (alphabet_nodup urlSafe), sextet?_eq_some, alphabet_eq, List.getElem?_map]
  constructor
  · intro h
    obtain ⟨m, hm, rfl⟩ := Option.map_eq_some_iff.mp h
    obtain ⟨hlt, rfl⟩ := List.getElem?_eq_some_iff.mp hm
    rw [List.length_range] at hlt
    exact ⟨hlt, by rw [List.getElem_range]⟩
  · rintro ⟨hlt, rfl⟩
    rw [List.getElem?_range hlt, Option.map_some]

/-! ## Characters -/

/-- No character of the alphabet is a surrogate. -/
theorem sextet?_surrogate {urlSafe : Bool} {u : UInt16} (h : isHighSurrogate u = true) :
    sextet? urlSafe u = none := by
  refine Option.eq_none_iff_forall_ne_some.mpr fun n hn => ?_
  obtain ⟨hlt, rfl⟩ := sextet?_eq_some.mp hn
  have all : ∀ n : Fin 64, isHighSurrogate (sextetChar urlSafe n) = false := by
    cases urlSafe <;> decide
  exact Bool.false_ne_true ((all ⟨n, hlt⟩).symm.trans h)

/-- A surrogate is no digit. -/
theorem notMem_alphabet {urlSafe : Bool} {u : UInt16} (h : isHighSurrogate u = true) :
    u ∉ alphabet urlSafe := by
  intro hmem
  rw [alphabet_eq] at hmem
  obtain ⟨n, hn, rfl⟩ := List.mem_map.mp hmem
  have hsome : sextet? urlSafe (sextetChar urlSafe n) = some n :=
    sextet?_eq_some.mpr ⟨List.mem_range.mp hn, rfl⟩
  rw [sextet?_surrogate h] at hsome
  cases hsome

/-- **Characters or units.** It makes no difference which of them are looked up. -/
theorem mapM_characters (urlSafe : Bool) (value : JsString) :
    (characters value).mapM (indexOf? · (alphabet urlSafe)) = value.mapM (sextet? urlSafe) := by
  induction value using characters.induct with
  | case1 => rfl
  | case2 u =>
    rw [characters, List.mapM_cons, List.mapM_cons, indexOf?_unit]
    rfl
  | case3 u v rest hpair ih =>
    obtain ⟨hhigh, -⟩ := Bool.and_eq_true_iff.mp hpair
    rw [characters, if_pos hpair, List.mapM_cons, List.mapM_cons,
      indexOf?_of_notMem (notMem_alphabet hhigh), sextet?_surrogate hhigh]
    rfl
  | case4 u v rest hpair ih =>
    rw [characters, if_neg hpair, List.mapM_cons, List.mapM_cons, indexOf?_unit, ih]

/-- A character is not empty. -/
theorem ne_nil_of_mem_characters {value character : JsString}
    (h : character ∈ characters value) : character ≠ [] := by
  induction value using characters.induct with
  | case1 => cases h
  | case2 u =>
    obtain rfl := List.mem_singleton.mp h
    simp
  | case3 u v rest hpair ih =>
    rw [characters, if_pos hpair] at h
    rcases List.mem_cons.mp h with rfl | h
    · simp
    · exact ih h
  | case4 u v rest hpair ih =>
    rw [characters, if_neg hpair] at h
    rcases List.mem_cons.mp h with rfl | h
    · simp
    · exact ih h

/-! ## Words of 32 bits -/

/-- What holds between two characters: the waiting bits are a number of so many bits. -/
structure Decoder.Fits (s : Decoder) : Prop where
  even : s.bits % 2 = 0
  bits_le : s.bits ≤ 6
  accumulator_lt : s.accumulator.toNat < 2 ^ s.bits

/-- The same variables with exact numbers. -/
def Decoder.exact (s : Decoder) : HexState := ⟨s.accumulator.toNat, s.bits, s.output⟩

/-- One group of six bits. -/
def Decoder.push (s : Decoder) (sextet : ℕ) : Decoder :=
  drain (shiftIn s.accumulator sextet) (s.bits + 6) s.output

/-- A mask covers its bits. -/
theorem toNat_mask {bits : ℕ} (h : bits < 8) : (mask bits).toNat = 2 ^ bits - 1 := by
  have all : ∀ bits : Fin 8, (mask bits).toNat = 2 ^ bits.val - 1 := by decide
  exact all ⟨bits, h⟩

/-- **No bit is shifted out.** -/
theorem toNat_shiftIn {accumulator : BitVec 32} {sextet : ℕ} (ha : accumulator.toNat < 2 ^ 6)
    (hsextet : sextet < 64) :
    (shiftIn accumulator sextet).toNat = accumulator.toNat * 2 ^ 6 + sextet := by
  have hword : sextet % 2 ^ 32 = sextet := Nat.mod_eq_of_lt (by omega)
  have hshift : accumulator.toNat <<< 6 % 2 ^ 32 = accumulator.toNat <<< 6 := by
    rw [Nat.shiftLeft_eq]
    exact Nat.mod_eq_of_lt (by omega)
  rw [shiftIn, BitVec.toNat_or, BitVec.toNat_shiftLeft, BitVec.toNat_ofNat, hword, hshift,
    ← Nat.shiftLeft_add_eq_or_of_lt (by omega), Nat.shiftLeft_eq]

/-- A byte has two hexadecimal digits. -/
theorem padStart_toString16 {n : ℕ} (h : n < 256) :
    padStart 2 (toString16 n) = [hexDigit (n / 16), hexDigit (n % 16)] := by
  rw [toString16]
  split_ifs with hdigit
  · have hzero : n / 16 = 0 := by omega
    rw [hzero, Nat.mod_eq_of_lt hdigit]
    rfl
  · rw [toString16, if_pos (by omega)]
    rfl

/-- One round of the inner loop writes a byte and keeps the bits below it. -/
theorem drain_byte (accumulator : BitVec 32) {bits : ℕ} (h : bits < 8) (output : JsString) :
    (drain accumulator (bits + 8) output).exact =
      ⟨accumulator.toNat % 2 ^ bits, bits, output ++
        [hexDigit (accumulator.toNat / 2 ^ bits % 256 / 16),
          hexDigit (accumulator.toNat / 2 ^ bits % 256 % 16)]⟩ := by
  have hbyte : ((accumulator >>> bits) &&& 0xff).toNat = accumulator.toNat / 2 ^ bits % 256 := by
    rw [BitVec.toNat_and, BitVec.toNat_ushiftRight, Nat.shiftRight_eq_div_pow]
    exact Nat.and_two_pow_sub_one_eq_mod _ 8
  have hrest : (accumulator &&& mask bits).toNat = accumulator.toNat % 2 ^ bits := by
    rw [BitVec.toNat_and, toNat_mask h, Nat.and_two_pow_sub_one_eq_mod]
  have hdone : ∀ (word : BitVec 32) (text : JsString), drain word bits text = ⟨word, bits, text⟩ := by
    intro word text
    rw [drain]
    rintro n rfl
    omega
  rw [drain, hdone, Decoder.exact]
  simp only
  rw [hbyte, hrest, padStart_toString16 (Nat.mod_lt _ (by omega))]

/-- **The word does what the exact number does**, and the waiting bits fit again. -/
theorem Decoder.Fits.push {s : Decoder} (h : s.Fits) {sextet : ℕ} (hsextet : sextet < 64) :
    (s.push sextet).exact = s.exact.push sextet ∧ (s.push sextet).Fits := by
  obtain ⟨accumulator, bits, output⟩ := s
  obtain ⟨heven, hle, hlt⟩ := h
  simp only at heven hle hlt
  have hsix : accumulator.toNat < 2 ^ 6 := lt_of_lt_of_le hlt (Nat.pow_le_pow_right (by omega) hle)
  have hword := toNat_shiftIn hsix hsextet
  rcases Nat.lt_or_ge bits 2 with hshort | hlong
  · -- Six bits wait: no byte is complete.
    obtain rfl : bits = 0 := by omega
    have hpush : (Decoder.mk accumulator 0 output).push sextet =
        ⟨shiftIn accumulator sextet, 6, output⟩ := rfl
    have hzero : accumulator.toNat = 0 := by omega
    refine ⟨?_, ?_⟩
    · rw [hpush, Decoder.exact, Decoder.exact, HexState.push, if_neg (by simp), hword]
      rfl
    · rw [hpush]
      have hfits : (shiftIn accumulator sextet).toNat < 2 ^ 6 := by omega
      exact ⟨by simp, le_refl 6, hfits⟩
  · obtain ⟨left, rfl⟩ := Nat.exists_eq_add_of_le' hlong
    have hpush := drain_byte (shiftIn accumulator sextet) (show left < 8 by omega) output
    have hexact : (Decoder.mk accumulator (left + 2) output).exact.push sextet =
        ⟨(accumulator.toNat * 64 + sextet) % 2 ^ left, left, output ++
          [hexDigit ((accumulator.toNat * 64 + sextet) / 2 ^ left % 256 / 16),
            hexDigit ((accumulator.toNat * 64 + sextet) / 2 ^ left % 256 % 16)]⟩ := by
      rw [Decoder.exact, HexState.push, if_pos (by simp)]
      rfl
    have heq : ((Decoder.mk accumulator (left + 2) output).push sextet).exact =
        (Decoder.mk accumulator (left + 2) output).exact.push sextet := by
      rw [hexact, ← show accumulator.toNat * 2 ^ 6 + sextet = accumulator.toNat * 64 + sextet from
        rfl, ← hword]
      exact hpush
    refine ⟨heq, ?_⟩
    have hbits : ((Decoder.mk accumulator (left + 2) output).push sextet).bits = left :=
      congrArg HexState.bits (heq.trans hexact)
    have hrest : ((Decoder.mk accumulator (left + 2) output).push sextet).accumulator.toNat =
        (accumulator.toNat * 64 + sextet) % 2 ^ left :=
      congrArg HexState.accumulator (heq.trans hexact)
    refine ⟨by omega, by omega, ?_⟩
    rw [hbits, hrest]
    exact Nat.mod_lt _ (Nat.two_pow_pos left)

/-! ## The loop -/

/-- One step reads a digit and pushes it. -/
theorem step_eq (urlSafe : Bool) (s : Decoder) (character : JsString) :
    step urlSafe s character = (orThrow (indexOf? character (alphabet urlSafe))
      "SINOCHAT_ATTACHMENT_INFO_INVALID").map (s.push ·) := by
  rw [step]
  cases indexOf? character (alphabet urlSafe) <;> rfl

/-- **The run.** The words stay the exact numbers over any number of groups. -/
theorem foldl_push_exact {sextets : List ℕ} (hlt : ∀ n ∈ sextets, n < 64) {s : Decoder}
    (h : s.Fits) : (sextets.foldl Decoder.push s).exact = sextets.foldl HexState.push s.exact ∧
      (sextets.foldl Decoder.push s).Fits := by
  induction sextets generalizing s with
  | nil => exact ⟨rfl, h⟩
  | cons n rest ih =>
    obtain ⟨hn, hrest⟩ := List.forall_mem_cons.mp hlt
    obtain ⟨hexact, hfits⟩ := h.push hn
    rw [List.foldl_cons, List.foldl_cons, ← hexact]
    exact ih hrest hfits

/-- The decoder starts within its bits. -/
theorem fits_start : (Decoder.mk 0 0 []).Fits := ⟨by decide, by decide, by decide⟩

/-- The loop looks up each character, and throws at the first that is not in the alphabet. -/
theorem foldlM_step (urlSafe : Bool) (text : List JsString) (s : Decoder) :
    text.foldlM (step urlSafe) s =
      (orThrow (text.mapM (indexOf? · (alphabet urlSafe))) "SINOCHAT_ATTACHMENT_INFO_INVALID").map
        (List.foldl Decoder.push s) := by
  induction text generalizing s with
  | nil => rfl
  | cons character rest ih =>
    rw [List.foldlM_cons, step_eq, List.mapM_cons]
    cases hindex : indexOf? character (alphabet urlSafe) with
    | none => rfl
    | some n =>
      show rest.foldlM (step urlSafe) (s.push n) = _
      rw [ih]
      cases rest.mapM (indexOf? · (alphabet urlSafe)) <;> rfl

/-- **The decoder reads a text of digits** as the pushes of their values. -/
theorem read_eq_ok {urlSafe : Bool} {text : List JsString} {s : Decoder} :
    read urlSafe text = .ok s ↔ ∃ sextets, text.mapM (indexOf? · (alphabet urlSafe)) = some sextets ∧
      s = sextets.foldl Decoder.push ⟨0, 0, []⟩ := by
  rw [read, foldlM_step]
  cases text.mapM (indexOf? · (alphabet urlSafe)) with
  | none => simp [orThrow, Except.map]
  | some sextets => simp [orThrow, Except.map, eq_comm]

/-- Every group that was looked up has six bits. -/
theorem lt_of_mapM {urlSafe : Bool} {text : List JsString} (hne : ∀ c ∈ text, c ≠ [])
    {sextets : List ℕ} (h : text.mapM (indexOf? · (alphabet urlSafe)) = some sextets) :
    ∀ n ∈ sextets, n < 64 := by
  induction text generalizing sextets with
  | nil =>
    cases h
    simp
  | cons character rest ih =>
    obtain ⟨hcharacter, hrest⟩ := List.forall_mem_cons.mp hne
    rw [List.mapM_cons] at h
    obtain ⟨n, hn, h⟩ := Option.bind_eq_some_iff.mp h
    obtain ⟨ns, hns, h⟩ := Option.bind_eq_some_iff.mp h
    cases h
    have hlt := indexOf?_lt hcharacter hn
    rw [length_alphabet] at hlt
    exact List.forall_mem_cons.mpr ⟨hlt, ih hrest hns⟩

/-- **The invariant of the loop.** After any characters of a text the waiting bits fit. -/
theorem fits_of_read {urlSafe : Bool} {value : JsString} {front back : List JsString}
    (hsplit : characters value = front ++ back) {s : Decoder} (h : read urlSafe front = .ok s) :
    s.Fits := by
  obtain ⟨sextets, hsextets, rfl⟩ := read_eq_ok.mp h
  have hne : ∀ c ∈ front, c ≠ [] := fun c hc =>
    ne_nil_of_mem_characters (hsplit ▸ List.mem_append_left back hc)
  exact (foldl_push_exact (lt_of_mapM hne hsextets) fits_start).2

/-- **The loop refines the decoder with exact numbers.** -/
theorem decodeUnpaddedBase64ToHex_eq (value : JsString) (urlSafe : Bool) :
    decodeUnpaddedBase64ToHex value urlSafe =
      MessageContent.decodeUnpaddedBase64ToHex value urlSafe := by
  have hread := foldlM_step urlSafe (characters value) ⟨0, 0, []⟩
  have hmap := mapM_characters urlSafe value
  rw [decodeUnpaddedBase64ToHex, MessageContent.decodeUnpaddedBase64ToHex, read, hread, hmap]
  cases hsextets : value.mapM (sextet? urlSafe) with
  | none => rfl
  | some sextets =>
    rw [hsextets] at hmap
    have hlt := lt_of_mapM (fun c hc => ne_nil_of_mem_characters hc) hmap
    obtain ⟨hexact, -⟩ := foldl_push_exact hlt fits_start
    have hzero : ∀ word : BitVec 32, word ≠ 0 ↔ word.toNat ≠ 0 := by
      intro word
      rw [Ne, ← BitVec.toNat_inj]
      rfl
    have hstart : (Decoder.mk 0 0 []).exact = ⟨0, 0, []⟩ := rfl
    rw [hstart] at hexact
    simp only [orThrow, Except.map, hzero]
    show (require _ _ >>= fun _ => pure _) = (require _ _ >>= fun _ => pure _)
    rw [← hexact]
    rfl

/-! ## The decoder -/

/-- There is one error. -/
theorem error_code {value : JsString} {urlSafe : Bool} {code : ErrorCode}
    (h : decodeUnpaddedBase64ToHex value urlSafe = .error code) :
    code = "SINOCHAT_ATTACHMENT_INFO_INVALID" := by
  rw [decodeUnpaddedBase64ToHex, read, foldlM_step] at h
  cases hsextets : (characters value).mapM (indexOf? · (alphabet urlSafe)) with
  | none =>
    rw [hsextets] at h
    exact (Except.error.inj h).symm
  | some sextets =>
    rw [hsextets] at h
    simp only [orThrow, Except.map] at h
    change (require _ _ >>= fun _ => pure _) = _ at h
    by_cases hleft : (!(0 < (sextets.foldl Decoder.push ⟨0, 0, []⟩).bits &&
        (sextets.foldl Decoder.push ⟨0, 0, []⟩).accumulator ≠ 0)) = true
    · rw [hleft] at h
      cases h
    · rw [Bool.eq_false_of_not_eq_true hleft] at h
      exact (Except.error.inj h).symm

/-- Different bytes have different digits. -/
theorem bytesToHex_injective : Function.Injective bytesToHex := fun a b h => by
  rw [← ImageAttachment.bytesOfHex_bytesToHex a, h, ImageAttachment.bytesOfHex_bytesToHex]

/-- **The decoder reads exactly the texts of bytes.** For every text whose length is not one more
than a multiple of four it gives the hexadecimal digits of the bytes the text stands for, if it
is the unpadded text of some, and an error if not; no two accepted texts give the same digits.
Whatever the length, the accumulator stays far below 32 bits: with any next character the word
is the exact number. -/
theorem decodeUnpaddedBase64ToHex_exact (value : JsString) (urlSafe : Bool) :
    (value.length % 4 ≠ 1 →
      (∀ hex, decodeUnpaddedBase64ToHex value urlSafe = .ok hex ↔
        value = bytesToBase64 (bufferFromBase64 value) urlSafe ∧
          hex = bytesToHex (bufferFromBase64 value)) ∧
      ((¬ ∃ bytes, value = bytesToBase64 bytes urlSafe) →
        decodeUnpaddedBase64ToHex value urlSafe = .error "SINOCHAT_ATTACHMENT_INFO_INVALID") ∧
      ∀ other hex, other.length % 4 ≠ 1 → decodeUnpaddedBase64ToHex value urlSafe = .ok hex →
        decodeUnpaddedBase64ToHex other urlSafe = .ok hex → other = value) ∧
    ∀ front character back s sextet, characters value = front ++ character :: back →
      read urlSafe front = .ok s → indexOf? character (alphabet urlSafe) = some sextet →
        (shiftIn s.accumulator sextet).toNat = s.accumulator.toNat * 2 ^ 6 + sextet ∧
          s.accumulator.toNat * 2 ^ 6 + sextet < 2 ^ 12 := by
  have hok : ∀ text : JsString, text.length % 4 ≠ 1 → ∀ hex,
      decodeUnpaddedBase64ToHex text urlSafe = .ok hex ↔
        ∃ bytes, text = bytesToBase64 bytes urlSafe ∧ hex = bytesToHex bytes := by
    intro text hmod hex
    rw [decodeUnpaddedBase64ToHex_eq]
    exact ImageAttachment.decodeUnpaddedBase64ToHex_eq_ok hmod
  refine ⟨fun hmod => ⟨?_, ?_, ?_⟩, ?_⟩
  · intro hex
    rw [hok value hmod]
    constructor
    · rintro ⟨bytes, rfl, rfl⟩
      rw [bufferFromBase64_bytesToBase64]
      exact ⟨rfl, rfl⟩
    · rintro ⟨hvalue, hhex⟩
      exact ⟨_, hvalue, hhex⟩
  · intro hnone
    cases hread : decodeUnpaddedBase64ToHex value urlSafe with
    | ok hex =>
      obtain ⟨bytes, hvalue, -⟩ := (hok value hmod hex).mp hread
      exact absurd ⟨bytes, hvalue⟩ hnone
    | error code =>
      have hcode := error_code hread
      rw [hcode]
  · intro other hex hother hvalue hsame
    obtain ⟨bytes, rfl, rfl⟩ := (hok value hmod hex).mp hvalue
    obtain ⟨bytes', rfl, hhex⟩ := (hok other hother _).mp hsame
    rw [bytesToHex_injective hhex]
  · intro front character back s sextet hsplit hread hindex
    obtain ⟨-, hle, hlt⟩ := fits_of_read hsplit hread
    have hmem : character ∈ characters value :=
      hsplit ▸ List.mem_append_right front List.mem_cons_self
    have hne := ne_nil_of_mem_characters hmem
    have hsextet := indexOf?_lt hne hindex
    rw [length_alphabet] at hsextet
    have hsix : s.accumulator.toNat < 2 ^ 6 :=
      lt_of_lt_of_le hlt (Nat.pow_le_pow_right (by omega) hle)
    exact ⟨toNat_shiftIn hsix hsextet, by omega⟩

/-- Six characters of the alphabet for web addresses are four bytes; with a bit left over they are
rejected, and the word of the second character is exact. -/
theorem decodeUnpaddedBase64ToHex_exact_four :
    decodeUnpaddedBase64ToHex (js "-_8BAg") true = .ok (js "fbff0102") ∧
      decodeUnpaddedBase64ToHex (js "-_8BAh") true = .error "SINOCHAT_ATTACHMENT_INFO_INVALID" ∧
      (∀ other, other.length % 4 ≠ 1 →
        decodeUnpaddedBase64ToHex other true = .ok (js "fbff0102") → other = js "-_8BAg") ∧
      (shiftIn 62#32 63).toNat = 62 * 2 ^ 6 + 63 := by
  have hok := ((decodeUnpaddedBase64ToHex_exact (js "-_8BAg") true).1 (by decide)).1
    (js "fbff0102") |>.mpr ⟨by decide +kernel, by decide +kernel⟩
  have hnone : ¬ ∃ bytes, js "-_8BAh" = bytesToBase64 bytes true := by
    rintro ⟨bytes, hbytes⟩
    have hread := bufferFromBase64_bytesToBase64 bytes true
    rw [← hbytes] at hread
    rw [← hread] at hbytes
    revert hbytes
    decide +kernel
  exact ⟨hok, ((decodeUnpaddedBase64ToHex_exact (js "-_8BAh") true).1 (by decide)).2.1 hnone,
    fun other hother hsame => ((decodeUnpaddedBase64ToHex_exact (js "-_8BAg") true).1
      (by decide)).2.2 other (js "fbff0102") hother hok hsame,
    ((decodeUnpaddedBase64ToHex_exact (js "-_") true).2 [js "-"] (js "_") [] ⟨62#32, 6, []⟩ 63
      (by decide) rfl (by decide)).1⟩

end HexDecoder

end SinoChat
