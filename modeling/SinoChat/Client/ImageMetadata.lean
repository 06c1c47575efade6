import SinoChat.Client.MessageBinding
import SinoChat.Common.Base64Url
import SinoChat.Model.ImageAttachment

/-!
# The metadata of an image in both layers

The content of a message carries the key information of an image, and the
attachment layer checks it again before it decrypts. Both read the same texts of
bytes (`decodeBase64_eq_ok`, `decodeUnpaddedBase64ToHex_eq_ok`), but the content is
read without two of the checks.
-/

namespace SinoChat

open Js

namespace ImageAttachment

open MessageContent (SinoChatImageMetadata MatrixV2MediaEncryptionInfo HexState sextet?
  decodeUnpaddedBase64ToHex)

/-! ## Texts of bytes -/

/-- The text is made of the sextets of the bytes. -/
theorem bytesToBase64_eq (bytes : List UInt8) (urlSafe : Bool) :
    bytesToBase64 bytes urlSafe = (sextetsOf bytes).map
      fun n => if urlSafe then toUrlSafe (base64Char n) else base64Char n := by
  rw [bytesToBase64, unpadded_toBase64]
  cases urlSafe
  · rfl
  · simp

/-- Six bits make a character. -/
theorem length_bytesToBase64 (bytes : List UInt8) (urlSafe : Bool) :
    (bytesToBase64 bytes urlSafe).length = (bytes.length * 8 + 5) / 6 := by
  rw [bytesToBase64_eq, List.length_map, length_sextetsOf]

/-- A digit is the same in both alphabets up to two signs. -/
theorem toStandard_toUrlSafe {n : ℕ} (h : n < 64) :
    toStandard (toUrlSafe (base64Char n)) = base64Char n := by
  have all : ∀ n : Fin 64, toStandard (toUrlSafe (base64Char n)) = base64Char n := by decide
  exact all ⟨n, h⟩

/-- A translated digit is one of the other alphabet. -/
theorem isBase64Url_toUrlSafe {n : ℕ} (h : n < 64) :
    isBase64Url (toUrlSafe (base64Char n)) = true := by
  have all : ∀ n : Fin 64, isBase64Url (toUrlSafe (base64Char n)) = true := by decide
  exact all ⟨n, h⟩

/-- **The texts of so many bytes are decoded to them.** -/
theorem decodeBase64_eq_ok {value : JsString} {n : ℕ} {urlSafe : Bool} {bytes : List UInt8}
    (hn : n ≠ 0) : decodeBase64 value n urlSafe = .ok bytes ↔
      bytes.length = n ∧ value = bytesToBase64 bytes urlSafe := by
  constructor
  · intro h
    obtain ⟨_, -, h⟩ := bind_eq_ok.mp h
    obtain ⟨decoded, -, h⟩ := bind_eq_ok.mp h
    obtain ⟨_, hlength, h⟩ := bind_eq_ok.mp h
    obtain ⟨_, hcanonical, h⟩ := bind_eq_ok.mp h
    cases h
    rw [require_eq_ok, decide_eq_true_eq] at hlength hcanonical
    exact ⟨hlength, hcanonical.symm⟩
  · rintro ⟨rfl, rfl⟩
    have hlength : (bytesToBase64 bytes urlSafe).length = (sextetsOf bytes).length := by
      rw [bytesToBase64_eq, List.length_map]
    obtain ⟨hmod, -⟩ := length_sextetsOf_mod bytes
    have hstandard : (if urlSafe then (bytesToBase64 bytes urlSafe).map toStandard
        else bytesToBase64 bytes urlSafe) = (sextetsOf bytes).map base64Char := by
      cases urlSafe
      · simp [bytesToBase64_eq]
      · simp only [bytesToBase64_eq, if_true, List.map_map]
        exact List.map_congr_left fun n hmem => toStandard_toUrlSafe (sextetsOf_lt n hmem)
    have hatob := atob_padded (fun u hu => @isBase64_of_mem_sextets bytes u hu)
      (by rwa [List.length_map])
    rw [bufferFromBase64_eq fun u hu => isBase64_of_mem_sextets hu,
      filterMap_base64Char sextetsOf_lt, bytesOfSextets_sextetsOf] at hatob
    refine bind_eq_ok.mpr ⟨(), require_eq_ok.mpr ?_, ?_⟩
    · have hne : bytesToBase64 bytes urlSafe ≠ [] := by
        intro hnil
        have hzero := length_bytesToBase64 bytes urlSafe
        rw [hnil, List.length_nil] at hzero
        omega
      have hall : (bytesToBase64 bytes urlSafe).all
          (if urlSafe then isBase64Url else isBase64) = true := by
        rw [List.all_eq_true, bytesToBase64_eq]
        intro u hu
        obtain ⟨m, hm, rfl⟩ := List.mem_map.mp hu
        cases urlSafe
        · exact isBase64_base64Char (sextetsOf_lt m hm)
        · exact isBase64Url_toUrlSafe (sextetsOf_lt m hm)
      rw [hall, hlength]
      simp [hne, hmod]
    · simp only [hstandard]
      exact bind_eq_ok.mpr ⟨bytes, orThrow_eq_ok.mpr hatob, bind_eq_ok.mpr ⟨(),
        require_eq_ok.mpr (decide_eq_true rfl), bind_eq_ok.mpr ⟨(),
        require_eq_ok.mpr (decide_eq_true rfl), rfl⟩⟩⟩

theorem bytesToHex_cons {n : ℕ} (h : n < 256) (rest : List UInt8) :
    bytesToHex (n.toUInt8 :: rest) = hexDigit (n / 16) :: hexDigit (n % 16) :: bytesToHex rest := by
  have hbyte : n.toUInt8.toNat = n := UInt8.toNat_ofNat_of_lt' h
  rw [bytesToHex, List.flatMap_cons, hbyte]
  rfl

/-! ### The decoder of the content

It waits for eight bits, so with every group it writes a byte or none; which one is told by how
many bits wait before it. -/

/-- The first digit leaves six bits. -/
theorem push_none (a : ℕ) (output : JsString) :
    HexState.push ⟨0, 0, output⟩ a = ⟨a, 6, output⟩ := by
  rw [HexState.push, if_neg (by simp), Nat.zero_mul, Nat.zero_add]

/-- The second digit completes a byte and leaves four bits. -/
theorem push_six {a b : ℕ} (ha : a < 64) (hb : b < 64) (output : JsString) :
    HexState.push ⟨a, 6, output⟩ b =
      ⟨b % 16, 4, output ++ bytesToHex [(a * 4 + b / 16).toUInt8]⟩ := by
  have hbyte : (a * 64 + b) / 2 ^ 4 % 256 = a * 4 + b / 16 := by omega
  have hleft : (a * 64 + b) % 2 ^ 4 = b % 16 := by omega
  rw [HexState.push, if_pos (by simp), bytesToHex_cons (by omega)]
  show HexState.mk ((a * 64 + b) % 2 ^ 4) 4 (output ++
    [hexDigit ((a * 64 + b) / 2 ^ 4 % 256 / 16), hexDigit ((a * 64 + b) / 2 ^ 4 % 256 % 16)]) = _
  rw [hbyte, hleft]
  rfl

/-- The third digit completes a byte and leaves two bits. -/
theorem push_four {r c : ℕ} (hr : r < 16) (hc : c < 64) (output : JsString) :
    HexState.push ⟨r, 4, output⟩ c =
      ⟨c % 4, 2, output ++ bytesToHex [(r * 16 + c / 4).toUInt8]⟩ := by
  have hbyte : (r * 64 + c) / 2 ^ 2 % 256 = r * 16 + c / 4 := by omega
  have hleft : (r * 64 + c) % 2 ^ 2 = c % 4 := by omega
  rw [HexState.push, if_pos (by simp), bytesToHex_cons (by omega)]
  show HexState.mk ((r * 64 + c) % 2 ^ 2) 2 (output ++
    [hexDigit ((r * 64 + c) / 2 ^ 2 % 256 / 16), hexDigit ((r * 64 + c) / 2 ^ 2 % 256 % 16)]) = _
  rw [hbyte, hleft]
  rfl

/-- The fourth digit completes a byte and leaves none. -/
theorem push_two {r d : ℕ} (hr : r < 4) (hd : d < 64) (output : JsString) :
    HexState.push ⟨r, 2, output⟩ d = ⟨0, 0, output ++ bytesToHex [(r * 64 + d).toUInt8]⟩ := by
  have hbyte : (r * 64 + d) / 2 ^ 0 % 256 = r * 64 + d := by omega
  have hleft : (r * 64 + d) % 2 ^ 0 = 0 := by omega
  rw [HexState.push, if_pos (by simp), bytesToHex_cons (by omega)]
  show HexState.mk ((r * 64 + d) % 2 ^ 0) 0 (output ++
    [hexDigit ((r * 64 + d) / 2 ^ 0 % 256 / 16), hexDigit ((r * 64 + d) / 2 ^ 0 % 256 % 16)]) = _
  rw [hbyte, hleft]
  rfl

theorem bytesToHex_append (front back : List UInt8) :
    bytesToHex (front ++ back) = bytesToHex front ++ bytesToHex back := List.flatMap_append

/-- What the decoder has read, and whether bits are left over. -/
theorem foldl_push {l : List ℕ} (hlt : ∀ n ∈ l, n < 64) (hmod : l.length % 4 ≠ 1)
    (output : JsString) : ∃ accumulator bits, l.foldl HexState.push ⟨0, 0, output⟩ =
        ⟨accumulator, bits, output ++ bytesToHex (bytesOfSextets l)⟩ ∧
      ((0 < bits ∧ accumulator ≠ 0) ↔ ¬ NoBitsLeft l) := by
  induction l using bytesOfSextets.induct generalizing output with
  | case1 a b c d rest ih =>
    have ha := hlt a (by simp)
    have hb := hlt b (by simp)
    have hc := hlt c (by simp)
    have hd := hlt d (by simp)
    obtain ⟨accumulator, bits, hfold, hleft⟩ := ih (fun n hn => hlt n (by simp [hn]))
      (by simpa only [List.length_cons, Nat.add_assoc, Nat.add_mod_right] using hmod)
      (output ++ bytesToHex (bytesOfSextets [a, b, c, d]))
    refine ⟨accumulator, bits, ?_, hleft⟩
    have hsplit : bytesOfSextets (a :: b :: c :: d :: rest) =
        bytesOfSextets [a, b, c, d] ++ bytesOfSextets rest := rfl
    have hthree : bytesToHex (bytesOfSextets [a, b, c, d]) =
        bytesToHex [(a * 4 + b / 16).toUInt8] ++ (bytesToHex [(b % 16 * 16 + c / 4).toUInt8] ++
          bytesToHex [(c % 4 * 64 + d).toUInt8]) := rfl
    rw [List.foldl_cons, List.foldl_cons, List.foldl_cons, List.foldl_cons, push_none,
      push_six ha hb, push_four (by omega) hc, push_two (by omega) hd, hsplit, bytesToHex_append,
      ← List.append_assoc, ← hfold, hthree, List.append_assoc, List.append_assoc]
  | case2 a b c =>
    have ha := hlt a (by simp)
    have hb := hlt b (by simp)
    have hc := hlt c (by simp)
    refine ⟨c % 4, 2, ?_, ?_⟩
    · have htwo : bytesToHex (bytesOfSextets [a, b, c]) = bytesToHex [(a * 4 + b / 16).toUInt8] ++
          bytesToHex [(b % 16 * 16 + c / 4).toUInt8] := rfl
      rw [List.foldl_cons, List.foldl_cons, List.foldl_cons, List.foldl_nil, push_none,
        push_six ha hb, push_four (by omega) hc, htwo, List.append_assoc]
    · rw [NoBitsLeft]
      omega
  | case3 a b =>
    have ha := hlt a (by simp)
    have hb := hlt b (by simp)
    refine ⟨b % 16, 4, ?_, ?_⟩
    · rw [List.foldl_cons, List.foldl_cons, List.foldl_nil, push_none, push_six ha hb]
      rfl
    · rw [NoBitsLeft]
      omega
  | case4 l hfour hthree htwo =>
    rcases l with _ | ⟨a, _ | ⟨b, _ | ⟨c, _ | ⟨d, rest⟩⟩⟩⟩
    · exact ⟨0, 0, by simp [bytesOfSextets, bytesToHex], by simp [NoBitsLeft]⟩
    · exact absurd rfl hmod
    · exact absurd rfl (htwo a b)
    · exact absurd rfl (hthree a b c)
    · exact absurd rfl (hfour a b c d rest)

/-- The character of a group in either alphabet. -/
def sextetChar (urlSafe : Bool) (n : ℕ) : UInt16 :=
  if urlSafe then toUrlSafe (base64Char n) else base64Char n

/-- A digit has the value at whose place it stands. -/
theorem sextet?_eq_some {urlSafe : Bool} {u : UInt16} {n : ℕ} :
    sextet? urlSafe u = some n ↔ n < 64 ∧ u = sextetChar urlSafe n := by
  cases urlSafe with
  | false => exact base64Digit?_eq_some
  | true =>
    constructor
    · intro h
      simp only [sextet?, if_true] at h
      split_ifs at h with hminus hunderscore hstandard
      · obtain rfl := Option.some.inj h
        exact ⟨by omega, by rw [hminus]; rfl⟩
      · obtain rfl := Option.some.inj h
        exact ⟨by omega, by rw [hunderscore]; rfl⟩
      · obtain ⟨hlt, rfl⟩ := base64Digit?_eq_some.mp h
        obtain ⟨hplus, hslash⟩ := not_or.mp hstandard
        refine ⟨hlt, ?_⟩
        rw [sextetChar, if_pos rfl, toUrlSafe, if_neg hplus, if_neg hslash]
    · rintro ⟨hlt, rfl⟩
      have all : ∀ n : Fin 64, sextet? true (sextetChar true n) = some n.val := by decide
      exact all ⟨n, hlt⟩

/-- A text of digits has the values that make it. -/
theorem mapM_sextet?_eq_some {value : JsString} {urlSafe : Bool} {l : List ℕ} :
    value.mapM (sextet? urlSafe) = some l ↔
      (∀ n ∈ l, n < 64) ∧ value = l.map (sextetChar urlSafe) := by
  induction value generalizing l with
  | nil =>
    constructor
    · intro h
      cases h
      exact ⟨by simp, rfl⟩
    · rintro ⟨-, hnil⟩
      obtain rfl := List.map_eq_nil_iff.mp hnil.symm
      rfl
  | cons u value ih =>
    rw [List.mapM_cons]
    constructor
    · intro h
      obtain ⟨n, hn, h⟩ := Option.bind_eq_some_iff.mp h
      obtain ⟨rest, hrest, h⟩ := Option.bind_eq_some_iff.mp h
      cases h
      obtain ⟨hlt, rfl⟩ := sextet?_eq_some.mp hn
      obtain ⟨hall, rfl⟩ := ih.mp hrest
      exact ⟨List.forall_mem_cons.mpr ⟨hlt, hall⟩, rfl⟩
    · rintro ⟨hall, hvalue⟩
      cases l with
      | nil => cases hvalue
      | cons n rest =>
        obtain ⟨hlt, hall⟩ := List.forall_mem_cons.mp hall
        obtain ⟨rfl, hrest⟩ := List.cons.inj hvalue
        exact Option.bind_eq_some_iff.mpr ⟨n, sextet?_eq_some.mpr ⟨hlt, rfl⟩,
          Option.bind_eq_some_iff.mpr ⟨rest, ih.mpr ⟨hall, hrest⟩, rfl⟩⟩

/-- The sextets of bytes leave no bits over. -/
theorem noBitsLeft_sextetsOf (bytes : List UInt8) : NoBitsLeft (sextetsOf bytes) := by
  induction bytes using toBase64.induct with
  | case1 a b c rest ih => exact ih
  | case2 a b =>
    show b.toNat % 16 * 4 % 4 = 0
    omega
  | case3 a =>
    show a.toNat % 4 * 16 % 16 = 0
    omega
  | case4 => trivial

/-- **The decoder of the content reads the texts of bytes.** -/
theorem decodeUnpaddedBase64ToHex_eq_ok {value hex : JsString} {urlSafe : Bool}
    (hmod : value.length % 4 ≠ 1) :
    decodeUnpaddedBase64ToHex value urlSafe = .ok hex ↔
      ∃ bytes, value = bytesToBase64 bytes urlSafe ∧ hex = bytesToHex bytes := by
  have hchars : ∀ bytes : List UInt8, bytesToBase64 bytes urlSafe =
      (sextetsOf bytes).map (sextetChar urlSafe) := fun bytes => bytesToBase64_eq bytes urlSafe
  constructor
  · intro h
    obtain ⟨sextets, hsextets, h⟩ := bind_eq_ok.mp h
    obtain ⟨_, hclean, h⟩ := bind_eq_ok.mp h
    cases h
    obtain ⟨hlt, rfl⟩ := mapM_sextet?_eq_some.mp (orThrow_eq_ok.mp hsextets)
    rw [List.length_map] at hmod
    obtain ⟨accumulator, bits, hfold, hleft⟩ := foldl_push hlt hmod []
    rw [hfold] at hclean ⊢
    have hnone : NoBitsLeft sextets := by
      by_contra hbits
      obtain ⟨hpositive, hnonzero⟩ := hleft.mpr hbits
      have hbool := require_eq_ok.mp hclean
      simp [hpositive, hnonzero] at hbool
    refine ⟨bytesOfSextets sextets, ?_, rfl⟩
    rw [hchars, sextetsOf_bytesOfSextets hlt hnone]
  · rintro ⟨bytes, rfl, rfl⟩
    rw [hchars, List.length_map] at hmod
    obtain ⟨accumulator, bits, hfold, hleft⟩ := foldl_push (@sextetsOf_lt bytes) hmod []
    rw [bytesOfSextets_sextetsOf] at hfold
    refine bind_eq_ok.mpr ⟨sextetsOf bytes, orThrow_eq_ok.mpr
      (mapM_sextet?_eq_some.mpr ⟨sextetsOf_lt, hchars bytes⟩), ?_⟩
    simp only [hfold]
    refine bind_eq_ok.mpr ⟨(), require_eq_ok.mpr ?_, rfl⟩
    have hnot : ¬ (0 < bits ∧ accumulator ≠ 0) :=
      fun h => hleft.mp h (noBitsLeft_sextetsOf bytes)
    by_contra hbool
    simp only [Bool.not_eq_true, Bool.not_eq_false', Bool.and_eq_true, decide_eq_true_eq] at hbool
    exact hnot hbool

/-! ## The key information -/

/-- The bytes of the texts of a key information. -/
structure MediaParts (info : MatrixV2MediaEncryptionInfo) (key iv hash : List UInt8) : Prop where
  k : key.length = 32 ∧ info.k = bytesToBase64 key true
  iv : iv.length = 16 ∧ info.iv = bytesToBase64 iv false
  sha256 : hash.length = 32 ∧ info.sha256 = bytesToBase64 hash false

/-- A text of bytes is as long as its form says. -/
theorem exists_bytes_of_decode {value hex : JsString} {n : ℕ} {urlSafe : Bool}
    {pattern : CharClass} (hfixed : fixed (times n pattern) value = true) (hmod : n % 4 ≠ 1)
    (h : decodeUnpaddedBase64ToHex value urlSafe = .ok hex) :
    ∃ bytes : List UInt8, (bytes.length * 8 + 5) / 6 = n ∧ value = bytesToBase64 bytes urlSafe ∧
      hex = bytesToHex bytes := by
  have hlength := length_of_fixed hfixed
  rw [length_times] at hlength
  obtain ⟨bytes, hvalue, hhex⟩ := (decodeUnpaddedBase64ToHex_eq_ok (by rwa [hlength])).mp h
  refine ⟨bytes, ?_, hvalue, hhex⟩
  rw [← hlength, hvalue, length_bytesToBase64]

variable {round : JsString → JsNumber}

/-- **What the content is read with are three texts of bytes.** -/
theorem mediaParts_of_isMedia {info : MatrixV2MediaEncryptionInfo}
    (h : MessageContent.IsMedia round info) : ∃ key iv hash, MediaParts info key iv hash := by
  obtain ⟨parsed, -, h⟩ := bind_eq_ok.mp h
  obtain ⟨entries, -, h⟩ := bind_eq_ok.mp h
  obtain ⟨_, -, h⟩ := bind_eq_ok.mp h
  obtain ⟨keyEntries, -, h⟩ := bind_eq_ok.mp h
  obtain ⟨_, -, h⟩ := bind_eq_ok.mp h
  obtain ⟨hashes, -, h⟩ := bind_eq_ok.mp h
  obtain ⟨_, -, h⟩ := bind_eq_ok.mp h
  obtain ⟨media, hmedia, h⟩ := bind_eq_ok.mp h
  obtain ⟨_, hk, h⟩ := bind_eq_ok.mp h
  obtain ⟨_, hiv, h⟩ := bind_eq_ok.mp h
  obtain ⟨_, hsha256, h⟩ := bind_eq_ok.mp h
  cases h
  have hform := MessageContent.mediaForm_of_mediaFields (orThrow_eq_ok.mp hmedia)
  obtain ⟨key, hkeyLength, hkey, -⟩ := exists_bytes_of_decode hform.k (by decide) hk
  obtain ⟨iv, hivLength, hiv, -⟩ := exists_bytes_of_decode hform.iv (by decide) hiv
  obtain ⟨hash, hhashLength, hhash, -⟩ := exists_bytes_of_decode hform.sha256 (by decide) hsha256
  exact ⟨key, iv, hash, ⟨by omega, hkey⟩, ⟨by omega, hiv⟩, ⟨by omega, hhash⟩⟩

/-- No digit needs an escape. -/
theorem isPlain_bytesToBase64 {bytes : List UInt8} {urlSafe : Bool} :
    ∀ u ∈ bytesToBase64 bytes urlSafe, isPlain u = true := by
  intro u hu
  rw [bytesToBase64_eq] at hu
  obtain ⟨n, hn, rfl⟩ := List.mem_map.mp hu
  have all : ∀ n : Fin 64, ∀ urlSafe : Bool,
      isPlain (if urlSafe then toUrlSafe (base64Char n) else base64Char n) = true := by decide
  exact all ⟨n, sextetsOf_lt n hn⟩ urlSafe

/-- The length of the text of a key information. -/
theorem length_stringify_media {info : MatrixV2MediaEncryptionInfo} {key iv hash : List UInt8}
    (h : MediaParts info key iv hash) : (stringify info.toJson).length = 235 := by
  have hk : (quote info.k).length = 45 := by
    rw [h.k.2, (quote_of_plain isPlain_bytesToBase64).1, length_bytesToBase64, h.k.1]
  have hiv : (quote info.iv).length = 24 := by
    rw [h.iv.2, (quote_of_plain isPlain_bytesToBase64).1, length_bytesToBase64, h.iv.1]
  have hsha256 : (quote info.sha256).length = 45 := by
    rw [h.sha256.2, (quote_of_plain isPlain_bytesToBase64).1, length_bytesToBase64, h.sha256.1]
  have hops : (stringify info.keyOps.toJson).length = 21 := by
    cases info.keyOps <;> rfl
  simp only [MatrixV2MediaEncryptionInfo.toJson, stringify, stringifyEntries, joinComma,
    List.flatMap_cons, List.flatMap_nil, List.length_append, List.length_cons, List.length_nil, hk,
    hiv, hsha256, hops]
  rfl

/-- Every number of the encryption info is safe. -/
theorem media_safe (info : MatrixV2MediaEncryptionInfo) : info.toJson.Safe := by
  have hops : info.keyOps.toJson.Safe := by
    cases info.keyOps <;> exact ⟨trivial, trivial, trivial⟩
  exact ⟨trivial, ⟨trivial, hops, trivial, trivial, trivial, trivial⟩, trivial,
    ⟨trivial, trivial⟩, trivial⟩

/-- **What the attachment layer accepts of the content's key information.** It is the text of it,
and the counter has to begin at zero. -/
theorem parseMediaEncryptionInfo_stringify {info : MatrixV2MediaEncryptionInfo}
    {key iv hash : List UInt8} (h : MediaParts info key iv hash) {media : MediaInfo} :
    parseMediaEncryptionInfo round (.str (stringify info.toJson)) = .ok media ↔
      (iv.drop 8).all (· = 0) = true ∧ media = ⟨stringify info.toJson, hash⟩ := by
  -- What is parsed again is the record that was stringified.
  have hparse : parseJson round (stringify info.toJson) = some info.toJson := by
    rw [parseJson, readText_stringify (media_safe info), Option.map_some, MessageContent.own_media]
  have hlength := length_stringify_media h
  have hops : isKeyOperations (some info.keyOps.toJson) = true := by
    cases info.keyOps <;> rfl
  have hrecord : ∀ (entries : List (JsString × Json)) (keys : List JsString),
      (Json.keys entries).isPerm keys = true →
      exactRecord (some (.obj entries)) keys = .ok entries :=
    fun _ _ hperm => bind_eq_ok.mpr ⟨_, rfl, bind_eq_ok.mpr ⟨(), require_eq_ok.mpr hperm, rfl⟩⟩
  -- Its four records have the exact keys of the parser.
  have hroot := hrecord [(js "v", .str (js "v2")),
    (js "key", .obj [(js "kty", .str (js "oct")), (js "key_ops", info.keyOps.toJson),
      (js "alg", .str (js "A256CTR")), (js "k", .str info.k), (js "ext", .bool true)]),
    (js "iv", .str info.iv), (js "hashes", .obj [(js "sha256", .str info.sha256)])]
    [js "hashes", js "iv", js "key", js "v"] rfl
  have hkey := hrecord [(js "kty", .str (js "oct")), (js "key_ops", info.keyOps.toJson),
      (js "alg", .str (js "A256CTR")), (js "k", .str info.k), (js "ext", .bool true)]
    [js "alg", js "ext", js "k", js "key_ops", js "kty"] rfl
  have htexts : mediaTexts [(js "v", .str (js "v2")),
    (js "key", .obj [(js "kty", .str (js "oct")), (js "key_ops", info.keyOps.toJson),
      (js "alg", .str (js "A256CTR")), (js "k", .str info.k), (js "ext", .bool true)]),
    (js "iv", .str info.iv), (js "hashes", .obj [(js "sha256", .str info.sha256)])]
    [(js "kty", .str (js "oct")), (js "key_ops", info.keyOps.toJson),
      (js "alg", .str (js "A256CTR")), (js "k", .str info.k), (js "ext", .bool true)]
    [(js "sha256", .str info.sha256)] = some (info.k, info.iv, info.sha256) :=
    guard_bind_eq_some.mpr ⟨⟨rfl, rfl, rfl⟩, guard_bind_eq_some.mpr ⟨rfl,
      guard_bind_eq_some.mpr ⟨hops, rfl⟩⟩⟩
  have hivBytes := (decodeBase64_eq_ok (by decide)).mpr h.iv
  have hhashBytes := (decodeBase64_eq_ok (by decide)).mpr h.sha256
  have hcounter : ∀ bytes : List UInt8, (!(bytes.drop 8).any (· ≠ 0)) = true ↔
      (bytes.drop 8).all (· = 0) = true := fun bytes => by simp
  constructor
  -- Forwards: each step of the parser has the only value it can have.
  · intro hmedia
    obtain ⟨text, htext, hmedia⟩ := bind_eq_ok.mp hmedia
    obtain rfl := Option.some.inj (orThrow_eq_ok.mp htext)
    obtain ⟨_, -, hmedia⟩ := bind_eq_ok.mp hmedia
    obtain ⟨parsed, hparsed, hmedia⟩ := bind_eq_ok.mp hmedia
    obtain rfl := Option.some.inj (hparse.symm.trans (orThrow_eq_ok.mp hparsed))
    obtain ⟨root, hroot', hmedia⟩ := bind_eq_ok.mp hmedia
    obtain rfl := Except.ok.inj (hroot.symm.trans hroot')
    obtain ⟨keyEntries, hkey', hmedia⟩ := bind_eq_ok.mp hmedia
    obtain rfl := Except.ok.inj (hkey.symm.trans hkey')
    obtain ⟨hashes, hhashes, hmedia⟩ := bind_eq_ok.mp hmedia
    obtain rfl := Except.ok.inj hhashes
    obtain ⟨texts, htexts', hmedia⟩ := bind_eq_ok.mp hmedia
    obtain rfl := Option.some.inj (htexts.symm.trans (orThrow_eq_ok.mp htexts'))
    obtain ⟨_, -, hmedia⟩ := bind_eq_ok.mp hmedia
    obtain ⟨ivBytes, hiv, hmedia⟩ := bind_eq_ok.mp hmedia
    obtain ⟨_, hzero, hmedia⟩ := bind_eq_ok.mp hmedia
    obtain ⟨hashBytes, hhash, hmedia⟩ := bind_eq_ok.mp hmedia
    cases hmedia
    obtain rfl := Except.ok.inj (hivBytes.symm.trans hiv)
    obtain rfl := Except.ok.inj (hhashBytes.symm.trans hhash)
    exact ⟨(hcounter iv).mp (require_eq_ok.mp hzero), rfl⟩
  -- Backwards: the same steps, of which the counter alone can fail.
  · rintro ⟨hzero, rfl⟩
    refine bind_eq_ok.mpr ⟨_, rfl, bind_eq_ok.mpr ⟨(), require_eq_ok.mpr (by rw [hlength]; rfl),
      bind_eq_ok.mpr ⟨_, orThrow_eq_ok.mpr hparse, bind_eq_ok.mpr ⟨_, hroot, bind_eq_ok.mpr ⟨_, hkey,
      bind_eq_ok.mpr ⟨_, rfl, bind_eq_ok.mpr ⟨_, orThrow_eq_ok.mpr htexts, ?_⟩⟩⟩⟩⟩⟩⟩
    exact bind_eq_ok.mpr ⟨key, (decodeBase64_eq_ok (by decide)).mpr h.k,
      bind_eq_ok.mpr ⟨iv, hivBytes, bind_eq_ok.mpr ⟨(), require_eq_ok.mpr ((hcounter iv).mpr hzero),
      bind_eq_ok.mpr ⟨hash, hhashBytes, rfl⟩⟩⟩⟩

/-- A byte makes two digits. -/
theorem length_bytesToHex (bytes : List UInt8) : (bytesToHex bytes).length = 2 * bytes.length := by
  induction bytes with
  | nil => rfl
  | cons b bytes ih =>
    rw [← List.singleton_append, bytesToHex_append, List.length_append, ih, List.length_append]
    show 2 + 2 * bytes.length = 2 * (1 + bytes.length)
    omega

/-- The digits are hexadecimal ones. -/
theorem digit_of_mem_bytesToHex {bytes : List UInt8} {u : UInt16} (h : u ∈ bytesToHex bytes) :
    ∃ d < 16, u = hexDigit d := by
  obtain ⟨b, -, hu⟩ := List.mem_flatMap.mp h
  have hb := b.toNat_lt
  rcases List.mem_cons.mp hu with rfl | hu
  · exact ⟨_, by omega, rfl⟩
  · exact ⟨_, by omega, List.mem_singleton.mp hu⟩

/-- **The digits of bytes are read back as these.** -/
theorem bytesOfHex_bytesToHex (bytes : List UInt8) : bytesOfHex (bytesToHex bytes) = bytes := by
  induction bytes with
  | nil => rfl
  | cons b bytes ih =>
    have hb := b.toNat_lt
    show bytesOfHex (hexDigit (b.toNat / 16) :: hexDigit (b.toNat % 16) :: bytesToHex bytes) = _
    rw [bytesOfHex, ih, hexValue_hexDigit (by omega), hexValue_hexDigit (by omega),
      Nat.div_add_mod']
    congr 1
    exact UInt8.ofNat_toNat

/-- The text of a digest is a normalised hash. -/
theorem isHash_bytesToHex {hash : List UInt8} (h : hash.length = 32) :
    MessageContent.IsHash (bytesToHex hash) := by
  have hlower : ∀ d < 16, isLowerHex (hexDigit d) = true := by decide
  have hsame : ∀ d < 16, MessageContent.lowerUnit (hexDigit d) = hexDigit d := by decide
  refine ⟨fixed_times.mpr ⟨by rw [length_bytesToHex, h], fun u hu => ?_⟩, ?_⟩
  · obtain ⟨d, hd, rfl⟩ := digit_of_mem_bytesToHex hu
    exact hlower d hd
  · refine (List.map_congr_left fun u hu => ?_).trans (List.map_id _)
    obtain ⟨d, hd, rfl⟩ := digit_of_mem_bytesToHex hu
    exact hsame d hd

/-- It is read as its bytes. -/
theorem parseSha256Hex_bytesToHex {hash : List UInt8} (h : hash.length = 32) :
    parseSha256Hex (.str (bytesToHex hash)) = .ok hash := by
  refine bind_eq_ok.mpr ⟨_, rfl, bind_eq_ok.mpr ⟨(),
    require_eq_ok.mpr (isHash_bytesToHex h).1, ?_⟩⟩
  rw [bytesOfHex_bytesToHex]
  rfl

/-! ## The checks before the decryption -/

/-- What is handed to the attachment layer of an image that was read and of downloaded bytes. -/
def decryptInput (image : SinoChatImageMetadata) (encryptedBytes : List UInt8) : DecryptInput where
  encryptedBytes := encryptedBytes
  mediaEncryptionInfo := .str (stringify image.mediaEncryptionInfo.toJson)
  declaredMimeType := .str image.declaredMimeType.text
  plaintextByteSize := .num (.integer image.plaintextByteSize)
  ciphertextByteSize := .num (.integer image.ciphertextByteSize)
  ciphertextSha256 := .str image.ciphertextSha256

/-- **The metadata of an image is no reason to refuse it**: with bytes of the size it names the
checks succeed, and the two digests the bytes are compared with are one. -/
def DecryptAccepts (round : JsString → JsNumber) (image : SinoChatImageMetadata) : Prop :=
  ∀ encryptedBytes : List UInt8, (encryptedBytes.length : ℤ) = image.ciphertextByteSize →
    ∃ check, checkDecryptInput round (decryptInput image encryptedBytes) = .ok check ∧
      check.expectedServerHash = check.mediaInfo.sha256

/-- The counter half of the initialisation vector is zero. -/
def ZeroCounter (image : SinoChatImageMetadata) : Prop :=
  ((bufferFromBase64 image.mediaEncryptionInfo.iv).drop 8).all (· = 0) = true

/-- A text of bytes, in either alphabet, is read back by the decoder of the platform. -/
theorem bufferFromBase64_bytesToBase64 (bytes : List UInt8) (urlSafe : Bool) :
    bufferFromBase64 (bytesToBase64 bytes urlSafe) = bytes := by
  cases urlSafe with
  | false =>
    have hplain : bytesToBase64 bytes false = (sextetsOf bytes).map base64Char :=
      bytesToBase64_eq bytes false
    rw [hplain, bufferFromBase64_eq fun u hu => isBase64_of_mem_sextets hu,
      filterMap_base64Char sextetsOf_lt, bytesOfSextets_sextetsOf]
  | true => exact bufferFromBase64_toBase64Url bytes

/-- A size is read if it is positive and within the limit. -/
theorem parseByteSize_eq_ok {n m : ℤ} {code : ErrorCode} :
    parseByteSize (.num (.integer n)) code = .ok m ↔
      (n.natAbs ≤ 2 ^ 53 - 1 ∧ 1 ≤ n ∧ n ≤ attachmentMaxBytes) ∧ m = n := by
  rw [parseByteSize, orThrow_eq_ok]
  constructor
  · intro h
    split_ifs at h with hbounds
    exact ⟨hbounds, (Option.some.inj h).symm⟩
  · rintro ⟨hbounds, rfl⟩
    rw [if_pos hbounds]

/-- A declared type is an allowed one. -/
theorem parseAllowedMimeType_text (mime : MessageContent.SinoChatImageMimeType) :
    ∃ found, parseAllowedMimeType (.str mime.text) = .ok found := by
  cases mime
  · exact ⟨.jpeg, rfl⟩
  · exact ⟨.png, rfl⟩
  · exact ⟨.webp, rfl⟩

/-- **Exactly when the metadata of a decoded image is accepted.** -/
theorem decryptAccepts_iff {image : SinoChatImageMetadata}
    (h : MessageContent.IsImage round image) : DecryptAccepts round image ↔
      image.ciphertextByteSize = image.plaintextByteSize ∧ ZeroCounter image := by
  obtain ⟨key, iv, hash, hparts⟩ := mediaParts_of_isMedia h.media
  have hiv : bufferFromBase64 image.mediaEncryptionInfo.iv = iv := by
    rw [hparts.iv.2, bufferFromBase64_bytesToBase64]
  have hhex : image.ciphertextSha256 = bytesToHex hash := by
    have hdecode := h.digest
    have hmod : (bytesToBase64 hash false).length % 4 ≠ 1 := by
      rw [length_bytesToBase64, hparts.sha256.1]
      decide
    rw [hparts.sha256.2] at hdecode
    exact Except.ok.inj (hdecode.symm.trans
      ((decodeUnpaddedBase64ToHex_eq_ok hmod).mpr ⟨hash, rfl, rfl⟩))
  have hsmall := h.plaintext.2
  rw [show MessageContent.sinoChatMaxImagePlaintextBytes = (attachmentMaxBytes : ℤ) from rfl]
    at hsmall
  rw [ZeroCounter, hiv]
  constructor
  · intro haccepts
    obtain ⟨check, hcheck, -⟩ := haccepts
      (List.replicate image.ciphertextByteSize.toNat 0) (by
        have hciphertext := h.ciphertext.2.1
        rw [List.length_replicate]
        omega)
    obtain ⟨_, -, hcheck⟩ := bind_eq_ok.mp hcheck
    obtain ⟨plaintext, hplaintext, hcheck⟩ := bind_eq_ok.mp hcheck
    obtain ⟨ciphertext, hciphertext, hcheck⟩ := bind_eq_ok.mp hcheck
    obtain ⟨_, -, hcheck⟩ := bind_eq_ok.mp hcheck
    obtain ⟨_, hsizes, hcheck⟩ := bind_eq_ok.mp hcheck
    obtain ⟨_, -, hcheck⟩ := bind_eq_ok.mp hcheck
    obtain ⟨media, hmedia, -⟩ := bind_eq_ok.mp hcheck
    obtain ⟨-, rfl⟩ := parseByteSize_eq_ok.mp hplaintext
    obtain ⟨-, rfl⟩ := parseByteSize_eq_ok.mp hciphertext
    have hequal := require_eq_ok.mp hsizes
    simp only [Bool.and_eq_true, decide_eq_true_eq] at hequal
    exact ⟨hequal.2, ((parseMediaEncryptionInfo_stringify hparts).mp hmedia).1⟩
  · rintro ⟨hsize, hzero⟩ encryptedBytes hlength
    obtain ⟨mime, hmime⟩ := parseAllowedMimeType_text image.declaredMimeType
    have hbounds : image.plaintextByteSize.natAbs ≤ 2 ^ 53 - 1 ∧ 1 ≤ image.plaintextByteSize ∧
        image.plaintextByteSize ≤ attachmentMaxBytes := ⟨h.plaintext.1, hsmall⟩
    have hbytes : copyAndValidateBytes encryptedBytes "E2EE_IMAGE_CIPHERTEXT_SIZE_INVALID" =
        .ok encryptedBytes := by
      refine bind_eq_ok.mpr ⟨(), require_eq_ok.mpr (decide_eq_true (by omega)),
        bind_eq_ok.mpr ⟨(), require_eq_ok.mpr (decide_eq_true (by omega)), rfl⟩⟩
    have hsizes : ((encryptedBytes.length : ℤ) = image.ciphertextByteSize &&
        image.ciphertextByteSize = image.plaintextByteSize) = true := by
      rw [decide_eq_true hlength, decide_eq_true hsize]
      rfl
    have hhash := parseSha256Hex_bytesToHex hparts.sha256.1
    rw [← hhex] at hhash
    refine ⟨⟨mime, image.plaintextByteSize, hash, ⟨stringify image.mediaEncryptionInfo.toJson, hash⟩⟩,
      ?_, rfl⟩
    refine bind_eq_ok.mpr ⟨mime, hmime, bind_eq_ok.mpr ⟨_, parseByteSize_eq_ok.mpr ⟨hbounds, rfl⟩,
      bind_eq_ok.mpr ⟨_, parseByteSize_eq_ok.mpr ⟨hsize ▸ hbounds, rfl⟩, ?_⟩⟩⟩
    refine bind_eq_ok.mpr ⟨encryptedBytes, hbytes, bind_eq_ok.mpr ⟨(), require_eq_ok.mpr hsizes,
      bind_eq_ok.mpr ⟨hash, hhash, ?_⟩⟩⟩
    exact bind_eq_ok.mpr ⟨_, (parseMediaEncryptionInfo_stringify hparts).mpr ⟨hzero, rfl⟩, rfl⟩

/-! ## What the encryption produces -/

/-- An exact record is an object with just these keys. -/
theorem exactRecord_eq_ok {value : Option Json} {keys : List JsString}
    {entries : List (JsString × Json)} (h : exactRecord value keys = .ok entries) :
    value = some (.obj entries) ∧ (Json.keys entries).Perm keys := by
  obtain ⟨found, hfound, h⟩ := bind_eq_ok.mp h
  obtain ⟨_, hperm, h⟩ := bind_eq_ok.mp h
  cases h
  exact ⟨record?_eq_some.mp (orThrow_eq_ok.mp hfound), List.isPerm_iff.mp (require_eq_ok.mp hperm)⟩

/-- Keys in another order are no others. -/
theorem assertOnlyDataKeys_of_perm {entries : List (JsString × Json)} {keys expected : List JsString}
    {code : ErrorCode} (hkeys : (Json.keys entries).Perm keys) (hperm : keys.Perm expected) :
    MessageContent.assertOnlyDataKeys entries expected code = .ok () := by
  have hall := hkeys.trans hperm
  refine require_eq_ok.mpr ?_
  simp only [Bool.and_eq_true, beq_iff_eq, List.all_eq_true]
  exact ⟨⟨hall.length_eq, fun key hkey => List.contains_iff_mem.mpr (hall.subset hkey)⟩,
    fun key hkey => hasOwn_iff.mpr (hall.symm.subset hkey)⟩

theorem str_of_str? {value : Json} {text : JsString} (h : value.str? = some text) :
    value = .str text := by
  cases value <;> simp [Json.str?] at h
  rw [h]

/-- The two operations, in either order. -/
theorem keyOperations?_of_isKeyOperations {value : Option Json} (h : isKeyOperations value = true) :
    ∃ keyOps, MessageContent.keyOperations? value = some keyOps := by
  have hitems : ∃ x y, value = some (.arr [x, y]) := by
    rcases value with _ | (_ | _ | _ | _ | items | _)
    case some.arr =>
      simp only [isKeyOperations, Bool.and_eq_true, decide_eq_true_eq] at h
      obtain ⟨x, y, rfl⟩ := List.length_eq_two.mp h.1.1
      exact ⟨x, y, rfl⟩
    all_goals cases h
  obtain ⟨x, y, rfl⟩ := hitems
  simp only [isKeyOperations, List.any_cons, List.any_nil, Bool.or_false, Bool.and_eq_true,
    Bool.or_eq_true, decide_eq_true_eq] at h
  obtain ⟨⟨-, hencrypt⟩, hdecrypt⟩ := h
  have hne : js "encrypt" ≠ js "decrypt" := by decide
  rcases hencrypt with hx | hy <;> rcases hdecrypt with hx' | hy'
  · exact absurd (Option.some.inj (hx.symm.trans hx')) hne
  · rw [str_of_str? hx, str_of_str? hy']
    exact ⟨.encryptDecrypt, rfl⟩
  · rw [str_of_str? hx', str_of_str? hy]
    exact ⟨.decryptEncrypt, rfl⟩
  · exact absurd (Option.some.inj (hy.symm.trans hy')) hne

/-- The text of so many bytes has a fixed length, in either alphabet. -/
theorem fixed_bytesToBase64 {bytes : List UInt8} {n m : ℕ} (hlength : bytes.length = n)
    (hn : (n * 8 + 5) / 6 = m) :
    fixed (times m isBase64) (bytesToBase64 bytes false) = true ∧
      fixed (times m isBase64Url) (bytesToBase64 bytes true) = true := by
  subst hlength hn
  have hchar : ∀ urlSafe, ∀ u ∈ bytesToBase64 bytes urlSafe, ∃ k < 64, u = sextetChar urlSafe k := by
    intro urlSafe u hu
    rw [bytesToBase64_eq] at hu
    obtain ⟨k, hk, rfl⟩ := List.mem_map.mp hu
    exact ⟨k, sextetsOf_lt k hk, rfl⟩
  refine ⟨fixed_times.mpr ⟨length_bytesToBase64 bytes false, fun u hu => ?_⟩,
    fixed_times.mpr ⟨length_bytesToBase64 bytes true, fun u hu => ?_⟩⟩
  · obtain ⟨k, hk, rfl⟩ := hchar false u hu
    exact isBase64_base64Char hk
  · obtain ⟨k, hk, rfl⟩ := hchar true u hu
    exact isBase64Url_toUrlSafe hk

/-- **Key information the attachment layer accepts is read by the content**, with the same digest
and a counter that begins at zero. -/
theorem content_of_attachment {text : JsString} {media : MediaInfo}
    (h : parseMediaEncryptionInfo round (.str text) = .ok media) :
    ∃ info key iv, MessageContent.parseMediaEncryptionInfo round (some (.str text)) = .ok info ∧
      MediaParts info key iv media.sha256 ∧ (iv.drop 8).all (· = 0) = true := by
  obtain ⟨found, hfound, h⟩ := bind_eq_ok.mp h
  obtain rfl := Option.some.inj (orThrow_eq_ok.mp hfound)
  obtain ⟨_, hlength, h⟩ := bind_eq_ok.mp h
  obtain ⟨parsed, hparsed, h⟩ := bind_eq_ok.mp h
  obtain ⟨root, hroot, h⟩ := bind_eq_ok.mp h
  obtain ⟨keyEntries, hkey, h⟩ := bind_eq_ok.mp h
  obtain ⟨hashes, hhashes, h⟩ := bind_eq_ok.mp h
  obtain ⟨⟨k, iv, sha256⟩, htexts, h⟩ := bind_eq_ok.mp h
  obtain ⟨keyBytes, hk, h⟩ := bind_eq_ok.mp h
  obtain ⟨ivBytes, hiv, h⟩ := bind_eq_ok.mp h
  obtain ⟨_, hzero, h⟩ := bind_eq_ok.mp h
  obtain ⟨hashBytes, hsha256, h⟩ := bind_eq_ok.mp h
  cases h
  obtain ⟨hparsedObj, hrootKeys⟩ := exactRecord_eq_ok hroot
  obtain ⟨hkeyObj, hkeyKeys⟩ := exactRecord_eq_ok hkey
  obtain ⟨hhashesObj, hhashesKeys⟩ := exactRecord_eq_ok hhashes
  obtain rfl : parsed = .obj root := Option.some.inj hparsedObj
  -- the constants and the texts
  have htexts' := orThrow_eq_ok.mp htexts
  obtain ⟨⟨hv, hkty, halg⟩, htexts'⟩ := guard_bind_eq_some.mp htexts'
  obtain ⟨hext, htexts'⟩ := guard_bind_eq_some.mp htexts'
  obtain ⟨hkeyOps, htexts'⟩ := guard_bind_eq_some.mp htexts'
  obtain ⟨k', hkText, htexts'⟩ := Option.bind_eq_some_iff.mp htexts'
  obtain ⟨iv', hivText, htexts'⟩ := Option.bind_eq_some_iff.mp htexts'
  obtain ⟨sha', hshaText, htexts'⟩ := Option.bind_eq_some_iff.mp htexts'
  cases htexts'
  obtain ⟨keyOps, hkeyOps'⟩ := keyOperations?_of_isKeyOperations hkeyOps
  obtain ⟨hkLength, rfl⟩ := (decodeBase64_eq_ok (by decide)).mp hk
  obtain ⟨hivLength, rfl⟩ := (decodeBase64_eq_ok (by decide)).mp hiv
  obtain ⟨hshaLength, rfl⟩ := (decodeBase64_eq_ok (by decide)).mp hsha256
  have hdecode : ∀ {bytes : List UInt8} {n : ℕ} {urlSafe : Bool}, bytes.length = n →
      (n * 8 + 5) / 6 % 4 ≠ 1 →
      decodeUnpaddedBase64ToHex (bytesToBase64 bytes urlSafe) urlSafe = .ok (bytesToHex bytes) := by
    rintro bytes _ urlSafe rfl hmod
    exact (decodeUnpaddedBase64ToHex_eq_ok (by rwa [length_bytesToBase64])).mpr ⟨bytes, rfl, rfl⟩
  have htext : 2 ≤ text.length ∧ text.length ≤ 2048 := by
    have hbounds := require_eq_ok.mp hlength
    simp only [Bool.and_eq_true, decide_eq_true_eq] at hbounds
    omega
  refine ⟨⟨keyOps, bytesToBase64 keyBytes true, bytesToBase64 ivBytes false,
    bytesToBase64 hashBytes false⟩, keyBytes, ivBytes, ?_, ⟨⟨hkLength, rfl⟩, ⟨hivLength, rfl⟩,
    ⟨hshaLength, rfl⟩⟩, by simpa using require_eq_ok.mp hzero⟩
  refine bind_eq_ok.mpr ⟨.obj root, bind_eq_ok.mpr ⟨(), require_eq_ok.mpr (by simp [htext]),
    orThrow_eq_ok.mpr (orThrow_eq_ok.mp hparsed)⟩, bind_eq_ok.mpr ⟨root, rfl, bind_eq_ok.mpr ⟨(),
    assertOnlyDataKeys_of_perm hrootKeys (by decide), ?_⟩⟩⟩
  refine bind_eq_ok.mpr ⟨keyEntries, orThrow_eq_ok.mpr (by rw [hkeyObj]; rfl),
    bind_eq_ok.mpr ⟨(), assertOnlyDataKeys_of_perm hkeyKeys (by decide), ?_⟩⟩
  refine bind_eq_ok.mpr ⟨hashes, orThrow_eq_ok.mpr (by rw [hhashesObj]; rfl),
    bind_eq_ok.mpr ⟨(), assertOnlyDataKeys_of_perm hhashesKeys (by decide), ?_⟩⟩
  refine bind_eq_ok.mpr ⟨_, orThrow_eq_ok.mpr (guard_bind_eq_some.mpr ⟨⟨⟨hv, hkty⟩, halg⟩,
    guard_bind_eq_some.mpr ⟨hext, Option.bind_eq_some_iff.mpr ⟨_, hkText,
    guard_bind_eq_some.mpr ⟨(fixed_bytesToBase64 hkLength rfl).2,
    Option.bind_eq_some_iff.mpr ⟨_, hivText,
    guard_bind_eq_some.mpr ⟨(fixed_bytesToBase64 hivLength rfl).1,
    Option.bind_eq_some_iff.mpr ⟨_, hshaText,
    guard_bind_eq_some.mpr ⟨(fixed_bytesToBase64 hshaLength rfl).1,
    Option.bind_eq_some_iff.mpr ⟨keyOps, hkeyOps', rfl⟩⟩⟩⟩⟩⟩⟩⟩⟩), ?_⟩
  exact bind_eq_ok.mpr ⟨_, hdecode hkLength (by decide), bind_eq_ok.mpr ⟨_,
    hdecode hivLength (by decide), bind_eq_ok.mpr ⟨_, hdecode hshaLength (by decide), rfl⟩⟩⟩

/-- Every allowed type can be declared. -/
theorem exists_declaredMimeType (mime : AllowedImageMimeType) :
    ∃ declared : MessageContent.SinoChatImageMimeType, declared.text = mime.text := by
  cases mime
  · exact ⟨.jpeg, rfl⟩
  · exact ⟨.png, rfl⟩
  · exact ⟨.webp, rfl⟩

/-- The image of a content that an attachment is sent with. -/
structure Describes (round : JsString → JsNumber) (attachment : MatrixEncryptedImageAttachment)
    (image : SinoChatImageMetadata) : Prop where
  declaredMimeType : image.declaredMimeType.text = attachment.declaredMimeType.text
  plaintextByteSize : image.plaintextByteSize = attachment.plaintextByteSize
  ciphertextByteSize : image.ciphertextByteSize = attachment.ciphertextByteSize
  ciphertextSha256 : image.ciphertextSha256 = attachment.ciphertextSha256
  mediaEncryptionInfo : MessageContent.parseMediaEncryptionInfo round
    (some (.str attachment.mediaEncryptionInfo)) = .ok image.mediaEncryptionInfo

/-- **What the encryption returns describes an image of a content.** -/
theorem image_of_encrypt {sha256 : List UInt8 → List UInt8}
    {encrypt : List UInt8 → Option EncryptedAttachment} {bytes : List UInt8} {mimeType : Json}
    {attachment : MatrixEncryptedImageAttachment}
    (h : encryptMatrixImageAttachment round sha256 encrypt bytes mimeType = .ok attachment) :
    ∃ image, MessageContent.IsImage round image ∧ Describes round attachment image ∧
      image.ciphertextByteSize = image.plaintextByteSize ∧ ZeroCounter image := by
  obtain ⟨mime, -, h⟩ := bind_eq_ok.mp h
  obtain ⟨plaintext, -, h⟩ := bind_eq_ok.mp h
  obtain ⟨_, -, h⟩ := bind_eq_ok.mp h
  obtain ⟨encrypted, -, h⟩ := bind_eq_ok.mp h
  obtain ⟨_, -, h⟩ := bind_eq_ok.mp h
  obtain ⟨text, -, h⟩ := bind_eq_ok.mp h
  dsimp only at h
  obtain ⟨_, hsizes, h⟩ := bind_eq_ok.mp h
  obtain ⟨media, hmedia, h⟩ := bind_eq_ok.mp h
  obtain ⟨_, hhash, h⟩ := bind_eq_ok.mp h
  cases h
  simp only [require_eq_ok, Bool.and_eq_true, decide_eq_true_eq] at hsizes hhash
  obtain ⟨⟨hne, hsame⟩, hsmall⟩ := hsizes
  obtain ⟨info, key, iv, hinfo, hparts, hzero⟩ := content_of_attachment hmedia
  obtain ⟨declared, hdeclared⟩ := exists_declaredMimeType mime
  have hmax : (attachmentMaxBytes : ℤ) = MessageContent.sinoChatMaxImagePlaintextBytes := rfl
  have hroom : MessageContent.sinoChatMaxImagePlaintextBytes ≤
      MessageContent.sinoChatMaxImageCiphertextBytes := by decide
  have hfit : (attachmentMaxBytes : ℤ) ≤ 2 ^ 53 - 1 := by decide
  have hdigest : decodeUnpaddedBase64ToHex info.sha256 false = .ok (bytesToHex media.sha256) := by
    rw [hparts.sha256.2]
    refine (decodeUnpaddedBase64ToHex_eq_ok ?_).mpr ⟨media.sha256, rfl, rfl⟩
    rw [length_bytesToBase64, hparts.sha256.1]
    decide
  refine ⟨⟨declared, plaintext.length, encrypted.encryptedData.length,
    bytesToHex (sha256 encrypted.encryptedData), info⟩, ?_, ⟨hdeclared, rfl, rfl, rfl, hinfo⟩,
    congrArg Nat.cast hsame, ?_⟩
  · have hplaintext : (plaintext.length : ℤ).natAbs ≤ 2 ^ 53 - 1 ∧ 1 ≤ (plaintext.length : ℤ) ∧
        (plaintext.length : ℤ) ≤ MessageContent.sinoChatMaxImagePlaintextBytes := by omega
    have hciphertext : (encrypted.encryptedData.length : ℤ).natAbs ≤ 2 ^ 53 - 1 ∧
        (plaintext.length : ℤ) ≤ encrypted.encryptedData.length ∧
        (encrypted.encryptedData.length : ℤ) ≤ MessageContent.sinoChatMaxImageCiphertextBytes := by
      omega
    rw [← hhash]
    exact ⟨hplaintext, hciphertext, isHash_bytesToHex hparts.sha256.1,
      MessageContent.isMedia_of_parse hinfo, hdigest⟩
  · rw [ZeroCounter, hparts.iv.2, bufferFromBase64_bytesToBase64]
    exact hzero

/-- The input the image is encoded from. -/
def imageInput (base : MessageContent.SinoChatMessageBase)
    (attachment : MatrixEncryptedImageAttachment) : Json :=
  .obj [(js "conversationId", .str base.conversationId), (js "roomId", .str base.roomId),
    (js "clientMessageId", .str base.clientMessageId),
    (js "senderUserId", .str base.senderUserId),
    (js "senderDeviceId", .str base.senderDeviceId),
    (js "declaredMimeType", .str attachment.declaredMimeType.text),
    (js "plaintextByteSize", .num (.integer attachment.plaintextByteSize)),
    (js "ciphertextByteSize", .num (.integer attachment.ciphertextByteSize)),
    (js "ciphertextSha256", .str attachment.ciphertextSha256),
    (js "mediaEncryptionInfo", .str attachment.mediaEncryptionInfo)]

variable {urlHost : JsString → Bool}

/-- **The metadata of an encrypted image makes a content that is sent.** -/
theorem encode_imageInput {base : MessageContent.SinoChatMessageBase}
    {attachment : MatrixEncryptedImageAttachment} {image : SinoChatImageMetadata}
    (hbase : MessageContent.IsBase urlHost base) (himage : MessageContent.IsImage round image)
    (h : Describes round attachment image) :
    MessageContent.encodeSinoChatImageMessage round urlHost (imageInput base attachment) =
      .ok ⟨MessageContent.sinoChatMessageEventType, .image base image⟩ := by
  have hparse : MessageContent.parseImageContent round urlHost
      (MessageContent.SinoChatMessageContent.image base image).toJson = .ok (.image base image) :=
    (MessageContent.IsContent.image hbase himage).parse
  rw [imageInput, ← h.declaredMimeType, ← h.plaintextByteSize, ← h.ciphertextByteSize,
    ← h.ciphertextSha256]
  exact bind_eq_ok.mpr ⟨_, rfl, bind_eq_ok.mpr ⟨(), rfl,
    bind_eq_ok.mpr ⟨_, MessageContent.normalizeHexSha256_of_isHash himage.hash himage.hash.2,
    bind_eq_ok.mpr ⟨_, h.mediaEncryptionInfo, bind_eq_ok.mpr ⟨_, hparse, rfl⟩⟩⟩⟩⟩

/-- The metadata of every image that decodes is accepted for decryption. -/
def DecodedImagesDecrypt (round : JsString → JsNumber) (urlHost : JsString → Bool) : Prop :=
  ∀ eventType value binding base image,
    MessageContent.decodeSinoChatMessageContent round urlHost eventType value binding =
      .ok (.image base image) → DecryptAccepts round image

/-- **The two layers agree up to the counter and the sizes.** The metadata of an image that
decodes is accepted for decryption exactly when its sizes are equal and the counter half of its
initialisation vector is zero. What the encryption returns is encoded to such an image, which the
decoder gives back under every binding that agrees with it. -/
theorem image_metadata_in_both_layers (round : JsString → JsNumber) (urlHost : JsString → Bool) :
    (∀ eventType value binding base image,
      MessageContent.decodeSinoChatMessageContent round urlHost eventType value binding =
        .ok (.image base image) →
      (DecryptAccepts round image ↔
        image.ciphertextByteSize = image.plaintextByteSize ∧ ZeroCounter image)) ∧
    (∀ sha256 encrypt bytes mimeType attachment,
      encryptMatrixImageAttachment round sha256 encrypt bytes mimeType = .ok attachment →
      ∃ image, Describes round attachment image ∧ DecryptAccepts round image ∧
        ∀ base, MessageContent.IsBase urlHost base →
          MessageContent.encodeSinoChatImageMessage round urlHost (imageInput base attachment) =
            .ok ⟨MessageContent.sinoChatMessageEventType, .image base image⟩ ∧
          ∀ binding, MessageContent.Agrees (.image base image) binding →
            MessageContent.decodeSinoChatMessageContent round urlHost
              (.str MessageContent.sinoChatMessageEventType)
              (MessageContent.SinoChatMessageContent.image base image).toJson binding =
                .ok (.image base image)) := by
  refine ⟨fun eventType value binding base image h => ?_,
    fun sha256 encrypt bytes mimeType attachment h => ?_⟩
  · obtain ⟨hcontent, -⟩ := MessageContent.decode_eq_ok h
    cases hcontent with
    | image hbase himage => exact decryptAccepts_iff himage
  · obtain ⟨image, himage, hdescribes, hsizes, hzero⟩ := image_of_encrypt h
    refine ⟨image, hdescribes, (decryptAccepts_iff himage).mpr ⟨hsizes, hzero⟩,
      fun base hbase => ⟨encode_imageInput hbase himage hdescribes, fun binding hagrees => ?_⟩⟩
    exact MessageContent.decode_of_agrees (.image hbase himage) hagrees

/-- An image whose counter does not begin at zero. -/
def runningCounter : SinoChatImageMetadata where
  declaredMimeType := .png
  plaintextByteSize := 1
  ciphertextByteSize := 1
  ciphertextSha256 := js "6e340b9cffb37a989ca544e6bb780a2c78901d3fb33738768511a30617afa01d"
  mediaEncryptionInfo :=
    { keyOps := .encryptDecrypt
      k := js "AAECAwQFBgcICQoLDA0ODxAREhMUFRYXGBkaGxwdHh8"
      iv := js "AAAAAAAAAAD//////////w"
      sha256 := js "bjQLnP+zepicpUTmu3gKLHiQHT+zNzh2hRGjBhevoB0" }

/-- **An image decodes whose metadata decryption refuses.** -/
theorem not_decodedImagesDecrypt :
    ¬ DecodedImagesDecrypt (fun _ => .integer 0) (fun _ => true) := by
  intro hclaim
  let base : MessageContent.SinoChatMessageBase := MessageContent.greetingContent.base
  have hdecode : MessageContent.decodeSinoChatMessageContent (fun _ => .integer 0) (fun _ => true)
      (.str MessageContent.sinoChatMessageEventType)
      (MessageContent.SinoChatMessageContent.image base runningCounter).toJson
      (MessageContent.SinoChatMessageContent.image base runningCounter).toBinding =
        .ok (.image base runningCounter) := ok_of_toOption (by decide +kernel)
  obtain ⟨hcontent, -⟩ := MessageContent.decode_eq_ok hdecode
  have hzero : ¬ ZeroCounter runningCounter := by
    rw [ZeroCounter]
    decide
  cases hcontent with
  | image hbase himage =>
    exact hzero ((decryptAccepts_iff himage).mp (hclaim _ _ _ _ _ hdecode)).2

end ImageAttachment

end SinoChat
