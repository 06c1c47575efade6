import SinoChat.Model.ImageContainers

/-!
# The chunks of an image

What the scanners take is described by the chunks themselves: a PNG is its
signature and the encodings of a header, of chunks and of a trailer one behind
the other (`IsPng`), a WebP a RIFF header and the encodings of its chunks
(`IsWebP`). The scanners take exactly these, and no read leaves the bytes.
-/

namespace SinoChat

open Js

namespace ImageAttachment

variable {bytes : List UInt8} {offset : ℕ}

/-! ## Reading what is there -/

/-- The byte at an offset is the first one behind it. -/
theorem byteAt_of_drop {b : UInt8} {rest : List UInt8} (h : bytes.drop offset = b :: rest) :
    byteAt bytes offset = .ok b.toNat := by
  have hget : bytes[offset]? = some b := by
    rw [← List.head?_drop, h]
    rfl
  rw [byteAt, hget]
  rfl

/-- Behind it the rest goes on. -/
theorem drop_succ_of_drop {b : UInt8} {rest : List UInt8} (h : bytes.drop offset = b :: rest) :
    bytes.drop (offset + 1) = rest := by
  rw [← List.drop_drop, h]
  rfl

/-- Behind a part the rest goes on. -/
theorem drop_add_of_drop {front rest : List UInt8} (h : bytes.drop offset = front ++ rest) :
    bytes.drop (offset + front.length) = rest := by
  rw [← List.drop_drop, h, List.drop_left]

/-- The characters of some bytes. -/
def asciiOf (bytes : List UInt8) : JsString := bytes.map fun b => b.toNat.toUInt16

/-- A part is read as its characters. -/
theorem ascii_of_drop {front rest : List UInt8} (h : bytes.drop offset = front ++ rest) :
    ascii bytes offset front.length = .ok (asciiOf front) := by
  induction front generalizing offset with
  | nil => rfl
  | cons b front ih =>
    have hbyte := byteAt_of_drop h
    have hrest := ih (drop_succ_of_drop h)
    simp only [List.length_cons, ascii, hbyte, hrest]
    rfl

/-- A part is compared with the bytes expected. -/
theorem startsWith_of_drop {front rest : List UInt8} {expected : List ℕ}
    (h : bytes.drop offset = front ++ rest) (hlength : front.length = expected.length) :
    startsWith bytes offset expected = .ok (decide (front.map UInt8.toNat = expected)) := by
  induction expected generalizing offset front with
  | nil =>
    obtain rfl := List.length_eq_zero_iff.mp hlength
    rfl
  | cons e expected ih =>
    cases front with
    | nil => cases hlength
    | cons b front =>
      have hbyte := byteAt_of_drop h
      have hrest := ih (drop_succ_of_drop h) (Nat.succ.inj hlength)
      simp only [startsWith, hbyte, hrest]
      show Except.ok _ = Except.ok _
      simp

/-! ## Numbers of 32 bits -/

/-- The four bytes of a number, the highest first. -/
def bigEndian (n : ℕ) : List UInt8 :=
  [(n / 2 ^ 24).toUInt8, (n / 2 ^ 16).toUInt8, (n / 2 ^ 8).toUInt8, n.toUInt8]

/-- The four bytes of a number, the lowest first. -/
def littleEndian (n : ℕ) : List UInt8 :=
  [n.toUInt8, (n / 2 ^ 8).toUInt8, (n / 2 ^ 16).toUInt8, (n / 2 ^ 24).toUInt8]

/-- A number is the byte that it is modulo 256. -/
theorem toUInt8_eq {n : ℕ} {b : UInt8} (h : n % 256 = b.toNat) : n.toUInt8 = b := by
  apply UInt8.toNat.inj
  rw [← h]
  exact UInt8.toNat_ofNat'

theorem toNat_toUInt8 (n : ℕ) : n.toUInt8.toNat = n % 256 := UInt8.toNat_ofNat'

/-- A list of four has four items. -/
theorem exists_four {l : List UInt8} (h : l.length = 4) : ∃ a b c d, l = [a, b, c, d] := by
  rcases l with _ | ⟨a, _ | ⟨b, _ | ⟨c, _ | ⟨d, _ | ⟨e, l⟩⟩⟩⟩⟩ <;> simp at h
  exact ⟨a, b, c, d, rfl⟩

/-- Four bytes are read as the number they encode. -/
theorem readUint32BigEndian_of_drop {front rest : List UInt8} (hfront : front.length = 4)
    (h : bytes.drop offset = front ++ rest) :
    ∃ n, readUint32BigEndian bytes offset = .ok n ∧ n < 2 ^ 32 ∧ front = bigEndian n := by
  obtain ⟨a, b, c, d, rfl⟩ := exists_four hfront
  have ha := byteAt_of_drop h
  have hb := byteAt_of_drop (drop_succ_of_drop h)
  have hc := byteAt_of_drop (drop_succ_of_drop (drop_succ_of_drop h))
  have hd := byteAt_of_drop (drop_succ_of_drop (drop_succ_of_drop (drop_succ_of_drop h)))
  have la := a.toNat_lt
  have lb := b.toNat_lt
  have lc := c.toNat_lt
  have ld := d.toNat_lt
  refine ⟨a.toNat * 2 ^ 24 + b.toNat * 2 ^ 16 + c.toNat * 2 ^ 8 + d.toNat, ?_, by omega, ?_⟩
  · simp only [readUint32BigEndian, ha, hb, hc, hd, Nat.shiftLeft_eq]
    rfl
  · rw [bigEndian, toUInt8_eq (b := a) (by omega), toUInt8_eq (b := b) (by omega),
      toUInt8_eq (b := c) (by omega), toUInt8_eq (b := d) (by omega)]

/-- Different numbers have different bytes, the highest first. -/
theorem bigEndian_injective {m n : ℕ} (hm : m < 2 ^ 32) (hn : n < 2 ^ 32)
    (h : bigEndian m = bigEndian n) : m = n := by
  simp only [bigEndian, List.cons.injEq, and_true] at h
  obtain ⟨ha, hb, hc, hd⟩ := h
  have ha := congrArg UInt8.toNat ha
  have hb := congrArg UInt8.toNat hb
  have hc := congrArg UInt8.toNat hc
  have hd := congrArg UInt8.toNat hd
  simp only [toNat_toUInt8] at ha hb hc hd
  omega

/-- Four bytes are read as a number, the lowest first. -/
theorem readUint32LittleEndian_of_drop {front rest : List UInt8} (hfront : front.length = 4)
    (h : bytes.drop offset = front ++ rest) :
    ∃ n, readUint32LittleEndian bytes offset = .ok n ∧ n < 2 ^ 32 ∧ front = littleEndian n := by
  obtain ⟨a, b, c, d, rfl⟩ := exists_four hfront
  have ha := byteAt_of_drop h
  have hb := byteAt_of_drop (drop_succ_of_drop h)
  have hc := byteAt_of_drop (drop_succ_of_drop (drop_succ_of_drop h))
  have hd := byteAt_of_drop (drop_succ_of_drop (drop_succ_of_drop (drop_succ_of_drop h)))
  have la := a.toNat_lt
  have lb := b.toNat_lt
  have lc := c.toNat_lt
  have ld := d.toNat_lt
  refine ⟨a.toNat + b.toNat * 2 ^ 8 + c.toNat * 2 ^ 16 + d.toNat * 2 ^ 24, ?_, by omega, ?_⟩
  · simp only [readUint32LittleEndian, ha, hb, hc, hd, Nat.shiftLeft_eq]
    rfl
  · rw [littleEndian, toUInt8_eq (b := a) (by omega), toUInt8_eq (b := b) (by omega),
      toUInt8_eq (b := c) (by omega), toUInt8_eq (b := d) (by omega)]

/-- Different numbers have different bytes, the lowest first. -/
theorem littleEndian_injective {m n : ℕ} (hm : m < 2 ^ 32) (hn : n < 2 ^ 32)
    (h : littleEndian m = littleEndian n) : m = n := by
  simp only [littleEndian, List.cons.injEq, and_true] at h
  obtain ⟨ha, hb, hc, hd⟩ := h
  have ha := congrArg UInt8.toNat ha
  have hb := congrArg UInt8.toNat hb
  have hc := congrArg UInt8.toNat hc
  have hd := congrArg UInt8.toNat hd
  simp only [toNat_toUInt8] at ha hb hc hd
  omega

/-! ## PNG -/

/-- A chunk of a PNG: a name of four letters, its data and four bytes of a checksum. -/
structure PngChunk where
  name : List UInt8
  data : List UInt8
  crc : List UInt8
  name_letters : fixed (times 4 isLetter) (asciiOf name) = true
  data_length : data.length < 2 ^ 32
  crc_length : crc.length = 4

namespace PngChunk

/-- The bytes of a chunk. -/
def encode (chunk : PngChunk) : List UInt8 :=
  bigEndian chunk.data.length ++ chunk.name ++ chunk.data ++ chunk.crc

theorem name_length (chunk : PngChunk) : chunk.name.length = 4 := by
  have h := length_of_fixed chunk.name_letters
  rwa [asciiOf, List.length_map, length_times] at h

/-- A chunk takes its header and its data. -/
theorem length_encode (chunk : PngChunk) : chunk.encode.length = 12 + chunk.data.length := by
  have hname := chunk.name_length
  have hcrc := chunk.crc_length
  simp only [encode, bigEndian, List.length_append, List.length_cons, List.length_nil]
  omega

/-- The first chunk, or the chunks behind it. -/
def IsNamed (chunk : PngChunk) (name : String) : Prop := asciiOf chunk.name = js name

end PngChunk

/-- What the scanner does at one chunk: the step of its loop, and nothing outside the bytes. -/
theorem scanPng_step {size name tail : List UInt8} {chunkIndex : ℕ} {sawImageData : Bool}
    (hsize : size.length = 4) (hname : name.length = 4) (htail : 4 ≤ tail.length)
    (h : bytes.drop offset = size ++ (name ++ tail)) :
    ∃ length, length < 2 ^ 32 ∧ size = bigEndian length ∧
      scanPng bytes offset chunkIndex sawImageData =
        if offset + 12 + length > bytes.length ||
            !fixed (times 4 isLetter) (asciiOf name) then .ok false
        else if chunkIndex = 0 && (asciiOf name ≠ js "IHDR" || length ≠ 13) then .ok false
        else if asciiOf name = js "IEND" then
          .ok (length = 0 && (sawImageData || asciiOf name = js "IDAT") &&
            offset + 12 + length = bytes.length)
        else scanPng bytes (offset + 12 + length) (chunkIndex + 1)
          (sawImageData || asciiOf name = js "IDAT") := by
  obtain ⟨length, hlength, hlt, hencode⟩ := readUint32BigEndian_of_drop hsize h
  have hascii := ascii_of_drop (drop_add_of_drop h)
  rw [hsize, hname] at hascii
  have hroom : offset + 12 ≤ bytes.length := by
    have hdrop := congrArg List.length h
    simp only [List.length_drop, List.length_append] at hdrop
    omega
  refine ⟨length, hlt, hencode, ?_⟩
  rw [scanPng, if_pos hroom, hlength]
  simp only [bind, Except.bind, hascii]

/-- The scan finds no trailer in too few bytes. -/
theorem scanPng_done {chunkIndex : ℕ} {sawImageData : Bool} (h : bytes.length < offset + 12) :
    scanPng bytes offset chunkIndex sawImageData = .ok false := by
  rw [scanPng, if_neg (by omega)]

/-- The bytes behind an offset where the loop goes on. -/
theorem exists_head {bytes : List UInt8} {offset n : ℕ} (h : offset + (8 + n) ≤ bytes.length) :
    ∃ first second tail : List UInt8, first.length = 4 ∧ second.length = 4 ∧ n ≤ tail.length ∧
      bytes.drop offset = first ++ (second ++ tail) := by
  refine ⟨(bytes.drop offset).take 4, ((bytes.drop offset).drop 4).take 4,
    ((bytes.drop offset).drop 4).drop 4, ?_, ?_, ?_, ?_⟩
  · simp only [List.length_take, List.length_drop]
    omega
  · simp only [List.length_take, List.length_drop]
    omega
  · simp only [List.length_drop]
    omega
  · rw [List.take_append_drop, List.take_append_drop]

/-- **No read of the loop leaves the bytes.** -/
theorem scanPng_total (bytes : List UInt8) (offset chunkIndex : ℕ) (sawImageData : Bool) :
    ∃ found, scanPng bytes offset chunkIndex sawImageData = .ok found := by
  induction hn : bytes.length - offset using Nat.strong_induction_on
    generalizing offset chunkIndex sawImageData with
  | _ n ih =>
    by_cases hroom : offset + 12 ≤ bytes.length
    · obtain ⟨size, name, tail, hsize, hname, htail, hdrop⟩ := exists_head (n := 4) (by omega)
      obtain ⟨length, -, -, hstep⟩ := scanPng_step hsize hname htail hdrop
      rw [hstep]
      split_ifs
      · exact ⟨_, rfl⟩
      · exact ⟨_, rfl⟩
      · exact ⟨_, rfl⟩
      · exact ih _ (by omega) _ _ _ rfl
    · exact ⟨false, scanPng_done (by omega)⟩

/-- Chunks that the loop walks over before a trailer. -/
structure PngWalk (chunkIndex : ℕ) (sawImageData : Bool) (chunks : List PngChunk)
    (trailer : PngChunk) : Prop where
  trailer : trailer.IsNamed "IEND" ∧ trailer.data = []
  only : ∀ chunk ∈ chunks, ¬ chunk.IsNamed "IEND"
  header : chunkIndex = 0 → ∃ header body, chunks = header :: body ∧ header.IsNamed "IHDR" ∧
    header.data.length = 13
  image : sawImageData = true ∨ ∃ chunk ∈ chunks, chunk.IsNamed "IDAT"

/-- The step of the loop at the encoding of a chunk. -/
theorem scanPng_chunk {chunk : PngChunk} {rest : List UInt8} {chunkIndex : ℕ}
    {sawImageData : Bool} (h : bytes.drop offset = chunk.encode ++ rest) :
    scanPng bytes offset chunkIndex sawImageData =
      if chunkIndex = 0 && (asciiOf chunk.name ≠ js "IHDR" || chunk.data.length ≠ 13) then .ok false
      else if asciiOf chunk.name = js "IEND" then
        .ok (chunk.data.length = 0 && (sawImageData || asciiOf chunk.name = js "IDAT") &&
          decide (rest = []))
      else scanPng bytes (offset + chunk.encode.length) (chunkIndex + 1)
        (sawImageData || asciiOf chunk.name = js "IDAT") := by
  have hdrop : bytes.drop offset =
      bigEndian chunk.data.length ++ (chunk.name ++ (chunk.data ++ (chunk.crc ++ rest))) := by
    simpa only [PngChunk.encode, List.append_assoc] using h
  have hcrc := chunk.crc_length
  have htail : 4 ≤ (chunk.data ++ (chunk.crc ++ rest)).length := by
    simp only [List.length_append]
    omega
  obtain ⟨length, hlt, hencode, hstep⟩ := @scanPng_step bytes offset _ _ _ chunkIndex sawImageData
    rfl chunk.name_length htail hdrop
  obtain rfl := bigEndian_injective chunk.data_length hlt hencode
  have hlength := congrArg List.length h
  rw [List.length_drop, List.length_append, chunk.length_encode] at hlength
  have hnext : offset + 12 + chunk.data.length = offset + chunk.encode.length := by
    rw [chunk.length_encode]
    omega
  have hroom : ¬ offset + 12 + chunk.data.length > bytes.length := by omega
  have hend : (offset + 12 + chunk.data.length = bytes.length) ↔ rest = [] := by
    rw [← List.length_eq_zero_iff]
    omega
  rw [hstep, decide_eq_false hroom, chunk.name_letters, hnext]
  rw [hnext] at hend
  simp only [Bool.not_true, Bool.or_false, Bool.false_eq_true, if_false, hend]

/-- **The scan accepts every walk of chunks**, by induction on the chunks. -/
theorem scanPng_of_walk {chunks : List PngChunk} {trailer : PngChunk} {chunkIndex : ℕ}
    {sawImageData : Bool} (hwalk : PngWalk chunkIndex sawImageData chunks trailer)
    (h : bytes.drop offset = chunks.flatMap PngChunk.encode ++ trailer.encode) :
    scanPng bytes offset chunkIndex sawImageData = .ok true := by
  induction chunks generalizing offset chunkIndex sawImageData with
  | nil =>
    have hindex : chunkIndex ≠ 0 := fun hzero => by
      obtain ⟨_, _, hnil, -⟩ := hwalk.header hzero
      cases hnil
    have hsaw : sawImageData = true := by
      rcases hwalk.image with hsaw | ⟨_, hmem, -⟩
      · exact hsaw
      · cases hmem
    obtain ⟨hname, hdata⟩ := hwalk.trailer
    rw [PngChunk.IsNamed] at hname
    have hdrop : bytes.drop offset = trailer.encode ++ [] := by simpa using h
    rw [scanPng_chunk hdrop, hname, hdata, hsaw, decide_eq_false hindex]
    rfl
  | cons chunk chunks ih =>
    have hdrop : bytes.drop offset =
        chunk.encode ++ (chunks.flatMap PngChunk.encode ++ trailer.encode) := by
      simpa using h
    have hfirst : (chunkIndex = 0 && (asciiOf chunk.name ≠ js "IHDR" ||
        chunk.data.length ≠ 13)) = false := by
      by_cases hzero : chunkIndex = 0
      · obtain ⟨header, body, hcons, hname, hlength⟩ := hwalk.header hzero
        obtain ⟨rfl, rfl⟩ := List.cons.inj hcons
        rw [PngChunk.IsNamed] at hname
        simp [hname, hlength]
      · simp [hzero]
    have hnot := hwalk.only chunk List.mem_cons_self
    rw [PngChunk.IsNamed] at hnot
    rw [scanPng_chunk hdrop, if_neg (by rw [hfirst]; simp), if_neg hnot]
    refine ih ⟨hwalk.trailer, fun c hc => hwalk.only c (List.mem_cons_of_mem _ hc), by simp, ?_⟩
      (drop_add_of_drop hdrop)
    rcases hwalk.image with hsaw | ⟨image, hmem, hname⟩
    · exact .inl (by rw [hsaw]; rfl)
    · rcases List.mem_cons.mp hmem with rfl | hmem
      · rw [PngChunk.IsNamed] at hname
        exact .inl (by simp [hname])
      · exact .inr ⟨image, hmem, hname⟩

/-- Where the loop goes on with a whole chunk, its bytes are the encoding of one. -/
theorem exists_chunk {size name tail : List UInt8} {length : ℕ} (hsize : size = bigEndian length)
    (hlt : length < 2 ^ 32) (h : bytes.drop offset = size ++ (name ++ tail))
    (hletters : fixed (times 4 isLetter) (asciiOf name) = true)
    (hroom : offset + 12 + length ≤ bytes.length) :
    ∃ chunk : PngChunk, chunk.name = name ∧ chunk.data.length = length ∧
      bytes.drop offset = chunk.encode ++ bytes.drop (offset + 12 + length) := by
  subst hsize
  have hname : name.length = 4 := by
    have hfixed := length_of_fixed hletters
    rwa [asciiOf, List.length_map, length_times] at hfixed
  have hlength := congrArg List.length h
  simp only [List.length_drop, List.length_append, bigEndian, List.length_cons, List.length_nil,
    hname] at hlength
  have hdata : (tail.take length).length = length := by
    rw [List.length_take]
    omega
  let chunk : PngChunk :=
    { name, data := tail.take length, crc := (tail.drop length).take 4
      name_letters := hletters
      data_length := by rwa [hdata]
      crc_length := by
        rw [List.length_take, List.length_drop]
        omega }
  have hencode : bytes.drop offset = chunk.encode ++ (tail.drop length).drop 4 := by
    have htail : tail = tail.take length ++ ((tail.drop length).take 4 ++
        (tail.drop length).drop 4) := by
      rw [List.take_append_drop, List.take_append_drop]
    rw [h, PngChunk.encode, hdata, List.append_assoc, List.append_assoc, List.append_assoc]
    exact congrArg (fun t => bigEndian length ++ (name ++ t)) htail
  refine ⟨chunk, rfl, hdata, ?_⟩
  have hrest := drop_add_of_drop hencode
  rw [chunk.length_encode] at hrest
  rw [hencode, ← hrest]
  show _ = chunk.encode ++ bytes.drop (offset + 12 + length)
  rw [← hdata, Nat.add_assoc]

/-- **What the scan accepts is a walk of chunks**, by induction on the bytes left. -/
theorem walk_of_scanPng {chunkIndex : ℕ} {sawImageData : Bool}
    (h : scanPng bytes offset chunkIndex sawImageData = .ok true) :
    ∃ chunks trailer, PngWalk chunkIndex sawImageData chunks trailer ∧
      bytes.drop offset = chunks.flatMap PngChunk.encode ++ trailer.encode := by
  induction hn : bytes.length - offset using Nat.strong_induction_on
    generalizing offset chunkIndex sawImageData with
  | _ n ih =>
    by_cases hroom : offset + 12 ≤ bytes.length
    swap
    · rw [scanPng_done (by omega)] at h
      cases h
    obtain ⟨size, name, tail, hsize, hname, htail, hdrop⟩ := exists_head (n := 4) (by omega)
    obtain ⟨length, hlt, hencode, hstep⟩ := @scanPng_step bytes offset _ _ _ chunkIndex
      sawImageData hsize hname htail hdrop
    rw [hstep] at h
    split_ifs at h with hbad hfirst hend
    · simp at h
    · simp at h
    all_goals
      simp only [Bool.or_eq_true, decide_eq_true_eq, Bool.not_eq_true', not_or,
        Bool.not_eq_false] at hbad
      obtain ⟨chunk, rfl, rfl, hchunk⟩ := exists_chunk hencode hlt hdrop hbad.2 (by omega)
    -- the trailer: nothing is left behind it
    · have hfound := Except.ok.inj h
      simp only [Bool.and_eq_true, Bool.or_eq_true, decide_eq_true_eq, hend] at hfound
      obtain ⟨⟨hempty, himage⟩, hlast⟩ := hfound
      have hindex : chunkIndex ≠ 0 := by
        rintro rfl
        exact hfirst (by rw [hend]; rfl)
      have hsaw : sawImageData = true := himage.resolve_right (by decide)
      rw [hlast, List.drop_length, List.append_nil] at hchunk
      exact ⟨[], chunk, ⟨⟨hend, List.length_eq_zero_iff.mp hempty⟩, by simp,
        fun hzero => absurd hzero hindex, .inl hsaw⟩, hchunk⟩
    · obtain ⟨chunks, trailer, hwalk, hrest⟩ := ih _ (by omega) h rfl
      refine ⟨chunk :: chunks, trailer, ⟨hwalk.trailer, ?_, ?_, ?_⟩, ?_⟩
      · intro other hother
        rcases List.mem_cons.mp hother with rfl | hother
        · exact hend
        · exact hwalk.only other hother
      · intro hzero
        simp only [hzero, decide_true, Bool.true_and, Bool.or_eq_true, decide_eq_true_eq, not_or,
          not_not] at hfirst
        exact ⟨chunk, chunks, rfl, hfirst.1, hfirst.2⟩
      · rcases hwalk.image with hsaw | ⟨image, hmem, hname⟩
        · simp only [Bool.or_eq_true, decide_eq_true_eq] at hsaw
          rcases hsaw with hsaw | hname
          · exact .inl hsaw
          · exact .inr ⟨chunk, List.mem_cons_self, hname⟩
        · exact .inr ⟨image, List.mem_cons_of_mem _ hmem, hname⟩
      · rw [hchunk, hrest, List.flatMap_cons, List.append_assoc]

/-- **The bytes of a PNG**: the signature, a header, chunks of which one holds image data, and
the only trailer. -/
def IsPng (bytes : List UInt8) : Prop :=
  ∃ (header : PngChunk) (body : List PngChunk) (trailer : PngChunk),
    bytes = pngSignature.map Nat.toUInt8 ++ (header.encode ++
      (body.flatMap PngChunk.encode ++ trailer.encode)) ∧
    (header.IsNamed "IHDR" ∧ header.data.length = 13) ∧
    (trailer.IsNamed "IEND" ∧ trailer.data = []) ∧
    (∀ chunk ∈ body, ¬ chunk.IsNamed "IEND") ∧ ∃ chunk ∈ body, chunk.IsNamed "IDAT"

/-- Bytes are determined by their numbers. -/
theorem map_toUInt8_eq {front : List UInt8} {expected : List ℕ}
    (h : front.map UInt8.toNat = expected) : expected.map Nat.toUInt8 = front := by
  subst h
  rw [List.map_map]
  refine (List.map_congr_left fun b _ => ?_).trans (List.map_id _)
  exact toUInt8_eq (Nat.mod_eq_of_lt b.toNat_lt)

/-- The check is the signature and the scan. -/
theorem looksLikePng_eq (h : 45 ≤ bytes.length) : looksLikePng bytes =
    if (bytes.take 8).map UInt8.toNat = pngSignature then scanPng bytes 8 0 false
    else .ok false := by
  have hsigned := @startsWith_of_drop bytes 0 (bytes.take 8) (bytes.drop 8) pngSignature
    (by simp) (by simp only [List.length_take, pngSignature, List.length_cons, List.length_nil]; omega)
  rw [looksLikePng, if_neg (by omega), hsigned]
  simp only [bind, Except.bind, decide_eq_true_eq]

/-- The check for PNG ends on every image. -/
theorem looksLikePng_total (bytes : List UInt8) : ∃ found, looksLikePng bytes = .ok found := by
  by_cases hlength : bytes.length < 45
  · exact ⟨false, by rw [looksLikePng, if_pos hlength]⟩
  · rw [looksLikePng_eq (by omega)]
    split_ifs
    · exact scanPng_total bytes 8 0 false
    · exact ⟨false, rfl⟩

/-- **`looksLikePng` takes exactly the bytes of a PNG.** -/
theorem looksLikePng_iff : looksLikePng bytes = .ok true ↔ IsPng bytes := by
  constructor
  · intro h
    by_cases hlength : bytes.length < 45
    · rw [looksLikePng, if_pos hlength] at h
      cases h
    · rw [looksLikePng_eq (by omega)] at h
      split_ifs at h with hsigned
      · obtain ⟨chunks, trailer, hwalk, hdrop⟩ := walk_of_scanPng h
        obtain ⟨header, body, rfl, hheader⟩ := hwalk.header rfl
        have himage : ∃ chunk ∈ body, chunk.IsNamed "IDAT" := by
          obtain ⟨image, hmem, hname⟩ := hwalk.image.resolve_left (by simp)
          rcases List.mem_cons.mp hmem with rfl | hmem
          · have hheaderName := hheader.1
            rw [PngChunk.IsNamed] at hname hheaderName
            rw [hname] at hheaderName
            exact absurd hheaderName (by decide)
          · exact ⟨image, hmem, hname⟩
        refine ⟨header, body, trailer, ?_, hheader, hwalk.trailer,
          fun chunk hchunk => hwalk.only chunk (List.mem_cons_of_mem _ hchunk), himage⟩
        rw [List.flatMap_cons, List.append_assoc] at hdrop
        rw [map_toUInt8_eq hsigned, ← hdrop, List.take_append_drop]
      · cases h
  · rintro ⟨header, body, trailer, hbytes, hheader, htrailer, honly, himage⟩
    have hlength : 45 ≤ bytes.length := by
      have hheaderLength := header.length_encode
      have htrailerLength := trailer.length_encode
      rw [hheader.2] at hheaderLength
      rw [hbytes]
      simp only [List.length_append, List.length_map, pngSignature, List.length_cons,
        List.length_nil]
      omega
    have height : (pngSignature.map Nat.toUInt8).length = 8 := rfl
    have hsigned : (bytes.take 8).map UInt8.toNat = pngSignature := by
      rw [hbytes, List.take_left' height]
      decide
    have hdrop : bytes.drop 8 =
        (header :: body).flatMap PngChunk.encode ++ trailer.encode := by
      rw [hbytes, List.drop_left' height, List.flatMap_cons, List.append_assoc]
    have hheaderNot : ¬ header.IsNamed "IEND" := by
      have hname := hheader.1
      rw [PngChunk.IsNamed] at hname
      rw [PngChunk.IsNamed, hname]
      decide
    rw [looksLikePng_eq hlength, if_pos hsigned]
    refine scanPng_of_walk ⟨htrailer, ?_, fun _ => ⟨header, body, rfl, hheader⟩, ?_⟩ hdrop
    · intro chunk hchunk
      rcases List.mem_cons.mp hchunk with rfl | hchunk
      · exact hheaderNot
      · exact honly chunk hchunk
    · obtain ⟨image, hmem, hname⟩ := himage
      exact .inr ⟨image, List.mem_cons_of_mem _ hmem, hname⟩

/-! ## WebP -/

/-- A chunk of a WebP: a printable name, its data and a byte behind data of odd length. -/
structure WebPChunk where
  name : List UInt8
  data : List UInt8
  padding : List UInt8
  name_printable : fixed (times 4 isPrintable) (asciiOf name) = true
  data_length : data.length < 2 ^ 32
  padding_length : padding.length = data.length % 2

namespace WebPChunk

def encode (chunk : WebPChunk) : List UInt8 :=
  chunk.name ++ littleEndian chunk.data.length ++ chunk.data ++ chunk.padding

/-- The bytes a chunk takes: its head and its data, padded. -/
def paddedLength (chunk : WebPChunk) : ℕ := 8 + (chunk.data.length + chunk.data.length % 2)

/-- The chunk is one of those that hold the image. -/
def IsImage (chunk : WebPChunk) : Prop := asciiOf chunk.name ∈ webpImageTypes

theorem name_length (chunk : WebPChunk) : chunk.name.length = 4 := by
  have h := length_of_fixed chunk.name_printable
  rwa [asciiOf, List.length_map, length_times] at h

theorem length_encode (chunk : WebPChunk) : chunk.encode.length = chunk.paddedLength := by
  have hname := chunk.name_length
  have hpadding := chunk.padding_length
  simp only [encode, paddedLength, littleEndian, List.length_append, List.length_cons,
    List.length_nil]
  omega

end WebPChunk

/-- What the scanner does at one chunk. -/
theorem scanWebP_step {name size tail : List UInt8} {sawImageChunk : Bool}
    (hname : name.length = 4) (hsize : size.length = 4)
    (h : bytes.drop offset = name ++ (size ++ tail)) :
    ∃ length, length < 2 ^ 32 ∧ size = littleEndian length ∧
      scanWebP bytes offset sawImageChunk =
        if offset + 8 + (length + length % 2) > bytes.length ||
            !fixed (times 4 isPrintable) (asciiOf name) then .ok false
        else scanWebP bytes (offset + 8 + (length + length % 2))
          (sawImageChunk || webpImageTypes.contains (asciiOf name)) := by
  have hascii := ascii_of_drop h
  rw [hname] at hascii
  obtain ⟨length, hlength, hlt, hencode⟩ := readUint32LittleEndian_of_drop hsize
    (drop_add_of_drop h)
  rw [hname] at hlength
  have hroom : offset + 8 ≤ bytes.length := by
    have hdrop := congrArg List.length h
    simp only [List.length_drop, List.length_append] at hdrop
    omega
  refine ⟨length, hlt, hencode, ?_⟩
  rw [scanWebP, if_pos hroom, hascii]
  simp only [bind, Except.bind, hlength]

/-- The scan ends where no header fits. -/
theorem scanWebP_done {sawImageChunk : Bool} (h : bytes.length < offset + 8) :
    scanWebP bytes offset sawImageChunk = .ok (sawImageChunk && offset = bytes.length) := by
  rw [scanWebP, if_neg (by omega)]

/-- The scan ends on every image. -/
theorem scanWebP_total (bytes : List UInt8) (offset : ℕ) (sawImageChunk : Bool) :
    ∃ found, scanWebP bytes offset sawImageChunk = .ok found := by
  induction hn : bytes.length - offset using Nat.strong_induction_on
    generalizing offset sawImageChunk with
  | _ n ih =>
    by_cases hroom : offset + 8 ≤ bytes.length
    · obtain ⟨name, size, tail, hname, hsize, -, hdrop⟩ := exists_head (n := 0) hroom
      obtain ⟨length, -, -, hstep⟩ := scanWebP_step hname hsize hdrop
      rw [hstep]
      split_ifs
      · exact ⟨_, rfl⟩
      · exact ih _ (by omega) _ _ rfl
    · exact ⟨_, scanWebP_done (by omega)⟩

/-- The step of the loop at the encoding of a chunk. -/
theorem scanWebP_chunk {chunk : WebPChunk} {rest : List UInt8} {sawImageChunk : Bool}
    (h : bytes.drop offset = chunk.encode ++ rest) :
    scanWebP bytes offset sawImageChunk = scanWebP bytes (offset + chunk.encode.length)
      (sawImageChunk || webpImageTypes.contains (asciiOf chunk.name)) := by
  have hdrop : bytes.drop offset = chunk.name ++
      (littleEndian chunk.data.length ++ (chunk.data ++ (chunk.padding ++ rest))) := by
    simpa only [WebPChunk.encode, List.append_assoc] using h
  obtain ⟨length, hlt, hencode, hstep⟩ := @scanWebP_step bytes offset _ _ _ sawImageChunk
    chunk.name_length rfl hdrop
  obtain rfl := littleEndian_injective chunk.data_length hlt hencode
  have hlength := congrArg List.length h
  rw [List.length_drop, List.length_append, chunk.length_encode, WebPChunk.paddedLength] at hlength
  have hroom : ¬ offset + 8 + (chunk.data.length + chunk.data.length % 2) > bytes.length := by
    omega
  rw [hstep, decide_eq_false hroom, chunk.name_printable, chunk.length_encode,
    WebPChunk.paddedLength, Nat.add_assoc]
  rfl

/-- **The scan accepts every list of chunks with an image.** -/
theorem scanWebP_of_chunks {chunks : List WebPChunk} {sawImageChunk : Bool}
    (himage : sawImageChunk = true ∨ ∃ chunk ∈ chunks, chunk.IsImage)
    (hoffset : offset ≤ bytes.length)
    (h : bytes.drop offset = chunks.flatMap WebPChunk.encode) :
    scanWebP bytes offset sawImageChunk = .ok true := by
  induction chunks generalizing offset sawImageChunk with
  | nil =>
    have hsaw : sawImageChunk = true := himage.resolve_right (by simp)
    have hend : offset = bytes.length := by
      have hlength := congrArg List.length h
      simp only [List.length_drop, List.flatMap_nil, List.length_nil] at hlength
      omega
    rw [scanWebP_done (by omega), hsaw, hend]
    simp
  | cons chunk chunks ih =>
    have hdrop : bytes.drop offset = chunk.encode ++ chunks.flatMap WebPChunk.encode := h
    have hlength := congrArg List.length hdrop
    rw [List.length_drop, List.length_append] at hlength
    have hhead : 8 ≤ chunk.encode.length := by
      rw [chunk.length_encode, WebPChunk.paddedLength]
      omega
    rw [scanWebP_chunk hdrop]
    refine ih ?_ (by omega) (drop_add_of_drop hdrop)
    rcases himage with hsaw | ⟨image, hmem, hname⟩
    · exact .inl (by rw [hsaw]; rfl)
    · rcases List.mem_cons.mp hmem with rfl | hmem
      · refine .inl ?_
        rw [List.contains_iff_mem.mpr hname, Bool.or_true]
      · exact .inr ⟨image, hmem, hname⟩

/-- Where the loop goes on, the bytes are the encoding of a chunk. -/
theorem exists_webpChunk {name size tail : List UInt8} {length : ℕ}
    (hsize : size = littleEndian length) (hlt : length < 2 ^ 32)
    (h : bytes.drop offset = name ++ (size ++ tail))
    (hprintable : fixed (times 4 isPrintable) (asciiOf name) = true)
    (hroom : offset + 8 + (length + length % 2) ≤ bytes.length) :
    ∃ chunk : WebPChunk, chunk.name = name ∧ chunk.data.length = length ∧
      bytes.drop offset = chunk.encode ++ bytes.drop (offset + 8 + (length + length % 2)) := by
  subst hsize
  have hname : name.length = 4 := by
    have hfixed := length_of_fixed hprintable
    rwa [asciiOf, List.length_map, length_times] at hfixed
  have hlength := congrArg List.length h
  simp only [List.length_drop, List.length_append, littleEndian, List.length_cons,
    List.length_nil, hname] at hlength
  have hdata : (tail.take length).length = length := by
    rw [List.length_take]
    omega
  let chunk : WebPChunk :=
    { name, data := tail.take length, padding := (tail.drop length).take (length % 2)
      name_printable := hprintable
      data_length := by rwa [hdata]
      padding_length := by
        rw [hdata, List.length_take, List.length_drop]
        omega }
  have hencode : bytes.drop offset = chunk.encode ++ (tail.drop length).drop (length % 2) := by
    have htail : tail = tail.take length ++ ((tail.drop length).take (length % 2) ++
        (tail.drop length).drop (length % 2)) := by
      rw [List.take_append_drop, List.take_append_drop]
    rw [h, WebPChunk.encode, hdata, List.append_assoc, List.append_assoc, List.append_assoc]
    exact congrArg (fun t => name ++ (littleEndian length ++ t)) htail
  refine ⟨chunk, rfl, hdata, ?_⟩
  have hrest := drop_add_of_drop hencode
  rw [chunk.length_encode, WebPChunk.paddedLength] at hrest
  rw [hencode, ← hrest]
  show _ = chunk.encode ++ bytes.drop (offset + 8 + (length + length % 2))
  rw [← hdata, Nat.add_assoc]

/-- **What the scan accepts is a list of chunks with an image.** -/
theorem chunks_of_scanWebP {sawImageChunk : Bool} (hoffset : offset ≤ bytes.length)
    (h : scanWebP bytes offset sawImageChunk = .ok true) :
    ∃ chunks : List WebPChunk, (sawImageChunk = true ∨ ∃ chunk ∈ chunks, chunk.IsImage) ∧
      bytes.drop offset = chunks.flatMap WebPChunk.encode := by
  induction hn : bytes.length - offset using Nat.strong_induction_on
    generalizing offset sawImageChunk with
  | _ n ih =>
    by_cases hroom : offset + 8 ≤ bytes.length
    · obtain ⟨name, size, tail, hname, hsize, -, hdrop⟩ := exists_head (n := 0) hroom
      obtain ⟨length, hlt, hencode, hstep⟩ := @scanWebP_step bytes offset _ _ _ sawImageChunk
        hname hsize hdrop
      rw [hstep] at h
      split_ifs at h with hbad
      · simp at h
      · simp only [Bool.or_eq_true, decide_eq_true_eq, Bool.not_eq_true', not_or,
          Bool.not_eq_false] at hbad
        obtain ⟨chunk, rfl, rfl, hchunk⟩ := exists_webpChunk hencode hlt hdrop hbad.2 (by omega)
        obtain ⟨chunks, himage, hrest⟩ := ih _ (by omega) (by omega) h rfl
        refine ⟨chunk :: chunks, ?_, by rw [hchunk, hrest, List.flatMap_cons]⟩
        rcases himage with hsaw | ⟨image, hmem, hname⟩
        · rcases Bool.or_eq_true_iff.mp hsaw with hsaw | hname
          · exact .inl hsaw
          · exact .inr ⟨chunk, List.mem_cons_self, List.contains_iff_mem.mp hname⟩
        · exact .inr ⟨image, List.mem_cons_of_mem _ hmem, hname⟩
    · rw [scanWebP_done (by omega)] at h
      have hfound := Except.ok.inj h
      simp only [Bool.and_eq_true, decide_eq_true_eq] at hfound
      exact ⟨[], .inl hfound.1, by rw [hfound.2, List.drop_length]; rfl⟩

/-- **The bytes of a WebP**: a RIFF header whose size is what the chunks take, and the chunks, of
which one holds an image. -/
def IsWebP (bytes : List UInt8) : Prop :=
  ∃ chunks : List WebPChunk, ∃ size < 2 ^ 32,
    bytes = (js "RIFF").map UInt16.toUInt8 ++ (littleEndian size ++
      ((js "WEBP").map UInt16.toUInt8 ++ chunks.flatMap WebPChunk.encode)) ∧
    size = 4 + (chunks.map WebPChunk.paddedLength).sum ∧ ∃ chunk ∈ chunks, chunk.IsImage

/-- Bytes are determined by their characters. -/
theorem map_toUInt8_asciiOf (l : List UInt8) : (asciiOf l).map UInt16.toUInt8 = l := by
  rw [asciiOf, List.map_map]
  refine (List.map_congr_left fun b _ => ?_).trans (List.map_id _)
  apply UInt8.toNat.inj
  have hb := b.toNat_lt
  simp only [Function.comp_apply, id_eq, UInt16.toNat_toUInt8]
  have hwide : b.toNat.toUInt16.toNat = b.toNat := UInt16.toNat_ofNat_of_lt' (hb.trans (by decide))
  rw [hwide]
  omega

/-- The chunks are as long as their padded lengths together. -/
theorem sum_paddedLength (chunks : List WebPChunk) :
    (chunks.flatMap WebPChunk.encode).length = (chunks.map WebPChunk.paddedLength).sum := by
  rw [List.length_flatMap]
  congr 1
  exact List.map_congr_left fun chunk _ => chunk.length_encode

/-- The head of a file, read. -/
theorem looksLikeWebP_eq {riff size webp rest : List UInt8} (hriff : riff.length = 4)
    (hsize : size.length = 4) (hwebp : webp.length = 4)
    (hbytes : bytes = riff ++ (size ++ (webp ++ rest))) (hlength : 20 ≤ bytes.length) :
    ∃ n < 2 ^ 32, size = littleEndian n ∧ looksLikeWebP bytes =
      if asciiOf riff = js "RIFF" ∧ asciiOf webp = js "WEBP" ∧ n = bytes.length - 8 then
        scanWebP bytes 12 false
      else .ok false := by
  have hdrop : bytes.drop 0 = riff ++ (size ++ (webp ++ rest)) := hbytes
  have hfour := drop_add_of_drop hdrop
  rw [hriff] at hfour
  have height := drop_add_of_drop hfour
  rw [hsize] at height
  have hasciiRiff := ascii_of_drop hdrop
  have hasciiWebp := ascii_of_drop height
  rw [hriff] at hasciiRiff
  rw [hwebp] at hasciiWebp
  obtain ⟨n, hn, hlt, hencode⟩ := readUint32LittleEndian_of_drop hsize hfour
  refine ⟨n, hlt, hencode, ?_⟩
  rw [looksLikeWebP, if_neg (by omega), hasciiRiff]
  simp only [bind, Except.bind, hasciiWebp, hn]
  by_cases h : asciiOf riff = js "RIFF" ∧ asciiOf webp = js "WEBP" ∧ n = bytes.length - 8
  · rw [if_pos h, h.1, h.2.1, ← h.2.2]
    simp
  · rw [if_neg h, if_pos]
    simp only [Bool.or_eq_true, decide_eq_true_eq]
    tauto

/-- The head is three groups of four bytes. -/
theorem exists_webpHead {bytes : List UInt8} (h : 20 ≤ bytes.length) : ∃ riff size webp rest : List UInt8,
    riff.length = 4 ∧ size.length = 4 ∧ webp.length = 4 ∧
      bytes = riff ++ (size ++ (webp ++ rest)) := by
  obtain ⟨riff, size, tail, hriff, hsize, htail, hdrop⟩ :=
    @exists_head bytes 0 4 (by omega)
  exact ⟨riff, size, tail.take 4, tail.drop 4, hriff, hsize, by rw [List.length_take]; omega,
    by rw [List.take_append_drop]; exact hdrop⟩

/-- The check for WebP ends on every image. -/
theorem looksLikeWebP_total (bytes : List UInt8) : ∃ found, looksLikeWebP bytes = .ok found := by
  by_cases hlength : bytes.length < 20
  · exact ⟨false, by rw [looksLikeWebP, if_pos hlength]⟩
  · obtain ⟨riff, size, webp, rest, hriff, hsize, hwebp, hbytes⟩ :=
      @exists_webpHead bytes (by omega)
    obtain ⟨n, -, -, heq⟩ := looksLikeWebP_eq hriff hsize hwebp hbytes (by omega)
    rw [heq]
    split_ifs
    · exact scanWebP_total bytes 12 false
    · exact ⟨false, rfl⟩

/-- **`looksLikeWebP` takes exactly the bytes of a WebP.** -/
theorem looksLikeWebP_iff : looksLikeWebP bytes = .ok true ↔ IsWebP bytes := by
  constructor
  · intro h
    by_cases hlength : bytes.length < 20
    · rw [looksLikeWebP, if_pos hlength] at h
      cases h
    · obtain ⟨riff, size, webp, rest, hriff, hsize, hwebp, hbytes⟩ :=
        @exists_webpHead bytes (by omega)
      obtain ⟨n, hlt, rfl, heq⟩ := looksLikeWebP_eq hriff hsize hwebp hbytes (by omega)
      rw [heq] at h
      split_ifs at h with hhead
      swap
      · cases h
      obtain ⟨hriffName, hwebpName, hn⟩ := hhead
      obtain ⟨chunks, himage, hdrop⟩ := chunks_of_scanWebP (by omega) h
      have hrest : bytes.drop 12 = rest := by
        have htwelve : (riff ++ (littleEndian n ++ webp)).length = 12 := by
          simp [hriff, hwebp, littleEndian]
        rw [hbytes, ← List.append_assoc _ webp, ← List.append_assoc riff,
          List.drop_left' htwelve]
      rw [hrest] at hdrop
      refine ⟨chunks, n, hlt, ?_, ?_, himage.resolve_left (by simp)⟩
      · rw [← hriffName, ← hwebpName, map_toUInt8_asciiOf, map_toUInt8_asciiOf, ← hdrop]
        exact hbytes
      · rw [hn, hbytes, ← sum_paddedLength, ← hdrop]
        simp only [List.length_append, hriff, hwebp, hsize]
        omega
  · rintro ⟨chunks, n, hlt, hbytes, hn, himage⟩
    have hsum := sum_paddedLength chunks
    have hlength : bytes.length = n + 8 := by
      rw [hbytes, hn, ← hsum]
      simp only [List.length_append, List.length_map, littleEndian, List.length_cons,
        List.length_nil]
      have hriff : (js "RIFF").length = 4 := rfl
      have hwebp : (js "WEBP").length = 4 := rfl
      omega
    have hchunk : 8 ≤ (chunks.flatMap WebPChunk.encode).length := by
      obtain ⟨chunk, hmem, -⟩ := himage
      obtain ⟨front, back, rfl⟩ := List.append_of_mem hmem
      have hhead := chunk.length_encode
      rw [WebPChunk.paddedLength] at hhead
      simp only [List.flatMap_append, List.flatMap_cons, List.length_append]
      omega
    have hsize : (littleEndian n).length = 4 := rfl
    obtain ⟨m, hm, hencode, heq⟩ := looksLikeWebP_eq rfl hsize rfl hbytes (by omega)
    obtain rfl := littleEndian_injective hlt hm hencode
    have htwelve : ((js "RIFF").map UInt16.toUInt8 ++ (littleEndian n ++
        (js "WEBP").map UInt16.toUInt8)).length = 12 := rfl
    have hdrop : bytes.drop 12 = chunks.flatMap WebPChunk.encode := by
      rw [hbytes, ← List.append_assoc (littleEndian n), ← List.append_assoc,
        List.drop_left' htwelve]
    rw [heq, if_pos ⟨by decide, by decide, by omega⟩]
    exact scanWebP_of_chunks (.inr himage) (by omega) hdrop

/-! ## One type -/

/-- A byte within the image is read. -/
theorem byteAt_of_lt (h : offset < bytes.length) :
    byteAt bytes offset = .ok bytes[offset].toNat := by
  rw [byteAt, List.getElem?_eq_getElem h]
  rfl

/-- The check for JPEG ends on every image. -/
theorem looksLikeJpeg_total (bytes : List UInt8) : ∃ found, looksLikeJpeg bytes = .ok found := by
  by_cases hlength : bytes.length < 8
  · exact ⟨false, by rw [looksLikeJpeg, if_pos hlength]⟩
  · have hread : ∀ i, i < bytes.length → ∃ n, byteAt bytes i = .ok n :=
      fun i hi => ⟨_, byteAt_of_lt hi⟩
    obtain ⟨b0, h0⟩ := hread 0 (by omega)
    obtain ⟨b1, h1⟩ := hread 1 (by omega)
    obtain ⟨b2, h2⟩ := hread 2 (by omega)
    obtain ⟨b3, h3⟩ := hread 3 (by omega)
    obtain ⟨b4, h4⟩ := hread (bytes.length - 2) (by omega)
    obtain ⟨b5, h5⟩ := hread (bytes.length - 1) (by omega)
    rw [looksLikeJpeg, if_neg hlength, h0, h1, h2, h3, h4, h5]
    exact ⟨_, rfl⟩

/-- A JPEG begins with its own byte. -/
theorem head_of_looksLikeJpeg (h : looksLikeJpeg bytes = .ok true) : bytes.head? = some 0xff := by
  cases bytes with
  | nil => cases h
  | cons b rest =>
    by_cases hlength : (b :: rest).length < 8
    · rw [looksLikeJpeg, if_pos hlength] at h
      cases h
    · rw [looksLikeJpeg, if_neg hlength] at h
      obtain ⟨b0, h0, h⟩ := bind_eq_ok.mp h
      obtain ⟨b1, -, h⟩ := bind_eq_ok.mp h
      obtain ⟨b2, -, h⟩ := bind_eq_ok.mp h
      obtain ⟨b3, -, h⟩ := bind_eq_ok.mp h
      obtain ⟨b4, -, h⟩ := bind_eq_ok.mp h
      obtain ⟨b5, -, h⟩ := bind_eq_ok.mp h
      have hfound := Except.ok.inj h
      simp only [Bool.and_eq_true, decide_eq_true_eq] at hfound
      obtain rfl : b.toNat = b0 := Except.ok.inj h0
      have hb : b = 0xff := UInt8.toNat.inj hfound.1.1.1.1.1.1
      rw [hb]
      rfl

/-- So does a PNG. -/
theorem IsPng.head (h : IsPng bytes) : bytes.head? = some 0x89 := by
  obtain ⟨header, body, trailer, rfl, -⟩ := h
  rfl

/-- So does a WebP. -/
theorem IsWebP.head (h : IsWebP bytes) : bytes.head? = some 0x52 := by
  obtain ⟨chunks, n, -, rfl, -⟩ := h
  rfl

/-- The first byte tells two types apart. -/
theorem and_eq_false_of_head {found other : Bool} {b c : UInt8} (hne : b ≠ c)
    (hfound : found = true → bytes.head? = some b) (hother : other = true → bytes.head? = some c) :
    (found && other) = false := by
  by_contra h
  obtain ⟨h1, h2⟩ := Bool.and_eq_true_iff.mp (Bool.not_eq_false _ ▸ h)
  rw [hfound h1] at hother
  exact hne (Option.some.inj (hother h2))

/-- **The containers of an image are recognised exactly.** On every byte string the three
recognisers end without a read outside the bytes; what is taken for a PNG or a WebP is tiled by
chunks, and what is tiled so is taken; at most one type is, and it is the one returned. -/
theorem image_containers_exact (bytes : List UInt8) :
    (looksLikePng bytes = .ok true ↔ IsPng bytes) ∧
    (looksLikeWebP bytes = .ok true ↔ IsWebP bytes) ∧
    ∃ jpeg png webp : Bool, looksLikeJpeg bytes = .ok jpeg ∧ looksLikePng bytes = .ok png ∧
      looksLikeWebP bytes = .ok webp ∧
      (jpeg && png) = false ∧ (jpeg && webp) = false ∧ (png && webp) = false ∧
      detectAllowedImageMimeType bytes =
        .ok (if jpeg then some .jpeg else if png then some .png else if webp then some .webp
          else none) := by
  refine ⟨looksLikePng_iff, looksLikeWebP_iff, ?_⟩
  obtain ⟨jpeg, hjpeg⟩ := looksLikeJpeg_total bytes
  obtain ⟨png, hpng⟩ := looksLikePng_total bytes
  obtain ⟨webp, hwebp⟩ := looksLikeWebP_total bytes
  have hjpegHead : jpeg = true → bytes.head? = some 0xff := by
    rintro rfl
    exact head_of_looksLikeJpeg hjpeg
  have hpngHead : png = true → bytes.head? = some 0x89 := by
    rintro rfl
    exact (looksLikePng_iff.mp hpng).head
  have hwebpHead : webp = true → bytes.head? = some 0x52 := by
    rintro rfl
    exact (looksLikeWebP_iff.mp hwebp).head
  refine ⟨jpeg, png, webp, hjpeg, hpng, hwebp, and_eq_false_of_head (by decide) hjpegHead hpngHead,
    and_eq_false_of_head (by decide) hjpegHead hwebpHead,
    and_eq_false_of_head (by decide) hpngHead hwebpHead, ?_⟩
  · rw [detectAllowedImageMimeType, hjpeg, hpng, hwebp]
    cases jpeg <;> cases png <;> rfl

end ImageAttachment

end SinoChat
