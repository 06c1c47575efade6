import SinoChat.Model.Terms

/-!
# What a publication does to the table of documents

Where the documents follow one another without a gap, the checks of a publication on the
open and the overlapping documents pass, and it succeeds exactly where its version, its
content and its date are new and no acceptance lies behind that date. It closes the last
document at the date of the new one and leaves every other row alone.
-/

namespace SinoChat

open Js

namespace Terms

variable {digest : Digest} {db db' : Db} {input : TermsPublicationInput} {bytes : List UInt8}
  {id : Uuid} {createdAt e t : ℤ} {d : TermsDocument} {rows : List TermsDocument}
  {result : PublicationResult}

/-! ## Publications -/

/-- What a command published. -/
structure Publication where
  version : JsString
  sourceType : SourceType
  content : List UInt8
  effectiveAt : ℤ
  deriving DecidableEq

/-- What an input publishes. -/
def TermsPublicationInput.publication (input : TermsPublicationInput) (bytes : List UInt8) :
    Publication :=
  ⟨input.version, input.sourceType, bytes, input.effectiveAt⟩

/-- What a row says was published. -/
def TermsDocument.publication (d : TermsDocument) : Publication :=
  ⟨d.version, d.contentType.getD .plain, d.content.getD [], d.effectiveAt⟩

/-- The text of a document: there is one, and it is not blank. -/
structure Publication.Valid (p : Publication) : Prop where
  version : isVersion p.version = true
  size : 1 ≤ p.content.length ∧ p.content.length ≤ maxTermsBytes
  text : ∃ text, decodeText p.content = some text ∧ trim text ≠ [] ∧ text.contains 0 = false

/-- The row has the content of its publication, and the digest of that. -/
structure Written (digest : Digest) (d : TermsDocument) : Prop where
  contentHash : d.contentHash = digest.sha256Hex d.publication.content
  contentType : d.contentType = some d.publication.sourceType
  content : d.content = some d.publication.content
  byteSize : d.byteSize = some d.publication.content.length

/-- A new document is complete. -/
theorem written_newDocument : Written digest (newDocument digest input bytes id createdAt) :=
  ⟨rfl, rfl, rfl, rfl⟩

@[simp] theorem publication_newDocument :
    (newDocument digest input bytes id createdAt).publication = input.publication bytes := rfl

@[simp] theorem publication_retire : (d.retire e).publication = d.publication := rfl

/-- A retired one stays complete. -/
theorem Written.retire (h : Written digest d) : Written digest (d.retire e) :=
  ⟨h.contentHash, h.contentType, h.content, h.byteSize⟩

/-- The service takes it for complete. -/
theorem Written.complete (h : Written digest d) : d.complete = true := by
  simp [TermsDocument.complete, h.content, h.contentType, h.byteSize]

/-- **Which bytes are a document.** -/
theorem validate_eq_ok {inspected : Inspected} :
    validateTermsDocument digest bytes = .ok inspected ↔
      (1 ≤ bytes.length ∧ bytes.length ≤ maxTermsBytes) ∧
        (∃ text, decodeText bytes = some text ∧ trim text ≠ [] ∧ text.contains 0 = false) ∧
        inspected = ⟨bytes.length, digest.sha256Hex bytes⟩ := by
  have hsize : ((bytes.length != 0 && decide (bytes.length ≤ maxTermsBytes)) = true) ↔
      1 ≤ bytes.length ∧ bytes.length ≤ maxTermsBytes := by
    rw [Bool.and_eq_true, bne_iff_ne, decide_eq_true_iff]
    omega
  unfold validateTermsDocument
  constructor
  · intro h
    obtain ⟨_, hlen, h⟩ := bind_eq_ok.mp h
    obtain ⟨text, htext, h⟩ := bind_eq_ok.mp h
    obtain ⟨_, htrim, h⟩ := bind_eq_ok.mp h
    obtain ⟨_, hnul, h⟩ := bind_eq_ok.mp h
    have htrim' := require_eq_ok.mp htrim
    have hnul' := require_eq_ok.mp hnul
    refine ⟨hsize.mp (require_eq_ok.mp hlen), ⟨text, orThrow_eq_ok.mp htext, ?_, ?_⟩, ?_⟩
    · simpa using htrim'
    · simpa using hnul'
    · exact (Except.ok.inj h).symm
  · rintro ⟨hlen, ⟨text, htext, htrim, hnul⟩, rfl⟩
    refine bind_eq_ok.mpr ⟨(), require_eq_ok.mpr (hsize.mpr hlen), ?_⟩
    refine bind_eq_ok.mpr ⟨text, orThrow_eq_ok.mpr htext, ?_⟩
    refine bind_eq_ok.mpr ⟨(), require_eq_ok.mpr (by simpa using htrim), ?_⟩
    exact bind_eq_ok.mpr ⟨(), require_eq_ok.mpr (by rw [hnul]; rfl), rfl⟩

/-! ## Queries -/

/-- The row after a publication that takes effect at `e`. -/
def closeAt (e : ℤ) (d : TermsDocument) : TermsDocument :=
  if d.retiredAt = none then d.retire e else d

@[simp] theorem closeAt_id : (closeAt e d).id = d.id := by
  unfold closeAt
  split_ifs <;> rfl

@[simp] theorem closeAt_publication : (closeAt e d).publication = d.publication := by
  unfold closeAt
  split_ifs <;> rfl

theorem closeAt_effectiveAt : (closeAt e d).effectiveAt = d.effectiveAt :=
  congrArg Publication.effectiveAt closeAt_publication

theorem closeAt_version : (closeAt e d).version = d.version :=
  congrArg Publication.version closeAt_publication

theorem closeAt_contentHash : (closeAt e d).contentHash = d.contentHash := by
  unfold closeAt
  split_ifs <;> rfl

/-- A document that is closed stays complete. -/
theorem Written.closeAt (h : Written digest d) : Written digest (closeAt e d) := by
  unfold Terms.closeAt
  split_ifs
  · exact h.retire
  · exact h

/-- The documents follow one another without a gap. -/
abbrev Db.Gapless (db : Db) : Prop :=
  Timeline.Abutting TermsDocument.effectiveAt TermsDocument.retiredAt db.documents.rows

theorem newestFirst_toList (o : Option TermsDocument) : Db.newestFirst o.toList = o.toList := by
  cases o <;> rfl

/-- The first of the newest started last. -/
theorem effectiveAt_le_newest {l b : TermsDocument} (h : (Db.newestFirst rows).head? = some l)
    (hb : b ∈ rows) : b.effectiveAt ≤ l.effectiveAt := by
  have hle := List.head_sortBy_le h hb
  rcases Prod.Lex.toLex_le_toLex.mp hle with hlt | ⟨heq, -⟩
  · exact (OrderDual.toDual_lt_toDual.mp hlt).le
  · exact (OrderDual.toDual.injective heq).ge

/-- The newest document is one of them. -/
theorem mem_of_newest {l : TermsDocument} (h : (Db.newestFirst rows).head? = some l) : l ∈ rows :=
  List.mem_sortBy.mp (List.mem_of_mem_head? h)

/-- The open document is the last. -/
theorem open_rows (h : db.Gapless) :
    (db.documents.rows.filter fun d => decide (d.retiredAt = none)) =
      db.documents.rows.getLast?.toList :=
  h.filter_eq_toList fun a => by rw [decide_eq_true_iff]; exact h.stop_eq_none_iff

/-- The newest document is the last. -/
theorem newest_eq_getLast? (h : db.Gapless) :
    (Db.newestFirst db.documents.rows).head? = db.documents.rows.getLast? := by
  cases hlast : db.documents.rows.getLast? with
  | none =>
    rw [List.getLast?_eq_none_iff.mp hlast]
    rfl
  | some l =>
    have hmem : l ∈ db.documents.rows := List.mem_of_getLast? hlast
    have hne : Db.newestFirst db.documents.rows ≠ [] :=
      List.ne_nil_of_mem (List.mem_sortBy.mpr hmem)
    obtain ⟨n, hn⟩ : ∃ n, (Db.newestFirst db.documents.rows).head? = some n :=
      ⟨_, List.head?_eq_some_head hne⟩
    rw [hn]
    -- the newest starts no earlier than the last, behind which no document starts
    have hle := effectiveAt_le_newest hn hmem
    have hopen : l.retiredAt = none := (h.stop_eq_none_iff.mpr hlast).2
    have hforce : Timeline.entryAt TermsDocument.effectiveAt db.documents.rows n.effectiveAt =
        some l := h.covers_iff.mp ⟨hmem, by simp [hle, hopen]⟩
    have hmax : n.effectiveAt ≤ l.effectiveAt :=
      ((Timeline.entryAt_eq_some_iff h.ordered).mp hforce).2.2 n (mem_of_newest hn) le_rfl
    exact congrArg some (h.ordered.eq_of_start_eq (mem_of_newest hn) hmem (le_antisymm hmax hle))

/-- One document at most is in force. -/
theorem overlapping_le_one (h : db.Gapless) (t : ℤ) :
    db.documents.count (TermsDocument.inForce t) ≤ 1 := by
  have hfilter := congrArg List.length (h.filter_covers t)
  rw [← List.countP_eq_length_filter] at hfilter
  refine hfilter.le.trans ?_
  cases Timeline.entryAt TermsDocument.effectiveAt db.documents.rows t <;> simp

/-- **The document in force**, as both queries find it. -/
theorem termsInForce_eq (h : db.Gapless) (hwritten : ∀ d ∈ db.documents, Written digest d) (t : ℤ) :
    db.termsInForce t = Timeline.entryAt TermsDocument.effectiveAt db.documents.rows t := by
  have hfilter : (db.documents.rows.filter fun d => d.complete && d.inForce t) =
      db.documents.rows.filter (TermsDocument.inForce t) :=
    List.filter_congr fun d hd => by rw [(hwritten d hd).complete, Bool.true_and]
  unfold Db.termsInForce
  rw [hfilter]
  have hone : db.documents.rows.filter (TermsDocument.inForce t) =
      (Timeline.entryAt TermsDocument.effectiveAt db.documents.rows t).toList := h.filter_covers t
  rw [hone, newestFirst_toList]
  cases Timeline.entryAt TermsDocument.effectiveAt db.documents.rows t <;> rfl

/-! ## The writes -/

/-- A trigger protects the acceptances within the time in force. -/
theorem protects_iff : db.protects d = true ↔
    ∀ a ∈ db.acceptances, a.termsDocumentId = d.id → d.inForce a.acceptedAt = true := by
  simp only [Db.protects, List.all_eq_true, Bool.or_eq_true, bne_iff_ne, Table.mem_def]
  exact ⟨fun h a ha heq => (h a ha).resolve_left (not_not.mpr heq),
    fun h a ha => or_iff_not_imp_left.mpr fun heq => h a ha (not_not.mp heq)⟩

/-- The closing of the open document is an update of every row. -/
theorem update_rows (h : db.Gapless) (hd : d ∈ db.documents) (hopen : d.retiredAt = none) :
    (db.documents.update d.id (TermsDocument.retire e) (Db.retire_id e)).rows =
      db.documents.rows.map (closeAt e) := by
  refine List.map_congr_left fun a ha => ?_
  by_cases hid : a.id = d.id
  · rw [if_pos hid, Table.eq_of_key_eq ha hd hid, closeAt, if_pos hopen]
  · have hclosed : a.retiredAt ≠ none := fun hnone => hid <| by
      have hlast := (h.stop_eq_none_iff.mp ⟨ha, hnone⟩).symm.trans
        (h.stop_eq_none_iff.mp ⟨hd, hopen⟩)
      rw [Option.some.inj hlast]
    rw [if_neg hid, closeAt, if_neg hclosed]

/-- What a publication leaves behind. -/
structure Publishes (db : Db) (d : TermsDocument) (db' : Db) : Prop where
  rows : db'.documents.rows = db.documents.rows.map (closeAt d.effectiveAt) ++ [d]
  acceptances : db'.acceptances = db.acceptances
  users : db'.users = db.users
  later : ∀ other ∈ db.documents, other.effectiveAt < d.effectiveAt
  fresh : ∀ other ∈ db.documents, other.version ≠ d.version ∧ other.contentHash ≠ d.contentHash
  free : ∀ other ∈ db.documents, other.id ≠ d.id
  protects : ∀ a ∈ db.acceptances, ∀ other ∈ db.documents, a.termsDocumentId = other.id →
    other.inForce a.acceptedAt = true → (closeAt d.effectiveAt other).inForce a.acceptedAt = true

/-- **What a new document needs.** -/
theorem insertDocument_eq_ok (h : db.insertDocument d = .ok db') :
    db'.documents.rows = db.documents.rows ++ [d] ∧ db'.acceptances = db.acceptances ∧
      db'.users = db.users ∧ (∀ other ∈ db.documents, other.id ≠ d.id) ∧
      ∀ other ∈ db.documents, other.version ≠ d.version ∧ other.contentHash ≠ d.contentHash := by
  unfold Db.insertDocument at h
  split at h
  · rename_i hfree
    obtain ⟨_, hversion, h⟩ := bind_eq_ok.mp h
    obtain ⟨_, hhash, h⟩ := bind_eq_ok.mp h
    obtain ⟨_, -, h⟩ := bind_eq_ok.mp h
    obtain ⟨_, -, h⟩ := bind_eq_ok.mp h
    obtain rfl := Except.ok.inj h
    have hversion' := List.all_eq_true.mp (require_eq_ok.mp hversion)
    have hhash' := List.all_eq_true.mp (require_eq_ok.mp hhash)
    refine ⟨rfl, rfl, rfl, Table.find?_eq_none.mp hfree, fun other hother => ⟨?_, ?_⟩⟩
    · simpa using hversion' other hother
    · simpa using hhash' other hother
  · cases h

/-- The first step: the open document is closed. -/
theorem retireOpen_eq_ok (h : db.Gapless) {retired : Db × Option TermsDocument}
    (hok : retireOpen db db.documents.rows.getLast? e = .ok retired) :
    retired.1.documents.rows = db.documents.rows.map (closeAt e) ∧
      retired.1.acceptances = db.acceptances ∧ retired.1.users = db.users ∧
      ∀ a ∈ db.acceptances, ∀ other ∈ db.documents, a.termsDocumentId = other.id →
        other.inForce a.acceptedAt = true → (closeAt e other).inForce a.acceptedAt = true := by
  cases hlast : db.documents.rows.getLast? with
  | none =>
    rw [hlast] at hok
    obtain rfl := Except.ok.inj hok
    have hnil := List.getLast?_eq_none_iff.mp hlast
    refine ⟨by simp [hnil], rfl, rfl, fun a _ other hother => ?_⟩
    rw [Table.mem_def, hnil] at hother
    cases hother
  | some o =>
    rw [hlast] at hok
    obtain ⟨ho, hopen⟩ := h.stop_eq_none_iff.mpr hlast
    obtain ⟨_, -, hok⟩ := bind_eq_ok.mp hok
    obtain ⟨db₁, hretire, hok⟩ := bind_eq_ok.mp hok
    obtain rfl := Except.ok.inj hok
    obtain ⟨o', ho', hretire⟩ := bind_eq_ok.mp hretire
    obtain ⟨hfind, -⟩ := Option.filter_eq_some_iff.mp (orThrow_eq_ok.mp ho')
    obtain ⟨hmem, hid⟩ := Table.find?_eq_some.mp hfind
    obtain rfl := Table.eq_of_key_eq hmem ho hid
    obtain ⟨_, -, hretire⟩ := bind_eq_ok.mp hretire
    obtain ⟨_, hprotects, hretire⟩ := bind_eq_ok.mp hretire
    obtain rfl := Except.ok.inj hretire
    refine ⟨update_rows h ho hopen, rfl, rfl, fun a ha other hother hdoc hin => ?_⟩
    unfold closeAt
    split_ifs with hnone
    · have heq : other = o' := Option.some.inj
        ((h.stop_eq_none_iff.mp ⟨hother, hnone⟩).symm.trans hlast)
      have hid : a.termsDocumentId = o'.id := hdoc.trans (congrArg TermsDocument.id heq)
      rw [heq]
      exact protects_iff.mp (require_eq_ok.mp hprotects) a ha hid
    · exact hin

/-- **A publication that succeeds.** -/
theorem publishNew_eq_ok (h : db.Gapless) (hok : publishNew db d = .ok (db', result)) :
    Publishes db d db' ∧ result.created = true ∧ result.document = d := by
  unfold publishNew at hok
  dsimp only at hok
  split at hok
  · cases hok
  · rw [open_rows h, newestFirst_toList, newest_eq_getLast? h] at hok
    have htake : (db.documents.rows.getLast?.toList.take 2).head? = db.documents.rows.getLast? := by
      cases db.documents.rows.getLast? <;> rfl
    rw [htake] at hok
    obtain ⟨_, -, hok⟩ := bind_eq_ok.mp hok
    obtain ⟨_, hlatest, hok⟩ := bind_eq_ok.mp hok
    obtain ⟨_, -, hok⟩ := bind_eq_ok.mp hok
    obtain ⟨_, -, hok⟩ := bind_eq_ok.mp hok
    obtain ⟨retired, hretired, hok⟩ := bind_eq_ok.mp hok
    obtain ⟨db₁, hinsert, hok⟩ := bind_eq_ok.mp hok
    obtain ⟨hrows, hacceptances, husers, hprotects⟩ := retireOpen_eq_ok h hretired
    obtain ⟨hrows₁, hacceptances₁, husers₁, hfree, hfresh⟩ := insertDocument_eq_ok hinsert
    obtain ⟨rfl, rfl⟩ := Prod.mk.inj (Except.ok.inj hok)
    have hin : ∀ other ∈ db.documents, closeAt d.effectiveAt other ∈ retired.1.documents := by
      intro other hother
      rw [Table.mem_def, hrows]
      exact List.mem_map_of_mem hother
    refine ⟨⟨by rw [hrows₁, hrows], hacceptances₁.trans hacceptances, husers₁.trans husers, ?_,
      fun other hother => ?_, fun other hother => ?_, hprotects⟩, rfl, rfl⟩
    · -- every document starts no later than the last
      intro other hother
      obtain ⟨l, hl⟩ : ∃ l, db.documents.rows.getLast? = some l :=
        ⟨_, List.getLast?_eq_some_getLast (List.ne_nil_of_mem hother)⟩
      have hle := effectiveAt_le_newest ((newest_eq_getLast? h).trans hl) hother
      rw [hl] at hlatest
      have hlt : l.effectiveAt < d.effectiveAt := by simpa using require_eq_ok.mp hlatest
      exact hle.trans_lt hlt
    · have hnew := hfresh _ (hin other hother)
      rwa [closeAt_version, closeAt_contentHash] at hnew
    · have hnew := hfree _ (hin other hother)
      rwa [closeAt_id] at hnew

/-- **Where a publication succeeds.** -/
theorem publishNew_of (h : db.Gapless) (hwritten : Written digest d) (hvalid : d.publication.Valid)
    (hlater : ∀ other ∈ db.documents, other.effectiveAt < d.effectiveAt)
    (hfresh : ∀ other ∈ db.documents, other.version ≠ d.version ∧ other.contentHash ≠ d.contentHash)
    (hfree : ∀ other ∈ db.documents, other.id ≠ d.id)
    (hwithin : ∀ a ∈ db.acceptances, ∃ other ∈ db.documents, other.id = a.termsDocumentId ∧
      other.inForce a.acceptedAt = true)
    (hearlier : ∀ a ∈ db.acceptances, a.acceptedAt < d.effectiveAt) :
    ∃ db' result, publishNew db d = .ok (db', result) := by
  have hsha : isSha256 d.contentHash = true := by
    rw [hwritten.contentHash]
    exact digest.format _
  have hsame : (db.documents.rows.find? fun other => other.contentHash = d.contentHash) = none :=
    List.find?_eq_none.mpr fun other hother => by simpa using (hfresh other hother).2
  have htake : (db.documents.rows.getLast?.toList.take 2) = db.documents.rows.getLast?.toList := by
    cases db.documents.rows.getLast? <;> rfl
  have hhead : db.documents.rows.getLast?.toList.head? = db.documents.rows.getLast? := by
    cases db.documents.rows.getLast? <;> rfl
  have hlength : db.documents.rows.getLast?.toList.length ≤ 1 := by
    cases db.documents.rows.getLast? <;> simp
  -- the acceptances of the last document lie before the new date
  have hclosed : ∀ o ∈ db.documents, o.retiredAt = none →
      db.protects (o.retire d.effectiveAt) = true := by
    intro o ho _
    refine protects_iff.mpr fun a ha hdoc => ?_
    obtain ⟨other, hother, hid, hin⟩ := hwithin a ha
    obtain rfl := Table.eq_of_key_eq hother ho (hid.trans hdoc)
    refine Timeline.covers_eq_true.mpr ⟨(Timeline.covers_eq_true.mp hin).1, fun e he => ?_⟩
    obtain rfl := Option.some.inj he
    exact hearlier a ha
  have hretire : ∃ retired, retireOpen db db.documents.rows.getLast? d.effectiveAt =
      .ok retired := by
    cases hlast : db.documents.rows.getLast? with
    | none => exact ⟨_, rfl⟩
    | some o =>
      obtain ⟨ho, hnone⟩ := h.stop_eq_none_iff.mpr hlast
      have hfind : (db.documents.find? o.id).filter (fun d => decide (d.retiredAt = none)) =
          some o := Option.filter_eq_some_iff.mpr
        ⟨Table.find?_eq_some.mpr ⟨ho, rfl⟩, decide_eq_true hnone⟩
      have hlt := hlater o ho
      refine ⟨_, bind_eq_ok.mpr ⟨(), require_eq_ok.mpr (decide_eq_true hlt),
        bind_eq_ok.mpr ⟨_, bind_eq_ok.mpr ⟨o, orThrow_eq_ok.mpr hfind,
          bind_eq_ok.mpr ⟨(), require_eq_ok.mpr (decide_eq_true hlt),
            bind_eq_ok.mpr ⟨(), require_eq_ok.mpr (hclosed o ho hnone), rfl⟩⟩⟩, rfl⟩⟩⟩
  obtain ⟨retired, hretired⟩ := hretire
  obtain ⟨hrows, hacceptances, -, -⟩ := retireOpen_eq_ok h hretired
  have hback : ∀ other ∈ retired.1.documents,
      ∃ o ∈ db.documents, closeAt d.effectiveAt o = other := by
    intro other hother
    rw [Table.mem_def, hrows] at hother
    exact List.mem_map.mp hother
  have hinsert : ∃ db', retired.1.insertDocument d = .ok db' := by
    have hfind : retired.1.documents.find? d.id = none := by
      refine Table.find?_eq_none.mpr fun other hother => ?_
      obtain ⟨o, ho, rfl⟩ := hback other hother
      rw [closeAt_id]
      exact hfree o ho
    unfold Db.insertDocument
    rw [dif_pos hfind]
    refine ⟨_, bind_eq_ok.mpr ⟨(), require_eq_ok.mpr (List.all_eq_true.mpr fun other hother => ?_),
      bind_eq_ok.mpr ⟨(), require_eq_ok.mpr (List.all_eq_true.mpr fun other hother => ?_),
      bind_eq_ok.mpr ⟨(), require_eq_ok.mpr ?_,
      bind_eq_ok.mpr ⟨(), require_eq_ok.mpr (protects_iff.mpr fun a ha hdoc => ?_), rfl⟩⟩⟩⟩⟩
    · obtain ⟨o, ho, rfl⟩ := hback other hother
      simpa [closeAt_version] using (hfresh o ho).1
    · obtain ⟨o, ho, rfl⟩ := hback other hother
      simpa [closeAt_contentHash] using (hfresh o ho).2
    · rw [hsha, hwritten.content, hwritten.byteSize]
      simpa using hvalid.size
    · -- nobody has accepted a document that is not there
      rw [hacceptances] at ha
      obtain ⟨other, hother, hid, -⟩ := hwithin a ha
      exact absurd (hid.trans hdoc) (hfree other hother)
  obtain ⟨db', hinserted⟩ := hinsert
  refine ⟨db', ⟨true, d, retired.2⟩, ?_⟩
  unfold publishNew
  dsimp only
  rw [hsame]
  dsimp only
  rw [open_rows h, newestFirst_toList, htake, newest_eq_getLast? h, hhead]
  refine bind_eq_ok.mpr ⟨(), require_eq_ok.mpr ?_, bind_eq_ok.mpr ⟨(), require_eq_ok.mpr ?_,
    bind_eq_ok.mpr ⟨(), require_eq_ok.mpr ?_, bind_eq_ok.mpr ⟨(), require_eq_ok.mpr ?_,
    bind_eq_ok.mpr ⟨retired, hretired, bind_eq_ok.mpr ⟨db', hinserted, rfl⟩⟩⟩⟩⟩⟩
  · simp [hlength, overlapping_le_one h d.effectiveAt]
  · cases hlast : db.documents.rows.getLast? with
    | none => rfl
    | some l => simpa using hlater l (h.stop_eq_none_iff.mpr hlast).1
  · cases db.documents.rows.getLast? <;> simp
  · cases hlast : db.documents.rows.getLast? with
    | none => rfl
    | some l => simp [(h.stop_eq_none_iff.mpr hlast).2]

end Terms

end SinoChat
