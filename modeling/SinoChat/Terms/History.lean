import SinoChat.Terms.Documents
import SinoChat.ToDevice.Script

/-!
# The history of the terms

In every state of every run the table of documents is the list of what was published, in
the order of publication and of the dates of effect, without a gap between the documents.
So what the server answers is a function of that list and of the time, and whether a
publication succeeds is decided by the list and by the acceptances.
-/

namespace SinoChat

open Js

namespace Terms

variable {digest : Digest} {db db' : Db} {input : TermsPublicationInput} {bytes : List UInt8}
  {id : Uuid} {createdAt e now : ℤ} {d : TermsDocument} {event : Event} {trace : List Event}
  {result : PublicationResult} {registrant : Registrant} {terms : TermsInput}
  {rest : Except HttpException Unit} {ids : RegistrationIds} {userId : Uuid}

/-! ## The history of a run -/

/-- What was published in a run, the first publication first. -/
def publications : List Event → List Publication
  | [] => []
  | .published input bytes (.ok result) :: earlier =>
    if result.created then publications earlier ++ [input.publication bytes]
    else publications earlier
  | _ :: earlier => publications earlier

/-- Somebody has accepted the terms at a time. -/
def Accepts (trace : List Event) (userId : Uuid) (now : ℤ) : Prop :=
  ∃ registrant terms, Event.registered registrant terms now userId (.ok ()) ∈ trace

/-! ## What holds of the tables -/

/-- What holds of the tables. -/
structure Sound (digest : Digest) (db : Db) : Prop where
  gapless : db.Gapless
  written : ∀ d ∈ db.documents, Written digest d
  valid : ∀ d ∈ db.documents, d.publication.Valid
  versions : ∀ a ∈ db.documents, ∀ b ∈ db.documents, a.version = b.version → a = b
  hashes : ∀ a ∈ db.documents, ∀ b ∈ db.documents, a.contentHash = b.contentHash → a = b
  within : ∀ a ∈ db.acceptances, ∃ d ∈ db.documents, d.id = a.termsDocumentId ∧
    d.inForce a.acceptedAt = true
  owned : ∀ a ∈ db.acceptances, ∃ u ∈ db.users, u.id = a.userId
  once : ∀ u ∈ db.users, db.acceptances.count (fun a => a.userId = u.id) =
    if u.role = .admin then 0 else 1

/-- An account without a row of it has no acceptance. -/
theorem count_eq_zero_of_not_mem {users : Table Uuid User User.id}
    {acceptances : Table Uuid TermsAcceptance TermsAcceptance.id}
    (howned : ∀ a ∈ acceptances, ∃ u ∈ users, u.id = a.userId)
    (hfree : ∀ u ∈ users, u.id ≠ userId) :
    acceptances.count (fun a => a.userId = userId) = 0 := by
  refine List.countP_eq_zero.mpr fun a ha => ?_
  obtain ⟨u, hu, huser⟩ := howned a ha
  simpa using fun heq => hfree u hu (huser.trans heq)

/-- The invariant through a change of accounts. -/
theorem Sound.accounts (h : Sound digest db) {users : Table Uuid User User.id}
    (hkeeps : KeepsAccounts db.users users) : Sound digest { db with users } where
  gapless := h.gapless
  written := h.written
  valid := h.valid
  versions := h.versions
  hashes := h.hashes
  within := h.within
  owned := fun a ha => by
    obtain ⟨u, hu, huser⟩ := h.owned a ha
    obtain ⟨u', hu', hid, -⟩ := hkeeps.kept u hu
    exact ⟨u', hu', hid.trans huser⟩
  once := fun u' hu' => by
    rcases hkeeps.origin u' hu' with ⟨u, hu, hid, hrole⟩ | ⟨hadmin, hfree⟩
    · rw [hrole, ← h.once u hu]
      exact congrArg _ (funext fun a => by rw [hid])
    · rw [if_pos hadmin]
      exact count_eq_zero_of_not_mem h.owned fun u hu => hfree u hu

/-- The invariant through a publication. -/
theorem Sound.published (h : Sound digest db) (hwritten : Written digest d)
    (hvalid : d.publication.Valid) (hopen : d.retiredAt = none) (hp : Publishes db d db') :
    Sound digest db' := by
  have hmem : ∀ a, a ∈ db'.documents ↔ (∃ o ∈ db.documents, closeAt d.effectiveAt o = a) ∨
      a = d := by
    intro a
    rw [Table.mem_def, hp.rows, List.mem_append, List.mem_map, List.mem_singleton]
    rfl
  refine ⟨?_, fun a ha => ?_, fun a ha => ?_, fun a ha b hb heq => ?_, fun a ha b hb heq => ?_,
    fun a ha => ?_, ?_, ?_⟩
  · unfold Db.Gapless
    rw [hp.rows]
    refine h.gapless.close_append (fun _ => closeAt_effectiveAt) (fun a e' he' => ?_)
      (fun a ha => ?_) hp.later hopen
    · rw [closeAt, if_neg (by rw [he']; exact Option.some_ne_none _), he']
    · rw [closeAt, if_pos ha]
      rfl
  · rcases (hmem a).mp ha with ⟨o, ho, rfl⟩ | rfl
    · exact (h.written o ho).closeAt
    · exact hwritten
  · rcases (hmem a).mp ha with ⟨o, ho, rfl⟩ | rfl
    · rw [closeAt_publication]
      exact h.valid o ho
    · exact hvalid
  · rcases (hmem a).mp ha with ⟨o, ho, rfl⟩ | rfl <;>
      rcases (hmem b).mp hb with ⟨o', ho', rfl⟩ | rfl
    · rw [closeAt_version, closeAt_version] at heq
      rw [h.versions o ho o' ho' heq]
    · exact absurd (closeAt_version.symm.trans heq) (hp.fresh o ho).1
    · exact absurd (closeAt_version.symm.trans heq.symm) (hp.fresh o' ho').1
    · rfl
  · rcases (hmem a).mp ha with ⟨o, ho, rfl⟩ | rfl <;>
      rcases (hmem b).mp hb with ⟨o', ho', rfl⟩ | rfl
    · rw [closeAt_contentHash, closeAt_contentHash] at heq
      rw [h.hashes o ho o' ho' heq]
    · exact absurd (closeAt_contentHash.symm.trans heq) (hp.fresh o ho).2
    · exact absurd (closeAt_contentHash.symm.trans heq.symm) (hp.fresh o' ho').2
    · rfl
  · rw [hp.acceptances] at ha
    obtain ⟨o, ho, hid, hin⟩ := h.within a ha
    exact ⟨_, (hmem _).mpr (.inl ⟨o, ho, rfl⟩), closeAt_id.trans hid,
      hp.protects a ha o ho hid.symm hin⟩
  · rw [hp.acceptances, hp.users]
    exact h.owned
  · rw [hp.acceptances, hp.users]
    exact h.once

/-! ## The transactions -/

/-- A publication repeats one that is there or makes a new one. -/
theorem publishTerms_eq_ok (h : Sound digest db)
    (hok : publishTerms digest db input bytes id createdAt = .ok (db', result)) :
    ((1 ≤ bytes.length ∧ bytes.length ≤ maxTermsBytes) ∧
      (∃ text, decodeText bytes = some text ∧ trim text ≠ [] ∧ text.contains 0 = false) ∧
      input.expectedSha256.all (· == digest.sha256Hex bytes) = true) ∧
    ((db' = db ∧ result.created = false ∧ result.document ∈ db.documents ∧
      result.document.publication = input.publication bytes) ∨
    (Publishes db (newDocument digest input bytes id createdAt) db' ∧ result.created = true ∧
      result.document = newDocument digest input bytes id createdAt)) := by
  unfold publishTerms at hok
  obtain ⟨inspected, hinspected, hok⟩ := bind_eq_ok.mp hok
  obtain ⟨hsize, htext, rfl⟩ := validate_eq_ok.mp hinspected
  obtain ⟨_, hexpected, hok⟩ := bind_eq_ok.mp hok
  refine ⟨⟨hsize, htext, require_eq_ok.mp hexpected⟩, ?_⟩
  unfold publishVersion at hok
  split at hok
  · rename_i existing hexisting
    split_ifs at hok with hsame
    obtain ⟨rfl, rfl⟩ := Prod.mk.inj (Except.ok.inj hok)
    have hversion : existing.version = input.version := by
      simpa using List.find?_some hexisting
    simp only [samePublication, Bool.and_eq_true, beq_iff_eq] at hsame
    obtain ⟨⟨⟨⟨-, htype⟩, -⟩, hcontent⟩, heffective⟩ := hsame
    refine .inl ⟨rfl, rfl, List.mem_of_find?_eq_some hexisting, ?_⟩
    simp only [TermsDocument.publication, TermsPublicationInput.publication, hversion, htype,
      hcontent, heffective, Option.getD_some]
  · exact .inr (publishNew_eq_ok h.gapless hok)

/-- **What a registration accepts.** -/
theorem register_eq_ok (hok : register db registrant terms rest now ids = .ok db') :
    ∃ d, db.termsInForce now = some d ∧ d.version = terms.termsVersion ∧
      d.contentHash = terms.termsContentHash ∧ db'.documents = db.documents ∧
      (∃ hfree, db'.users = db.users.insert (registrant.account ids.userId) hfree) ∧
      (∃ hfree, db'.acceptances = db.acceptances.insert ⟨ids.acceptanceId, ids.userId, d.id, now,
        ids.ipHash⟩ hfree) := by
  unfold register at hok
  obtain ⟨d, hd, hok⟩ := bind_eq_ok.mp hok
  obtain ⟨_, haccepted, hok⟩ := bind_eq_ok.mp hok
  obtain ⟨users, husers, hok⟩ := bind_eq_ok.mp hok
  obtain ⟨db₁, haccept, hok⟩ := bind_eq_ok.mp hok
  obtain ⟨_, -, hok⟩ := bind_eq_ok.mp hok
  obtain rfl := Except.ok.inj hok
  obtain ⟨hfree, rfl⟩ := Table.create_eq_ok.mp husers
  have hsame := require_eq_ok.mp haccepted
  rw [Bool.and_eq_true, beq_iff_eq, beq_iff_eq] at hsame
  unfold Db.accept at haccept
  split at haccept
  · rename_i hnew
    obtain ⟨_, -, haccept⟩ := bind_eq_ok.mp haccept
    obtain ⟨_, -, haccept⟩ := bind_eq_ok.mp haccept
    obtain ⟨_, -, haccept⟩ := bind_eq_ok.mp haccept
    obtain rfl := Except.ok.inj haccept
    exact ⟨d, orThrow_eq_ok.mp hd, hsame.1, hsame.2, rfl, ⟨hfree, rfl⟩, ⟨hnew, rfl⟩⟩
  · cases haccept

/-- The invariant through a registration. -/
theorem Sound.registered (h : Sound digest db)
    (hok : register db registrant terms rest now ids = .ok db') : Sound digest db' := by
  obtain ⟨d, hd, -, -, hdocuments, ⟨hfree, husers⟩, hnew, hacceptances⟩ := register_eq_ok hok
  have hforce := h.gapless.covers_iff.mpr ((termsInForce_eq h.gapless h.written now).symm.trans hd)
  have hrole : registrant.role ≠ .admin := by cases registrant <;> exact nofun
  have hunknown := count_eq_zero_of_not_mem h.owned (Table.find?_eq_none.mp hfree)
  refine ⟨?_, ?_, ?_, ?_, ?_, fun a ha => ?_, fun a ha => ?_, fun u hu => ?_⟩
  · unfold Db.Gapless
    rw [hdocuments]
    exact h.gapless
  · rw [hdocuments]
    exact h.written
  · rw [hdocuments]
    exact h.valid
  · rw [hdocuments]
    exact h.versions
  · rw [hdocuments]
    exact h.hashes
  · rw [hacceptances] at ha
    rw [hdocuments]
    rcases Table.mem_insert.mp ha with ha | rfl
    · exact h.within a ha
    · exact ⟨d, hforce.1, rfl, hforce.2⟩
  · rw [hacceptances] at ha
    rw [husers]
    rcases Table.mem_insert.mp ha with ha | rfl
    · obtain ⟨u, hu, huser⟩ := h.owned a ha
      exact ⟨u, Table.mem_insert.mpr (.inl hu), huser⟩
    · exact ⟨_, Table.mem_insert.mpr (.inr rfl), rfl⟩
  · rw [hacceptances, Table.count_insert]
    rw [husers] at hu
    rcases Table.mem_insert.mp hu with hu | rfl
    · have hne : ids.userId ≠ u.id := fun heq => Table.find?_eq_none.mp hfree u hu heq.symm
      rw [h.once u hu]
      simp [hne]
    · have hself : (registrant.account ids.userId).role ≠ .admin := hrole
      rw [if_neg hself]
      have hzero : db.acceptances.count
          (fun a => a.userId = (registrant.account ids.userId).id) = 0 := hunknown
      rw [hzero, if_pos (by simp [Registrant.account])]

/-! ## Runs -/

/-- The tables follow the run that led to them. -/
structure Follows (digest : Digest) (trace : List Event) (db : Db) : Prop where
  sound : Sound digest db
  history : db.documents.rows.map TermsDocument.publication = publications trace
  accepts : ∀ userId now, Accepts trace userId now ↔
    ∃ a ∈ db.acceptances, a.userId = userId ∧ a.acceptedAt = now

/-- An event that accepts nothing. -/
theorem accepts_cons_of_ne
    (h : ∀ registrant terms now userId, event ≠ .registered registrant terms now userId (.ok ())) :
    Accepts (event :: trace) userId now ↔ Accepts trace userId now := by
  constructor
  · rintro ⟨registrant, terms, hmem⟩
    rcases List.mem_cons.mp hmem with heq | hmem
    · exact absurd heq.symm (h _ _ _ _)
    · exact ⟨registrant, terms, hmem⟩
  · rintro ⟨registrant, terms, hmem⟩
    exact ⟨registrant, terms, List.mem_cons_of_mem _ hmem⟩

/-- A version that is parsed is well formed. -/
theorem isVersion_of_parse {argv : List JsString} {environment : JsString → Option JsString}
    (h : parseTermsPublicationInput argv environment = .ok input) :
    isVersion input.version = true := by
  unfold parseTermsPublicationInput at h
  obtain ⟨values, -, h⟩ := bind_eq_ok.mp h
  obtain ⟨_, hversion, h⟩ := bind_eq_ok.mp h
  obtain ⟨_, -, h⟩ := bind_eq_ok.mp h
  obtain ⟨_, -, h⟩ := bind_eq_ok.mp h
  obtain ⟨_, -, h⟩ := bind_eq_ok.mp h
  obtain rfl := Except.ok.inj h
  exact require_eq_ok.mp hversion

/-- The tables follow the history through a step. -/
theorem Follows.step (h : Follows digest trace db) (hstep : Step digest db event db') :
    Follows digest (event :: trace) db' := by
  cases hstep with
  -- Other operations keep both tables.
  | accounts hkeeps =>
    refine ⟨h.sound.accounts hkeeps, h.history, fun userId now => ?_⟩
    rw [accepts_cons_of_ne (by simp), h.accepts]
  -- A refused publication changes nothing, and one that is answered created a row or repeats it.
  | @published _ _ input bytes id createdAt outcome hparse hpublish =>
    have haccepts : ∀ userId now,
        Accepts (.published input bytes (outcome.map Prod.snd) :: trace) userId now ↔
          ∃ a ∈ db.acceptances, a.userId = userId ∧ a.acceptedAt = now := by
      intro userId now
      rw [accepts_cons_of_ne (by simp), h.accepts]
    cases outcome with
    | error error => exact ⟨h.sound, h.history, haccepts⟩
    | ok answer =>
      obtain ⟨db', result⟩ := answer
      obtain ⟨⟨hsize, htext, -⟩, ⟨rfl, hcreated, -⟩ | ⟨hp, hcreated, -⟩⟩ :=
        publishTerms_eq_ok h.sound hpublish
      · refine ⟨h.sound, ?_, haccepts⟩
        simp only [Except.map, publications, hcreated]
        exact h.history
      -- The row before is closed, which is no part of its publication.
      · refine ⟨h.sound.published written_newDocument
          ⟨isVersion_of_parse hparse, hsize, htext⟩ rfl hp, ?_, fun userId now => ?_⟩
        · have hrows : (committed db (.ok (db', result) : Except Failure _)).documents.rows =
              _ := hp.rows
          have hsame : TermsDocument.publication ∘
              closeAt (newDocument digest input bytes id createdAt).effectiveAt =
                TermsDocument.publication := funext fun _ => closeAt_publication
          rw [hrows, List.map_append, List.map_map, hsame]
          simp only [Except.map, publications, hcreated, if_true, ← h.history]
          rfl
        · rw [haccepts]
          have hsame : (committed db (.ok (db', result) : Except Failure _)).acceptances =
              db.acceptances := hp.acceptances
          rw [hsame]
  -- A registration adds its own acceptance, and no document.
  | @registered registrant terms rest now ids outcome hregister =>
    cases outcome with
    | error error =>
      refine ⟨h.sound, h.history, fun userId now => ?_⟩
      rw [accepts_cons_of_ne (by simp [Except.map]), h.accepts]
      rfl
    | ok db' =>
      obtain ⟨d, -, -, -, hdocuments, -, hnew, hacceptances⟩ := register_eq_ok hregister
      refine ⟨h.sound.registered hregister, ?_, fun userId' now' => ?_⟩
      · have hsame : (committed db ((.ok db' : Except HttpException Db).map
            fun db' => (db', ()))).documents = db.documents := hdocuments
        rw [hsame]
        exact h.history
      · have hsame : (committed db ((.ok db' : Except HttpException Db).map
            fun db' => (db', ()))).acceptances = _ := hacceptances
        rw [hsame]
        constructor
        -- An event of the history is this registration, or an earlier one.
        · rintro ⟨registrant', terms', hmem⟩
          rcases List.mem_cons.mp hmem with heq | hmem
          · simp only [Event.registered.injEq] at heq
            exact ⟨_, Table.mem_insert.mpr (.inr rfl), heq.2.2.2.1.symm, heq.2.2.1.symm⟩
          · obtain ⟨a, ha, huser⟩ := (h.accepts _ _).mp ⟨_, _, hmem⟩
            exact ⟨a, Table.mem_insert.mpr (.inl ha), huser⟩
        -- A row of the table is the new one, or an earlier one.
        · rintro ⟨a, ha, rfl, rfl⟩
          rcases Table.mem_insert.mp ha with ha | rfl
          · obtain ⟨registrant', terms', hmem⟩ := (h.accepts _ _).mpr ⟨a, ha, rfl, rfl⟩
            exact ⟨_, _, List.mem_cons_of_mem _ hmem⟩
          · exact ⟨registrant, terms, List.mem_cons_self⟩

/-- **The tables follow every run.** -/
theorem follows (h : (lifecycle digest).Run trace db) : Follows digest trace db := by
  refine h.invariant (I := fun trace db => Follows digest trace db) (fun db hinit => ?_)
    fun trace db event db' _ hfollows hstep => hfollows.step hstep
  obtain ⟨hdocuments, hacceptances, hadmin⟩ := hinit
  have hnone : ∀ d, d ∉ db.documents := fun d hd => by
    rw [hdocuments] at hd
    cases hd
  have hnobody : ∀ a, a ∉ db.acceptances := fun a ha => by
    rw [hacceptances] at ha
    cases ha
  refine ⟨⟨?_, fun d hd => absurd hd (hnone d), fun d hd => absurd hd (hnone d),
    fun d hd => absurd hd (hnone d), fun d hd => absurd hd (hnone d),
    fun a ha => absurd ha (hnobody a), fun a ha => absurd ha (hnobody a), fun u hu => ?_⟩, ?_,
    fun userId now => ?_⟩
  · unfold Db.Gapless
    rw [hdocuments]
    trivial
  · rw [if_pos (hadmin u hu), hacceptances]
    rfl
  · rw [hdocuments]
    rfl
  · constructor
    · rintro ⟨_, _, hmem⟩
      cases hmem
    · rintro ⟨a, ha, -⟩
      exact absurd ha (hnobody a)

/-! ## Scripts -/

/-- A command with its arguments and the bytes of its file, or a registration. -/
inductive Command where
  | publish (argv : List JsString) (bytes : List UInt8) (id : Uuid) (createdAt : ℤ)
  | register (registrant : Registrant) (terms : TermsInput) (now : ℤ) (ids : RegistrationIds)

/-- A command as a step, without an environment and in a transaction that raises nothing else. -/
def exec (digest : Digest) : Command → Db → Option (Event × Db)
  | .publish argv bytes id createdAt, db =>
    match parseTermsPublicationInput argv fun _ => none with
    | .ok input =>
      let outcome := publishTerms digest db input bytes id createdAt
      some (.published input bytes (outcome.map Prod.snd), committed db outcome)
    | .error _ => none
  | .register registrant terms now ids, db =>
    let outcome := register db registrant terms (.ok ()) now ids
    some (.registered registrant terms now ids.userId (outcome.map fun _ => ()),
      committed db (outcome.map fun db' => (db', ())))

/-- A command that is carried out is a step. -/
theorem step_of_exec {command : Command} {db' : Db} {event : Event}
    (h : exec digest command db = some (event, db')) : (lifecycle digest).step db event db' := by
  cases command with
  | publish argv bytes id createdAt =>
    simp only [exec] at h
    split at h
    · rename_i hparse
      cases h
      exact .published hparse rfl
    · cases h
  | register registrant terms now ids =>
    cases h
    exact .registered rfl

namespace Sample

open SinoChat.Sample (uuidOf hex fixed_hex)

/-- The digests of two texts, and zero elsewhere. -/
def sha256 : Digest where
  sha256Hex bytes := hex 64
    (if bytes = [0x54] then 0xe632b7095b0bf32c260fa4c539e9fd7b852d0de454e9be26f24d0d6f91d069d3
      else if bytes = [0x55] then 0xa25513c7e0f6eaa80a3337ee18081b9e2ed09e00af8531c8f7bb2542764027e7
      else 0)
  format _ := fixed_hex _ _

/-- The arguments of a publication. -/
def argv (version effectiveAt : String) : List JsString :=
  [js "--file=t", js "--version=" ++ js version, js "--type=text/plain",
    js "--effective-at=" ++ js effectiveAt]

/-- A first version of the terms. -/
def first : Publication := ⟨js "1", .plain, [0x54], 1000⟩

/-- A second one. -/
def second : Publication := ⟨js "2", .plain, [0x55], 2000⟩

/-- Two publications, and a registration while the first is in force. -/
def script : List Command :=
  [.publish (argv "1" "1970-01-01T00:00:01Z") first.content (uuidOf 1) 0,
    .register .client ⟨true, first.version, sha256.sha256Hex first.content⟩ 1500
      ⟨uuidOf 2, uuidOf 3, none⟩,
    .publish (argv "2" "1970-01-01T00:00:02Z") second.content (uuidOf 4) 1600]

theorem script_run : ∃ trace db, (lifecycle sha256).Run trace db ∧
    publications trace = [first, second] ∧
    db.users.find? (uuidOf 2) = some (Registrant.client.account (uuidOf 2)) ∧
    (currentTerms db 1999).toOption.isSome = true ∧ db.documents.find? (uuidOf 5) = none ∧
    db.users.find? (uuidOf 6) = none ∧ db.acceptances.find? (uuidOf 7) = none := by
  obtain ⟨trace, db, hrun, hcheck⟩ := Machine.exists_run_of_perform
    (M := lifecycle sha256)
    (fun command db event db' => @step_of_exec sha256 db command db' event)
    (s := ⟨Table.empty, Table.empty, Table.empty⟩) ⟨rfl, rfl, fun u hu => by cases hu⟩ script
    (fun trace db => decide (publications trace = [first, second] ∧
      db.users.find? (uuidOf 2) = some (Registrant.client.account (uuidOf 2)) ∧
      (currentTerms db 1999).toOption.isSome = true ∧ db.documents.find? (uuidOf 5) = none ∧
      db.users.find? (uuidOf 6) = none ∧ db.acceptances.find? (uuidOf 7) = none))
    (by decide +kernel)
  exact ⟨trace, db, hrun, of_decide_eq_true hcheck⟩

end Sample

/-! ## What is served -/

/-- A publication as the server shows it: it ends where the first later one takes effect. -/
def Publication.served (digest : Digest) (published : List Publication) (p : Publication) :
    ServedTermsDocument where
  version := p.version
  contentHash := digest.sha256Hex p.content
  contentType := p.sourceType
  content := p.content
  byteSize := p.content.length
  effectiveAt := p.effectiveAt
  retiredAt := (published.find? fun q => p.effectiveAt < q.effectiveAt).map Publication.effectiveAt

/-- **A stored document is served as it was published.** -/
theorem Follows.assertComplete_eq (h : Follows digest trace db) (hd : d ∈ db.documents) :
    assertComplete d = .ok (d.publication.served digest (publications trace)) := by
  have hwritten := h.sound.written d hd
  have hretired : d.retiredAt = ((publications trace).find? fun q =>
      d.publication.effectiveAt < q.effectiveAt).map Publication.effectiveAt := by
    rw [← h.history, List.find?_map, Option.map_map]
    exact Option.ext fun e => h.sound.gapless.stop_eq_some_iff hd
  unfold assertComplete
  rw [hwritten.contentType, hwritten.content, hwritten.byteSize]
  dsimp only
  rw [if_pos rfl, Publication.served, ← hretired, ← hwritten.contentHash]
  rfl

/-- The document in force shows the publication in force. -/
theorem Follows.termsInForce (h : Follows digest trace db) (now : ℤ) :
    (db.termsInForce now).map TermsDocument.publication =
      Timeline.entryAt Publication.effectiveAt (publications trace) now := by
  rw [termsInForce_eq h.sound.gapless h.sound.written, ← h.history]
  have hstart : ∀ d ∈ db.documents.rows, d.publication.effectiveAt = d.effectiveAt :=
    fun _ _ => rfl
  exact (Timeline.entryAt_map hstart now).symm

/-- The terms in force are a document of that time. -/
theorem Follows.mem_of_termsInForce (h : Follows digest trace db)
    (hd : db.termsInForce now = some d) : d ∈ db.documents ∧ d.inForce now = true := by
  rw [termsInForce_eq h.sound.gapless h.sound.written] at hd
  exact h.sound.gapless.covers_iff.mpr hd

/-- The publications are in order. -/
theorem Follows.ordered (h : Follows digest trace db) :
    Timeline.Ordered Publication.effectiveAt (publications trace) := by
  rw [← h.history]
  exact List.pairwise_map.mpr h.sound.gapless.ordered

/-- **What the server shows is a function of the history and the time.** The publications
follow one another in time. The current terms are the last publication that has taken
effect, a version is the publication of that name, and both are shown complete, with the
interval that the history gives them. -/
theorem served_from_history (h : (lifecycle digest).Run trace db) :
    Timeline.Ordered Publication.effectiveAt (publications trace) ∧
      (∀ now, currentTerms db now = Except.map (Publication.served digest (publications trace))
        (orThrow (Timeline.entryAt Publication.effectiveAt (publications trace) now)
          notPublished)) ∧
      ∀ version, termsByVersion db version =
        Except.map (Publication.served digest (publications trace))
          (orThrow ((publications trace).find? fun p => p.version = version) notAvailable) := by
  have hfollows := follows h
  refine ⟨hfollows.ordered, fun now => ?_, fun version => ?_⟩
  · rw [← hfollows.termsInForce, currentTerms]
    cases hd : db.termsInForce now with
    | none => rfl
    | some d => exact hfollows.assertComplete_eq (hfollows.mem_of_termsInForce hd).1
  · have hfind : ((publications trace).find? fun p => p.version = version) =
        (db.findVersion version).map TermsDocument.publication := by
      rw [← hfollows.history, List.find?_map]
      rfl
    rw [hfind, termsByVersion]
    cases hd : db.findVersion version with
    | none => rfl
    | some d =>
      have hmem : d ∈ db.documents := List.mem_of_find?_eq_some hd
      have hcontent : (some d).filter (fun d => d.content.isSome) = some d :=
        Option.filter_eq_some_iff.mpr
          ⟨rfl, by rw [(hfollows.sound.written d hmem).content]; rfl⟩
      rw [hcontent]
      exact hfollows.assertComplete_eq hmem

/-- The second terms have ended the first ones. -/
theorem served_from_history_two : ∃ trace db, (lifecycle Sample.sha256).Run trace db ∧
    currentTerms db 1999 = .ok ⟨js "1", Sample.sha256.sha256Hex [0x54], .plain, [0x54], 1, 1000,
      some 2000⟩ := by
  obtain ⟨trace, db, hrun, hpublications, -⟩ := Sample.script_run
  have hcurrent : Timeline.entryAt Publication.effectiveAt [Sample.first, Sample.second] 1999 =
      some Sample.first := by decide
  refine ⟨trace, db, hrun, ?_⟩
  rw [(served_from_history hrun).2.1 1999, hpublications, hcurrent]
  rfl

/-! ## When a publication succeeds -/

/-- No acceptance lies behind the date of a publication. -/
theorem Publishes.accepted_lt (hp : Publishes db d db') (h : Sound digest db)
    {a : TermsAcceptance} (ha : a ∈ db.acceptances) : a.acceptedAt < d.effectiveAt := by
  obtain ⟨o, ho, hid, hin⟩ := h.within a ha
  have hclosed := (Timeline.covers_eq_true.mp (hp.protects a ha o ho hid.symm hin)).2
  cases hretired : o.retiredAt with
  | none => exact hclosed _ (by rw [closeAt, if_pos hretired]; rfl)
  | some e' =>
    -- the document ended where another one began, before the new date
    obtain ⟨b, hb, hstart⟩ := Option.map_eq_some_iff.mp
      ((h.gapless.stop_eq_some_iff ho).mp hretired)
    have hlt : b.effectiveAt < d.effectiveAt := hp.later b (List.mem_of_find?_eq_some hb)
    have hend : a.acceptedAt < e' := (Timeline.covers_eq_true.mp hin).2 e' hretired
    omega

/-- Every publication has its document. -/
theorem Follows.mem_publications (h : Follows digest trace db) {p : Publication} :
    p ∈ publications trace ↔ ∃ d ∈ db.documents, d.publication = p := by
  rw [← h.history]
  exact List.mem_map

/-- **Which publications succeed, and what they answer.** One that repeats a publication is
answered with the document that is there and changes nothing. Any other succeeds exactly
where its version and its content are new, it takes effect after every earlier one, and
nobody has accepted terms at its date or later. -/
theorem publication_answers {argv : List JsString} {environment : JsString → Option JsString}
    (h : (lifecycle digest).Run trace db)
    (hinput : parseTermsPublicationInput argv environment = .ok input)
    (hid : db.documents.find? id = none) :
    (∀ db' result, publishTerms digest db input bytes id createdAt = .ok (db', result) →
      (result.created = false ↔ input.publication bytes ∈ publications trace) ∧
        (result.created = false → db' = db) ∧ result.document ∈ db'.documents ∧
        result.document.publication = input.publication bytes) ∧
      ((∃ db' result, publishTerms digest db input bytes id createdAt = .ok (db', result)) ↔
        (input.publication bytes).Valid ∧
          input.expectedSha256.all (· == digest.sha256Hex bytes) = true ∧
          (input.publication bytes ∈ publications trace ∨
            (∀ p ∈ publications trace, p.version ≠ input.version ∧
              digest.sha256Hex p.content ≠ digest.sha256Hex bytes ∧
              p.effectiveAt < input.effectiveAt) ∧
            ∀ userId now, Accepts trace userId now → now < input.effectiveAt)) := by
  have hfollows := follows h
  have hsound := hfollows.sound
  refine ⟨fun db' result hok => ?_, ⟨?_, ?_⟩⟩
  -- What is answered was published before, or is stored now.
  · obtain ⟨-, ⟨rfl, hcreated, hmem, hpublication⟩ | ⟨hp, hcreated, hdocument⟩⟩ :=
      publishTerms_eq_ok hsound hok
    · have hin := hfollows.mem_publications.mpr ⟨_, hmem, hpublication⟩
      exact ⟨⟨fun _ => hin, fun _ => hcreated⟩, fun _ => rfl, hmem, hpublication⟩
    · have hnew : input.publication bytes ∉ publications trace := fun hin => by
        obtain ⟨o, ho, heq⟩ := hfollows.mem_publications.mp hin
        exact (hp.fresh o ho).1 (congrArg Publication.version heq)
      rw [hdocument]
      refine ⟨⟨fun hfalse => ?_, fun hin => absurd hin hnew⟩, fun hfalse => ?_, ?_, rfl⟩
      · rw [hcreated] at hfalse
        cases hfalse
      · rw [hcreated] at hfalse
        cases hfalse
      · rw [Table.mem_def, hp.rows]
        exact List.mem_append_right _ List.mem_cons_self
  -- Whatever is answered is valid and as expected.
  · rintro ⟨db', result, hok⟩
    obtain ⟨⟨hsize, htext, hexpected⟩, hcase⟩ := publishTerms_eq_ok hsound hok
    refine ⟨⟨isVersion_of_parse hinput, hsize, htext⟩, hexpected, ?_⟩
    rcases hcase with ⟨-, -, hmem, hpublication⟩ | ⟨hp, -, -⟩
    · exact .inl (hfollows.mem_publications.mpr ⟨_, hmem, hpublication⟩)
    · refine .inr ⟨fun p hin => ?_, fun userId now haccepts => ?_⟩
      · obtain ⟨o, ho, rfl⟩ := hfollows.mem_publications.mp hin
        have hhash := (hp.fresh o ho).2
        rw [(hsound.written o ho).contentHash] at hhash
        exact ⟨(hp.fresh o ho).1, hhash, hp.later o ho⟩
      · obtain ⟨a, ha, -, rfl⟩ := (hfollows.accepts userId now).mp haccepts
        exact hp.accepted_lt hsound ha
  -- The other way round: the checks of the bytes come first, then those of the table.
  · rintro ⟨hvalid, hexpected, hcase⟩
    have hinspected : validateTermsDocument digest bytes =
        .ok ⟨bytes.length, digest.sha256Hex bytes⟩ :=
      validate_eq_ok.mpr ⟨hvalid.size, hvalid.text, rfl⟩
    have hstart : publishTerms digest db input bytes id createdAt = publishVersion digest db input
        bytes ⟨bytes.length, digest.sha256Hex bytes⟩ id createdAt := by
      have hrequire : ∀ error : Failure,
          require (input.expectedSha256.all (· == digest.sha256Hex bytes)) error = .ok () :=
        fun _ => require_eq_ok.mpr hexpected
      unfold publishTerms
      rw [hinspected]
      simp only [bind, Except.bind, hrequire]
    rw [hstart, publishVersion]
    rcases hcase with hin | ⟨hfresh, hearlier⟩
    -- An earlier publication is found under its version, and is the same.
    · obtain ⟨o, ho, heq⟩ := hfollows.mem_publications.mp hin
      have hversion : o.version = input.version := congrArg Publication.version heq
      obtain ⟨existing, hexisting⟩ : ∃ existing, db.findVersion input.version = some existing :=
        Option.isSome_iff_exists.mp (List.find?_isSome.mpr ⟨o, ho, by simpa using hversion⟩)
      have hsame : existing = o := by
        have hother : existing.version = input.version := by
          simpa using List.find?_some hexisting
        exact hsound.versions _ (List.mem_of_find?_eq_some hexisting) _ ho
          (hother.trans hversion.symm)
      subst hsame
      obtain ⟨hhash, htype, hcontent, hsize⟩ := hsound.written existing ho
      rw [heq] at hhash htype hcontent hsize
      have heffective : existing.effectiveAt = input.effectiveAt :=
        congrArg Publication.effectiveAt heq
      rw [hexisting]
      dsimp only
      rw [if_pos]
      · exact ⟨_, _, rfl⟩
      · simp only [samePublication, hhash, htype, hcontent, hsize, heffective,
          TermsPublicationInput.publication, BEq.rfl, Bool.and_self]
    -- A new version passes the checks of the insert.
    · have hnone : db.findVersion input.version = none := by
        refine List.find?_eq_none.mpr fun o ho => ?_
        have hne : o.version ≠ input.version :=
          (hfresh _ (hfollows.mem_publications.mpr ⟨o, ho, rfl⟩)).1
        simpa using hne
      rw [hnone]
      refine publishNew_of hsound.gapless written_newDocument hvalid (fun o ho => ?_)
        (fun o ho => ?_) (Table.find?_eq_none.mp hid) hsound.within fun a ha => ?_
      · exact (hfresh _ (hfollows.mem_publications.mpr ⟨o, ho, rfl⟩)).2.2
      · have hnew := hfresh _ (hfollows.mem_publications.mpr ⟨o, ho, rfl⟩)
        refine ⟨hnew.1, ?_⟩
        rw [(hsound.written o ho).contentHash]
        exact hnew.2.1
      · exact hearlier _ _ ((hfollows.accepts _ _).mpr ⟨a, ha, rfl, rfl⟩)

/-- The first terms are published a second time. -/
theorem publication_answers_repeated :
    ∃ trace db input, (lifecycle Sample.sha256).Run trace db ∧
      parseTermsPublicationInput (Sample.argv "1" "1970-01-01T00:00:01Z") (fun _ => none) =
        .ok input ∧
      ∃ result, publishTerms Sample.sha256 db input [0x54] (SinoChat.Sample.uuidOf 5) 3000 =
        .ok (db, result) ∧ result.created = false := by
  obtain ⟨trace, db, hrun, hpublications, -, -, hid, -⟩ := Sample.script_run
  have hparse : (parseTermsPublicationInput (Sample.argv "1" "1970-01-01T00:00:01Z")
      (fun _ => none)).toOption.any (fun input =>
        input.publication [0x54] = Sample.first ∧ input.expectedSha256 = none) = true := by
    decide +kernel
  obtain ⟨input, hinput, hfields⟩ := (Option.any_eq_true _ _).mp hparse
  obtain ⟨hpublication, hexpected⟩ := of_decide_eq_true hfields
  have hanswers := @publication_answers _ db input [0x54] _ 3000 trace _ _ hrun
    (ok_of_toOption hinput) hid
  have hmem : input.publication [0x54] ∈ publications trace := by
    rw [hpublications, hpublication]
    exact List.mem_cons_self
  obtain ⟨db', result, hok⟩ := hanswers.2.mpr ⟨by
    rw [hpublication]
    exact ⟨by decide +kernel, by decide, _, rfl, by decide +kernel, by decide⟩,
    by rw [hexpected]; rfl, .inl hmem⟩
  obtain ⟨hcreated, hsame, -⟩ := hanswers.1 db' result hok
  obtain rfl := hsame (hcreated.mpr hmem)
  exact ⟨trace, db', input, hrun, ok_of_toOption hinput, result, hok, hcreated.mpr hmem⟩

end Terms

end SinoChat
