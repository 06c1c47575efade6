import SinoChat.Terms.History

/-!
# What a registration has accepted

The document that a registration names is kept with its text, and the acceptance with it,
whatever is published later. So an account stands by the terms that it was shown, and these
are the terms that the history has for the time of its registration.
-/

namespace SinoChat

open Js

namespace Terms

variable {digest : Digest} {db db' : Db} {now : ℤ} {event : Event} {trace : List Event}
  {registrant : Registrant} {terms : TermsInput} {userId : Uuid}

/-! ## What a step keeps -/

/-- No step takes away a document or an acceptance. -/
theorem Step.kept (h : Sound digest db) (hstep : Step digest db event db') :
    (∀ d ∈ db.documents, ∃ d' ∈ db'.documents, d'.id = d.id ∧ d'.publication = d.publication ∧
      d'.contentHash = d.contentHash) ∧ ∀ a ∈ db.acceptances, a ∈ db'.acceptances := by
  cases hstep with
  | accounts _ => exact ⟨fun d hd => ⟨d, hd, rfl, rfl, rfl⟩, fun a ha => ha⟩
  | @published _ _ input bytes id createdAt outcome _ hpublish =>
    cases outcome with
    | error error => exact ⟨fun d hd => ⟨d, hd, rfl, rfl, rfl⟩, fun a ha => ha⟩
    | ok answer =>
      obtain ⟨db', result⟩ := answer
      obtain ⟨-, ⟨rfl, -, -⟩ | ⟨hp, -, -⟩⟩ := publishTerms_eq_ok h hpublish
      · exact ⟨fun d hd => ⟨d, hd, rfl, rfl, rfl⟩, fun a ha => ha⟩
      · simp only [committed]
        refine ⟨fun d hd => ⟨closeAt input.effectiveAt d, ?_, closeAt_id, closeAt_publication,
          closeAt_contentHash⟩, fun a ha => by rwa [hp.acceptances]⟩
        rw [Table.mem_def, hp.rows]
        exact List.mem_append_left _ (List.mem_map_of_mem hd)
  | @registered registrant terms rest now ids outcome hregister =>
    cases outcome with
    | error error => exact ⟨fun d hd => ⟨d, hd, rfl, rfl, rfl⟩, fun a ha => ha⟩
    | ok db' =>
      obtain ⟨_, -, -, -, hdocuments, -, hnew, hacceptances⟩ := register_eq_ok hregister
      simp only [Except.map, committed, hdocuments, hacceptances]
      exact ⟨fun d hd => ⟨d, hd, rfl, rfl, rfl⟩, fun a ha => Table.mem_insert.mpr (.inl ha)⟩

/-! ## What stands -/

/-- An account has accepted the document that its registration named. -/
def Stands (db : Db) (terms : TermsInput) (now : ℤ) (userId : Uuid) : Prop :=
  ∃ a ∈ db.acceptances, ∃ d ∈ db.documents, a.userId = userId ∧ a.acceptedAt = now ∧
    d.id = a.termsDocumentId ∧ d.version = terms.termsVersion ∧
      d.contentHash = terms.termsContentHash

/-- An acceptance stands through a step. -/
theorem Stands.step (hs : Stands db terms now userId) (h : Sound digest db)
    (hstep : Step digest db event db') : Stands db' terms now userId := by
  obtain ⟨a, ha, d, hd, huser, hnow, hid, hversion, hhash⟩ := hs
  obtain ⟨hdocuments, hacceptances⟩ := hstep.kept h
  obtain ⟨d', hd', hid', hpublication, hhash'⟩ := hdocuments d hd
  have hversion' : d'.version = d.version := congrArg Publication.version hpublication
  exact ⟨a, hacceptances a ha, d', hd', huser, hnow, hid'.trans hid, hversion'.trans hversion,
    hhash'.trans hhash⟩

/-- What a registration accepts stands behind it. -/
theorem stands_of_registered (h : Sound digest db)
    (hstep : Step digest db (.registered registrant terms now userId (.ok ())) db') :
    Stands db' terms now userId := by
  generalize hevent : Event.registered registrant terms now userId (.ok ()) = event at hstep
  cases hstep with
  | accounts => cases hevent
  | published => cases hevent
  | @registered registrant' terms' rest now' ids outcome hregister =>
    cases outcome with
    | error error => cases hevent
    | ok db' =>
      cases hevent
      obtain ⟨d, hd, hversion, hhash, hdocuments, -, hnew, hacceptances⟩ := register_eq_ok hregister
      have hmem : d ∈ db.documents := by
        rw [termsInForce_eq h.gapless h.written] at hd
        exact (h.gapless.covers_iff.mpr hd).1
      simp only [Stands, Except.map, committed, hdocuments, hacceptances]
      exact ⟨_, Table.mem_insert.mpr (.inr rfl), d, hmem, rfl, rfl, rfl, hversion, hhash⟩

/-- Whatever was accepted in a run stands at its end. -/
theorem stands (h : (lifecycle digest).Run trace db)
    (hmem : Event.registered registrant terms now userId (.ok ()) ∈ trace) :
    Stands db terms now userId := by
  induction h with
  | init _ => cases hmem
  | step hrun hstep ih =>
    rcases List.mem_cons.mp hmem with heq | hmem
    · exact stands_of_registered (follows hrun).sound (heq ▸ hstep)
    · exact (ih hmem).step (follows hrun).sound hstep

/-- The account has the one acceptance. -/
theorem Sound.only (h : Sound digest db) {a : TermsAcceptance} (ha : a ∈ db.acceptances) :
    db.acceptances.rows.filter (fun b => b.userId = a.userId) = [a] := by
  obtain ⟨u, hu, huser⟩ := h.owned a ha
  have hmem : a ∈ db.acceptances.rows.filter (fun b => b.userId = a.userId) :=
    List.mem_filter.mpr ⟨ha, decide_eq_true rfl⟩
  have hcount : (db.acceptances.rows.filter (fun b => b.userId = a.userId)).length =
      if u.role = .admin then 0 else 1 := by
    rw [← List.countP_eq_length_filter, ← huser]
    exact h.once u hu
  split_ifs at hcount
  · rw [List.length_eq_zero_iff.mp hcount] at hmem
    cases hmem
  · obtain ⟨b, hb⟩ := List.length_eq_one_iff.mp hcount
    rw [hb, List.mem_singleton] at hmem
    rw [hb, hmem]

/-- **A registration accepts the terms that it names, once and for good.** Whatever is
published later, the history has those terms at the time of the registration, and the one
acceptance of the account is of their document. Every account but an administrator's comes
from such a registration. -/
theorem acceptance_stands (h : (lifecycle digest).Run trace db) :
    (∀ registrant terms now userId, Event.registered registrant terms now userId (.ok ()) ∈ trace →
      ∃ p a d, Timeline.entryAt Publication.effectiveAt (publications trace) now = some p ∧
        p.version = terms.termsVersion ∧ digest.sha256Hex p.content = terms.termsContentHash ∧
        db.acceptances.rows.filter (fun b => b.userId = userId) = [a] ∧ a.acceptedAt = now ∧
        db.documents.find? a.termsDocumentId = some d ∧ d.publication = p) ∧
      ∀ u ∈ db.users, u.role ≠ .admin → ∃ registrant terms now,
        Event.registered registrant terms now u.id (.ok ()) ∈ trace := by
  have hfollows := follows h
  have hsound := hfollows.sound
  constructor
  · intro registrant terms now userId hmem
    obtain ⟨a, ha, d, hd, rfl, rfl, hid, hversion, hhash⟩ := stands h hmem
    -- the document of the acceptance is the one that was in force
    obtain ⟨d', hd', hid', hforce⟩ := hsound.within a ha
    obtain rfl := Table.eq_of_key_eq hd hd' (hid.trans hid'.symm)
    have hcurrent : db.termsInForce a.acceptedAt = some d := by
      rw [termsInForce_eq hsound.gapless hsound.written]
      exact hsound.gapless.covers_iff.mp ⟨hd, hforce⟩
    refine ⟨d.publication, a, d, ?_, hversion, ?_, hsound.only ha, rfl,
      Table.find?_eq_some.mpr ⟨hd, hid⟩, rfl⟩
    · rw [← hfollows.termsInForce, hcurrent]
      rfl
    · rw [← (hsound.written d hd).contentHash]
      exact hhash
  · intro u hu hrole
    have honce := hsound.once u hu
    rw [if_neg hrole] at honce
    obtain ⟨a, ha, huser⟩ := Table.exists_of_count_pos (honce ▸ Nat.one_pos)
    have huser' : a.userId = u.id := of_decide_eq_true huser
    obtain ⟨registrant, terms, hmem⟩ := (hfollows.accepts u.id a.acceptedAt).mpr
      ⟨a, ha, huser', rfl⟩
    exact ⟨registrant, terms, a.acceptedAt, hmem⟩

/-- The client of the sample has accepted the first terms. -/
theorem acceptance_stands_client : ∃ trace db a d, (lifecycle Sample.sha256).Run trace db ∧
    publications trace = [Sample.first, Sample.second] ∧
    db.acceptances.rows.filter (fun b => b.userId = SinoChat.Sample.uuidOf 2) = [a] ∧
    db.documents.find? a.termsDocumentId = some d ∧
    Timeline.entryAt Publication.effectiveAt (publications trace) a.acceptedAt =
      some d.publication := by
  obtain ⟨trace, db, hrun, hpublications, huser, -⟩ := Sample.script_run
  obtain ⟨haccepted, hregistered⟩ := acceptance_stands hrun
  obtain ⟨hmem, hid⟩ := Table.find?_eq_some.mp huser
  obtain ⟨registrant, terms, now, hevent⟩ := hregistered _ hmem (by decide)
  rw [hid] at hevent
  obtain ⟨p, a, d, hentry, -, -, honly, rfl, hfind, rfl⟩ := haccepted _ _ _ _ hevent
  exact ⟨trace, db, a, d, hrun, hpublications, honly, hfind, hentry⟩

/-! ## What a reader was shown -/

/-- The client verifies whatever the server shows. -/
theorem loadTermsDocument_served {published : List Publication} {p : Publication}
    (hvalid : p.Valid) : ∃ shown, loadTermsDocument digest (send (p.served digest published)) =
      .ok shown ∧ shown.version = p.version ∧ shown.contentHash = digest.sha256Hex p.content ∧
        decodeText p.content = some shown.content := by
  obtain ⟨text, htext, -⟩ := hvalid.text
  have hformat : isSha256 (digest.sha256Hex p.content) = true := digest.format _
  refine ⟨⟨text, digest.sha256Hex p.content, p.version⟩, ?_, rfl, rfl, htext⟩
  unfold loadTermsDocument
  refine bind_eq_ok.mpr ⟨p.version, orThrow_eq_ok.mpr ?_, bind_eq_ok.mpr
    ⟨digest.sha256Hex p.content, orThrow_eq_ok.mpr ?_, bind_eq_ok.mpr ⟨(), ?_, bind_eq_ok.mpr
      ⟨text, orThrow_eq_ok.mpr htext, rfl⟩⟩⟩⟩
  · exact Option.filter_eq_some_iff.mpr ⟨rfl, hvalid.version⟩
  · exact Option.filter_eq_some_iff.mpr ⟨rfl, hformat⟩
  · exact require_eq_ok.mpr BEq.rfl

/-- A document that is there stays there. -/
theorem mem_documents_of_steps (h : (lifecycle digest).Run trace db) {later : List Event}
    (hsteps : (lifecycle digest).Steps db later db') {d : TermsDocument} (hd : d ∈ db.documents) :
    ∃ d' ∈ db'.documents, d'.publication = d.publication ∧ d'.contentHash = d.contentHash := by
  induction hsteps with
  | refl => exact ⟨d, hd, rfl, rfl⟩
  | step hearlier hstep ih =>
    obtain ⟨d', hd', hpublication, hhash⟩ := ih
    obtain ⟨d'', hd'', -, hpublication', hhash'⟩ :=
      (Step.kept (follows (h.append hearlier)).sound hstep).1 d' hd'
    exact ⟨d'', hd'', hpublication'.trans hpublication, hhash'.trans hhash⟩

/-- The identity of a document is accepted by that document alone. -/
theorem Sound.assertAcceptedTerms (h : Sound digest db) {d o : TermsDocument}
    (hd : d ∈ db.documents) (ho : o ∈ db.documents) {accepted : Bool} :
    assertAcceptedTerms o ⟨accepted, d.version, d.contentHash⟩ =
      if o = d then .ok () else .error termsChanged := by
  unfold Terms.assertAcceptedTerms require
  by_cases heq : o = d
  · simp [heq]
  · have hversion : o.version ≠ d.version := fun hsame => heq (h.versions o ho d hd hsame)
    simp [heq, hversion]

/-- The identity of a document passes the first check. -/
theorem Sound.checkTerms_eq_ok (h : Sound digest db) {d : TermsDocument} (hd : d ∈ db.documents) :
    checkTerms db registrant ⟨true, d.version, d.contentHash⟩ = .ok () := by
  have hcomplete := (h.written d hd).complete
  obtain ⟨o, ho⟩ : ∃ o, db.acceptedTermsIdentity d.version = some o :=
    Option.isSome_iff_exists.mp (List.find?_isSome.mpr ⟨d, hd, by simp [hcomplete]⟩)
  have hmem : o ∈ db.documents := List.mem_of_find?_eq_some ho
  have hversion : o.version = d.version := by
    have hfound := List.find?_some ho
    rw [Bool.and_eq_true, decide_eq_true_iff] at hfound
    exact hfound.1
  obtain rfl := h.versions o hmem d hd hversion
  refine bind_eq_ok.mpr ⟨(), require_eq_ok.mpr rfl, bind_eq_ok.mpr ⟨o, orThrow_eq_ok.mpr ho, ?_⟩⟩
  rw [h.assertAcceptedTerms hmem hmem, if_pos rfl]

/-- **When an acceptance is let in.** -/
theorem accept_of {d : TermsDocument} {a : TermsAcceptance}
    (hfree : db.acceptances.find? a.id = none) (hd : d ∈ db.documents)
    (hid : d.id = a.termsDocumentId) (hforce : d.inForce a.acceptedAt = true)
    (hnew : ∀ other ∈ db.acceptances, other.userId ≠ a.userId) :
    ∃ db', db.accept a = .ok db' := by
  have hall : db.acceptances.rows.all (fun other =>
      other.userId != a.userId || other.termsDocumentId != a.termsDocumentId) = true := by
    refine List.all_eq_true.mpr fun other hother => ?_
    simp [hnew other hother]
  unfold Db.accept
  rw [dif_pos hfree]
  exact ⟨_, bind_eq_ok.mpr ⟨d, orThrow_eq_ok.mpr (Table.find?_eq_some.mpr ⟨hd, hid⟩),
    bind_eq_ok.mpr ⟨(), require_eq_ok.mpr hforce, bind_eq_ok.mpr
      ⟨(), require_eq_ok.mpr hall, rfl⟩⟩⟩⟩

/-- An account without a row can accept the document in force. -/
theorem Sound.register_of (h : Sound digest db) {d : TermsDocument} {ids : RegistrationIds}
    {accepted : Bool} (hforce : db.termsInForce now = some d)
    (huser : db.users.find? ids.userId = none)
    (hacceptance : db.acceptances.find? ids.acceptanceId = none) :
    ∃ db', register db registrant ⟨accepted, d.version, d.contentHash⟩ (.ok ()) now ids =
      .ok db' := by
  have hin := h.gapless.covers_iff.mpr ((termsInForce_eq h.gapless h.written now).symm.trans hforce)
  have hnobody : ∀ a ∈ db.acceptances, a.userId ≠ ids.userId := by
    intro a ha heq
    obtain ⟨u, hu, hid⟩ := h.owned a ha
    exact Table.find?_eq_none.mp huser u hu (hid.trans heq)
  have haccept : ∃ db', Db.accept
      { db with users := db.users.insert (registrant.account ids.userId) huser }
      ⟨ids.acceptanceId, ids.userId, d.id, now, ids.ipHash⟩ = .ok db' :=
    accept_of hacceptance hin.1 rfl hin.2 hnobody
  obtain ⟨db', haccept⟩ := haccept
  have hsame : Terms.assertAcceptedTerms d ⟨accepted, d.version, d.contentHash⟩ = .ok () := by
    rw [h.assertAcceptedTerms hin.1 hin.1, if_pos rfl]
  exact ⟨db', bind_eq_ok.mpr ⟨d, orThrow_eq_ok.mpr hforce, bind_eq_ok.mpr ⟨(), hsame,
    bind_eq_ok.mpr ⟨_, Table.create_eq_ok.mpr ⟨huser, rfl⟩, bind_eq_ok.mpr
      ⟨db', haccept, rfl⟩⟩⟩⟩⟩

/-- **Who sends back the terms that it was shown** passes the first check, and registers
exactly while those terms are in force. Once others are, the answer is that the terms have
changed. -/
theorem shown_terms (h : (lifecycle digest).Run trace db) {t : ℤ} {served : ServedTermsDocument}
    (hserved : currentTerms db t = .ok served) :
    ∃ p shown, Timeline.entryAt Publication.effectiveAt (publications trace) t = some p ∧
      loadTermsDocument digest (send served) = .ok shown ∧
      decodeText p.content = some shown.content ∧
      ∀ later db', (lifecycle digest).Steps db later db' → ∀ registrant,
        checkTerms db' registrant ⟨true, shown.version, shown.contentHash⟩ = .ok () ∧
        (∀ now ids, db'.users.find? ids.userId = none →
          db'.acceptances.find? ids.acceptanceId = none →
          ((∃ db'', register db' registrant ⟨true, shown.version, shown.contentHash⟩ (.ok ()) now
              ids = .ok db'') ↔
            Timeline.entryAt Publication.effectiveAt (publications (later ++ trace)) now =
              some p)) ∧
        ∀ now ids rest q,
          Timeline.entryAt Publication.effectiveAt (publications (later ++ trace)) now = some q →
          q ≠ p → register db' registrant ⟨true, shown.version, shown.contentHash⟩ rest now ids =
            .error termsChanged := by
  have hfollows := follows h
  obtain ⟨d, hcurrent, hcomplete⟩ := bind_eq_ok.mp hserved
  have hforce := orThrow_eq_ok.mp hcurrent
  have hd := (hfollows.mem_of_termsInForce hforce).1
  rw [hfollows.assertComplete_eq hd] at hcomplete
  obtain rfl := Except.ok.inj hcomplete
  obtain ⟨shown, hload, hversion, hhash, htext⟩ :=
    @loadTermsDocument_served digest (publications trace) _ (hfollows.sound.valid d hd)
  refine ⟨d.publication, shown, ?_, hload, htext, fun later db' hsteps registrant => ?_⟩
  · rw [← hfollows.termsInForce, hforce]
    rfl
  have hfollows' := follows (h.append hsteps)
  have hsound := hfollows'.sound
  -- the document is still there, and is the one with this identity
  obtain ⟨d', hd', hpublication, hhash'⟩ := mem_documents_of_steps h hsteps hd
  have hversion' : shown.version = d'.version :=
    hversion.trans (congrArg Publication.version hpublication).symm
  have hcontent : shown.contentHash = d'.contentHash :=
    hhash.trans ((hfollows.sound.written d hd).contentHash.symm.trans hhash'.symm)
  have hentry : ∀ now,
      Timeline.entryAt Publication.effectiveAt (publications (later ++ trace)) now =
        some d.publication ↔ db'.termsInForce now = some d' := by
    intro now
    rw [← hfollows'.termsInForce, ← hpublication]
    constructor
    · intro hmap
      obtain ⟨o, ho, hsame⟩ := Option.map_eq_some_iff.mp hmap
      rw [ho, hsound.versions o (hfollows'.mem_of_termsInForce ho).1 d' hd'
        (congrArg Publication.version hsame)]
    · intro hnow
      rw [hnow]
      rfl
  rw [hversion', hcontent]
  refine ⟨?_, fun now ids huser hacceptance => ?_, fun now ids rest q hq hne => ?_⟩
  · exact hsound.checkTerms_eq_ok hd'
  · rw [hentry]
    constructor
    · rintro ⟨db'', hregister⟩
      obtain ⟨o, ho, hsame, -⟩ := register_eq_ok hregister
      rw [ho, hsound.versions o (hfollows'.mem_of_termsInForce ho).1 d' hd' hsame]
    · exact fun hnow => hsound.register_of hnow huser hacceptance
  · obtain ⟨o, ho, rfl⟩ := Option.map_eq_some_iff.mp ((hfollows'.termsInForce now).trans hq)
    have hother : o ≠ d' := fun heq => hne (heq ▸ hpublication)
    have hchanged : assertAcceptedTerms o ⟨true, d'.version, d'.contentHash⟩ =
        .error termsChanged := by
      rw [hsound.assertAcceptedTerms hd' (hfollows'.mem_of_termsInForce ho).1, if_neg hother]
    unfold register
    simp only [ho, orThrow, bind, Except.bind, hchanged]

/-- The first terms, shown in their last millisecond, are accepted then and not later. -/
theorem shown_terms_first : ∃ trace db shown, (lifecycle Sample.sha256).Run trace db ∧
    (∃ served, currentTerms db 1999 = .ok served ∧
      loadTermsDocument Sample.sha256 (send served) = .ok shown) ∧
    (∃ db', register db .client ⟨true, shown.version, shown.contentHash⟩ (.ok ()) 1999
      ⟨SinoChat.Sample.uuidOf 6, SinoChat.Sample.uuidOf 7, none⟩ = .ok db') ∧
    register db .client ⟨true, shown.version, shown.contentHash⟩ (.ok ()) 2000
      ⟨SinoChat.Sample.uuidOf 6, SinoChat.Sample.uuidOf 7, none⟩ = .error termsChanged := by
  obtain ⟨trace, db, hrun, hpublications, -, hserved, -, huser, hacceptance⟩ := Sample.script_run
  obtain ⟨served, hserved⟩ := Option.isSome_iff_exists.mp hserved
  obtain ⟨p, shown, hentry, hload, -, hlater⟩ := shown_terms hrun (ok_of_toOption hserved)
  obtain ⟨-, hregisters, hchanged⟩ := hlater [] db .refl .client
  have hsecond : Timeline.entryAt Publication.effectiveAt [Sample.first, Sample.second] 2000 =
      some Sample.second := by decide
  have hfirst : Timeline.entryAt Publication.effectiveAt [Sample.first, Sample.second] 1999 =
      some Sample.first := by decide
  refine ⟨trace, db, shown, hrun, ⟨served, ok_of_toOption hserved, hload⟩,
    (hregisters _ _ huser hacceptance).mpr hentry, hchanged _ _ _ Sample.second ?_ ?_⟩
  · rw [List.nil_append, hpublications, hsecond]
  · rw [hpublications, hfirst] at hentry
    rw [← Option.some.inj hentry]
    decide

end Terms

end SinoChat
