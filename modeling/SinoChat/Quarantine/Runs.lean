import SinoChat.Quarantine.Stored

/-!
# Runs of the quarantine

Over a run the tables only grow (`grows_of_steps`) and keep their invariant
(`inv_of_run`), and every row has its call: a candidate the reservation that was answered
with it, a flow the admission that was answered with it, behind the reservation of its
candidate (`ledger_of_run`).
-/

namespace SinoChat

open Js

namespace Quarantine

open MatrixDeviceVerificationService (summary)

variable {env : Env} {db db' : Db} {trace : List Event} {event : Event}

/-! ## Growth -/

/-- A request that was served had its effect. -/
theorem served_of_step {principal : SessionPrincipal} {clock : Readings} {request : Request}
    {answer : Except HttpException Answer}
    (h : (quarantine env).step db (.served principal clock request answer) db') :
    request.Parsed ∧ Served env db principal request db' answer := by
  cases h with
  | served hparsed hserve => exact ⟨hparsed, served_of_serve hserve⟩

/-- A step only resolves and adds. -/
theorem grows_of_step (h : (quarantine env).step db event db') : Grows db db' := by
  cases h with
  | backdrop => exact ⟨fun c hc => ⟨c, hc, .inl rfl⟩, fun f hf => ⟨f, hf, .inl rfl⟩⟩
  | served hparsed hserve => exact (served_of_serve hserve).change.grows

/-- So does a stretch of steps. -/
theorem grows_of_steps (h : (quarantine env).Steps db trace db') : Grows db db' :=
  h.rel Grows.refl (fun _ _ _ => Grows.trans) fun _ _ _ => grows_of_step

/-- **The invariant along runs.** -/
theorem inv_of_run (h : (quarantine env).Run trace db) : Inv db := by
  refine h.stateInvariant (I := Inv) (fun s hs => ?_) fun s a s' hinv hstep => ?_
  · obtain ⟨hcandidates, hflows⟩ := hs
    exact .init hcandidates hflows
  · cases hstep with
    | backdrop => exact hinv.withBackdrop _
    | served hparsed hserve => exact (served_of_serve hserve).change.inv hinv

/-- A step keeps the identities. -/
theorem keepsIdentities_of_step (h : (quarantine env).step db event db') :
    db.backdrop.KeepsIdentities db'.backdrop := by
  cases h with
  | backdrop hkeeps => exact hkeeps
  | served hparsed hserve =>
    rw [(served_of_serve hserve).change.backdrop]
    exact fun _ _ h => h

/-- So does a stretch of steps. -/
theorem keepsIdentities_of_steps (h : (quarantine env).Steps db trace db') :
    db.backdrop.KeepsIdentities db'.backdrop := by
  refine h.rel (R := fun s t => s.backdrop.KeepsIdentities t.backdrop) (fun s _ _ h => h) ?_
    fun _ _ _ => keepsIdentities_of_step
  exact fun _ _ _ hst htu userId identity hfind => htu _ _ (hst _ _ hfind)

/-! ## The call of a row -/

/-- **The reservation of a candidate**, among the calls of a trace. -/
def Reserved (env : Env) (trace : List Event) (c : MatrixDeviceCandidate) : Prop :=
  ∃ principal clock value status,
    .served principal clock (.reserve c.id.text value) (.ok (.candidate status)) ∈ trace ∧
    status.candidateId = c.id ∧ canonicalId? c.id.text = some c.id ∧
    ReservedBy env principal value c

/-- **The admission of a flow**, behind the reservation of its candidate. -/
def Admitted (env : Env) (trace : List Event) (db : Db) (f : MatrixDeviceVerificationFlow) : Prop :=
  ∃ later earlier principal clock body,
    trace = later ++ .served principal clock
      (.openFlow f.candidateId.text f.flowId f.requestTransactionId body)
      (.ok (.admission (summary f))) :: earlier ∧
    body.Distinct ∧ ∃ c ∈ db.candidates, OpenedBy env db.backdrop principal body c f ∧
      Reserved env earlier c

/-- Every row was asked for by a request that was served. -/
structure Ledger (env : Env) (trace : List Event) (db : Db) : Prop where
  candidates : ∀ c ∈ db.candidates, Reserved env trace c
  flows : ∀ f ∈ db.flows, Admitted env trace db f

/-- A reserved candidate stays reserved. -/
theorem Reserved.becomes {c c' : MatrixDeviceCandidate} (h : Reserved env trace c)
    (hc : c.Becomes c') : Reserved env trace c' := by
  obtain ⟨principal, clock, value, status, hmem, hid, hcanonical, hreserved⟩ := h
  rw [← hc.id_eq] at hmem hid hcanonical
  exact ⟨principal, clock, value, status, hmem, hid, hcanonical, hreserved.becomes hc⟩

/-- So it does when more happens. -/
theorem Reserved.cons {c : MatrixDeviceCandidate} (h : Reserved env trace c) :
    Reserved env (event :: trace) c := by
  obtain ⟨principal, clock, value, status, hmem, hrest⟩ := h
  exact ⟨principal, clock, value, status, List.mem_cons_of_mem _ hmem, hrest⟩

/-- What an admission has read stays as it is. -/
theorem OpenedBy.later {backdrop backdrop' : Backdrop} {principal : SessionPrincipal} {body : Json}
    {c c' : MatrixDeviceCandidate} {f f' : MatrixDeviceVerificationFlow}
    (h : OpenedBy env backdrop principal body c f) (hkeeps : backdrop.KeepsIdentities backdrop')
    (hc : c.Becomes c') (hf : f.Becomes f') : OpenedBy env backdrop' principal body c' f' := by
  have hidentity := h.request
  obtain ⟨identity, request, hfind, hrest⟩ := hidentity
  have h' : OpenedBy env backdrop' principal body c f :=
    { h with request := ⟨identity, request, hkeeps _ _ hfind, hrest⟩ }
  rcases hc with rfl | ⟨-, status, resolvedAt, -, rfl⟩ <;>
    rcases hf with rfl | ⟨-, status', resolvedAt', -, rfl⟩ <;>
    exact ⟨h'.candidateId, h'.userId, h'.reviewerSessionId, h'.deviceId, h'.matrixUserId,
      h'.matrixDeviceId, h'.snapshot, h'.request⟩

/-- What is summarised of a flow does not change. -/
theorem summary_of_becomes {f f' : MatrixDeviceVerificationFlow} (h : f.Becomes f') :
    summary f' = summary f ∧ f'.candidateId = f.candidateId ∧ f'.flowId = f.flowId ∧
      f'.requestTransactionId = f.requestTransactionId := by
  rcases h with rfl | ⟨-, status, resolvedAt, -, rfl⟩ <;> exact ⟨rfl, rfl, rfl, rfl⟩

/-- An admission stands behind the steps that follow. -/
theorem Admitted.step {f f' : MatrixDeviceVerificationFlow} (h : Admitted env trace db f)
    (hf : f.Becomes f') (hgrows : Grows db db')
    (hkeeps : db.backdrop.KeepsIdentities db'.backdrop) :
    Admitted env (event :: trace) db' f' := by
  obtain ⟨later, earlier, principal, clock, body, rfl, hbody, c, hc, hopened, hreserved⟩ := h
  obtain ⟨c', hc', hbecomes⟩ := hgrows.candidates c hc
  obtain ⟨hsummary, hid, hflow, htxn⟩ := summary_of_becomes hf
  refine ⟨event :: later, earlier, principal, clock, body, ?_, hbody, c', hc',
    hopened.later hkeeps hbecomes hf, hreserved.becomes hbecomes⟩
  rw [hsummary, hid, hflow, htxn]
  rfl

/-- **Every row has its call.** -/
theorem ledger_of_run (h : (quarantine env).Run trace db) : Ledger env trace db := by
  refine h.invariant (I := Ledger env) (fun s hs => ?_) fun trace s event s' _ hledger hstep => ?_
  · obtain ⟨backdrop, candidates, flows⟩ := s
    obtain ⟨rfl, rfl⟩ : candidates = Table.empty ∧ flows = Table.empty := hs
    exact ⟨nofun, nofun⟩
  · have hgrows := grows_of_step hstep
    have hkeeps := keepsIdentities_of_step hstep
    cases hstep with
    | backdrop =>
      exact ⟨fun c hc => (hledger.candidates c hc).cons,
        fun f hf => (hledger.flows f hf).step (.inl rfl) hgrows hkeeps⟩
    | @served _ principal clock request answer hparsed hserve =>
      have hserved := served_of_serve hserve
      refine ⟨fun c' hc' => ?_, fun f' hf' => ?_⟩
      · rcases hserved.change.candidates c' hc' with ⟨c, hc, hbecomes⟩ | hnew
        · exact ((hledger.candidates c hc).becomes hbecomes).cons
        · obtain ⟨value, status, rfl, rfl, hid, hreserved⟩ := hnew.reserved
          exact ⟨principal, clock, value, status, List.mem_cons_self, hid, hnew.canonical,
            hreserved⟩
      · rcases hserved.change.flows f' hf' with ⟨f, hf, hbecomes⟩ | hnew
        · exact (hledger.flows f hf).step hbecomes hgrows hkeeps
        · obtain ⟨body, rfl, rfl, c, hc, hpending, hopened⟩ := hnew.opened
          obtain ⟨c', hc', hbecomes⟩ := hgrows.candidates c hc
          exact ⟨[], trace, principal, clock, body, rfl, hparsed, c', hc',
            hopened.later hkeeps hbecomes (.inl rfl), (hledger.candidates c hc).becomes hbecomes⟩

end Quarantine

end SinoChat
