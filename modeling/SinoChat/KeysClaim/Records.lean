import SinoChat.KeyDirectory.SingleUse

/-!
# The records of the claims

A claim leaves one record, under the claiming device and the request id, and at
most one result for each device that it asked for (`ServiceStep.records`). So in
a run the records have different names, each is the record of a claim of the run,
and a device has one result of it at most (`recordsInv`).
-/

namespace SinoChat

open Js

variable {env : Deployment}

/-- The name of a record. -/
def MatrixKeyClaimRequest.name (request : MatrixKeyClaimRequest) : Uuid × JsString :=
  (request.requesterDeviceId, request.requestId)

/-- A claim asks for the keys of a device. -/
def KeyClaim.AsksFor (claim : KeyClaim) (row : MatrixDeviceKey) : Prop :=
  ∃ parsed devices, claim.Parses parsed ∧ (row.matrixUserId, devices) ∈ parsed.oneTimeKeys ∧
    row.matrixDeviceId ∈ devices

/-- The targets of a claim are devices that are asked for. -/
theorem mem_claimTargets {accounts : Accounts} {scope : ClaimScope}
    {users : List (JsString × List JsString)} {excluded : Option Uuid} {target : Uuid}
    (h : target ∈ claimTargets accounts scope (((users.find? fun user =>
      user.1 = scope.matrixUserId).map Prod.snd).getD []) excluded) :
    ∃ row ∈ accounts.deviceKeys, row.deviceId = target ∧
      ∃ devices, (row.matrixUserId, devices) ∈ users ∧ row.matrixDeviceId ∈ devices := by
  unfold claimTargets at h
  obtain ⟨row, hrow, rfl⟩ := List.mem_map.mp (List.mem_sortBy.mp h)
  obtain ⟨hmem, hcond⟩ := List.mem_filter.mp hrow
  simp only [Bool.and_eq_true, beq_iff_eq, List.contains_iff_mem] at hcond
  obtain ⟨⟨⟨⟨-, huser⟩, hdevice⟩, -⟩, -⟩ := hcond
  refine ⟨row, Table.mem_def.mpr hmem, rfl, ?_⟩
  cases hfind : users.find? fun user => user.1 = scope.matrixUserId with
  | none => simp [hfind] at hdevice
  | some entry =>
    rw [hfind] at hdevice
    have hname : entry.1 = scope.matrixUserId := by
      have := List.find?_some hfind
      exact of_decide_eq_true this
    refine ⟨entry.2, ?_, hdevice⟩
    rw [huser, ← hname]
    exact List.mem_of_find?_eq_some hfind

/-- A claim repeats one or records its targets. -/
theorem KeyClaim.run_cases {claim : KeyClaim} {db db' : Db} {claimed : ClaimedKeys}
    (h : claim.run env db = .ok (db', claimed)) :
    db' = db ∨ ∃ deviceId parsed hash conversationId targets,
      claim.Asks env deviceId parsed hash ∧
      db.keys.previousClaim deviceId parsed.requestId = none ∧ targets.Nodup ∧
      (∀ target ∈ targets, ∃ row ∈ db.accounts.deviceKeys, row.deviceId = target ∧
        claim.AsksFor row) ∧
      db' = { db with
        keys := (db.keys.record (claim.request deviceId conversationId parsed hash)).takeFor
          claim.call.rowId claim.call.now targets } := by
  obtain ⟨deviceId, parsed, hash, scope, excluded, hasks, hrun⟩ := KeyClaim.run_eq_ok h
  unfold runClaim at hrun
  split at hrun
  · obtain ⟨_, -, hrun⟩ := bind_eq_ok.mp hrun
    cases hrun
    exact .inl rfl
  · rename_i hprevious
    cases hrun
    refine .inr ⟨deviceId, parsed, hash, scope.conversationId, _, hasks, hprevious,
      (claimTargets_published _ _ _ _).1, ?_, rfl⟩
    intro target htarget
    obtain ⟨row, hrow, hdevice, devices, huser, hin⟩ := mem_claimTargets htarget
    exact ⟨row, hrow, hdevice, parsed.claim, devices, hasks.names.2, huser, hin⟩

/-- **What a step does to the records**: nothing, or it adds the record and the results of a
claim. -/
inductive RecordChange (w : World) : Action → World → Prop
  | kept {a : Action} {w' : World} : w'.db.keys.claimRequests = w.db.keys.claimRequests →
      w'.db.keys.claimResults = w.db.keys.claimResults → RecordChange w a w'
  | added {claim : KeyClaim} {keys : ClaimedKeys} {w' : World} {record : MatrixKeyClaimRequest}
      {results : List MatrixKeyClaimResult} :
      record.id ∉ w.drawn → claim.key = some record.name →
      (∀ other ∈ w.db.keys.claimRequests, other.name ≠ record.name) →
      w'.db.keys.claimRequests = w.db.keys.claimRequests ++ [record] →
      w'.db.keys.claimResults = w.db.keys.claimResults ++ results →
      (results.map MatrixKeyClaimResult.recipientDeviceId).Nodup →
      (∀ result ∈ results, result.claimRequestId = record.id ∧
        ∃ row ∈ w.db.accounts.deviceKeys, row.deviceId = result.recipientDeviceId ∧
          claim.AsksFor row) →
      RecordChange w (.claimed claim keys) w'

theorem ServiceStep.records {w w' : World} {a : Action} (hinv : DirectoryInv w)
    (h : ServiceStep env w a w') : RecordChange w a w' := by
  have hchange := ServiceStep.keyChange h
  cases h with
  | @claim claim db' keys hnow helig hfresh hclaim =>
    rcases KeyClaim.run_cases hclaim with
      rfl | ⟨deviceId, parsed, hash, conversationId, targets, hasks, hprevious, hnodup, htargets, rfl⟩
    · exact .kept rfl rfl
    · have hclaimed := takeFor_claimed hinv.tables
        (claim.request deviceId conversationId parsed hash) claim.call.now hnodup
      refine @RecordChange.added _ claim keys _ (claim.request deviceId conversationId parsed hash) _
        hfresh hasks.names.1 ?_ hclaimed.requests hclaimed.results ?_ ?_
      · intro other hother hname
        have hnone := List.find?_eq_none.mp hprevious other hother
        obtain ⟨hdevice, hid⟩ := Prod.mk.inj hname
        exact hnone (by simpa [KeyClaim.request] using ⟨hdevice, hid⟩)
      · have hid : (targets.map (resultFor w.db.keys
            (claim.request deviceId conversationId parsed hash).id claim.call.now)).map
            MatrixKeyClaimResult.recipientDeviceId = targets := by
          rw [List.map_map]
          exact (List.map_congr_left fun target _ => (resultFor_names _ _ _ target).2).trans
            (List.map_id _)
        rw [hid]
        exact hnodup
      · intro result hresult
        obtain ⟨target, htarget, rfl⟩ := List.mem_map.mp hresult
        obtain ⟨row, hrow, hdevice, hfor⟩ := htargets target htarget
        exact ⟨(resultFor_names _ _ _ target).1, row, hrow,
          hdevice.trans (resultFor_names _ _ _ target).2.symm, hfor⟩
  | upload hnodup hfresh hupload =>
    have hup := uploadKeys_uploaded hnodup
      (fun key hkey hid => hfresh _ hid (hinv.keys key hkey).1)
      (fun key hkey => (hinv.keys key hkey).2) hupload
    exact .kept hup.requests hup.results
  | send | sendFailed | syncBegin | sync | syncFailed | uploadFailed | claimFailed | openCursor
  | registerList | publish | changeAccounts | purgeEvents | purgeBatches | tick =>
    cases hchange with
    | kept hkeys => exact .kept (by rw [hkeys]) (by rw [hkeys])

/-- **The records in a run.** -/
structure RecordsInv (trace : List Action) (w : World) : Prop where
  ids : (w.db.keys.claimRequests.map MatrixKeyClaimRequest.id).Nodup
  names : (w.db.keys.claimRequests.map MatrixKeyClaimRequest.name).Nodup
  /-- A record is of a claim of the run, and its results are of devices this claim asked for. -/
  made : ∀ record ∈ w.db.keys.claimRequests, ∃ claim keys, Action.claimed claim keys ∈ trace ∧
    claim.key = some record.name ∧ ∀ result ∈ w.db.keys.claimResults,
      result.claimRequestId = record.id → ∃ row ∈ w.db.accounts.deviceKeys,
        row.deviceId = result.recipientDeviceId ∧ claim.AsksFor row
  /-- A device has one result of a record. -/
  once : w.db.keys.claimResults.Pairwise fun first second =>
    first.claimRequestId = second.claimRequestId →
      first.recipientDeviceId ≠ second.recipientDeviceId

theorem RecordsInv.step {trace : List Action} {w w' : World} {a : Action}
    (hinv : RecordsInv trace w) (hdirectory : DirectoryInv w) (h : ServiceStep env w a w') :
    RecordsInv (a :: trace) w' := by
  have hidentities := ServiceStep.identities h
  cases ServiceStep.records hdirectory h with
  | kept hrequests hresults =>
    refine ⟨by rw [hrequests]; exact hinv.ids, by rw [hrequests]; exact hinv.names, ?_,
      by rw [hresults]; exact hinv.once⟩
    rw [hrequests, hresults]
    intro record hrecord
    obtain ⟨claim, keys, hmem, hkey, hrows⟩ := hinv.made record hrecord
    refine ⟨claim, keys, List.mem_cons_of_mem _ hmem, hkey, fun result hresult hid => ?_⟩
    obtain ⟨row, hrow, hrest⟩ := hrows result hresult hid
    exact ⟨row, hidentities row hrow, hrest⟩
  | @added claim keys _ record results hfresh hkey hnames hrequests hresults hnodup hnew =>
    -- the results there are name records there are, and the id of the new one was never drawn
    have hold : ∀ result ∈ w.db.keys.claimResults, result.claimRequestId ≠ record.id := by
      intro result hresult hid
      obtain ⟨other, hother, heq⟩ := List.mem_map.mp (hdirectory.tables.requests result hresult)
      exact hfresh (hid ▸ heq ▸ hdirectory.requests other hother)
    have hother : ∀ other ∈ w.db.keys.claimRequests, other.id ≠ record.id := fun other hmem hid =>
      hfresh (hid ▸ hdirectory.requests other hmem)
    refine ⟨?_, ?_, ?_, ?_⟩
    · rw [hrequests, List.map_append, List.map_singleton, List.nodup_append]
      refine ⟨hinv.ids, List.nodup_singleton _, fun id hid id' hid' => ?_⟩
      obtain ⟨other, hmem, rfl⟩ := List.mem_map.mp hid
      rw [List.mem_singleton.mp hid']
      exact hother other hmem
    · rw [hrequests, List.map_append, List.map_singleton, List.nodup_append]
      refine ⟨hinv.names, List.nodup_singleton _, fun name hname name' hname' => ?_⟩
      obtain ⟨other, hmem, rfl⟩ := List.mem_map.mp hname
      rw [List.mem_singleton.mp hname']
      exact hnames other hmem
    · rw [hrequests, hresults]
      intro made hmade
      rcases List.mem_append.mp hmade with hmade | hmade
      · obtain ⟨claim', keys', hmem, hkey', hrows⟩ := hinv.made made hmade
        refine ⟨claim', keys', List.mem_cons_of_mem _ hmem, hkey', fun result hresult hid => ?_⟩
        rcases List.mem_append.mp hresult with hresult | hresult
        · obtain ⟨row, hrow, hrest⟩ := hrows result hresult hid
          exact ⟨row, hidentities row hrow, hrest⟩
        · exact absurd (hid.symm.trans (hnew result hresult).1) (hother made hmade)
      · obtain rfl := List.mem_singleton.mp hmade
        refine ⟨claim, keys, List.mem_cons_self, hkey, fun result hresult hid => ?_⟩
        rcases List.mem_append.mp hresult with hresult | hresult
        · exact absurd hid (hold result hresult)
        · obtain ⟨-, row, hrow, hrest⟩ := hnew result hresult
          exact ⟨row, hidentities row hrow, hrest⟩
    · rw [hresults, List.pairwise_append]
      refine ⟨hinv.once, ?_, ?_⟩
      · refine List.Pairwise.imp ?_ (List.pairwise_map.mp hnodup)
        exact fun hne _ => hne
      · intro first hfirst second hsecond hid
        exact absurd (hid.trans (hnew second hsecond).1) (hold first hfirst)

/-- **The records of a run are in order.** -/
theorem recordsInv {trace : List Action} {w : World} (h : (service env).Run trace w) :
    RecordsInv trace w :=
  h.invariant (I := RecordsInv)
    (fun w hinit => by
      refine ⟨?_, ?_, ?_, ?_⟩ <;> rw [hinit.keys]
      all_goals simp)
    fun _ _ _ _ hrun hinv hstep => hinv.step (directoryInv hrun) hstep

/-! ## The answer of a record -/

/-- The answer to a claim that is recorded; none is recorded as no keys. -/
def recordedAnswer (w : World) (deviceId : Uuid) (requestId : JsString) : ClaimedKeys :=
  match w.db.keys.previousClaim deviceId requestId with
  | some record => buildClaimResponse w.db.accounts w.db.keys record.id
  | none => []

/-- **A claim of a run was answered with what its record answers.** -/
theorem recordedAnswer_of_mem {trace : List Action} {w : World} (h : (service env).Run trace w)
    {claim : KeyClaim} {keys : ClaimedKeys} (hmem : Action.claimed claim keys ∈ trace)
    {deviceId : Uuid} (hdevice : claim.call.principal.deviceId = some deviceId) :
    keys = recordedAnswer w deviceId claim.call.rawRequestId := by
  obtain ⟨deviceId', parsed, previous, hanswered⟩ := answered_of_mem h hmem
  have hname := hanswered.asks.names.1
  rw [KeyClaim.key, hdevice, Option.map_some, Option.some.injEq, Prod.mk.injEq] at hname
  obtain ⟨rfl, hid⟩ := hname
  rw [recordedAnswer, hid, hanswered.record]
  exact hanswered.response

/-- A response is a map without a key twice. -/
theorem nodup_buildClaimResponse (accounts : Accounts) (keys : KeyStore) (id : Uuid) :
    ((buildClaimResponse accounts keys id).map Prod.fst).Nodup := by
  unfold buildClaimResponse
  dsimp only
  generalize (List.filterMap _ _) = entries
  have hall : ∀ (entries : List ((JsString × JsString) × (JsString × Json))) (users : ClaimedKeys),
      (users.map Prod.fst).Nodup → ((entries.foldl (fun users entry =>
        JsMap.set entry.1.1 (JsMap.set entry.1.2 entry.2
          ((JsMap.get? entry.1.1 users).getD [])) users) users).map Prod.fst).Nodup := by
    intro entries
    induction entries with
    | nil => exact fun _ h => h
    | cons entry rest ih => exact fun users h => ih _ (JsMap.nodup_keys_set h)
  exact hall entries [] List.nodup_nil

/-- A response is empty where no result has a key. -/
theorem buildClaimResponse_eq_nil {accounts : Accounts} {keys : KeyStore} {id : Uuid} :
    buildClaimResponse accounts keys id = [] ↔
      ∀ result ∈ keys.claimResults, result.claimRequestId = id →
        claimedKey accounts keys result = none := by
  have hset : ∀ (key : JsString) (value : JsMap JsString (JsString × Json)) (users : ClaimedKeys),
      JsMap.set key value users ≠ [] := by
    intro key value users
    cases users with
    | nil => simp [JsMap.set]
    | cons user rest =>
      rw [JsMap.set]
      split_ifs <;> simp
  have hall : ∀ (entries : List ((JsString × JsString) × (JsString × Json))) (users : ClaimedKeys),
      entries.foldl (fun users entry => JsMap.set entry.1.1 (JsMap.set entry.1.2 entry.2
        ((JsMap.get? entry.1.1 users).getD [])) users) users = [] ↔ entries = [] ∧ users = [] := by
    intro entries
    induction entries with
    | nil => simp
    | cons entry rest ih =>
      intro users
      rw [List.foldl_cons, ih]
      simp [hset]
  unfold buildClaimResponse
  dsimp only
  rw [hall, and_iff_left rfl, List.filterMap_eq_nil_iff]
  simp only [List.mem_sortBy, List.mem_filter, decide_eq_true_eq, and_imp]

/-- A result has a key in the response where it has one at all. -/
theorem claimedKey_eq_none {w : World} (hinv : DirectoryInv w) {result : MatrixKeyClaimResult}
    (hresult : result ∈ w.db.keys.claimResults) :
    claimedKey w.db.accounts w.db.keys result = none ↔
      result.oneTimeKeyId = none ∧ result.fallbackKeyId = none := by
  obtain ⟨identity, hidentity⟩ := Option.isSome_iff_exists.mp (hinv.published result hresult)
  have honeTime : (result.oneTimeKeyId.bind fun id =>
      (w.db.keys.oneTimeKeys.find? fun row => row.id = id).map fun row =>
        (row.keyId, row.signedKey)) = none ↔ result.oneTimeKeyId = none := by
    cases hid : result.oneTimeKeyId with
    | none => simp
    | some id =>
      obtain ⟨key, hkey, heq, -⟩ := hinv.tables.recorded result hresult id hid
      simpa using ⟨key, hkey, heq⟩
  have hfallback : (result.fallbackKeyId.bind fun id =>
      (w.db.keys.fallbackKeys.find? fun row => row.id = id).map fun row =>
        (row.keyId, row.signedKey)) = none ↔ result.fallbackKeyId = none := by
    cases hid : result.fallbackKeyId with
    | none => simp
    | some id => simpa using hinv.tables.fallback result hresult id hid
  rw [← honeTime, ← hfallback]
  unfold claimedKey
  rw [hidentity]
  generalize (result.oneTimeKeyId.bind _) = oneTimeKey
  generalize (result.fallbackKeyId.bind _) = fallbackKey
  cases oneTimeKey <;> cases fallbackKey <;> simp

end SinoChat
