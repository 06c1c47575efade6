import SinoChat.KeyDirectory.Tables
import SinoChat.ToDevice.Lineage
import SinoChat.ToDevice.Script

/-!
# One-time keys are used once

A claim takes from each device the oldest of its unclaimed one-time keys, or
hands out the fallback key where there is none (`resultFor`), and marks what
it took; a mark is never taken back, so no key is the result of two claims
(`DirectoryInv`). The record of a claim and its results stay as they are,
and so do the keys behind them, so the answer to a repetition is the answer
given first (`buildClaimResponse_stable`).
-/

namespace SinoChat

open Js

variable {env : Deployment}

/-! ## The results of a claim -/

theorem claimRecipientKey_requests (claimRequestId target : Uuid) (now : ℕ) (keys : KeyStore) :
    (claimRecipientKey claimRequestId target now keys).claimRequests = keys.claimRequests := by
  unfold claimRecipientKey
  split
  · rfl
  · split <;> rfl

theorem claimRecipientKey_contents (claimRequestId target : Uuid) (now : ℕ) (keys : KeyStore) :
    (claimRecipientKey claimRequestId target now keys).oneTimeKeys.map MatrixOneTimeKey.content =
      keys.oneTimeKeys.map MatrixOneTimeKey.content := by
  unfold claimRecipientKey
  split
  · exact map_markClaimed _ (fun _ => rfl) _ _ _
  · split <;> rfl

theorem claimRecipientKey_results (claimRequestId target : Uuid) (now : ℕ) (keys : KeyStore) :
    (claimRecipientKey claimRequestId target now keys).claimResults =
      keys.claimResults ++ [resultFor keys claimRequestId now target] := by
  unfold claimRecipientKey resultFor
  cases keys.oldestUnclaimed target with
  | some key => rfl
  | none => cases hfallback : keys.currentFallback target <;> simp

theorem resultFor_names (keys : KeyStore) (claimRequestId : Uuid) (now : ℕ) (target : Uuid) :
    (resultFor keys claimRequestId now target).claimRequestId = claimRequestId ∧
      (resultFor keys claimRequestId now target).recipientDeviceId = target := by
  unfold resultFor
  split <;> exact ⟨rfl, rfl⟩

/-- An update that leaves the rows of a condition alone, and none of the
others to meet it, leaves their selection. -/
theorem filter_map_eq {α : Type} {p : α → Bool} {f : α → α} {rows : List α}
    (hkept : ∀ a ∈ rows, p a = true → f a = a) (hout : ∀ a ∈ rows, p a = false → p (f a) = false) :
    (rows.map f).filter p = rows.filter p := by
  induction rows with
  | nil => rfl
  | cons a rest ih =>
    have hrest := ih (fun b hb => hkept b (List.mem_cons_of_mem _ hb))
      fun b hb => hout b (List.mem_cons_of_mem _ hb)
    rw [List.map_cons]
    cases ha : p a with
    | true => rw [hkept a List.mem_cons_self ha, List.filter_cons, List.filter_cons, hrest]
    | false =>
      have hfa := hout a List.mem_cons_self ha
      rw [List.filter_cons_of_neg (by simp [hfa]), List.filter_cons_of_neg (by simp [ha]), hrest]

/-- Taking a key of one device leaves what is there for another. -/
theorem resultFor_claimRecipientKey {keys : KeyStore} (h : KeysInv keys) {target other : Uuid}
    (hne : other ≠ target) (claimRequestId : Uuid) (now : ℕ) :
    resultFor (claimRecipientKey claimRequestId target now keys) claimRequestId now other =
      resultFor keys claimRequestId now other := by
  have hcongr : ∀ {keys' : KeyStore}, keys'.unclaimed other = keys.unclaimed other →
      (keys'.currentFallback other).map MatrixFallbackKey.id =
        (keys.currentFallback other).map MatrixFallbackKey.id →
      resultFor keys' claimRequestId now other = resultFor keys claimRequestId now other := by
    intro keys' hunclaimed hfallback
    unfold resultFor KeyStore.oldestUnclaimed
    rw [hunclaimed, hfallback]
  unfold claimRecipientKey
  split
  · rename_i taken htaken
    refine hcongr ?_ rfl
    obtain ⟨hrow, hdevice, -⟩ := mem_unclaimed.mp (oldestUnclaimed_eq_some htaken).1
    refine filter_map_eq ?_ ?_
    · -- only the row taken is marked, and it is not of the other device
      intro key hkey hp
      simp only [Bool.and_eq_true, beq_iff_eq] at hp
      refine if_neg fun hid => hne ?_
      rw [← hp.1, h.eq_of_id hkey hrow hid, hdevice]
    · intro key hkey hp
      by_cases hid : key.id = taken.id
      · obtain rfl := h.eq_of_id hkey hrow hid
        simp [markClaimed]
      · simpa [markClaimed, hid] using hp
  · split
    · rename_i fallback _
      refine hcongr rfl ?_
      unfold KeyStore.currentFallback
      cases keys.slots other with
      | none => rfl
      | some id =>
        simp only [Option.bind_some, List.find?_map, Option.map_map]
        have hid : ∀ key, (markFirstClaimed fallback.id now key).id = key.id := fun key =>
          read_markFirstClaimed MatrixFallbackKey.id (fun _ => rfl) _ _ _
        simp [Function.comp_def, hid]
    · exact hcongr rfl rfl

section TakeFor

variable {keys : KeyStore} {claimRequestId : Uuid}

theorem takeFor_cons (keys : KeyStore) (claimRequestId : Uuid) (now : ℕ) (target : Uuid)
    (targets : List Uuid) :
    keys.takeFor claimRequestId now (target :: targets) =
      (claimRecipientKey claimRequestId target now keys).takeFor claimRequestId now targets := rfl

theorem takeFor_moves (h : claimRequestId ∈ keys.claimRequests.map MatrixKeyClaimRequest.id)
    (now : ℕ) (targets : List Uuid) :
    KeyMoves keys (keys.takeFor claimRequestId now targets) := by
  induction targets generalizing keys with
  | nil => exact .refl
  | cons target rest ih =>
    rw [takeFor_cons]
    exact .head (.result h) (ih (by rwa [claimRecipientKey_requests]))

theorem takeFor_requests (now : ℕ) (targets : List Uuid) :
    (keys.takeFor claimRequestId now targets).claimRequests = keys.claimRequests := by
  induction targets generalizing keys with
  | nil => rfl
  | cons target rest ih => rw [takeFor_cons, ih, claimRecipientKey_requests]

theorem takeFor_contents (now : ℕ) (targets : List Uuid) :
    (keys.takeFor claimRequestId now targets).oneTimeKeys.map MatrixOneTimeKey.content =
      keys.oneTimeKeys.map MatrixOneTimeKey.content := by
  induction targets generalizing keys with
  | nil => rfl
  | cons target rest ih => rw [takeFor_cons, ih, claimRecipientKey_contents]

/-- **Each of different targets gives what it has before the claim.** -/
theorem takeFor_results (hinv : KeysInv keys)
    (h : claimRequestId ∈ keys.claimRequests.map MatrixKeyClaimRequest.id) (now : ℕ)
    {targets : List Uuid} (hnodup : targets.Nodup) :
    (keys.takeFor claimRequestId now targets).claimResults =
      keys.claimResults ++ targets.map (resultFor keys claimRequestId now) := by
  induction targets generalizing keys with
  | nil => simp [KeyStore.takeFor]
  | cons target rest ih =>
    rw [List.nodup_cons] at hnodup
    rw [takeFor_cons, ih (hinv.move (.result h)) (by rwa [claimRecipientKey_requests]) hnodup.2,
      claimRecipientKey_results, List.append_assoc, List.map_cons, List.singleton_append]
    congr 2
    refine List.map_congr_left fun other hother => resultFor_claimRecipientKey hinv ?_ _ _
    rintro rfl
    exact hnodup.1 hother

/-- What a recorded claim does: moves that leave the contents of the keys
and add its record and a result for every target. -/
structure Claimed (request : MatrixKeyClaimRequest) (now : ℕ) (targets : List Uuid)
    (before after : KeyStore) : Prop where
  moves : KeyMoves before after
  contents : after.oneTimeKeys.map MatrixOneTimeKey.content =
    before.oneTimeKeys.map MatrixOneTimeKey.content
  requests : after.claimRequests = before.claimRequests ++ [request]
  results : after.claimResults =
    before.claimResults ++ targets.map (resultFor before request.id now)

/-- **A recorded claim is moves.** -/
theorem takeFor_claimed (hinv : KeysInv keys) (request : MatrixKeyClaimRequest) (now : ℕ)
    {targets : List Uuid} (hnodup : targets.Nodup) :
    Claimed request now targets keys ((keys.record request).takeFor request.id now targets) := by
  have hmem : request.id ∈ (keys.record request).claimRequests.map MatrixKeyClaimRequest.id := by
    simp [KeyStore.record]
  have hrecord : KeysInv (keys.record request) := hinv.move .request
  exact
    { moves := .head .request (takeFor_moves hmem now targets)
      contents := takeFor_contents now targets
      requests := takeFor_requests now targets
      results := takeFor_results hrecord hmem now hnodup }

end TakeFor

/-! ## The invariant -/

/-- What a step does to the key tables. -/
inductive KeyChange (env : Deployment) (w : World) : Action → World → Prop
  | kept {a : Action} {w' : World} : w'.db.keys = w.db.keys →
      (∀ claim keys, a ≠ .claimed claim keys) → KeyChange env w a w'
  | uploaded {principal : SessionPrincipal} {upload : MatrixKeyUpload} {w' : World} :
      upload.rowIds.Nodup → (∀ id ∈ upload.rowIds, id ∉ w.drawn) → upload.rowIds ⊆ w'.drawn →
      uploadKeys env.crypto principal upload w.db = .ok w'.db →
      KeyChange env w (.uploaded principal upload) w'
  | claimed {claim : KeyClaim} {keys : ClaimedKeys} {w' : World} {deviceId : Uuid}
      {parsed : ParsedClaim} {hash : JsString} :
      claim.call.rowId ∉ w.drawn → claim.call.rowId ∈ w'.drawn →
      claim.Asks env deviceId parsed hash →
      ClaimEffect claim deviceId parsed hash w.db w'.db keys →
      KeyChange env w (.claimed claim keys) w'

theorem ServiceStep.keyChange {w w' : World} {a : Action} (h : ServiceStep env w a w') :
    KeyChange env w a w' := by
  cases h with
  | send hnow helig hfresh hsend hnew =>
    obtain ⟨deviceId, request, hash, -, ⟨-, rfl⟩ | ⟨targets, -, rfl⟩⟩ := send_cases hsend
    · exact .kept rfl (by simp)
    · exact .kept rfl (by simp)
  | sync hcall hid hnames hsync =>
    obtain ⟨latest, selected, hsynced⟩ := sync_eq_ok hsync
    exact .kept (by rw [hsynced.after]) (by simp)
  | upload hnodup hfresh hupload =>
    exact .uploaded hnodup hfresh (List.subset_append_left _ _) hupload
  | claim hnow helig hfresh hclaim =>
    obtain ⟨deviceId, parsed, hash, hasks, heffect⟩ := KeyClaim.effect hclaim
    exact .claimed hfresh List.mem_cons_self hasks heffect
  | sendFailed | syncBegin | syncFailed | uploadFailed | claimFailed | openCursor | registerList
  | publish | changeAccounts | purgeEvents | purgeBatches | tick => exact .kept rfl (by simp)

/-- Published identities stay. -/
theorem ServiceStep.identities {w w' : World} {a : Action} (h : ServiceStep env w a w') :
    ∀ row ∈ w.db.accounts.deviceKeys, row ∈ w'.db.accounts.deviceKeys := by
  cases h with
  | send hnow helig hfresh hsend hnew =>
    obtain ⟨deviceId, request, hash, -, ⟨-, rfl⟩ | ⟨targets, -, rfl⟩⟩ := send_cases hsend
    · exact fun _ h => h
    · exact fun _ h => h
  | sync hcall hid hnames hsync =>
    obtain ⟨latest, selected, hsynced⟩ := sync_eq_ok hsync
    rw [hsynced.after]
    exact fun _ h => h
  | upload hnodup hfresh hupload =>
    obtain ⟨keys, rfl⟩ := uploadKeys_queue hupload
    exact fun _ h => h
  | claim hnow helig hfresh hclaim =>
    obtain ⟨keys, rfl⟩ := KeyClaim.run_queue hclaim
    exact fun _ h => h
  | changeAccounts hkept => exact hkept
  | sendFailed | syncBegin | syncFailed | uploadFailed | claimFailed | openCursor | registerList
  | publish | purgeEvents | purgeBatches | tick => exact fun _ h => h

theorem find?_of_identities {before after : Accounts}
    (h : ∀ row ∈ before.deviceKeys, row ∈ after.deviceKeys) {deviceId : Uuid}
    (hsome : (before.deviceKeys.find? deviceId).isSome = true) :
    after.deviceKeys.find? deviceId = before.deviceKeys.find? deviceId := by
  obtain ⟨row, hrow⟩ := Option.isSome_iff_exists.mp hsome
  obtain ⟨hmem, hdevice⟩ := Table.find?_eq_some.mp hrow
  rw [hrow]
  exact Table.find?_eq_some.mpr ⟨h row hmem, hdevice⟩

/-- **The key tables in a run**: they are in order, their ids were drawn,
their rows are of the past and their results of published devices. -/
structure DirectoryInv (w : World) : Prop where
  tables : KeysInv w.db.keys
  keys : ∀ key ∈ w.db.keys.oneTimeKeys, key.id ∈ w.drawn ∧ key.uploadedAt ≤ w.db.clock
  requests : ∀ request ∈ w.db.keys.claimRequests, request.id ∈ w.drawn
  published : ∀ result ∈ w.db.keys.claimResults,
    (w.db.accounts.deviceKeys.find? result.recipientDeviceId).isSome = true

/-- What lasts from a state on: the rows, the results of the claims so far,
and the published identities. -/
structure DirectoryGrows (w w' : World) : Prop where
  keeps : Keeps w.db.keys w'.db.keys
  results : ∀ id ∈ w.drawn,
    w'.db.keys.claimResults.filter (fun result => result.claimRequestId = id) =
      w.db.keys.claimResults.filter fun result => result.claimRequestId = id
  identities : ∀ row ∈ w.db.accounts.deviceKeys, row ∈ w'.db.accounts.deviceKeys
  drawn : w.drawn ⊆ w'.drawn

theorem DirectoryGrows.refl (w : World) : DirectoryGrows w w :=
  ⟨Keeps.refl _, fun _ _ => rfl, fun _ h => h, fun _ h => h⟩

theorem DirectoryGrows.trans {a b c : World} (h : DirectoryGrows a b) (h' : DirectoryGrows b c) :
    DirectoryGrows a c where
  keeps := h.keeps.trans h'.keeps
  results := fun id hid => (h'.results id (h.drawn hid)).trans (h.results id hid)
  identities := fun row hrow => h'.identities row (h.identities row hrow)
  drawn := fun _ hid => h'.drawn (h.drawn hid)

/-- **A step keeps the tables in order and what is in them.** -/
theorem DirectoryInv.step {w w' : World} {a : Action} (hinv : DirectoryInv w)
    (h : ServiceStep env w a w') : DirectoryInv w' ∧ DirectoryGrows w w' := by
  have hgrows := ServiceStep.grows h
  have hidentities := ServiceStep.identities h
  have hpublished : ∀ {deviceId}, (w.db.accounts.deviceKeys.find? deviceId).isSome = true →
      (w'.db.accounts.deviceKeys.find? deviceId).isSome = true := by
    intro deviceId hsome
    rw [find?_of_identities hidentities hsome]
    exact hsome
  -- A step leaves the keys alone, uploads some or claims some.
  cases ServiceStep.keyChange h with
  | kept hkeys =>
    refine ⟨⟨?_, ?_, ?_, ?_⟩, ⟨?_, ?_, hidentities, hgrows.drawn⟩⟩
    · rw [hkeys]
      exact hinv.tables
    · rw [hkeys]
      exact fun key hkey => ⟨hgrows.drawn (hinv.keys key hkey).1,
        (hinv.keys key hkey).2.trans hgrows.clock⟩
    · rw [hkeys]
      exact fun request hrequest => hgrows.drawn (hinv.requests request hrequest)
    · rw [hkeys]
      exact fun result hresult => hpublished (hinv.published result hresult)
    · rw [hkeys]
      exact Keeps.refl _
    · rw [hkeys]
      exact fun _ _ => rfl
  | uploaded hnodup hfresh hdrawn hupload =>
    have hup := uploadKeys_uploaded hnodup
      (fun key hkey hid => hfresh _ hid (hinv.keys key hkey).1)
      (fun key hkey => (hinv.keys key hkey).2) hupload
    refine ⟨⟨hinv.tables.moves hup.moves, ?_, ?_, ?_⟩,
      ⟨KeyMoves.keeps hup.moves hinv.tables, ?_, hidentities, hgrows.drawn⟩⟩
    · intro key hkey
      rcases hup.rows key hkey with hold | ⟨hid, htime⟩
      · exact ⟨hgrows.drawn (hinv.keys key hold).1, (hinv.keys key hold).2.trans hgrows.clock⟩
      · exact ⟨hdrawn hid, htime ▸ hgrows.clock⟩
    · rw [hup.requests]
      exact fun request hrequest => hgrows.drawn (hinv.requests request hrequest)
    · rw [hup.results]
      exact fun result hresult => hpublished (hinv.published result hresult)
    · rw [hup.results]
      exact fun _ _ => rfl
  | @claimed claim keys _ deviceId parsed hash hfresh hdrawn hasks heffect =>
    cases heffect with
    -- A repeated claim answers from the results and writes nothing.
    | repeated _ _ hdb =>
      refine ⟨⟨?_, ?_, ?_, ?_⟩, ⟨?_, ?_, hidentities, hgrows.drawn⟩⟩
      · rw [hdb]
        exact hinv.tables
      · rw [hdb]
        exact fun key hkey => ⟨hgrows.drawn (hinv.keys key hkey).1, (hinv.keys key hkey).2⟩
      · rw [hdb]
        exact fun request hrequest => hgrows.drawn (hinv.requests request hrequest)
      · rw [hdb]
        exact hinv.published
      · rw [hdb]
        exact Keeps.refl _
      · rw [hdb]
        exact fun _ _ => rfl
    -- A first claim marks the keys and writes its results.
    | @recorded conversationId targets hprevious hnodup hpub hdb =>
      have hclaimed : Claimed (claim.request deviceId conversationId parsed hash) claim.call.now
          targets w.db.keys w'.db.keys := by
        rw [hdb]
        exact takeFor_claimed hinv.tables _ _ hnodup
      refine ⟨⟨hinv.tables.moves hclaimed.moves, ?_, ?_, ?_⟩,
        ⟨KeyMoves.keeps hclaimed.moves hinv.tables, ?_, hidentities, hgrows.drawn⟩⟩
      · intro key hkey
        have hcontent := List.mem_map_of_mem hkey (f := MatrixOneTimeKey.content)
        rw [hclaimed.contents] at hcontent
        obtain ⟨old, hold, heq⟩ := List.mem_map.mp hcontent
        have hid : old.id = key.id := show old.content.id = key.content.id by rw [heq]
        have htime : old.uploadedAt = key.uploadedAt :=
          show old.content.uploadedAt = key.content.uploadedAt by rw [heq]
        rw [← hid, ← htime]
        exact ⟨hgrows.drawn (hinv.keys old hold).1, (hinv.keys old hold).2.trans hgrows.clock⟩
      · rw [hclaimed.requests]
        intro request hrequest
        rcases List.mem_append.mp hrequest with hold | hlast
        · exact hgrows.drawn (hinv.requests request hold)
        · rw [List.mem_singleton.mp hlast]
          exact hdrawn
      · rw [hclaimed.results]
        intro result hresult
        rcases List.mem_append.mp hresult with hold | hnew
        · exact hpublished (hinv.published result hold)
        · obtain ⟨target, htarget, rfl⟩ := List.mem_map.mp hnew
          rw [(resultFor_names _ _ _ target).2]
          exact hpublished (hpub target htarget)
      -- The results of other claims stay, for the request is new.
      · intro id hid
        rw [hclaimed.results, List.filter_append, List.append_right_eq_self,
          List.filter_eq_nil_iff]
        intro result hresult
        obtain ⟨target, -, rfl⟩ := List.mem_map.mp hresult
        rw [(resultFor_names _ _ _ target).1, decide_eq_true_eq]
        rintro rfl
        exact hfresh hid

theorem directoryInv {trace : List Action} {w : World} (h : (service env).Run trace w) :
    DirectoryInv w :=
  h.stateInvariant (I := DirectoryInv)
    (fun w hinit => by
      refine ⟨?_, ?_, ?_, ?_⟩ <;> rw [hinit.keys]
      · exact KeysInv.empty
      all_goals simp)
    fun _ _ _ hinv hstep => (hinv.step hstep).1

theorem DirectoryInv.steps {w w' : World} {later : List Action} (hinv : DirectoryInv w)
    (h : (service env).Steps w later w') : DirectoryInv w' ∧ DirectoryGrows w w' := by
  have hrel := h.rel (R := fun a b => DirectoryInv a → DirectoryInv b ∧ DirectoryGrows a b)
    (fun a ha => ⟨ha, DirectoryGrows.refl a⟩)
    (fun _ _ _ hab hbc ha => ⟨(hbc (hab ha).1).1, (hab ha).2.trans (hbc (hab ha).1).2⟩)
    fun _ _ _ hstep ha => ha.step hstep
  exact hrel hinv

/-! ## The answer to a claim lasts -/

/-- What a list finds, a longer list finds. -/
theorem find?_of_isPrefix {α : Type} {p : α → Bool} {xs ys : List α} (h : xs <+: ys)
    (hsome : (xs.find? p).isSome = true) : ys.find? p = xs.find? p := by
  obtain ⟨rest, rfl⟩ := h
  obtain ⟨a, ha⟩ := Option.isSome_iff_exists.mp hsome
  rw [List.find?_append, ha, Option.some_or]

/-- What is read of the row of an id lasts, where the contents of the rows
do: `id` and `read` do not look at more. -/
theorem read_of_content_prefix {α β : Type} {content : α → α} {id : α → Uuid} {read : α → β}
    {before after : List α} (h : before.map content <+: after.map content)
    (hid : ∀ a, id (content a) = id a) (hread : ∀ a, read (content a) = read a) {rowId : Uuid}
    (hrow : ∃ a ∈ before, id a = rowId) :
    (after.find? fun a => id a = rowId).map read =
      (before.find? fun a => id a = rowId).map read := by
  have hcontent : ∀ rows : List α, (rows.find? fun a => id a = rowId).map read =
      ((rows.map content).find? fun a => id a = rowId).map read := by
    intro rows
    rw [List.find?_map, Option.map_map]
    simp [Function.comp_def, hid, hread]
  rw [hcontent after, hcontent before, find?_of_isPrefix h]
  obtain ⟨a, hmem, ha⟩ := hrow
  exact List.find?_isSome.mpr ⟨_, List.mem_map_of_mem hmem, by simp [hid, ha]⟩

theorem claimedKey_stable {w w' : World} (hinv : DirectoryInv w) (h : DirectoryGrows w w')
    {result : MatrixKeyClaimResult} (hresult : result ∈ w.db.keys.claimResults) :
    claimedKey w'.db.accounts w'.db.keys result = claimedKey w.db.accounts w.db.keys result := by
  have hidentity := find?_of_identities h.identities (hinv.published result hresult)
  have honeTime : (result.oneTimeKeyId.bind fun id =>
      (w'.db.keys.oneTimeKeys.find? fun row => row.id = id).map fun row =>
        (row.keyId, row.signedKey)) =
      result.oneTimeKeyId.bind fun id =>
        (w.db.keys.oneTimeKeys.find? fun row => row.id = id).map fun row =>
          (row.keyId, row.signedKey) := by
    cases hid : result.oneTimeKeyId with
    | none => rfl
    | some id =>
      obtain ⟨key, hkey, heq, -⟩ := hinv.tables.recorded result hresult id hid
      exact read_of_content_prefix h.keeps.oneTimeKeys (fun _ => rfl) (fun _ => rfl)
        ⟨key, hkey, heq⟩
  have hfallback : (result.fallbackKeyId.bind fun id =>
      (w'.db.keys.fallbackKeys.find? fun row => row.id = id).map fun row =>
        (row.keyId, row.signedKey)) =
      result.fallbackKeyId.bind fun id =>
        (w.db.keys.fallbackKeys.find? fun row => row.id = id).map fun row =>
          (row.keyId, row.signedKey) := by
    cases hid : result.fallbackKeyId with
    | none => rfl
    | some id =>
      exact read_of_content_prefix h.keeps.fallbackKeys (fun _ => rfl) (fun _ => rfl)
        (hinv.tables.fallback result hresult id hid)
  unfold claimedKey
  rw [hidentity, honeTime, hfallback]

/-- **The answer of a recorded claim never changes.** -/
theorem buildClaimResponse_stable {w w' : World} (hinv : DirectoryInv w)
    (h : DirectoryGrows w w') {id : Uuid} (hid : id ∈ w.drawn) :
    buildClaimResponse w'.db.accounts w'.db.keys id =
      buildClaimResponse w.db.accounts w.db.keys id := by
  unfold buildClaimResponse
  dsimp only
  rw [h.results id hid]
  congr 1
  refine List.filterMap_congr fun result hresult => claimedKey_stable hinv h ?_
  exact List.mem_of_mem_filter (List.mem_sortBy.mp hresult)

/-! ## Repetitions -/

/-- What the service knows a claim by: its device and request id. -/
def KeyClaim.key (claim : KeyClaim) : Option (Uuid × JsString) :=
  claim.call.principal.deviceId.map fun deviceId => (deviceId, claim.call.rawRequestId)

/-- The content of a claim's body. -/
def KeyClaim.Parses (claim : KeyClaim) (parsed : MatrixKeysClaim) : Prop :=
  parseMatrixKeysClaim claim.call.value = .ok parsed

/-- Two ways to name what a claim asks for. -/
theorem KeyClaim.Asks.names {claim : KeyClaim} {deviceId : Uuid} {parsed : ParsedClaim}
    {hash : JsString} (h : claim.Asks env deviceId parsed hash) :
    claim.key = some (deviceId, parsed.requestId) ∧ claim.Parses parsed.claim := by
  have hparses := h.parses
  unfold parseClaimCall at hparses
  obtain ⟨requestId, hid, hparses⟩ := bind_eq_ok.mp hparses
  obtain ⟨content, hcontent, hparses⟩ := bind_eq_ok.mp hparses
  cases hparses
  have hid' : requestId = claim.call.rawRequestId := by
    cases hparse : parseMatrixClaimRequestId claim.call.rawRequestId with
    | error code =>
      rw [hparse] at hid
      cases hid
    | ok value =>
      rw [hparse] at hid
      cases hid
      obtain ⟨_, -, hparse⟩ := bind_eq_ok.mp hparse
      exact (Except.ok.inj hparse).symm
  refine ⟨by simp [KeyClaim.key, h.device, hid'], ?_⟩
  unfold KeyClaim.Parses
  cases hparse : parseMatrixKeysClaim claim.call.value with
  | error code =>
    rw [hparse] at hcontent
    cases hcontent
  | ok value =>
    rw [hparse] at hcontent
    cases hcontent
    rfl

/-- A claim that was answered has its record, with this answer. -/
structure Answered (env : Deployment) (claim : KeyClaim) (keys : ClaimedKeys) (w : World)
    (deviceId : Uuid) (parsed : ParsedClaim) (previous : MatrixKeyClaimRequest) : Prop where
  asks : claim.Asks env deviceId parsed previous.requestSha256
  record : w.db.keys.previousClaim deviceId parsed.requestId = some previous
  response : keys = buildClaimResponse w.db.accounts w.db.keys previous.id

theorem Answered.mono {claim : KeyClaim} {keys : ClaimedKeys} {w w' : World} {deviceId : Uuid}
    {parsed : ParsedClaim} {previous : MatrixKeyClaimRequest}
    (h : Answered env claim keys w deviceId parsed previous) (hinv : DirectoryInv w)
    (hgrows : DirectoryGrows w w') : Answered env claim keys w' deviceId parsed previous where
  asks := h.asks
  record := by
    unfold KeyStore.previousClaim
    rw [find?_of_isPrefix hgrows.keeps.requests]
    · exact h.record
    · exact Option.isSome_iff_exists.mpr ⟨previous, h.record⟩
  response := by
    have hid := hinv.requests previous (List.mem_of_find?_eq_some h.record)
    rw [buildClaimResponse_stable hinv hgrows hid]
    exact h.response

/-- A claim has its record from the step that answers it. -/
theorem DirectoryInv.answered {w w' : World} {claim : KeyClaim} {keys : ClaimedKeys}
    (hinv : DirectoryInv w) (h : ServiceStep env w (.claimed claim keys) w') :
    ∃ deviceId parsed previous, Answered env claim keys w' deviceId parsed previous := by
  cases ServiceStep.keyChange h with
  | kept _ hne => exact absurd rfl (hne claim keys)
  | @claimed _ _ _ deviceId parsed hash hfresh hdrawn hasks heffect =>
    cases heffect with
    | @repeated previous hprevious hhash hdb hkeys =>
      subst hhash
      exact ⟨deviceId, parsed, previous, hasks, by rw [hdb]; exact hprevious,
        by rw [hdb]; exact hkeys⟩
    | @recorded conversationId targets hprevious hnodup hpub hdb hkeys =>
      refine ⟨deviceId, parsed, claim.request deviceId conversationId parsed hash, hasks, ?_, hkeys⟩
      have hclaimed : Claimed (claim.request deviceId conversationId parsed hash) claim.call.now
          targets w.db.keys w'.db.keys := by
        rw [hdb]
        exact takeFor_claimed hinv.tables _ _ hnodup
      unfold KeyStore.previousClaim at hprevious ⊢
      rw [hclaimed.requests, List.find?_append, hprevious]
      simp [KeyClaim.request]

theorem answered_of_mem {trace : List Action} {w : World} (hrun : (service env).Run trace w)
    {claim : KeyClaim} {keys : ClaimedKeys} (h : Action.claimed claim keys ∈ trace) :
    ∃ deviceId parsed previous, Answered env claim keys w deviceId parsed previous := by
  obtain ⟨later, earlier, t, t', -, hbefore, hstep, hsteps⟩ := hrun.of_mem h
  have hinv := directoryInv hbefore
  obtain ⟨deviceId, parsed, previous, hanswered⟩ := hinv.answered hstep
  have hinv' := (hinv.step hstep).1
  exact ⟨deviceId, parsed, previous, hanswered.mono hinv' (hinv'.steps hsteps).2⟩

theorem claimSha256_eq_ok {crypto : Crypto} {claim : MatrixKeysClaim} {hash : JsString} :
    claimSha256 crypto claim = .ok hash ↔
      hashMatrixCanonicalJson crypto (matrixClaimHashInput claim) = .ok hash := by
  unfold claimSha256
  cases hashMatrixCanonicalJson crypto (matrixClaimHashInput claim) <;> simp

/-- A repetition that succeeds finds the record of the first claim. -/
theorem repetition_of_run {trace : List Action} {w : World} (hrun : (service env).Run trace w)
    {first again : KeyClaim} {keys keys' : ClaimedKeys} {db' : Db}
    (hfirst : Action.claimed first keys ∈ trace) (hkey : again.key = first.key)
    (h : again.run env w.db = .ok (db', keys')) :
    (∃ a b hash, first.Parses a ∧ again.Parses b ∧ claimSha256 env.crypto a = .ok hash ∧
      claimSha256 env.crypto b = .ok hash) ∧ db' = w.db ∧ keys' = keys := by
  obtain ⟨deviceId, parsed, previous, hanswered⟩ := answered_of_mem hrun hfirst
  obtain ⟨deviceId', parsed', hash, hasks, heffect⟩ := KeyClaim.effect h
  obtain ⟨hname, hparsed⟩ := hanswered.asks.names
  obtain ⟨hname', hparsed'⟩ := hasks.names
  rw [hname, hname'] at hkey
  obtain ⟨rfl, hid⟩ := Prod.mk.inj (Option.some.inj hkey)
  have hrecord := hanswered.record
  rw [← hid] at hrecord
  cases heffect with
  | repeated hprevious hhash hdb hkeys =>
    obtain rfl := Option.some.inj (hprevious.symm.trans hrecord)
    exact ⟨⟨parsed.claim, parsed'.claim, hash, hparsed, hparsed', hhash ▸ hanswered.asks.hash,
      hasks.hash⟩, hdb, hkeys.trans hanswered.response.symm⟩
  | recorded hprevious =>
    rw [hrecord] at hprevious
    cases hprevious

/-! ## The result -/

/-- **What a claim hands out** for a device: the oldest of its unclaimed
one-time keys; where it has none, its current fallback key, if any. -/
inductive HandsOut (keys : KeyStore) (result : MatrixKeyClaimResult) : Prop
  | oneTimeKey {key : MatrixOneTimeKey} : key ∈ keys.unclaimed result.recipientDeviceId →
      (∀ other ∈ keys.unclaimed result.recipientDeviceId, handOutOrder key ≤ handOutOrder other) →
      result.oneTimeKeyId = some key.id → result.fallbackKeyId = none → HandsOut keys result
  | noneLeft : keys.unclaimed result.recipientDeviceId = [] → result.oneTimeKeyId = none →
      result.fallbackKeyId =
        (keys.currentFallback result.recipientDeviceId).map MatrixFallbackKey.id →
      HandsOut keys result

theorem handsOut_resultFor (keys : KeyStore) (claimRequestId : Uuid) (now : ℕ) (target : Uuid) :
    HandsOut keys (resultFor keys claimRequestId now target) := by
  unfold resultFor
  cases holdest : keys.oldestUnclaimed target with
  | some key =>
    obtain ⟨hmem, hleast⟩ := oldestUnclaimed_eq_some holdest
    exact .oneTimeKey hmem hleast rfl rfl
  | none => exact .noneLeft (oldestUnclaimed_eq_none holdest) rfl rfl

/-- A claim step adds results that hand out what is there before it. -/
theorem DirectoryInv.handsOut {w w' : World} {claim : KeyClaim} {keys : ClaimedKeys}
    (hinv : DirectoryInv w) (h : ServiceStep env w (.claimed claim keys) w') :
    ∃ added, w'.db.keys.claimResults = w.db.keys.claimResults ++ added ∧
      ∀ result ∈ added, HandsOut w.db.keys result := by
  cases ServiceStep.keyChange h with
  | kept _ hne => exact absurd rfl (hne claim keys)
  | @claimed _ _ _ deviceId parsed hash hfresh hdrawn hasks heffect =>
    cases heffect with
    | repeated _ _ hdb => exact ⟨[], by rw [hdb, List.append_nil], by simp⟩
    | @recorded conversationId targets hprevious hnodup hpub hdb hkeys =>
      have hclaimed : Claimed (claim.request deviceId conversationId parsed hash) claim.call.now
          targets w.db.keys w'.db.keys := by
        rw [hdb]
        exact takeFor_claimed hinv.tables _ _ hnodup
      refine ⟨_, hclaimed.results, fun result hresult => ?_⟩
      obtain ⟨target, -, rfl⟩ := List.mem_map.mp hresult
      exact handsOut_resultFor _ _ _ _

/-- **What a run of the service does with one-time keys.** -/
structure SingleUse (env : Deployment) (trace : List Action) (w : World) : Prop where
  /-- No key is the result of two claims, or of one claim twice. -/
  once : (w.db.keys.claimResults.filterMap MatrixKeyClaimResult.oneTimeKeyId).Nodup
  /-- The keys that are results are the claimed ones, each of the device it is a result for. -/
  recorded : (∀ result ∈ w.db.keys.claimResults, ∀ id, result.oneTimeKeyId = some id →
      ∃ key ∈ w.db.keys.oneTimeKeys, key.id = id ∧ key.deviceId = result.recipientDeviceId) ∧
    ∀ key ∈ w.db.keys.oneTimeKeys, key.claimedAt.isSome = true ↔
      some key.id ∈ w.db.keys.claimResults.map MatrixKeyClaimResult.oneTimeKeyId
  /-- Of two keys of a device the one handed out first was not uploaded later. -/
  oldestFirst : w.db.keys.claimResults.Pairwise fun first second =>
    first.recipientDeviceId = second.recipientDeviceId →
    ∀ key ∈ w.db.keys.oneTimeKeys, ∀ other ∈ w.db.keys.oneTimeKeys,
      first.oneTimeKeyId = some key.id → second.oneTimeKeyId = some other.id →
      key.uploadedAt ≤ other.uploadedAt
  /-- A claim hands out the oldest key, and the fallback key only where there is no other. -/
  handsOut : ∀ claim keys w', ServiceStep env w (.claimed claim keys) w' →
    ∃ added, w'.db.keys.claimResults = w.db.keys.claimResults ++ added ∧
      ∀ result ∈ added, HandsOut w.db.keys result
  /-- A repetition that succeeds is answered as the first claim was and consumes nothing. -/
  repeated : ∀ first keys, Action.claimed first keys ∈ trace → ∀ again : KeyClaim,
    again.key = first.key → ∀ db' keys', again.run env w.db = .ok (db', keys') →
    keys' = keys ∧ db' = w.db
  /-- A repetition with other content is refused. -/
  refused : ∀ first keys, Action.claimed first keys ∈ trace → ∀ again : KeyClaim, ∀ a b,
    again.key = first.key → first.Parses a → again.Parses b → ¬ SameClaim a b →
    NoCollision env.crypto (matrixClaimHashInput a) (matrixClaimHashInput b) →
    ∃ error, again.run env w.db = .error error
  /-- A claim that fails changes nothing. -/
  failed : ∀ claim error w', ServiceStep env w (.claimFailed claim error) w' → w' = w
  /-- A claimed key, uploaded again or not, is never unclaimed later, under its name or its
  Curve25519 key, nor a fallback key. -/
  stays : ∀ key ∈ w.db.keys.oneTimeKeys, key.claimedAt.isSome = true → ∀ later w',
    (service env).Steps w later w' →
    (∀ deviceId, ∀ other ∈ w'.db.keys.unclaimed deviceId,
      other.id ≠ key.id ∧ other.name ≠ key.name ∧ other.curve25519Key ≠ key.curve25519Key) ∧
    ∀ fallback ∈ w'.db.keys.fallbackKeys, fallback.curve25519Key ≠ key.curve25519Key

/-- **Every one-time key is used once.** -/
theorem one_time_keys_single_use {trace : List Action} {w : World}
    (h : (service env).Run trace w) : SingleUse env trace w where
  once := (directoryInv h).tables.once
  recorded := ⟨(directoryInv h).tables.recorded, (directoryInv h).tables.marked⟩
  oldestFirst := (directoryInv h).tables.oldestFirst
  handsOut := fun _ _ _ hstep => (directoryInv h).handsOut hstep
  repeated := by
    intro first keys hfirst again hkey db' keys' hagain
    obtain ⟨-, hdb, hkeys⟩ := repetition_of_run h hfirst hkey hagain
    exact ⟨hkeys, hdb⟩
  refused := by
    intro first keys hfirst again a b hkey ha hb hdiff hcollision
    cases hagain : again.run env w.db with
    | error error => exact ⟨error, rfl⟩
    | ok result =>
      obtain ⟨⟨a', b', hash, ha', hb', hhash, hhash'⟩, -, -⟩ :=
        repetition_of_run h hfirst hkey hagain
      obtain rfl : a = a' := Except.ok.inj (ha.symm.trans ha')
      obtain rfl : b = b' := Except.ok.inj (hb.symm.trans hb')
      exact absurd (canonicalize_eq_of_hash hcollision (claimSha256_eq_ok.mp hhash)
        (claimSha256_eq_ok.mp hhash')) hdiff
  failed := by
    intro claim error w' hstep
    cases hstep
    rfl
  stays := by
    intro key hkey hclaimed later w' hsteps
    obtain ⟨hinv, hgrows⟩ := (directoryInv h).steps hsteps
    have hkept := hgrows.keeps.claimed key hkey hclaimed
    refine ⟨fun deviceId other hother => ?_, hinv.tables.apart key hkept⟩
    obtain ⟨hmem, -, hunclaimed⟩ := mem_unclaimed.mp hother
    -- a row that shares any of the three with the claimed key is the claimed key
    have hne : other ≠ key := by
      rintro rfl
      simp [hunclaimed] at hclaimed
    refine ⟨fun hid => hne ?_, fun hname => hne ?_, fun hcurve => hne ?_⟩
    · exact hinv.tables.eq_of_id hmem hkept hid
    · exact List.inj_on_of_nodup_map hinv.tables.names hmem hkept hname
    · exact List.inj_on_of_nodup_map hinv.tables.curves hmem hkept hcurve

/-- A key is uploaded and claimed; the claim is repeated, the key uploaded
once more, and another claim made. -/
def Sample.claimScript : List Command :=
  [.upload client (upload (uuidOf 0x0f000000000040008000000000000001)),
    .claim (claim (js "claim-1") (uuidOf 0x0f000000000040008000000000000002)),
    .claim (claim (js "claim-1") (uuidOf 0x0f000000000040008000000000000003)),
    .upload client (upload (uuidOf 0x0f000000000040008000000000000004)),
    .claim (claim (js "claim-2") (uuidOf 0x0f000000000040008000000000000005))]

/-- A key of the client's device: it is claimed once, whatever is repeated. -/
theorem one_time_keys_single_use_claimed :
    ∃ trace w, (w.db.keys.claimResults.map fun result => result.oneTimeKeyId.isSome) =
      [true, false] ∧ SingleUse Sample.deployment trace w := by
  obtain ⟨trace, w, hrun, hresults⟩ := Sample.exists_run Sample.claimScript
    (fun _ w => (w.db.keys.claimResults.map fun result => result.oneTimeKeyId.isSome) =
      [true, false]) (by decide +kernel)
  exact ⟨trace, w, by simpa using hresults, one_time_keys_single_use hrun⟩

end SinoChat
