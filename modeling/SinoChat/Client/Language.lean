import SinoChat.Model.WebTransport
import SinoChat.ToDevice.Script

/-!
# The language of sync responses

What the service writes and what the web client reads were specified apart.
The service's token names its batch by the 36 characters of a UUID; the
client's pattern has room for 22. So the client takes no response of the
service (`sync_response_never_accepted`). A client that took the token would
read from a response what the service put into it (`parsed_of_response`).
-/

namespace SinoChat

open Js

variable {env : Deployment}

/-! ## Reading a response -/

/-- The members of a response, as the client looks them up. -/
theorem toJson_eq (response : SyncResponse) : ∃ entries, response.toJson = .obj entries ∧
    Json.get? (js "next_batch") entries = some (.str response.nextBatch) ∧
    Json.get? (js "to_device") entries =
      some (.obj [(js "events", .arr (response.events.map DeliveredEvent.toJson))]) ∧
    Json.get? (js "device_lists") entries =
      response.deviceLists.map DeviceListsDelta.toJson := by
  have hnames : js "next_batch" ≠ js "to_device" ∧ js "next_batch" ≠ js "device_lists" ∧
      js "to_device" ≠ js "device_lists" ∧
      js "device_one_time_keys_count" ≠ js "device_lists" ∧
      js "device_unused_fallback_key_types" ≠ js "device_lists" := by decide
  obtain ⟨h₁, h₂, h₃, h₄, h₅⟩ := hnames
  refine ⟨_, rfl, ?_, ?_, ?_⟩
  · simp [Json.get?]
  · simp [Json.get?, h₁]
  · cases response.deviceLists <;> simp [Json.get?, h₂, h₃, h₄, h₅]

theorem plainRecord_eq_ok {value : Option Json} {entries : List (JsString × Json)} :
    plainRecord value = .ok entries ↔ value = some (.obj entries) := by
  unfold plainRecord
  rw [orThrow_eq_ok]
  cases value with
  | none => simp
  | some value => cases value <;> simp [Json.record?]

theorem plainArray_eq_ok {value : Option Json} {items : List Json} :
    plainArray value = .ok items ↔ value = some (.arr items) := by
  unfold plainArray
  rw [orThrow_eq_ok]
  cases value with
  | none => simp
  | some value => cases value <;> simp [Json.arr?]

theorem parseSyncEvent_eq_ok {event : Json} {parsed : List (JsString × Json)}
    (h : parseSyncEvent event = .ok parsed) : event = .obj parsed := by
  unfold parseSyncEvent at h
  obtain ⟨entries, hentries, h⟩ := bind_eq_ok.mp h
  obtain ⟨_, -, h⟩ := bind_eq_ok.mp h
  obtain ⟨_, -, h⟩ := bind_eq_ok.mp h
  obtain ⟨_, -, h⟩ := bind_eq_ok.mp h
  cases h
  exact Option.some.inj (plainRecord_eq_ok.mp hentries)

/-- A loop that reads what it was given gives back what was read. -/
theorem map_of_mapM {α : Type} {f : Json → Except ErrorCode α} {g : α → Json} {items : List Json}
    {parsed : List α} (h : items.mapM f = .ok parsed)
    (hf : ∀ item value, f item = .ok value → item = g value) : items = parsed.map g := by
  have hrelated := mapM_eq_ok h
  induction hrelated with
  | nil => rfl
  | cons hitem _ ih =>
    rw [List.mapM_cons] at h
    obtain ⟨_, -, h⟩ := bind_eq_ok.mp h
    obtain ⟨rest, hrest, h⟩ := bind_eq_ok.mp h
    cases h
    rw [List.map_cons, ← hf _ _ hitem, ← ih hrest]

theorem matrixUserIdArray_eq_ok {value : Option Json} {ids : List JsString}
    (h : matrixUserIdArray value = .ok ids) : value = some (.arr (ids.map .str)) := by
  unfold matrixUserIdArray at h
  obtain ⟨items, hitems, h⟩ := bind_eq_ok.mp h
  obtain ⟨_, -, h⟩ := bind_eq_ok.mp h
  obtain ⟨parsed, hparsed, h⟩ := bind_eq_ok.mp h
  obtain ⟨_, -, h⟩ := bind_eq_ok.mp h
  cases h
  rw [plainArray_eq_ok.mp hitems, map_of_mapM hparsed]
  intro item value hitem
  unfold parseMatrixUserId at hitem
  obtain ⟨userId, hid, hitem⟩ := bind_eq_ok.mp hitem
  obtain ⟨_, -, hitem⟩ := bind_eq_ok.mp hitem
  cases hitem
  cases item with
  | str s => exact congrArg Json.str (Option.some.inj (orThrow_eq_ok.mp hid))
  | null | bool | num | arr | obj => cases orThrow_eq_ok.mp hid

theorem parseSyncEvents_eq_ok {items : List Json} {parsed : List (List (JsString × Json))}
    (h : parseSyncEvents (some (.obj [(js "events", .arr items)])) = .ok parsed) :
    parsed.map .obj = items := by
  unfold parseSyncEvents at h
  obtain ⟨entries, hentries, h⟩ := bind_eq_ok.mp h
  obtain rfl := Json.obj.inj (Option.some.inj (plainRecord_eq_ok.mp hentries))
  obtain ⟨rawEvents, hraw, h⟩ := bind_eq_ok.mp h
  obtain ⟨_, -, h⟩ := bind_eq_ok.mp h
  have hitems : items = rawEvents := by simpa [Json.get?] using plainArray_eq_ok.mp hraw
  rw [hitems, map_of_mapM h fun _ _ => parseSyncEvent_eq_ok]

theorem parseDeviceLists_eq_ok {delta : Option DeviceListsDelta} {changed left : List JsString}
    (h : parseDeviceLists (delta.map DeviceListsDelta.toJson) = .ok (changed, left)) :
    ⟨changed, left⟩ = delta.getD ⟨[], []⟩ := by
  have hempty : ∀ {ids : List JsString}, matrixUserIdArray (some (.arr [])) = .ok ids → ids = [] := by
    intro ids hids
    simpa [eq_comm] using matrixUserIdArray_eq_ok hids
  have hread : ∀ {ids written : List JsString},
      matrixUserIdArray (some (.arr (written.map .str))) = .ok ids → ids = written := by
    intro ids written hids
    have hitems := Json.arr.inj (Option.some.inj (matrixUserIdArray_eq_ok hids))
    exact (List.map_injective_iff.mpr (fun _ _ heq => Json.str.inj heq) hitems).symm
  have hnames : js "changed" ≠ js "left" := by decide
  unfold parseDeviceLists at h
  obtain ⟨rawLists, hraw, h⟩ := bind_eq_ok.mp h
  obtain ⟨parsedChanged, hchanged, h⟩ := bind_eq_ok.mp h
  obtain ⟨parsedLeft, hleft, h⟩ := bind_eq_ok.mp h
  obtain ⟨_, -, h⟩ := bind_eq_ok.mp h
  cases h
  cases delta with
  | none =>
    cases hraw
    rw [hempty hchanged, hempty hleft]
    rfl
  | some delta =>
    have hentries : rawLists = [(js "changed", .arr (delta.changed.map .str)),
        (js "left", .arr (delta.left.map .str))] := by
      have := plainRecord_eq_ok.mp hraw
      simpa [DeviceListsDelta.toJson, eq_comm] using this
    subst hentries
    simp only [Json.get?, notNullish, ↓reduceIte, Option.getD_some, hnames] at hchanged hleft
    rw [hread hchanged, hread hleft]
    rfl

/-- **What the client reads is what the service wrote**: the token, the
events and the device lists. -/
theorem parsed_of_response {acceptsToken : JsString → Bool} {response : SyncResponse}
    {parsed : ParsedSyncResponse}
    (h : parseSyncResponse acceptsToken (some response.toJson) = .ok parsed) :
    acceptsToken response.nextBatch = true ∧ parsed.nextBatch = response.nextBatch ∧
      parsed.toDeviceEvents.map .obj = response.events.map DeliveredEvent.toJson ∧
      ⟨parsed.changed, parsed.left⟩ = response.deviceLists.getD ⟨[], []⟩ := by
  obtain ⟨entries, hentries, hnext, hdevice, hlists⟩ := toJson_eq response
  unfold parseSyncResponse at h
  obtain ⟨record, hrecord, h⟩ := bind_eq_ok.mp h
  rw [hentries] at hrecord
  obtain rfl : entries = record := by simpa using plainRecord_eq_ok.mp hrecord
  obtain ⟨nextBatch, hnextBatch, h⟩ := bind_eq_ok.mp h
  rw [hnext] at hnextBatch
  obtain rfl : response.nextBatch = nextBatch := by simpa [Json.str?] using hnextBatch
  obtain ⟨_, haccepts, h⟩ := bind_eq_ok.mp h
  obtain ⟨events, hevents, h⟩ := bind_eq_ok.mp h
  obtain ⟨⟨changed, left⟩, hdelta, h⟩ := bind_eq_ok.mp h
  obtain ⟨_, -, h⟩ := bind_eq_ok.mp h
  obtain ⟨_, -, h⟩ := bind_eq_ok.mp h
  cases h
  rw [hdevice] at hevents
  rw [hlists] at hdelta
  exact ⟨require_eq_ok.mp haccepts, rfl, parseSyncEvents_eq_ok hevents, parseDeviceLists_eq_ok hdelta⟩

/-! ## The token -/

/-- The client's pattern accepts texts of 71 characters. -/
theorem length_of_acceptsSyncToken {token : JsString} (h : acceptsSyncToken token = true) :
    token.length = 71 :=
  length_of_fixed h

/-- **No token of the service matches the client's pattern**: it has 85 characters. -/
theorem not_acceptsSyncToken_tokenText (crypto : Crypto) (data : MatrixSyncTokenData) :
    acceptsSyncToken (tokenText crypto data) = false := by
  by_contra h
  have := length_of_acceptsSyncToken (Bool.eq_true_of_not_eq_false h)
  rw [length_tokenText] at this
  omega

/-- A response the client can use: it is accepted, its token is stored, and
the stored token is sent. -/
structure Usable (response : SyncResponse) : Prop where
  parsed : ∃ parsed, parseSyncResponse acceptsSyncToken (some response.toJson) = .ok parsed
  saved : savePosition acceptsSyncToken response.nextBatch = .ok (some response.nextBatch)
  sent : loadPosition acceptsSyncToken (some response.nextBatch) =
    (some response.nextBatch, .ok (some response.nextBatch))

/-- A response whose token does not match is invalid. -/
theorem parseSyncResponse_of_token {acceptsToken : JsString → Bool} {response : SyncResponse}
    (h : acceptsToken response.nextBatch = false) :
    parseSyncResponse acceptsToken (some response.toJson) = .error syncResponseInvalid := by
  obtain ⟨entries, hentries, hnext, -, -⟩ := toJson_eq response
  have hrecord := plainRecord_eq_ok.mpr (congrArg some hentries)
  unfold parseSyncResponse
  rw [hrecord]
  simp [bind, Except.bind, hnext, Json.str?, orThrow, require, h]

/-- **The service's responses are outside the client's language**: every
one is refused, its token is not stored, and a stored one is dropped. -/
theorem sync_response_never_accepted {w w' : World} {call : SyncCall} {result : SyncResult}
    (hstep : ServiceStep env w (.synced call result) w') :
    ¬ Usable result.response ∧
      parseSyncResponse acceptsSyncToken (some result.response.toJson) =
        .error "MATRIX_SYNC_RESPONSE_INVALID" ∧
      savePosition acceptsSyncToken result.response.nextBatch =
        .error "MATRIX_SYNC_TOKEN_INVALID" ∧
      loadPosition acceptsSyncToken (some result.response.nextBatch) =
        (none, .error "MATRIX_SYNC_TOKEN_LOCAL_INVALID") := by
  cases hstep with
  | sync hcall hid hnames hsync =>
    obtain ⟨latest, selected, hsynced⟩ := sync_eq_ok hsync
    have htoken : acceptsSyncToken result.response.nextBatch = false := by
      rw [hsynced.nextBatch]
      exact not_acceptsSyncToken_tokenText _ _
    refine ⟨fun husable => ?_, parseSyncResponse_of_token htoken,
      by simp [savePosition, htoken], by simp [loadPosition, htoken]⟩
    obtain ⟨parsed, hparsed⟩ := husable.parsed
    rw [parseSyncResponse_of_token htoken] at hparsed
    cases hparsed

/-- The first sync of the client's device is refused. -/
theorem sync_response_never_accepted_first :
    ∃ trace w, ∃ result : SyncResult, (service Sample.deployment).Run trace w ∧
      parseSyncResponse acceptsSyncToken (some result.response.toJson) =
        .error "MATRIX_SYNC_RESPONSE_INVALID" := by
  obtain ⟨trace, w, a, w', hrun, hstep, hcheck⟩ := Sample.exists_step
    [.openCursor Sample.clientDevice, .syncBegin Sample.client none] (.sync Sample.emptyRootId)
    (fun _ _ a _ => match a with
      | .synced _ _ => true
      | _ => false) (by decide +kernel)
  split at hcheck
  · exact ⟨trace, w, _, hrun, (sync_response_never_accepted hstep).2.1⟩
  · cases hcheck

/-- **The claim on the client's pattern as it is.** -/
def ResponsesAreUsable (env : Deployment) : Prop :=
  ∀ trace w call result w', (service env).Run trace w →
    ServiceStep env w (.synced call result) w' → Usable result.response

/-- An initial sync of a device without events is refused. -/
theorem not_responsesAreUsable : ¬ ResponsesAreUsable Sample.deployment := by
  obtain ⟨trace, w, a, w', hrun, hstep, hcheck⟩ := Sample.exists_step
    [.openCursor Sample.clientDevice, .syncBegin Sample.client none] (.sync Sample.emptyRootId)
    (fun _ _ a _ => match a with
      | .synced _ result => !acceptsSyncToken result.response.nextBatch
      | _ => false) (by decide +kernel)
  intro hclaim
  split at hcheck
  · rename_i call result
    obtain ⟨parsed, hparsed⟩ := (hclaim trace w call result w' hrun hstep).parsed
    have hrefused : acceptsSyncToken result.response.nextBatch = false := by simpa using hcheck
    rw [parseSyncResponse_of_token hrefused] at hparsed
    cases hparsed
  · cases hcheck

end SinoChat
