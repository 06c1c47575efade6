import SinoChat.KeysClaim.SubRequests
import SinoChat.ToDevice.Script

/-!
# Scripted attempts

A coordinator whose endpoint follows a script: what the service does meanwhile, a
call that does not reach it, one that is answered, and one whose answer is lost.
Whatever the script, the endpoint is `claimRelatedKeys` (`scripted_claimsFrom`).
-/

namespace SinoChat

open Js

namespace Transport

/-- What happens to a call, or before it. -/
inductive Fate where
  | meanwhile (command : Command)
  /-- The call is lost on its way. -/
  | lost
  /-- The call reaches the service and its record would get this id; its answer arrives or not. -/
  | reached (rowId : Uuid) (arrives : Bool)

/-- The service, what it did, and the rest of the script. -/
structure ScriptState where
  world : World
  log : List Action
  script : List Fate

namespace ScriptState

/-- The world and the log of a script. -/
def backdrop : Backdrop ScriptState := ⟨ScriptState.world, ScriptState.log⟩

@[simp] theorem backdrop_log (s : ScriptState) : backdrop.log s = s.log := rfl

/-- A call of `claimRelatedKeys`. -/
def serve (env : Deployment) (principal : SessionPrincipal) (requestId : JsString)
    (body : JsonObject) (rowId : Uuid) (arrives : Bool) (w : World) (log : List Action)
    (script : List Fate) : Except ClientError (Option Json) × ScriptState :=
  let call : ClaimCall := ⟨principal, requestId, .obj body, rowId, w.db.clock, w.db.clock⟩
  if rowId ∈ w.drawn then (.error .abort, ⟨w, log, script⟩)
  else
    match claimRelatedKeys env.crypto env.matrixServerName call w.db with
    | .ok (db, keys) => (if arrives then .ok (some (claimReply keys)) else .error .abort,
        ⟨{ w with db, drawn := rowId :: w.drawn }, .claimed (.related call) keys :: log, script⟩)
    | .error error => (.error .abort, ⟨w, .claimFailed (.related call) error :: log, script⟩)

/-- The endpoint, by the script. -/
def claimKeys (env : Deployment) (principal : SessionPrincipal) (requestId : JsString)
    (body : JsonObject) : List Fate → World → List Action →
    Except ClientError (Option Json) × ScriptState
  | [], w, log => (.error .abort, ⟨w, log, []⟩)
  | .lost :: script, w, log => (.error .abort, ⟨w, log, script⟩)
  | .reached rowId arrives :: script, w, log =>
    serve env principal requestId body rowId arrives w log script
  | .meanwhile command :: script, w, log =>
    match command.exec env w with
    | some (a, w') => claimKeys env principal requestId body script w' (a :: log)
    | none => claimKeys env principal requestId body script w log

end ScriptState

/-- A coordinator that claims keys, and does nothing else. -/
def scripted (env : Deployment) (principal : SessionPrincipal)
    (sha256 : List UInt8 → List UInt8) : MatrixTransportCoordinator ScriptState where
  machine :=
    { outgoingRequests := pure []
      markRequestAsSent := fun _ _ _ => pure true
      receiveSyncChanges := fun _ _ _ _ _ => pure []
      freeRequest := fun _ s => s
      freeEvent := fun _ s => s }
  matrixDeviceId := []
  transport :=
    { uploadKeys := fun _ => .fail .abort
      queryKeys := fun _ => .fail .abort
      claimKeys := fun requestId body s =>
        ScriptState.claimKeys env principal requestId body s.script s.world s.log
      sendToDevice := fun _ _ _ => .fail .abort
      sync := fun _ _ => .fail .abort }
  tokenStore := ⟨fun _ => pure none, fun _ _ => pure (), fun _ => pure ()⟩
  round := fun _ => .integer 0
  sha256

/-- **The scripted endpoint is `claimRelatedKeys`.** -/
theorem scripted_claimsFrom (env : Deployment) {principal : SessionPrincipal} {deviceId : Uuid}
    (hdevice : principal.deviceId = some deviceId) {sha256 : List UInt8 → List UInt8}
    (hdigest : ∀ bytes, (sha256 bytes).length = 32) :
    (scripted env principal sha256).ClaimsFrom env ScriptState.backdrop deviceId := by
  refine ⟨hdigest, ?_⟩
  -- What the endpoint answers is told by the log of its actions; the induction is on the script.
  have hserve : ∀ requestId body script w log y t,
      ScriptState.claimKeys env principal requestId body script w log = (y, t) →
      ∃ actions, (service env).Steps w actions t.world ∧ t.log = actions ++ log ∧
        ∀ reply, y = .ok reply → ∃ call keys, Action.claimed (.related call) keys ∈ actions ∧
          call.principal.deviceId = some deviceId ∧ call.rawRequestId = requestId ∧
          call.value = .obj body ∧ reply = some (claimReply keys) := by
    intro requestId body script
    induction script with
    -- Nothing more arrives.
    | nil =>
      intro w log y t h
      obtain ⟨rfl, rfl⟩ := Prod.mk.inj h
      exact ⟨[], .refl, rfl, nofun⟩
    | cons fate script ih =>
      intro w log y t h
      cases fate with
      | lost =>
        obtain ⟨rfl, rfl⟩ := Prod.mk.inj h
        exact ⟨[], .refl, rfl, nofun⟩
      -- Another command goes first, and the request stays to be served.
      | meanwhile command =>
        rw [ScriptState.claimKeys] at h
        split at h
        · rename_i a w' hexec
          obtain ⟨actions, hsteps, hlog, hreply⟩ := ih _ _ _ _ h
          refine ⟨actions ++ [a], ?_, by rw [hlog]; simp, fun reply hok => ?_⟩
          · exact Machine.Steps.append (.step .refl (Command.exec_step hexec)) hsteps
          · obtain ⟨call, keys, hmem, hrest⟩ := hreply reply hok
            exact ⟨call, keys, List.mem_append_left _ hmem, hrest⟩
        · exact ih _ _ _ _ h
      -- The request reaches the endpoint, under a row id that is new or is refused.
      | reached rowId arrives =>
        rw [ScriptState.claimKeys, ScriptState.serve] at h
        by_cases hdrawn : rowId ∈ w.drawn
        · rw [if_pos hdrawn] at h
          obtain ⟨rfl, rfl⟩ := Prod.mk.inj h
          exact ⟨[], .refl, rfl, nofun⟩
        · rw [if_neg hdrawn] at h
          split at h
          · rename_i db keys hclaim
            obtain ⟨rfl, rfl⟩ := Prod.mk.inj h
            have hrun : (KeyClaim.related ⟨principal, requestId, .obj body, rowId, w.db.clock,
                w.db.clock⟩).run env w.db = .ok (db, keys) := hclaim
            have hstep := ServiceStep.claim (Nat.le_refl _) (Nat.le_refl _) hdrawn hrun
            refine ⟨[_], .step .refl hstep, rfl, fun reply hok => ?_⟩
            cases arrives with
            | false => cases hok
            | true =>
              exact ⟨_, keys, List.mem_singleton_self _, hdevice, rfl, rfl,
                (Except.ok.inj hok).symm⟩
          · rename_i error hclaim
            obtain ⟨rfl, rfl⟩ := Prod.mk.inj h
            have hrun : (KeyClaim.related ⟨principal, requestId, .obj body, rowId, w.db.clock,
                w.db.clock⟩).run env w.db = .error error := hclaim
            exact ⟨[_], .step .refl (.claimFailed hrun), rfl, nofun⟩
  intro requestId body s y t h
  obtain ⟨actions, hsteps, hlog, hreply⟩ := hserve _ _ _ _ _ _ _ h
  exact ⟨actions, ⟨hsteps, hlog⟩, hreply⟩

end Transport

/-! ## A request of the cashier -/

namespace Sample

open Transport

/-- A device of the cashier that is not there any more. -/
def formerDevice : JsString := js "D0A000000000040008000000000000003"

/-- The users and devices asked for: the client, and the cashier's other device. -/
def claimedDevices : List (JsString × JsString) :=
  [(clientKeys.matrixUserId, clientKeys.matrixDeviceId), (cashierKeys.matrixUserId, formerDevice)]

/-- The body of the claim. -/
def claimBody : JsonObject :=
  [(js "one_time_keys", .obj (claimedDevices.map fun entry =>
    (entry.1, .obj [(entry.2, .str signedCurve25519)])))]

theorem wellFormed_ascii {s : JsString} (h : s.all (fun u => decide (u.toNat < 0x80)) = true) :
    WellFormed s :=
  wellFormed_of_forall fun u hu => not_surrogate_of_ascii
    (of_decide_eq_true (List.all_eq_true.mp h u hu))

/-- The request of the SDK. -/
def claimRequest : KeysClaimRequest where
  id := hex 32 0x7c9e6679742540de944be07fc1f90ae7
  body := claimBody
  idWellFormed := wellFormed_ascii (by decide +kernel)
  idPlain := by decide +kernel
  usersWellFormed := by
    have hall : (Json.keys (claimEntries claimBody)).all
        (fun user => user.all fun u => decide (u.toNat < 0x80)) = true := by decide +kernel
    exact fun user huser => wellFormed_ascii (List.all_eq_true.mp hall user huser)
  usersDistinct := by decide +kernel

/-- SHA-256 of what the two ids are made of, and zero elsewhere. -/
def sha256 (bytes : List UInt8) : List UInt8 :=
  if bytes = claimRequest.subRequestText clientKeys.matrixUserId then
    [218, 104, 226, 132, 136, 105, 136, 178, 188, 107, 146, 50, 29, 161, 83, 191, 157, 139, 137,
      234, 209, 123, 212, 104, 132, 249, 12, 61, 141, 35, 199, 104]
  else if bytes = claimRequest.subRequestText cashierKeys.matrixUserId then
    [239, 37, 111, 243, 7, 177, 98, 157, 187, 19, 48, 139, 10, 77, 128, 0, 207, 123, 111, 64, 3,
      148, 174, 246, 64, 206, 83, 2, 23, 35, 50, 234]
  else List.replicate 32 0

theorem length_sha256 (bytes : List UInt8) : (sha256 bytes).length = 32 := by
  unfold sha256
  split_ifs <;> rfl

/-- The digests, with the one of the claim for the cashier's other device. -/
def claimDeployment : Deployment where
  crypto := { crypto with
    sha256Hex := fun text =>
      if text = (encodeCanonical (.obj [(js "one_time_keys", .obj [(cashierKeys.matrixUserId,
          .obj [(formerDevice, .str signedCurve25519)])])])).getD [] then
        hex 64 0x9571b06e531e5face66c3946668656a37056554ea9fe98e5f19575478cbf6cad
      else crypto.sha256Hex text
    sha256_format := fun text => by
      split_ifs
      · exact fixed_hex _ _
      · exact crypto.sha256_format text }
  matrixServerName := js "chat.example"

/-- The client against the script. -/
def coordinator : MatrixTransportCoordinator ScriptState :=
  scripted claimDeployment cashier sha256

theorem coordinator_claimsFrom :
    coordinator.ClaimsFrom claimDeployment ScriptState.backdrop cashierDevice :=
  scripted_claimsFrom claimDeployment rfl length_sha256

/-- An attempt at the request. -/
def attempt (s : ScriptState) : Except ClientError ClaimResponse × ScriptState :=
  coordinator.sendKeysClaim claimRequest.id claimRequest.body s

/-- The state behind so many attempts. -/
def attempted (s : ScriptState) : ℕ → ScriptState
  | 0 => s
  | n + 1 => (attempt (attempted s n)).2

/-- The labels of so many attempts. -/
def attemptsOf (s : ScriptState) : ℕ → List MatrixTransportCoordinator.ClaimEvent
  | 0 => []
  | n + 1 => .attempted claimRequest (attempt (attempted s n)).1 :: attemptsOf s n

/-- The state before a script. -/
def start (script : List Fate) : ScriptState := ⟨world, [], script⟩

/-- **Attempts are a run.** -/
theorem attempted_run (script : List Fate) (n : ℕ) :
    (coordinator.claiming claimDeployment ScriptState.backdrop).Run
      (attemptsOf (start script) n) (attempted (start script) n) := by
  induction n with
  | zero => exact .init (.init world_initial)
  | succ n ih =>
    refine ih.step (a := .attempted claimRequest _) ?_
    exact (Prod.mk.eta (p := attempt _)).symm

/-- A value is the body of the sub-request for a device. -/
def isSubRequestFor (device : JsString × JsString) : Json → Bool
  | .obj [(key, .obj [(user, .obj [(name, .str algorithm)])])] =>
    key = js "one_time_keys" ∧ (user, name) = device ∧ algorithm = signedCurve25519
  | _ => false

theorem eq_of_isSubRequestFor {device : JsString × JsString} {value : Json}
    (h : isSubRequestFor device value = true) :
    value = .obj [(js "one_time_keys", .obj [(device.1,
      .obj [(device.2, .str signedCurve25519)])])] := by
  unfold isSubRequestFor at h
  split at h
  · obtain ⟨rfl, rfl, rfl⟩ := of_decide_eq_true h
    rfl
  · cases h

/-- The claims of a log are sub-requests of the request. -/
def onlySubRequests (log : List Action) : Bool :=
  log.all fun a =>
    match a with
    | .claimed claim _ => claimedDevices.any fun device =>
        decide (claim.call.rawRequestId = coordinator.subRequestId claimRequest device.1) &&
          isSubRequestFor device claim.call.value
    | _ => true

theorem claimsOnly_of_log {log : List Action} (h : onlySubRequests log = true) :
    coordinator.ClaimsOnly cashierDevice (· = claimRequest) log where
  ids := by
    rintro a b rfl rfl -
    rfl
  digests := by
    rintro a b rfl rfl
    decide +kernel
  claims := by
    intro claim keys hmem _
    obtain ⟨device, hdevice, hcond⟩ := List.any_eq_true.mp (List.all_eq_true.mp h _ hmem)
    obtain ⟨hid, hvalue⟩ := Bool.and_eq_true_iff.mp hcond
    refine ⟨claimRequest, rfl, (device.1, .obj [(device.2, .str signedCurve25519)]),
      List.mem_map_of_mem hdevice, of_decide_eq_true hid, eq_of_isSubRequestFor hvalue⟩

end Sample

end SinoChat
