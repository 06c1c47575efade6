import SinoChat.PreKeys.Statements
import SinoChat.ToDevice.Script

/-!
# Pre-keys are claimed once

The answer of a claim is what is recorded, and stays it (`Told`): the rows of claims
never change, and of a pre-key only the time of its claim. A pre-key and its claim
come to be there together or not at all.
-/

namespace SinoChat

namespace PreKeys

open Heap (Row committed mem_committed)

variable {w w' : World} {v : Option ℕ} {i : ℕ} {call : ClaimCall} {bundle : Bundle}

/-! ## Runs -/

/-- What the answers given so far and the tables have to do with each other. -/
structure Told (trace : List Event) (w : World) : Prop where
  answered : ∀ call response, Event.answered call response ∈ trace →
    ∀ b ∈ response.devices, Recorded none call b w
  returned : ∀ r ∈ w.claims, r.insertedBy = none → ∃ call response,
    Event.answered call response ∈ trace ∧ ∃ b ∈ response.devices, b.claimId = r.value.id

/-- The claims that are there are the ones that were, and no answer is given. -/
theorem Told.keep {trace : List Event} {event : Event} (h : Told trace w)
    (hevent : ∀ call response, event ≠ .answered call response) (hlater : Later none w w')
    (hold : ∀ r' ∈ w'.claims, r'.insertedBy = none →
      ∃ r ∈ w.claims, r.insertedBy = none ∧ r.value = r'.value) : Told (event :: trace) w' := by
  constructor
  · intro call response hmem b hb
    rcases List.mem_cons.mp hmem with heq | hmem
    · exact absurd heq.symm (hevent call response)
    · exact (h.answered call response hmem b hb).later hlater
  · intro r' hr' hthere
    obtain ⟨r, hr, hnone, hvalue⟩ := hold r' hr' hthere
    obtain ⟨call, response, hmem, hbundle⟩ := h.returned r hr hnone
    rw [hvalue] at hbundle
    exact ⟨call, response, List.mem_cons_of_mem _ hmem, hbundle⟩

/-- The rows outside the open transactions stay as they are while one goes on. -/
structure Private (w w' : World) : Prop where
  later : ∀ v, Later v w w'
  claims : ∀ r ∈ w'.claims, r.insertedBy = none → r ∈ w.claims

theorem private_claimStatement {held held' : List Uuid} {fresh : Uuid} {phase phase' : ClaimPhase}
    (hdo : claimStatement w i held call fresh phase = some (w', held', phase')) : Private w w' := by
  rcases claimStatement_writes hdo with rfl | ⟨p, f, rfl⟩ | ⟨claim, rfl⟩
  · exact ⟨fun _ => .refl, fun r hr _ => hr⟩
  · exact ⟨fun _ => later_write, fun r hr _ => hr⟩
  · refine ⟨fun _ => ⟨fun hclaim => hclaim.insert _ _, id⟩, fun r hr hnone => ?_⟩
    rcases List.mem_append.mp hr with hr | hr
    · exact hr
    · obtain rfl := List.mem_singleton.mp hr
      cases hnone

theorem private_uploadStatement {upload : UploadCall} {held held' ids : List Uuid} {startedAt : ℕ}
    {phase phase' : UploadPhase}
    (hdo : uploadStatement w i held startedAt upload ids phase = some (w', held', phase')) :
    Private w w' := by
  cases phase with
  | locking | checking | identifying =>
    simp only [uploadStatement] at hdo
    split_ifs at hdo
    cases hdo
    exact ⟨fun _ => .refl, fun r hr _ => hr⟩
  | inserting =>
    simp only [uploadStatement] at hdo
    split_ifs at hdo
    cases hdo
    exact ⟨fun _ => ⟨id, fun hkey => hkey.insert _ _⟩, fun r hr _ => hr⟩
  | committing => cases hdo

/-- A transaction goes on. -/
theorem Sound.advance (h : Sound w) {fresh : Uuid} {ids : List Uuid}
    (hdo : w.advance i fresh ids = some w') : Sound w' ∧ Private w w' := by
  rw [World.advance] at hdo
  obtain ⟨tr, hi, hdo⟩ := Option.bind_eq_some_iff.mp hdo
  cases hjob : tr.job with
  | claim call phase =>
    simp only [hjob] at hdo
    obtain ⟨⟨v, held, phase'⟩, hstatement, hdo⟩ := Option.bind_eq_some_iff.mp hdo
    cases hdo
    have hprivate := private_claimStatement hstatement
    exact ⟨h.claimStatement hi hjob hstatement, fun v => ⟨(hprivate.later v).claims,
      (hprivate.later v).preKeys⟩, hprivate.claims⟩
  | upload call phase =>
    simp only [hjob] at hdo
    obtain ⟨⟨v, held, phase'⟩, hstatement, hdo⟩ := Option.bind_eq_some_iff.mp hdo
    cases hdo
    have hprivate := private_uploadStatement hstatement
    exact ⟨h.uploadStatement hi hjob hstatement, fun v => ⟨(hprivate.later v).claims,
      (hprivate.later v).preKeys⟩, hprivate.claims⟩
  | done =>
    simp only [hjob] at hdo
    cases hdo

/-- The rows that are there after a commit were there, or were the transaction's. -/
theorem Sound.committed_claims (h : Sound w) {r' : Row OneTimePreKeyClaim}
    (hr' : r' ∈ (w.commitRows i).claims) (hnone : r'.insertedBy = none) :
    ∃ r ∈ w.claims, r.value = r'.value ∧ (r.insertedBy = none ∨ r.insertedBy = some i) := by
  obtain ⟨r, hr, rfl⟩ := List.mem_map.mp hr'
  refine ⟨r, hr, (Row.version_eq h.rows.claimsKept hr i).symm, ?_⟩
  by_cases hmine : r.insertedBy = some i
  · exact .inr hmine
  · exact .inl ((if_neg hmine).symm.trans hnone)

/-- **The answer of a claim.** -/
theorem Told.commitClaim {trace : List Event} (h : Told trace w) (hsound : Sound w)
    {tr : Transaction} (hi : w.transactions[i]? = some tr) {loop : Loop}
    (hjob : tr.job = .claim call (.committing loop)) :
    Told (.answered call ⟨loop.peerUserId, loop.bundles⟩ :: trace)
      ((w.commitRows i).finish i tr) := by
  have hlater := hsound.later_commit (i := i) none
  constructor
  · intro call' response hmem b hb
    rcases List.mem_cons.mp hmem with heq | hmem
    · cases heq
      obtain ⟨claim, hclaim, hid, hrequest, htime, hnone, hsome⟩ :=
        (hsound.jobs hi).recorded call _ hjob b hb
      refine ⟨claim, hclaim.publish hsound.rows.claimsKept, hid, hrequest, htime, hnone, fun k hk => ?_⟩
      obtain ⟨key, hkey, hkeyId, hanswer⟩ := hsome k hk
      exact ⟨key, hkey.publish hsound.rows.preKeysKept, hkeyId, hanswer⟩
    · exact (h.answered call' response hmem b hb).later ⟨hlater.claims, hlater.preKeys⟩
  · intro r' hr' hthere
    obtain ⟨r, hr, hvalue, hold | hmine⟩ := hsound.committed_claims hr' hthere
    · obtain ⟨call', response, hmem, hbundle⟩ := h.returned r hr hold
      rw [hvalue] at hbundle
      exact ⟨call', response, List.mem_cons_of_mem _ hmem, hbundle⟩
    · obtain ⟨transaction, htransaction, b, hb, hid⟩ := hsound.covered r hr i hmine
      rw [hi] at htransaction
      obtain rfl := Option.some.inj htransaction
      rw [hjob] at hb
      exact ⟨call, _, List.mem_cons_self, b, hb, hid.trans (by rw [hvalue])⟩

theorem Told.commitUpload {trace : List Event} (h : Told trace w) (hsound : Sound w)
    {tr : Transaction} (hi : w.transactions[i]? = some tr) {upload : UploadCall}
    (hjob : tr.job = .upload upload .committing) :
    Told (.uploaded upload :: trace) ((w.commitRows i).finish i tr) := by
  have hlater := hsound.later_commit (i := i) none
  refine h.keep nofun ⟨hlater.claims, hlater.preKeys⟩ fun r' hr' hthere => ?_
  obtain ⟨r, hr, hvalue, hold | hmine⟩ := hsound.committed_claims hr' hthere
  · exact ⟨r, hr, hold, hvalue⟩
  · obtain ⟨transaction, htransaction, b, hb, -⟩ := hsound.covered r hr i hmine
    rw [hi] at htransaction
    obtain rfl := Option.some.inj htransaction
    rw [hjob] at hb
    cases hb

/-- **The step.** -/
theorem Sound.step {trace : List Event} {event : Event} {command : Command} (h : Sound w)
    (htold : Told trace w) (hstep : w.step command = some (event, w')) :
    Sound w' ∧ Told (event :: trace) w' := by
  cases command with
  | claim call =>
    cases hstep
    exact ⟨h.start rfl rfl, htold.keep nofun ⟨id, id⟩ fun r hr hnone => ⟨r, hr, hnone, rfl⟩⟩
  | upload call =>
    simp only [World.step] at hstep
    split_ifs at hstep
    cases hstep
    exact ⟨h.start rfl rfl, htold.keep nofun ⟨id, id⟩ fun r hr hnone => ⟨r, hr, hnone, rfl⟩⟩
  | advance i fresh ids =>
    obtain ⟨v, hadvance, hpair⟩ := Option.map_eq_some_iff.mp hstep
    cases hpair
    obtain ⟨hsound, hprivate⟩ := h.advance hadvance
    exact ⟨hsound, htold.keep nofun (hprivate.later none) fun r hr hnone =>
      ⟨r, hprivate.claims r hr hnone, hnone, rfl⟩⟩
  | commit i =>
    obtain ⟨tr, hi, hdo⟩ := Option.bind_eq_some_iff.mp hstep
    split at hdo
    case h_1 call loop hjob =>
      cases hdo
      exact ⟨h.commit hi (by rw [hjob]; rfl), htold.commitClaim h hi hjob⟩
    case h_2 upload hjob =>
      cases hdo
      exact ⟨h.commit hi (by rw [hjob]; rfl), htold.commitUpload h hi hjob⟩
    case h_3 => cases hdo
  | fail i =>
    obtain ⟨tr, hi, hdo⟩ := Option.bind_eq_some_iff.mp hstep
    split_ifs at hdo
    cases hdo
    have hlater := later_abort (w := w) (i := i) (v := none) nofun
    refine ⟨h.abort hi, htold.keep nofun ⟨hlater.claims, hlater.preKeys⟩ fun r' hr' hnone => ?_⟩
    obtain ⟨r, hr, rfl⟩ := List.mem_map.mp hr'
    exact ⟨r, (List.mem_filter.mp hr).1, hnone, rfl⟩
  | register device keys =>
    simp only [World.step] at hstep
    split_ifs at hstep with hregister
    cases hstep
    have hunclaimed : ∀ key ∈ keys, key.claimedAt = none := by
      intro key hkey
      have hboth := List.all_eq_true.mp hregister.2 key hkey
      simp only [Bool.and_eq_true, Option.isNone_iff_eq_none] at hboth
      exact hboth.1
    refine ⟨(h.insertKeys hregister.1 hunclaimed none).environment rfl rfl rfl,
      htold.keep nofun ⟨id, fun hkey => hkey.insert _ _⟩ fun r hr hnone => ⟨r, hr, hnone, rfl⟩⟩
  | environment now devices lockCurrent operational =>
    simp only [World.step] at hstep
    split_ifs at hstep
    cases hstep
    exact ⟨h.environment rfl rfl rfl,
      htold.keep nofun ⟨id, id⟩ fun r hr hnone => ⟨r, hr, hnone, rfl⟩⟩

theorem sound_init (hinit : preKeySystem.init w) : Sound w ∧ Told [] w := by
  obtain ⟨hpreKeys, hclaims, htransactions⟩ := hinit
  have hrows : RowsSound w := by
    refine ⟨?_, ?_, ?_, ?_, ?_, ?_, ?_, ?_⟩
    all_goals first
      | rw [hclaims]
      | rw [hpreKeys]
    all_goals first
      | exact List.Pairwise.nil
      | exact nofun
  refine ⟨⟨hrows, ?_, ?_, ?_⟩, nofun, ?_⟩
  · rw [hpreKeys]
    nofun
  · intro j tr hj
    rw [htransactions] at hj
    cases hj
  · rw [hclaims]
    nofun
  · rw [hclaims]
    nofun

/-- **Over a run.** -/
theorem sound_of_run {trace : List Event} (h : preKeySystem.Run trace w) : Sound w ∧ Told trace w :=
  h.invariant (I := fun trace w => Sound w ∧ Told trace w) (fun _ => sound_init)
    fun _ _ _ _ _ hinv ⟨_, hstep⟩ => hinv.1.step hinv.2 hstep

/-- Two bundles of one request record one claim, and with it one pre-key. -/
theorem Recorded.same (h : RowsSound w) {call' : ClaimCall} {bundle' : Bundle}
    (hb : Recorded none call bundle w) (hb' : Recorded none call' bundle' w)
    (hdevice : call.requesterDeviceId = call'.requesterDeviceId)
    (hconversation : call.conversationId = call'.conversationId)
    (hrecipient : bundle.deviceId = bundle'.deviceId) :
    bundle.claimId = bundle'.claimId ∧ bundle.claimedAt = bundle'.claimedAt ∧
      bundle.oneTimePreKey = bundle'.oneTimePreKey := by
  obtain ⟨claim, ⟨r, hr, hthere, rfl⟩, hid, hrequest, htime, hnone, hsome⟩ := hb
  obtain ⟨claim', ⟨r', hr', hthere', rfl⟩, hid', hrequest', htime', hnone', hsome'⟩ := hb'
  rw [hdevice, hconversation, hrecipient] at hrequest
  obtain rfl : r = r' := h.requests.eq hr hr' (congrArg some hrequest) (congrArg some hrequest')
  refine ⟨hid.symm.trans hid', htime.symm.trans htime', ?_⟩
  cases hkey : r.value.oneTimePreKeyId with
  | none => rw [hnone hkey, hnone' hkey]
  | some k =>
    obtain ⟨key, ⟨s, hs, -, rfl⟩, hkeyId, hanswer⟩ := hsome k hkey
    obtain ⟨key', ⟨s', hs', -, rfl⟩, hkeyId', hanswer'⟩ := hsome' k hkey
    obtain rfl : s = s' := h.preKeyIds.eq hs hs' (congrArg some hkeyId) (congrArg some hkeyId')
    rw [hanswer, hanswer']

/-- **Pre-keys are single use and stable.** In every run no pre-key belongs to two claims and no
request has two; all answers to one request give the same pre-key of each device, the one recorded;
a pre-key is claimed only with a claim that was answered; and a transaction that fails leaves the
tables as they are. -/
theorem pre_keys_single_use {trace : List Event} (h : preKeySystem.Run trace w) :
    ((committed w.claims).filterMap (·.oneTimePreKeyId)).Nodup ∧
      ((committed w.claims).map (·.request)).Nodup ∧
      (∀ call response call' response', Event.answered call response ∈ trace →
        Event.answered call' response' ∈ trace →
        call.requesterDeviceId = call'.requesterDeviceId →
        call.conversationId = call'.conversationId →
        ∀ b ∈ response.devices, ∀ b' ∈ response'.devices, b.deviceId = b'.deviceId →
          b.claimId = b'.claimId ∧ b.claimedAt = b'.claimedAt ∧
            b.oneTimePreKey = b'.oneTimePreKey) ∧
      (∀ call response, Event.answered call response ∈ trace → ∀ b ∈ response.devices,
        ∃ claim ∈ committed w.claims, claim.id = b.claimId ∧
          claim.request = (call.requesterDeviceId, call.conversationId, b.deviceId) ∧
          (claim.oneTimePreKeyId = none → b.oneTimePreKey = none) ∧
          ∀ k, claim.oneTimePreKeyId = some k →
            ∃ key ∈ committed w.preKeys, key.id = k ∧ b.oneTimePreKey = some key.answer) ∧
      (∀ key ∈ committed w.preKeys, ∀ time, key.claimedAt = some time →
        ∃ claim ∈ committed w.claims, claim.oneTimePreKeyId = some key.id ∧
          ∃ call response, Event.answered call response ∈ trace ∧
            ∃ b ∈ response.devices, b.claimId = claim.id) ∧
      ∀ i w', preKeySystem.step w (.failed i) w' →
        committed w'.preKeys = committed w.preKeys ∧ committed w'.claims = committed w.claims := by
  obtain ⟨hsound, htold⟩ := sound_of_run h
  refine ⟨hsound.rows.claimKeys.nodup_committed, ?_, ?_, ?_, ?_, ?_⟩
  · have hnodup := hsound.rows.requests.nodup_committed
    rwa [List.filterMap_eq_map'] at hnodup
  · intro call response call' response' hmem hmem' hdevice hconversation b hb b' hb' hrecipient
    exact (htold.answered call response hmem b hb).same hsound.rows
      (htold.answered call' response' hmem' b' hb') hdevice hconversation hrecipient
  · intro call response hmem b hb
    obtain ⟨claim, ⟨r, hr, hthere, rfl⟩, hid, hrequest, -, hnone, hsome⟩ :=
      htold.answered call response hmem b hb
    refine ⟨r.value, mem_committed.mpr ⟨r, hr, hthere, rfl⟩, hid, hrequest, hnone, fun k hk => ?_⟩
    obtain ⟨key, ⟨s, hs, hseen, rfl⟩, hkeyId, hanswer⟩ := hsome k hk
    exact ⟨s.value, mem_committed.mpr ⟨s, hs, hseen, rfl⟩, hkeyId, hanswer⟩
  -- A mark that is committed has its claim, and the claim was answered.
  · intro key hkey time htime
    obtain ⟨s, hs, -, rfl⟩ := mem_committed.mp hkey
    obtain ⟨claim, ⟨r, hr, hthere, rfl⟩, hkeyId, -⟩ := hsound.rows.marks s hs time htime
    exact ⟨r.value, mem_committed.mpr ⟨r, hr, hthere, rfl⟩, hkeyId,
      htold.returned r hr (Row.seenBy_none.mp hthere)⟩
  -- A failure drops what its transaction wrote, and no other command is one.
  · rintro i w' ⟨command, hstep⟩
    cases command with
    | fail j =>
      obtain ⟨tr, -, hdo⟩ := Option.bind_eq_some_iff.mp hstep
      split_ifs at hdo
      cases hdo
      exact ⟨Heap.committed_abort i w.preKeys, Heap.committed_abort i w.claims⟩
    | claim call => cases hstep
    | upload call =>
      simp only [World.step] at hstep
      split_ifs at hstep
      cases hstep
    | advance j fresh ids =>
      obtain ⟨v, -, hpair⟩ := Option.map_eq_some_iff.mp hstep
      cases hpair
    | commit j =>
      obtain ⟨tr, -, hdo⟩ := Option.bind_eq_some_iff.mp hstep
      split at hdo
      · cases hdo
      · cases hdo
      · cases hdo
    | register device keys =>
      simp only [World.step] at hstep
      split_ifs at hstep
      cases hstep
    | environment now devices lockCurrent operational =>
      simp only [World.step] at hstep
      split_ifs at hstep
      cases hstep

/-! ## A run -/

namespace Sample

open SinoChat.Sample (uuidOf clientId cashierId clientDevice cashierDevice assignmentId conversationId)

/-- The legacy device of a user. -/
def device (id userId : Uuid) : Device where
  id := id
  userId := userId
  active := true
  createdAt := 10
  registrationId := some 1
  identityPublicKey := some (List.replicate 32 1)
  identityKeyFingerprint := some []
  signedPreKeyId := some 1
  signedPreKeyPublic := some (List.replicate 32 2)
  signedPreKeySignature := some (List.replicate 64 3)
  protocolVersion := []

/-- A key without a signature. -/
def preKey (keyId : ℕ) : PreKeyUpload := ⟨keyId, List.replicate 32 4, none⟩

/-- The client claims the keys of the cashier's device. -/
def claimCall : ClaimCall := ⟨clientId, clientDevice, conversationId⟩

/-- The cashier uploads two keys. -/
def uploadCall : UploadCall := ⟨cashierId, cashierDevice, [preKey 7, preKey 8]⟩

/-- The conversation of the two. -/
def conversation (userId conversation : Uuid) (_ : Option Uuid) : Option CurrentConversationAccess :=
  if (userId = clientId ∨ userId = cashierId) ∧ conversation = conversationId then
    some ⟨assignmentId, clientId, cashierId⟩
  else none

/-- The tables before the first upload. -/
def empty : World where
  now := 0
  devices := []
  lockCurrent := conversation
  operational := fun _ => true
  preKeys := []
  claims := []
  transactions := []

/-- The next statements of a transaction. -/
def steps (n i : ℕ) (fresh : ℕ) : List Command :=
  List.replicate n (.advance i (uuidOf fresh) [uuidOf 101, uuidOf 102])

/-- Two pre-keys are uploaded; a claim takes the first, its repetition finds it, and a claim of
another device has marked the second when it fails. -/
def script : List Command :=
  [.register (device clientDevice clientId) [], .register (device cashierDevice cashierId) [],
    .register (device (uuidOf 99) clientId) [], .upload uploadCall] ++ steps 4 0 0 ++
    [.commit 0, .claim claimCall] ++ steps 12 1 201 ++ [.commit 1, .claim claimCall] ++
    steps 9 2 202 ++ [.commit 2, .claim ⟨clientId, uuidOf 99, conversationId⟩] ++
    steps 10 3 203 ++ [.fail 3]

/-- A command that labels its own event. -/
def exec (command : Command) (w : World) : Option (Event × World) := w.step command

/-- An answer with the keys of one device. -/
def isAnswer : Event → Bool
  | .answered _ response => response.devices.length == 1
  | _ => false

/-- Two answers of one claim, and after a failure one pre-key used. -/
theorem pre_keys_single_use_twice : ∃ trace w, preKeySystem.Run trace w ∧
    trace.countP isAnswer = 2 ∧ (committed w.claims).length = 1 ∧
      (committed w.preKeys).countP (·.claimedAt.isSome) = 1 ∧
      ((committed w.claims).filterMap (·.oneTimePreKeyId)).Nodup ∧
      ∀ call response call' response', Event.answered call response ∈ trace →
        Event.answered call' response' ∈ trace →
        call.requesterDeviceId = call'.requesterDeviceId →
        call.conversationId = call'.conversationId →
        ∀ b ∈ response.devices, ∀ b' ∈ response'.devices, b.deviceId = b'.deviceId →
          b.oneTimePreKey = b'.oneTimePreKey := by
  obtain ⟨trace, w, hrun, hcheck⟩ := Machine.exists_run_of_perform (M := preKeySystem)
    (fun command _ _ _ hstep => ⟨command, hstep⟩) (s := empty) ⟨rfl, rfl, rfl⟩ script
    (fun trace w => trace.countP isAnswer == 2 && (committed w.claims).length == 1 &&
      (committed w.preKeys).countP (·.claimedAt.isSome) == 1)
    (show (Machine.perform exec script [] empty).any _ = true by decide +kernel)
  simp only [Bool.and_eq_true, beq_iff_eq] at hcheck
  obtain ⟨hnodup, -, hsame, -⟩ := pre_keys_single_use hrun
  exact ⟨trace, w, hrun, hcheck.1.1, hcheck.1.2, hcheck.2, hnodup,
    fun call response call' response' h h' hdevice hconversation b hb b' hb' hrecipient =>
      (hsame call response call' response' h h' hdevice hconversation b hb b' hb' hrecipient).2.2⟩

end Sample

end PreKeys

end SinoChat
