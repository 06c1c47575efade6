import SinoChat.PreKeys.Invariant

/-!
# The statements of claims and uploads

Each statement keeps the invariant. Most of them write nothing; one locks a pre-key, one
marks it, one records the claim with its bundle, and one inserts uploaded pre-keys.
-/

namespace SinoChat

namespace PreKeys

open Heap (Row Keeps There seen mem_seen)

variable {w w' : World} {v : Option ℕ} {i : ℕ} {call : ClaimCall} {bundle : Bundle}

/-! ## Every statement -/

theorem JobSound.claim {phase : ClaimPhase} (hrecorded : ∀ b ∈ phase.bundles, Recorded (some i) call b w)
    (hmarked : ∀ id time, (Job.claim call phase).marked = some (id, time) →
      There (some i) (·.id) w.preKeys id) : JobSound w i (.claim call phase) :=
  ⟨fun _ _ hjob => by cases hjob; exact hrecorded, hmarked⟩

theorem bundle?_spec {device : Device} {claim : OneTimePreKeyClaim} {preKey : Option OneTimePreKey}
    (h : bundle? device claim preKey = some bundle) :
    bundle.deviceId = device.id ∧ bundle.claimId = claim.id ∧ bundle.claimedAt = claim.claimedAt ∧
      bundle.oneTimePreKey = preKey.map (·.answer) := by
  simp only [bundle?, Option.bind_eq_bind, Option.bind_eq_some_iff, Option.pure_def,
    Option.some.injEq] at h
  obtain ⟨_, -, _, -, _, -, _, -, _, -, _, -, rfl⟩ := h
  exact ⟨rfl, rfl, rfl, rfl⟩

/-- A pre-key that a transaction sees is there with its content. -/
theorem RowsSound.there_of_seen (h : RowsSound w) {key : OneTimePreKey}
    (hkey : key ∈ seen i w.preKeys) :
    There (some i) OneTimePreKey.content w.preKeys key.content := by
  obtain ⟨r, hr, hseen, rfl⟩ := mem_seen.mp hkey
  exact ⟨r, hr, hseen, (Row.key_version h.preKeysKept hr i).symm⟩

/-- The pre-key read with a claim is the one it names. -/
theorem RowsSound.preKeyOf (h : RowsSound w) {claim : OneTimePreKeyClaim}
    (hkey : ∀ k, claim.oneTimePreKeyId = some k → There (some i) (·.id) w.preKeys k) :
    (claim.oneTimePreKeyId = none → w.preKeyOf i claim = none) ∧
      ∀ k, claim.oneTimePreKeyId = some k → ∃ key,
        There (some i) OneTimePreKey.content w.preKeys key.content ∧ key.id = k ∧
          w.preKeyOf i claim = some key := by
  refine ⟨fun hnone => by rw [World.preKeyOf, hnone]; rfl, fun k hk => ?_⟩
  obtain ⟨r, hr, hseen, hid⟩ := hkey k hk
  have hversion : (r.version i).id = k :=
    (Row.key_version (Keeps.preKey h.preKeysKept _ fun _ => rfl) hr i).trans hid
  rw [World.preKeyOf, hk, Option.bind_some]
  cases hfind : (seen i w.preKeys).find? fun key => key.id == k with
  | none =>
    have hnot := List.find?_eq_none.mp hfind _ (mem_seen.mpr ⟨r, hr, hseen, rfl⟩)
    simp [hversion] at hnot
  | some key =>
    have hkeyId : key.id = k := by simpa using List.find?_some hfind
    exact ⟨key, h.there_of_seen (List.mem_of_find?_eq_some hfind), hkeyId, rfl⟩

/-- A bundle made of a claim that is there records it. -/
theorem RowsSound.recorded (h : RowsSound w) {claim : OneTimePreKeyClaim} {device : Device}
    (hkey : ∀ k, claim.oneTimePreKeyId = some k → There (some i) (·.id) w.preKeys k)
    (hrequest : claim.request = (call.requesterDeviceId, call.conversationId, device.id))
    (hbundle : bundle? device claim (w.preKeyOf i claim) = some bundle)
    (hclaim : There (some i) id w'.claims claim) (hpreKeys : w'.preKeys = w.preKeys) :
    Recorded (some i) call bundle w' := by
  obtain ⟨hdevice, hid, htime, hanswer⟩ := bundle?_spec hbundle
  obtain ⟨hnone, hsome⟩ := h.preKeyOf hkey
  refine ⟨claim, hclaim, hid.symm, by rw [hdevice, hrequest], htime.symm, ?_, fun k hk => ?_⟩
  · intro hk
    rw [hanswer, hnone hk]
    rfl
  · obtain ⟨key, hthere, hkeyId, hread⟩ := hsome k hk
    exact ⟨key.content, hpreKeys ▸ hthere, hkeyId, by rw [hanswer, hread]; rfl⟩

/-- What a statement of a claim does: it goes on, shows a claim that is there, locks a pre-key,
marks it, or records the claim. -/
inductive ClaimMove (w : World) (i : ℕ) (call : ClaimCall) (fresh : Uuid) :
    ClaimPhase → World → ClaimPhase → Prop
  | goOn {phase phase' : ClaimPhase} (hmarked : (Job.claim call phase).marked = none)
      (hmarked' : (Job.claim call phase').marked = none)
      (hbundles : phase'.bundles = phase.bundles) : ClaimMove w i call fresh phase w phase'
  | found {loop : Loop} {device : Device} {rest : List Device} {existing : OneTimePreKeyClaim}
      {bundle : Bundle} (hseen : existing ∈ seen i w.claims)
      (hrequest : existing.request = (call.requesterDeviceId, call.conversationId, device.id))
      (hbundle : bundle? device existing (w.preKeyOf i existing) = some bundle) :
      ClaimMove w i call fresh (.looking loop) w
        (.looking { loop with todo := rest, bundles := loop.bundles ++ [bundle] })
  | lock {loop : Loop} {key : OneTimePreKey} :
      ClaimMove w i call fresh (.selecting loop)
        { w with preKeys := Heap.write i (·.id == key.id) id w.preKeys } (.marking loop key.id)
  | mark {loop : Loop} {device : Device} {candidate : Uuid}
      (hany : ((seen i w.preKeys).any fun key => key.id == candidate && key.deviceId == device.id &&
        key.claimedAt.isNone) = true) :
      ClaimMove w i call fresh (.marking loop candidate)
        { w with
          preKeys := Heap.write i (fun key => key.id == candidate && key.deviceId == device.id &&
            key.claimedAt.isNone) (·.mark loop.claimedAt) w.preKeys }
        (.recording loop (some candidate))
  | record {loop : Loop} {device : Device} {rest : List Device} {candidate : Option Uuid}
      {bundle : Bundle}
      (hinsertable : w.insertable (call.created fresh device candidate loop.claimedAt) = true)
      (hbundle : bundle? device (call.created fresh device candidate loop.claimedAt)
        (w.preKeyOf i (call.created fresh device candidate loop.claimedAt)) = some bundle) :
      ClaimMove w i call fresh (.recording loop candidate)
        { w with
          claims := Heap.insert (some i) [call.created fresh device candidate loop.claimedAt]
            w.claims }
        (.looking { loop with todo := rest, bundles := loop.bundles ++ [bundle] })

/-- **Every statement of a claim is one of these.** -/
theorem claimMove_of_statement {held held' : List Uuid} {fresh : Uuid} {phase phase' : ClaimPhase}
    (hdo : claimStatement w i held call fresh phase = some (w', held', phase')) :
    ClaimMove w i call fresh phase w' phase' := by
  cases phase with
  | authorizing =>
    obtain ⟨conversation, -, hdo⟩ := Option.bind_eq_some_iff.mp hdo
    cases hdo
    exact .goOn rfl rfl rfl
  | locking assignmentId peerUserId participants =>
    cases participants with
    | nil | cons user rest =>
      simp only [claimStatement] at hdo
      split_ifs at hdo
      cases hdo
      exact .goOn rfl rfl rfl
  | reauthorizing assignmentId peerUserId =>
    obtain ⟨conversation, -, hdo⟩ := Option.bind_eq_some_iff.mp hdo
    split_ifs at hdo
    cases hdo
    exact .goOn rfl rfl rfl
  | timing peerUserId =>
    cases hdo
    exact .goOn rfl rfl rfl
  | listing peerUserId claimedAt =>
    simp only [claimStatement] at hdo
    split_ifs at hdo
    cases hdo
    exact .goOn rfl rfl rfl
  -- The claim for the next device is looked up; one that is there is shown.
  | looking loop =>
    simp only [claimStatement] at hdo
    split at hdo
    · obtain ⟨conversation, -, hdo⟩ := Option.bind_eq_some_iff.mp hdo
      cases hdo
      exact .goOn rfl rfl rfl
    · split at hdo
      · rename_i hfind
        obtain ⟨b, hb, hdo⟩ := Option.bind_eq_some_iff.mp hdo
        cases hdo
        have hrequest := List.find?_some hfind
        rw [beq_iff_eq] at hrequest
        exact .found (List.mem_of_find?_eq_some hfind) hrequest hb
      · cases hdo
        exact .goOn rfl rfl rfl
  | selecting loop =>
    simp only [claimStatement] at hdo
    split at hdo
    · cases hdo
    · split at hdo
      · cases hdo
        exact .goOn rfl rfl rfl
      · split_ifs at hdo
        cases hdo
        exact .lock
  | marking loop candidate =>
    simp only [claimStatement] at hdo
    split at hdo
    · cases hdo
    · split_ifs at hdo with hmark
      cases hdo
      exact .mark (Bool.and_eq_true_iff.mp hmark).1
  | recording loop candidate =>
    simp only [claimStatement] at hdo
    split at hdo
    · cases hdo
    · split_ifs at hdo with hinsertable
      obtain ⟨b, hb, hdo⟩ := Option.bind_eq_some_iff.mp hdo
      cases hdo
      exact .record hinsertable hb
  | committing loop => cases hdo

/-- What a statement of a claim writes: nothing, versions of pre-keys, or a claim. -/
theorem claimStatement_writes {held held' : List Uuid} {fresh : Uuid} {phase phase' : ClaimPhase}
    (hdo : claimStatement w i held call fresh phase = some (w', held', phase')) :
    w' = w ∨ (∃ p f, w' = { w with preKeys := Heap.write i p f w.preKeys }) ∨
      ∃ claim, w' = { w with claims := Heap.insert (some i) [claim] w.claims } := by
  cases claimMove_of_statement hdo with
  | goOn | found => exact .inl rfl
  | lock | mark => exact .inr (.inl ⟨_, _, rfl⟩)
  | record => exact .inr (.inr ⟨_, rfl⟩)

/-- The bundles of a loop that shows one more. -/
theorem recorded_append {bundles : List Bundle} (hrecorded : ∀ b ∈ bundles, Recorded v call b w)
    (hnew : Recorded v call bundle w) : ∀ b ∈ bundles ++ [bundle], Recorded v call b w := by
  intro b hb
  rcases List.mem_append.mp hb with hold | hlast
  · exact hrecorded b hold
  · obtain rfl := List.mem_singleton.mp hlast
    exact hnew

/-- A claim that a transaction sees names a pre-key that it sees. -/
theorem RowsSound.recorded_of_seen (h : RowsSound w) {existing : OneTimePreKeyClaim}
    {device : Device} (hseen : existing ∈ seen i w.claims)
    (hrequest : existing.request = (call.requesterDeviceId, call.conversationId, device.id))
    (hbundle : bundle? device existing (w.preKeyOf i existing) = some bundle) :
    Recorded (some i) call bundle w := by
  obtain ⟨r, hr, hseen, hversion⟩ := mem_seen.mp hseen
  have hvalue : r.value = existing := (Row.version_eq h.claimsKept hr i).symm.trans hversion
  refine h.recorded (fun k hk => ?_) hrequest hbundle ⟨r, hr, hseen, hvalue⟩ rfl
  have hthere := h.referenced r hr k (hvalue ▸ hk)
  rcases hseen with hnone | hmine
  · rw [hnone] at hthere
    exact hthere.mono _
  · rwa [hmine] at hthere

/-- **A statement marks its candidate.** -/
theorem Sound.mark (h : Sound w) {tr : Transaction} (hi : w.transactions[i]? = some tr)
    {loop : Loop} {device : Device} {candidate : Uuid}
    (hjob : tr.job = .claim call (.marking loop candidate)) {held : List Uuid}
    (hany : ((seen i w.preKeys).any fun key => key.id == candidate && key.deviceId == device.id &&
      key.claimedAt.isNone) = true) :
    Sound (World.goOn
      { w with
        preKeys := Heap.write i (fun key => key.id == candidate && key.deviceId == device.id &&
          key.claimedAt.isNone) (·.mark loop.claimedAt) w.preKeys } i
      { tr with held := held, job := .claim call (.recording loop (some candidate)) }) := by
  obtain ⟨key, hkey, his⟩ := List.any_eq_true.mp hany
  simp only [Bool.and_eq_true, beq_iff_eq] at his
  have hthere : There (some i) (·.id) w.preKeys candidate := by
    have hcontent := there_id_of_content (h.rows.there_of_seen hkey)
    rwa [show key.content.id = candidate from his.1.1] at hcontent
  have hrecorded := (h.jobs hi).recorded call _ hjob
  refine h.writeKeys hi (by rw [hjob]; rfl) (fun _ => rfl)
    (JobSound.claim hrecorded fun id time hsome => ?_) ?_ ?_
  · obtain ⟨rfl, rfl⟩ := Prod.mk.inj (Option.some.inj hsome)
    exact hthere
  · rw [hjob]
    exact fun b hb => hb
  · intro r hr hp time htime
    simp only [Bool.and_eq_true, beq_iff_eq] at hp
    have hid : (r.version i).id = r.value.id :=
      Row.key_version (Keeps.preKey h.rows.preKeysKept _ fun _ => rfl) hr i
    obtain rfl : loop.claimedAt = time := Option.some.inj htime
    exact .inr (by rw [← hid, hp.1.1]; rfl)

/-- **A statement records the claim of the pre-key that was marked.** -/
theorem Sound.recordClaim (h : Sound w) {tr : Transaction} (hi : w.transactions[i]? = some tr)
    {loop : Loop} {device : Device} {rest : List Device} {candidate : Option Uuid}
    (hjob : tr.job = .claim call (.recording loop candidate)) {held : List Uuid} {fresh : Uuid}
    (hinsertable : w.insertable (call.created fresh device candidate loop.claimedAt) = true)
    (hbundle : bundle? device (call.created fresh device candidate loop.claimedAt)
      (w.preKeyOf i (call.created fresh device candidate loop.claimedAt)) = some bundle) :
    Sound (World.goOn
      { w with
        claims := Heap.insert (some i) [call.created fresh device candidate loop.claimedAt]
          w.claims } i
      { tr with
        held := held
        job := .claim call (.looking
          { loop with todo := rest, bundles := loop.bundles ++ [bundle] }) }) := by
  have hkey : ∀ k, (call.created fresh device candidate loop.claimedAt).oneTimePreKeyId = some k →
      There (some i) (·.id) w.preKeys k := by
    intro k hk
    obtain rfl : candidate = some k := hk
    exact (h.jobs hi).marked k loop.claimedAt (by rw [hjob]; rfl)
  have hrecorded := (h.jobs hi).recorded call _ hjob
  refine h.record hi hinsertable hkey ?_ (JobSound.claim (recorded_append
    (fun b hb => (hrecorded b hb).later ⟨fun hclaim => hclaim.insert _ _, id⟩)
    (h.rows.recorded hkey rfl hbundle there_insertClaim rfl)) nofun) ?_ ?_
  · intro id time hsome
    rw [hjob] at hsome
    cases candidate with
    | none => cases hsome
    | some k =>
      obtain ⟨rfl, rfl⟩ := Prod.mk.inj (Option.some.inj hsome)
      exact ⟨rfl, rfl⟩
  · rw [hjob]
    exact fun b hb => List.mem_append_left _ hb
  · exact ⟨bundle, List.mem_append_right _ (List.mem_singleton.mpr rfl), (bundle?_spec hbundle).2.1⟩

/-- **A statement of a claim.** -/
theorem Sound.claimStatement (h : Sound w) {tr : Transaction} (hi : w.transactions[i]? = some tr)
    {phase phase' : ClaimPhase} (hjob : tr.job = .claim call phase) {held : List Uuid} {fresh : Uuid}
    (hdo : PreKeys.claimStatement w i tr.held call fresh phase = some (w', held, phase')) :
    Sound (w'.goOn i { tr with held := held, job := .claim call phase' }) := by
  have hrecorded := (h.jobs hi).recorded call phase hjob
  cases claimMove_of_statement hdo with
  | goOn hmarked hmarked' hbundles =>
    refine h.quiet hi (hjob ▸ hmarked) (JobSound.claim (hbundles ▸ hrecorded) ?_) ?_
    · intro id time hsome
      rw [hmarked'] at hsome
      cases hsome
    · rw [hjob]
      show ∀ b ∈ phase.bundles, b ∈ phase'.bundles
      rw [hbundles]
      exact fun b hb => hb
  | found hseen hrequest hbundle =>
    refine h.quiet hi (by rw [hjob]; rfl) (JobSound.claim (recorded_append hrecorded
      (h.rows.recorded_of_seen hseen hrequest hbundle)) nofun) ?_
    rw [hjob]
    exact fun b hb => List.mem_append_left _ hb
  | lock =>
    have hunmarked : tr.job.marked = none := by rw [hjob]; rfl
    refine h.writeKeys hi hunmarked (fun _ => rfl) (JobSound.claim hrecorded nofun) ?_ ?_
    · rw [hjob]
      exact fun b hb => hb
    · exact fun r hr _ time htime => .inl (h.claimed_of_version hi hunmarked hr htime)
  | mark hany => exact h.mark hi hjob hany
  | record hinsertable hbundle => exact h.recordClaim hi hjob hinsertable hbundle

theorem Sound.uploadStatement (h : Sound w) {tr : Transaction} (hi : w.transactions[i]? = some tr)
    {upload : UploadCall} {phase phase' : UploadPhase} (hjob : tr.job = .upload upload phase)
    {held ids : List Uuid}
    (hdo : PreKeys.uploadStatement w i tr.held tr.startedAt upload ids phase =
      some (w', held, phase')) :
    Sound (w'.goOn i { tr with held := held, job := .upload upload phase' }) := by
  have hunmarked : tr.job.marked = none := by rw [hjob]; rfl
  have hnothing : ∀ b ∈ tr.job.bundles, b ∈ (Job.upload upload phase').bundles := by
    rw [hjob]
    exact fun b hb => hb
  cases phase with
  | locking =>
    simp only [PreKeys.uploadStatement] at hdo
    split_ifs at hdo
    cases hdo
    exact h.quiet hi hunmarked (JobSound.empty rfl rfl) hnothing
  | checking =>
    simp only [PreKeys.uploadStatement] at hdo
    split_ifs at hdo
    cases hdo
    exact h.quiet hi hunmarked (JobSound.empty rfl rfl) hnothing
  | identifying =>
    simp only [PreKeys.uploadStatement] at hdo
    split_ifs at hdo
    cases hdo
    exact h.quiet hi hunmarked (JobSound.empty rfl rfl) hnothing
  | inserting =>
    simp only [PreKeys.uploadStatement] at hdo
    split_ifs at hdo with hinsert
    cases hdo
    refine (h.insertKeys hinsert.2 ?_ (some i)).quiet hi hunmarked (JobSound.empty rfl rfl) hnothing
    intro key hkey
    obtain ⟨entry, -, rfl⟩ := List.mem_map.mp hkey
    rfl
  | committing => cases hdo

/-- A world with other devices, another clock and another rest of the system. -/
theorem Sound.environment (h : Sound w) (hpreKeys : w'.preKeys = w.preKeys)
    (hclaims : w'.claims = w.claims) (htransactions : w'.transactions = w.transactions) : Sound w' := by
  cases w
  cases w'
  cases hpreKeys
  cases hclaims
  cases htransactions
  exact ⟨⟨h.rows.claimIds, h.rows.requests, h.rows.claimKeys, h.rows.claimsKept, h.rows.preKeyIds,
    h.rows.preKeysKept, h.rows.referenced, h.rows.marks⟩, h.marking,
    fun hj => (h.jobs hj).later ⟨id, id⟩, h.covered⟩

theorem getElem?_append_of_some {l : List Transaction} {t : ℕ} {tr new : Transaction}
    (h : l[t]? = some tr) : (l ++ [new])[t]? = some tr := by
  obtain ⟨hlt, -⟩ := List.getElem?_eq_some_iff.mp h
  rw [List.getElem?_append_left hlt, h]

theorem Sound.start (h : Sound w) {job : Job} (hbundles : job.bundles = [])
    (hmarked : job.marked = none) : Sound (w.start job) := by
  refine ⟨⟨h.rows.claimIds, h.rows.requests, h.rows.claimKeys, h.rows.claimsKept, h.rows.preKeyIds,
    h.rows.preKeysKept, h.rows.referenced, h.rows.marks⟩, ?_, ?_, ?_⟩
  · intro r hr t key time hupdate htime
    rcases h.marking r hr t key time hupdate htime with hclaimed | ⟨tr, htr, hsome⟩
    · exact .inl hclaimed
    · exact .inr ⟨tr, getElem?_append_of_some htr, hsome⟩
  · intro j tr hj
    have hmem := List.getElem?_append.symm.trans hj
    split_ifs at hmem with hlt
    · exact (h.jobs hmem).later ⟨id, id⟩
    · obtain rfl := List.mem_singleton.mp (List.mem_of_getElem? hmem)
      exact JobSound.empty hbundles hmarked
  · intro r hr t ht
    obtain ⟨tr, htr, hbundle⟩ := h.covered r hr t ht
    exact ⟨tr, getElem?_append_of_some htr, hbundle⟩

end PreKeys

end SinoChat
