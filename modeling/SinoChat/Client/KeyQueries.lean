import SinoChat.Client.OutgoingFlush
import SinoChat.Client.Traced
import SinoChat.Common.JsonSame

/-!
# A key query in chunks

A server whose answer about a user depends on the user and the devices asked for
only (`Directory`) answers a list of entries with what it knows of each
(`answersOf`), so the answers to the chunks of a query are the chunks of the
answer to it. The merge of responses about different users concatenates their
maps (`mergeRecord_eq_ok`), and the merged response of the chunks is the response
of a single query up to the order of keys (`key_query_chunks`).
-/

namespace SinoChat

open Js

namespace Transport

/-! ## Merging maps -/

/-- A member is there if its key is. -/
theorem hasOwn_eq_true {entries : JsonObject} {key : JsString} :
    Json.hasOwn entries key = true ↔ key ∈ Json.keys entries := by
  unfold Json.hasOwn Json.keys
  induction entries with
  | nil => simp [Json.get?]
  | cons entry rest ih =>
    by_cases hkey : entry.1 = key
    · simp [Json.get?, hkey]
    · rw [Json.get?, if_neg hkey, ih, List.map_cons, List.mem_cons]
      exact ⟨Or.inr, fun h => h.resolve_left fun heq => hkey heq.symm⟩

/-- The entries of a map that a property assignment adds to an object. -/
def assignable (entries : JsonObject) : JsonObject :=
  entries.filter fun entry => entry.1 ≠ js "__proto__"

/-- An assignment adds its entry, up to the order. -/
theorem assign_perm (target : JsonObject) (entry : JsString × Json) :
    (assign target entry.1 entry.2).Perm (target ++ assignable [entry]) := by
  unfold assign assignable
  split_ifs with h
  · simp [h]
  · simpa [h] using ownOrder_perm (target ++ [entry])

/-- **A map without a key of the target is merged without loss.** -/
theorem mergeRecord_eq_ok {target source : JsonObject} (hnodup : (Json.keys source).Nodup)
    (hnew : ∀ key ∈ Json.keys source, key ∉ Json.keys target) :
    ∃ merged, mergeRecord target source = .ok merged ∧
      merged.Perm (target ++ assignable source) := by
  induction source generalizing target with
  | nil => exact ⟨target, rfl, by simp [assignable]⟩
  | cons entry source ih =>
    obtain ⟨key, value⟩ := entry
    obtain ⟨hfresh, hnodup⟩ := List.nodup_cons.mp hnodup
    have hperm := assign_perm target (key, value)
    have hrest : ∀ k ∈ Json.keys source, k ∉ Json.keys (assign target key value) := by
      intro k hk hin
      have hin := (hperm.map Prod.fst).mem_iff.mp hin
      rw [List.map_append, List.mem_append] at hin
      rcases hin with hin | hin
      · exact hnew k (List.mem_cons_of_mem _ hk) hin
      · have : k = key := by
          have := (List.filter_sublist.map Prod.fst).subset hin
          simpa using this
        exact hfresh (this ▸ hk)
    obtain ⟨merged, hmerged, hwhole⟩ := ih hnodup hrest
    refine ⟨merged, ?_, ?_⟩
    · have hown : Json.hasOwn target key = false := by
        rw [Bool.eq_false_iff]
        exact fun h => hnew key List.mem_cons_self (hasOwn_eq_true.mp h)
      simp [mergeRecord, hown, require, bind, Except.bind, hmerged]
    · refine hwhole.trans ((hperm.append_right _).trans ?_)
      rw [List.append_assoc]
      refine List.Perm.append_left _ ?_
      rw [assignable, assignable, assignable, ← List.filter_append]
      exact List.Perm.refl _

/-! ## A server that answers user by user -/

/-- **What a server knows** of a user and the devices asked for. -/
structure Directory where
  deviceKeys : JsString × Json → Option Json
  masterKeys : JsString × Json → Option Json
  selfSigningKeys : JsString × Json → Option Json
  userSigningKeys : JsString × Json → Option Json

/-- The answers about the users of a query, as far as there are any. -/
def answersOf (answer : JsString × Json → Option Json) (entries : JsonObject) : JsonObject :=
  entries.filterMap fun entry => (answer entry).map fun value => (entry.1, value)

/-- Answers are under keys that were asked for. -/
theorem keys_answersOf (answer : JsString × Json → Option Json) (entries : JsonObject) :
    (Json.keys (answersOf answer entries)).Sublist (Json.keys entries) := by
  induction entries with
  | nil => exact .slnil
  | cons entry entries ih =>
    unfold answersOf at ih ⊢
    cases hanswer : answer entry with
    | none =>
      rw [List.filterMap_cons_none (by simp [hanswer])]
      exact ih.cons _
    | some value =>
      rw [List.filterMap_cons_some (by rw [hanswer]; rfl)]
      exact ih.cons_cons _

/-- Two questions have their answers one behind the other. -/
theorem answersOf_append (answer : JsString × Json → Option Json) (a b : JsonObject) :
    answersOf answer (a ++ b) = answersOf answer a ++ answersOf answer b :=
  List.filterMap_append

/-- A response that is the answer to some entries. -/
structure IsAnswer (directory : Directory) (entries : JsonObject) (response : QueryResponse) :
    Prop where
  deviceKeys : response.deviceKeys.Perm (answersOf directory.deviceKeys entries)
  masterKeys : response.masterKeys.Perm (answersOf directory.masterKeys entries)
  selfSigningKeys : response.selfSigningKeys.Perm (answersOf directory.selfSigningKeys entries)
  userSigningKeys : response.userSigningKeys.Perm (answersOf directory.userSigningKeys entries)
  failures : response.failures = []

/-- **The server answers** the queries of up to so many users, about the requested users only
and from what it knows of each. -/
def Answers {σ : Type} (transport : MatrixHttpTransport σ) (directory : Directory) (limit : ℕ) :
    Prop :=
  ∀ timeout entries s, entries.length ≤ limit → (Json.keys entries).Nodup →
    ∃ reply t response, transport.queryKeys (queryBody timeout entries) s = (.ok reply, t) ∧
      parseQueryResponse reply = .ok response ∧ IsAnswer directory entries response

/-! ## The merged response -/

/-- The merged response of the entries that were sent. -/
structure IsMerged (directory : Directory) (entries : JsonObject) (merged : QueryResponse) :
    Prop where
  deviceKeys : merged.deviceKeys.Perm (assignable (answersOf directory.deviceKeys entries))
  masterKeys : merged.masterKeys.Perm (assignable (answersOf directory.masterKeys entries))
  selfSigningKeys :
    merged.selfSigningKeys.Perm (assignable (answersOf directory.selfSigningKeys entries))
  userSigningKeys :
    merged.userSigningKeys.Perm (assignable (answersOf directory.userSigningKeys entries))
  failures : merged.failures = []

/-- Nothing is merged of no question. -/
theorem isMerged_empty (directory : Directory) : IsMerged directory [] emptyQueryResponse where
  deviceKeys := .refl _
  masterKeys := .refl _
  selfSigningKeys := .refl _
  userSigningKeys := .refl _
  failures := rfl

/-- One map of an answer about new users. -/
theorem merge_answer {answer : JsString × Json → Option Json} {sent chunk : JsonObject}
    {target source : JsonObject} (hnodup : (Json.keys (sent ++ chunk)).Nodup)
    (htarget : target.Perm (assignable (answersOf answer sent)))
    (hsource : source.Perm (answersOf answer chunk)) :
    assertResponseUsers source (Json.keys chunk) = .ok () ∧
      ∃ merged, mergeRecord target source = .ok merged ∧
        merged.Perm (assignable (answersOf answer (sent ++ chunk))) := by
  rw [Json.keys, List.map_append, List.nodup_append] at hnodup
  obtain ⟨-, hchunk, hdisjoint⟩ := hnodup
  have hkeys : ∀ key ∈ Json.keys source, key ∈ Json.keys chunk := fun key hkey =>
    (keys_answersOf answer chunk).subset ((hsource.map Prod.fst).mem_iff.mp hkey)
  have hold : ∀ key ∈ Json.keys target, key ∈ Json.keys sent := by
    intro key hkey
    have hin := (htarget.map Prod.fst).mem_iff.mp hkey
    exact (keys_answersOf answer sent).subset ((List.filter_sublist.map Prod.fst).subset hin)
  refine ⟨?_, ?_⟩
  · rw [assertResponseUsers, require_eq_ok, List.all_eq_true]
    exact fun key hkey => List.contains_iff_mem.mpr (hkeys key hkey)
  · have hsourceNodup : (Json.keys source).Nodup :=
      (hsource.map Prod.fst).nodup_iff.mpr (hchunk.sublist (keys_answersOf answer chunk))
    obtain ⟨merged, hmerged, hperm⟩ := mergeRecord_eq_ok hsourceNodup fun key hkey hin =>
      hdisjoint key (hold key hin) key (hkeys key hkey) rfl
    refine ⟨merged, hmerged, hperm.trans ?_⟩
    have hsplit : assignable (answersOf answer (sent ++ chunk)) =
        assignable (answersOf answer sent) ++ assignable (answersOf answer chunk) := by
      rw [answersOf_append, assignable, List.filter_append, assignable, assignable]
    rw [hsplit]
    exact htarget.append (hsource.filter _)

/-- The same response up to the order of keys. -/
structure SameResponse (a b : QueryResponse) : Prop where
  deviceKeys : a.deviceKeys.Perm b.deviceKeys
  failures : a.failures.Perm b.failures
  masterKeys : a.masterKeys.Perm b.masterKeys
  selfSigningKeys : a.selfSigningKeys.Perm b.selfSigningKeys
  userSigningKeys : a.userSigningKeys.Perm b.userSigningKeys

/-- Two merges of the same questions hold the same answers. -/
theorem IsMerged.same {directory : Directory} {entries : JsonObject} {a b : QueryResponse}
    (ha : IsMerged directory entries a) (hb : IsMerged directory entries b) : SameResponse a b where
  deviceKeys := ha.deviceKeys.trans hb.deviceKeys.symm
  failures := by rw [ha.failures, hb.failures]
  masterKeys := ha.masterKeys.trans hb.masterKeys.symm
  selfSigningKeys := ha.selfSigningKeys.trans hb.selfSigningKeys.symm
  userSigningKeys := ha.userSigningKeys.trans hb.userSigningKeys.symm

namespace MatrixTransportCoordinator

variable {σ : Type} {C : MatrixTransportCoordinator σ} {directory : Directory}

/-- **A chunk of new users** is answered and merged. -/
theorem sendQueryChunk_eq_ok {limit : ℕ} (hanswers : Answers C.transport directory limit)
    {timeout sent chunk : JsonObject} {merged : QueryResponse} (hchunk : chunk.length ≤ limit)
    (hnodup : (Json.keys (sent ++ chunk)).Nodup) (hmerged : IsMerged directory sent merged)
    (s : σ) : ∃ merged' t, C.sendQueryChunk timeout chunk merged s = (.ok merged', t) ∧
      IsMerged directory (sent ++ chunk) merged' := by
  have hkeys : (Json.keys chunk).Nodup := by
    rw [Json.keys, List.map_append, List.nodup_append] at hnodup
    exact hnodup.2.1
  obtain ⟨reply, t, response, hreply, hparse, hanswer⟩ := hanswers timeout chunk s hchunk hkeys
  obtain ⟨hdevices, devices, hdevicesOk, hdevicesPerm⟩ :=
    merge_answer hnodup hmerged.deviceKeys hanswer.deviceKeys
  obtain ⟨hmaster, master, hmasterOk, hmasterPerm⟩ :=
    merge_answer hnodup hmerged.masterKeys hanswer.masterKeys
  obtain ⟨hself, self, hselfOk, hselfPerm⟩ :=
    merge_answer hnodup hmerged.selfSigningKeys hanswer.selfSigningKeys
  obtain ⟨huser, user, huserOk, huserPerm⟩ :=
    merge_answer hnodup hmerged.userSigningKeys hanswer.userSigningKeys
  refine ⟨⟨devices, [], master, self, user⟩, t, ?_, hdevicesPerm, hmasterPerm, hselfPerm,
    huserPerm, rfl⟩
  have hassert : assertQueryResponse response (Json.keys chunk) = .ok () := by
    simp [assertQueryResponse, hdevices, hmaster, hself, huser, hanswer.failures, require, bind,
      Except.bind]
  have hmerge : mergeQueryResponse merged response = .ok ⟨devices, [], master, self, user⟩ := by
    simp [mergeQueryResponse, hdevicesOk, hmasterOk, hselfOk, huserOk, hanswer.failures,
      hmerged.failures, mergeRecord, bind, Except.bind, pure, Except.pure]
  refine Effect.bind_eq_ok.mpr ⟨reply, t, hreply, ?_⟩
  refine Effect.bind_eq_ok.mpr ⟨response, t, check_eq_ok.mpr ⟨hparse, rfl⟩, ?_⟩
  refine Effect.bind_eq_ok.mpr ⟨(), t, check_eq_ok.mpr ⟨hassert, rfl⟩, ?_⟩
  exact check_eq_ok.mpr ⟨hmerge, rfl⟩

/-- **The loop over chunks** merges the answers to all of them. -/
theorem sendQueryChunks_eq_ok {limit : ℕ} (hanswers : Answers C.transport directory limit)
    (timeout : JsonObject) {sent : JsonObject} {rest : List JsonObject} {merged : QueryResponse}
    (hrest : ∀ chunk ∈ rest, chunk.length ≤ limit)
    (hnodup : (Json.keys (sent ++ rest.flatten)).Nodup) (hmerged : IsMerged directory sent merged)
    (s : σ) : ∃ merged' t, C.sendQueryChunks timeout rest merged s = (.ok merged', t) ∧
      IsMerged directory (sent ++ rest.flatten) merged' := by
  induction rest generalizing sent merged s with
  | nil => exact ⟨merged, s, rfl, by simpa using hmerged⟩
  | cons chunk rest ih =>
    rw [List.flatten_cons, ← List.append_assoc] at hnodup ⊢
    have hfirst : (Json.keys (sent ++ chunk)).Nodup := by
      rw [Json.keys, List.map_append, List.nodup_append] at hnodup
      exact hnodup.1
    obtain ⟨merged', t, hchunk, hmerged'⟩ := sendQueryChunk_eq_ok hanswers
      (hrest chunk List.mem_cons_self) hfirst hmerged s
    obtain ⟨merged'', u, hloop, hmerged''⟩ := ih
      (fun c hc => hrest c (List.mem_cons_of_mem _ hc)) hnodup hmerged' t
    exact ⟨merged'', u, Effect.bind_eq_ok.mpr ⟨merged', t, hchunk, hloop⟩, hmerged''⟩

/-! ## The calls of a query -/

/-- A check leaves the state as it was. -/
theorem state_check {α : Type} (x : Except ErrorCode α) :
    (check x : Client σ α).Respects (· = ·) :=
  Effect.respects_lift (fun _ => rfl) _

/-- So do two computations of which each does. -/
theorem state_bind {α β : Type} {x : Client σ α} {f : α → Client σ β}
    (hx : x.Respects (· = ·)) (hf : ∀ a, (f a).Respects (· = ·)) : (x >>= f).Respects (· = ·) :=
  hx.bind (fun _ _ _ h h' => h.trans h') hf

/-- One turn writes down one call. -/
theorem calls_sendQueryChunk {timeout chunk : JsonObject} {merged : QueryResponse} {s t : σ}
    {log log' : List Call} {x : Except ClientError QueryResponse}
    (h : C.traced.sendQueryChunk timeout chunk merged (s, log) = (x, (t, log'))) :
    log' = log ++ [.queried (queryBody timeout chunk)] := by
  obtain ⟨y, u, hquery⟩ : ∃ y u, C.traced.transport.queryKeys (queryBody timeout chunk) (s, log) =
      (y, (u, log ++ [.queried (queryBody timeout chunk)])) := ⟨_, _, rfl⟩
  unfold sendQueryChunk at h
  cases y with
  | error e =>
    rw [Effect.bind_of_error hquery] at h
    exact (Prod.mk.inj (Prod.mk.inj h).2).2.symm
  | ok reply =>
    rw [Effect.bind_of_ok hquery] at h
    have hchecks : ∀ reply, (do
        let response ← check (parseQueryResponse reply)
        check (assertQueryResponse response (Json.keys chunk))
        check (mergeQueryResponse merged response) :
        Client (σ × List Call) QueryResponse).Respects (· = ·) := fun reply =>
      state_bind (state_check _) fun _ => state_bind (state_check _) fun _ => state_check _
    exact (Prod.mk.inj (hchecks reply _ _ _ h)).2.symm

/-- **The loop sends the chunks in their order**, all of them where it succeeds. -/
theorem calls_sendQueryChunks {timeout : JsonObject} {rest : List JsonObject}
    {merged : QueryResponse} {s t : σ} {log log' : List Call}
    {x : Except ClientError QueryResponse}
    (h : C.traced.sendQueryChunks timeout rest merged (s, log) = (x, (t, log'))) :
    ∃ sent unsent, sent ++ unsent = rest ∧
      log' = log ++ sent.map (fun chunk => .queried (queryBody timeout chunk)) ∧
      ((∃ response, x = .ok response) → unsent = []) := by
  induction rest generalizing merged s log with
  | nil =>
    cases h
    exact ⟨[], [], rfl, by simp, fun _ => rfl⟩
  | cons chunk rest ih =>
    unfold sendQueryChunks at h
    obtain ⟨y, u, log₁, hchunk⟩ : ∃ y u log₁,
        C.traced.sendQueryChunk timeout chunk merged (s, log) = (y, (u, log₁)) := ⟨_, _, _, rfl⟩
    have hlog := calls_sendQueryChunk hchunk
    cases y with
    | error e =>
      rw [Effect.bind_of_error hchunk] at h
      cases h
      exact ⟨[chunk], rest, rfl, by simpa using hlog, fun ⟨_, hok⟩ => by cases hok⟩
    | ok merged' =>
      rw [Effect.bind_of_ok hchunk] at h
      obtain ⟨sent, unsent, rfl, hlog', hall⟩ := ih h
      exact ⟨chunk :: sent, unsent, rfl, by rw [hlog', hlog]; simp, hall⟩

/-! ## The law -/

/-- **What a query comes to**: the bodies that were sent ask for the entries of the request, each
once and as it was, and the merged response is that of a single query to a server without a
limit. -/
structure QueriedInChunks {τ : Type} (C : MatrixTransportCoordinator σ)
    (U : MatrixTransportCoordinator τ) (directory : Directory) (body entries : JsonObject)
    (s : σ) (u : τ) : Prop where
  users : (Json.keys entries).Nodup
  whole : (chunks maxQueryUsersPerHttpRequest entries).flatten = entries
  small : ∀ chunk ∈ chunks maxQueryUsersPerHttpRequest entries,
    chunk.length ≤ maxQueryUsersPerHttpRequest
  response : ∃ merged t single v,
    C.traced.sendKeysQuery body (s, []) = (.ok merged,
      (t, (chunks maxQueryUsersPerHttpRequest entries).map
        fun chunk => .queried (queryBody (timeoutOf body) chunk))) ∧
    U.sendQueryChunks (timeoutOf body) [entries] emptyQueryResponse u = (.ok single, v) ∧
    IsMerged directory entries merged ∧ SameResponse merged single

/-- **A chunked key query is the unchunked one.** -/
theorem key_query_chunks {τ : Type} {U : MatrixTransportCoordinator τ}
    (hserver : Answers C.transport directory maxQueryUsersPerHttpRequest)
    (hunlimited : ∀ limit, Answers U.transport directory limit) {body entries : JsonObject}
    (hbody : requestedEntries body (js "device_keys") "MATRIX_KEYS_QUERY_BODY_INVALID" =
      .ok entries)
    (hkeys : (Json.keys entries).Nodup) (s : σ) (u : τ) :
    QueriedInChunks C U directory body entries s u := by
  have hwhole := flatten_chunks (by decide : 0 < maxQueryUsersPerHttpRequest) entries
  have hsmall : ∀ chunk ∈ chunks maxQueryUsersPerHttpRequest entries,
      chunk.length ≤ maxQueryUsersPerHttpRequest := fun chunk => length_le_of_mem_chunks
  refine ⟨hkeys, hwhole, hsmall, ?_⟩
  obtain ⟨merged, t, hloop, hmerged⟩ := sendQueryChunks_eq_ok hserver (timeoutOf body)
    hsmall (by simpa [hwhole] using hkeys) (isMerged_empty directory) s
  obtain ⟨single, v, hsingle, hone⟩ := @sendQueryChunks_eq_ok _ _ _ _
    (hunlimited entries.length) (timeoutOf body) [] [entries] _ (by simp) (by simpa using hkeys)
    (isMerged_empty directory) u
  rw [List.nil_append] at hmerged hone
  rw [hwhole] at hmerged
  rw [List.flatten_singleton] at hone
  refine ⟨merged, t, single, v, ?_, hsingle, hmerged, hmerged.same hone⟩
  have htraced : ∀ p, C.traced.sendKeysQuery body p = C.traced.sendQueryChunks (timeoutOf body)
      (chunks maxQueryUsersPerHttpRequest entries) emptyQueryResponse p := fun p =>
    Effect.bind_of_ok (check_eq_ok.mpr ⟨hbody, rfl⟩)
  rw [htraced]
  obtain ⟨log, hlog⟩ := @shadows_sendQueryChunks _ C (timeoutOf body)
    (chunks maxQueryUsersPerHttpRequest entries) emptyQueryResponse s []
  rw [hloop] at hlog
  obtain ⟨sent, unsent, hsent, hcalls, hall⟩ := calls_sendQueryChunks hlog
  obtain rfl := hall ⟨merged, rfl⟩
  rw [List.append_nil] at hsent
  rw [hlog, hcalls, hsent, List.nil_append]

/-! ## A query for twenty-one users -/

/-- A server that knows an object of every user's devices, and no other keys. -/
def sampleDirectory : Directory :=
  ⟨fun _ => some (.obj []), fun _ => none, fun _ => none, fun _ => none⟩

/-- What it answers to the entries of a query. -/
def sampleAnswer (entries : JsonObject) : QueryResponse :=
  ⟨answersOf sampleDirectory.deviceKeys entries, [], [], [], []⟩

/-- A coordinator that talks to it. -/
def sampleServer : MatrixTransportCoordinator (List JsString) :=
  { sample 0 with
    transport :=
      { (sample 0).transport with
        queryKeys := fun body s =>
          (.ok (some (sampleAnswer (((Json.get? (js "device_keys") body).bind
            Json.record?).getD [])).toJson), s) } }

/-- A response is read back from its text. -/
theorem parseQueryResponse_toJson (response : QueryResponse) :
    parseQueryResponse (some response.toJson) = .ok response := by
  have hnames : js "device_keys" ≠ js "failures" ∧ js "device_keys" ≠ js "master_keys" ∧
      js "device_keys" ≠ js "self_signing_keys" ∧ js "device_keys" ≠ js "user_signing_keys" ∧
      js "failures" ≠ js "master_keys" ∧ js "failures" ≠ js "self_signing_keys" ∧
      js "failures" ≠ js "user_signing_keys" ∧ js "master_keys" ≠ js "self_signing_keys" ∧
      js "master_keys" ≠ js "user_signing_keys" ∧
      js "self_signing_keys" ≠ js "user_signing_keys" := by decide +kernel
  obtain ⟨h₁, h₂, h₃, h₄, h₅, h₆, h₇, h₈, h₉, h₀⟩ := hnames
  simp [parseQueryResponse, QueryResponse.toJson, plainRecord, Json.record?, Json.get?, orThrow,
    bind, Except.bind, pure, Except.pure, h₁, h₂, h₃, h₄, h₅, h₆, h₇, h₈, h₉, h₀]

/-- The server of the sample answers from its directory. -/
theorem sampleServer_answers (limit : ℕ) :
    Answers sampleServer.transport sampleDirectory limit := by
  intro timeout entries s _ _
  have hentries : (((Json.get? (js "device_keys") (queryBody timeout entries)).bind
      Json.record?).getD []) = entries := by simp [queryBody, Json.get?, Json.record?]
  have hnone : answersOf (fun _ => none) entries = [] := by simp [answersOf]
  refine ⟨some (sampleAnswer entries).toJson, s, sampleAnswer entries, ?_,
    parseQueryResponse_toJson _, .refl _, ?_, ?_, ?_, rfl⟩
  · change (Except.ok (some (sampleAnswer _).toJson), s) = _
    rw [hentries]
  · exact hnone ▸ .refl _
  · exact hnone ▸ .refl _
  · exact hnone ▸ .refl _

/-- Twenty-one users, with all their devices. -/
def sampleEntries : JsonObject := (List.range 21).map fun n => (js "@u" ++ [n.toUInt16], .arr [])

/-- A query that takes two requests. -/
theorem key_query_chunks_two : QueriedInChunks sampleServer sampleServer sampleDirectory
    [(js "device_keys", .obj sampleEntries)] sampleEntries [] [] :=
  key_query_chunks (sampleServer_answers _) sampleServer_answers rfl (by decide +kernel) [] []

end MatrixTransportCoordinator

end Transport

end SinoChat
