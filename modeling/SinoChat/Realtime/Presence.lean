import SinoChat.Model.ChatGateway

/-!
# Presence and timers of a socket

The release gate is compiled shut, so `handleConnection` turns every socket away:
nothing is published and no timer is started (`presence_settles`). Behind an open gate
the handlers do not look again after an `await`. `handleConnection` attaches the user
to a socket that has disconnected in the meantime, and starts timers nobody clears;
a status is published after the state it tells of has passed (`presence_stale`). Where
no step does either (`Timely`), presence settles on the truth with any gate.

The invariant (`Settles`) has one part about each socket (`Socket.Sound`), one about the
sockets that have announced themselves, and one about the last of them to go: its
handler has still to publish.
-/

namespace SinoChat

namespace ChatGateway

namespace Socket

/-- The user is attached, and the socket is still there. -/
def Attached (s : Socket) : Prop := s.connected = true ∧ s.user = true

/-- `handleConnection` is done with a socket that is still there. -/
def Announced (s : Socket) : Prop := s.connected = true ∧ s.connection = .finished

/-- `handleDisconnect` has found no other socket yet, and will publish if it finds none. -/
def Retires (s : Socket) : Prop :=
  (∃ asked, s.disconnection = .counting asked 0) ∨ s.disconnection = .publishing

/-- No handler of the socket is in progress. -/
def Quiet (s : Socket) : Prop :=
  s.connection = .finished ∧ (s.disconnection = .idle ∨ s.disconnection = .finished)

/-- What holds of each socket where nothing is attached to a disconnected one. -/
structure Sound (s : Socket) : Prop where
  timers : s.connected = false → s.revalidationTimer = false ∧ s.expiryTimer ≠ some .handleConnection
  idle : s.connected = true → s.disconnection = .idle
  finished : s.connected = true → s.connection = .finished → s.user = true
  attached : s.connection = .joining ∨ s.connection = .announcing → s.user = true
  joined : s.joined = true → s.connected = true ∧ s.user = true

end Socket

/-- Some socket of the user is connected. -/
def State.Occupied (w : State) : Prop := ∃ s ∈ w.sockets, s.Attached

/-- Some handler has still to publish that the user is offline. -/
def State.Retiring (w : State) : Prop := ∃ s ∈ w.sockets, s.Retires

/-- No handler of the user is in progress. -/
def State.Quiet (w : State) : Prop := ∀ s ∈ w.sockets, s.Quiet

/-- **A step in time.** The session is answered while its socket is connected; the user is
announced online while some socket is connected or a handler will still tell otherwise, and
offline while no connected socket has been announced; and `handleDisconnect` fails only where
some socket is left. -/
def Timely (w : State) : Action → Prop
  | .principal i (some _) => ∀ s, w.sockets[i]? = some s → s.connected = true
  | .announce _ true => w.Occupied ∨ w.Retiring
  | .retire _ true => ∀ s ∈ w.sockets, ¬ s.Announced
  | .retire _ false => w.Occupied
  | .countFails _ => w.Occupied
  | _ => True

/-- What holds while no step comes too late. -/
structure Settles (w : State) : Prop where
  sound : ∀ s ∈ w.sockets, s.Sound
  online : ∀ s ∈ w.sockets, s.Announced → w.published = some .online
  offline : w.published = some .online → w.Occupied ∨ w.Retiring

/-! ## One socket changes -/

/-- What every change of a socket keeps, a count or a publication apart. -/
structure Socket.Moves (s s' : Socket) : Prop where
  sound : s'.Sound
  attached : s.Attached → s'.Attached ∨ s'.Retires
  retires : s.Retires → s'.Retires
  announced : s'.Announced → s.Announced

theorem mem_set_self {l : List Socket} {i : ℕ} {s s' : Socket} (h : l[i]? = some s) :
    s' ∈ l.set i s' := by
  obtain ⟨hlt, -⟩ := List.getElem?_eq_some_iff.mp h
  exact List.mem_iff_getElem.mpr ⟨i, by simpa using hlt, by simp⟩

/-- A socket other than the changed one is still there. -/
theorem mem_set_or_eq {l : List Socket} {i : ℕ} {s s' t : Socket} (h : l[i]? = some s)
    (ht : t ∈ l) : t ∈ l.set i s' ∨ t = s := by
  obtain ⟨j, hj, rfl⟩ := List.mem_iff_getElem.mp ht
  rcases eq_or_ne i j with rfl | hne
  · rw [List.getElem?_eq_getElem hj] at h
    exact .inr (Option.some.inj h)
  · exact .inl (List.mem_iff_getElem.mpr ⟨j, by simpa using hj, by simp [hne]⟩)

variable {release : ReleaseState} {servers : ℕ} {w w' : State} {i : ℕ} {s s' : Socket}

theorem modify_eq_some {f : Socket → Option Socket} : w.modify i f = some w' ↔
    ∃ s s', w.sockets[i]? = some s ∧ f s = some s' ∧
      w' = { w with sockets := w.sockets.set i s' } := by
  rw [State.modify]
  simp only [Option.bind_eq_bind, Option.bind_eq_some_iff, Option.pure_def, Option.some.injEq]
  constructor
  · rintro ⟨s, hs, s', hs', rfl⟩
    exact ⟨s, s', hs, hs', rfl⟩
  · rintro ⟨s, s', hs, hs', rfl⟩
    exact ⟨s, hs, s', hs', rfl⟩

theorem when_eq_some {condition : Socket → Bool} {f : Socket → Socket} :
    when condition f s = some s' ↔ condition s = true ∧ f s = s' := by
  rw [when]
  split_ifs with h
  · simp [h]
  · simp [h]

/-- The sockets that are there, or about to tell that none is, after one of them changed. -/
theorem covered_set (h : w.sockets[i]? = some s) (hattached : s.Attached → s'.Attached ∨ s'.Retires)
    (hretires : s.Retires → s'.Retires ∨ w.Occupied) (hcovered : w.Occupied ∨ w.Retiring) :
    State.Occupied { w with sockets := w.sockets.set i s' } ∨
      State.Retiring { w with sockets := w.sockets.set i s' } := by
  have hself : s' ∈ w.sockets.set i s' := mem_set_self h
  have hoccupied : w.Occupied → State.Occupied { w with sockets := w.sockets.set i s' } ∨
      State.Retiring { w with sockets := w.sockets.set i s' } := by
    rintro ⟨t, ht, hta⟩
    rcases mem_set_or_eq h ht with ht | rfl
    · exact .inl ⟨t, ht, hta⟩
    · exact (hattached hta).imp (fun ha => ⟨s', hself, ha⟩) fun hr => ⟨s', hself, hr⟩
  rcases hcovered with hoccupant | ⟨t, ht, htr⟩
  · exact hoccupied hoccupant
  · rcases mem_set_or_eq h ht with ht | rfl
    · exact .inr ⟨t, ht, htr⟩
    · rcases hretires htr with hr | hoccupant
      · exact .inr ⟨s', hself, hr⟩
      · exact hoccupied hoccupant

theorem mem_of_mem_set {l : List Socket} {t : Socket} (ht : t ∈ l.set i s') : t ∈ l ∨ t = s' :=
  List.mem_or_eq_of_mem_set ht

/-- **The frame rule.** Where one socket moves and nothing is published, the rest goes on. -/
theorem Settles.move (h : Settles w) (hs : w.sockets[i]? = some s) (hmoves : s.Moves s') :
    Settles { w with sockets := w.sockets.set i s' } := by
  have hmem : s ∈ w.sockets := List.mem_of_getElem? hs
  refine ⟨?_, ?_, ?_⟩
  · intro t ht
    rcases mem_of_mem_set ht with ht | rfl
    · exact h.sound t ht
    · exact hmoves.sound
  · intro t ht hannounced
    rcases mem_of_mem_set ht with ht | rfl
    · exact h.online t ht hannounced
    · exact h.online s hmem (hmoves.announced hannounced)
  · intro hpublished
    exact covered_set hs hmoves.attached (fun hr => .inl (hmoves.retires hr)) (h.offline hpublished)

/-! ## What a handler does to its socket -/

namespace Socket

theorem Moves.refl (h : s.Sound) : s.Moves s := ⟨h, .inl, id, id⟩

theorem Moves.trans {s'' : Socket} (h : s.Moves s') (h' : s'.Moves s'') : s.Moves s'' where
  sound := h'.sound
  attached ha := by
    rcases h.attached ha with ha | hr
    · exact h'.attached ha
    · exact .inr (h'.retires hr)
  retires hr := h'.retires (h.retires hr)
  announced ha := h.announced (h'.announced ha)

/-- A socket that leaves retires the user it was attached to. -/
theorem Sound.disconnect (h : s.Sound) : s.Moves (s.disconnect servers) := by
  rw [Socket.disconnect]
  split_ifs with hconnected
  · have hidle := h.idle hconnected
    refine ⟨⟨fun _ => ⟨rfl, nofun⟩, nofun, nofun, h.attached, nofun⟩, ?_, ?_, nofun⟩
    · rintro ⟨-, huser⟩
      refine .inr (.inl ⟨List.range servers, ?_⟩)
      rw [handleDisconnect, if_pos huser]
    · rintro (⟨asked, hcounting⟩ | hpublishing)
      · rw [hidle] at hcounting
        cases hcounting
      · rw [hidle] at hpublishing
        cases hpublishing
  · exact Moves.refl h

theorem disconnect_connected : (s.disconnect servers).connected = false := by
  rw [Socket.disconnect]
  split_ifs with hconnected
  · rfl
  · exact Bool.eq_false_of_not_eq_true hconnected

theorem disconnect_user : (s.disconnect servers).user = s.user := by
  rw [Socket.disconnect]
  split_ifs <;> rfl

/-- `handleConnection` goes on to another `await`, or ends with its socket gone. -/
theorem Sound.moveTo (h : s.Sound) {c : Connection}
    (huser : c = .joining ∨ c = .announcing → s.user = true)
    (hfinished : c = .finished → s.connected = false) : s.Moves { s with connection := c } where
  sound := ⟨h.timers, h.idle, fun hconnected hc => absurd hconnected (by simp [hfinished hc]), huser,
    h.joined⟩
  attached := .inl
  retires := id
  announced := by
    rintro ⟨hconnected, hc⟩
    rw [hfinished hc] at hconnected
    cases hconnected

theorem Sound.reject (h : s.Sound) : s.Moves (s.reject servers) :=
  h.disconnect.trans (h.disconnect.sound.moveTo (by rintro (hc | hc) <;> cases hc)
    fun _ => disconnect_connected)

/-- An expiry timer of `handleConnection` needs a socket that is there. -/
theorem Sound.scheduleExpiry (h : s.Sound) {scheduler : Scheduler} {remaining : ℤ}
    (hthere : scheduler = .handleConnection → s.connected = true) :
    s.Moves (s.scheduleExpiry servers scheduler remaining) := by
  have hset : ∀ timer, (s.connected = false → timer ≠ some .handleConnection) →
      s.Moves { s with expiryTimer := timer } := fun timer htimer =>
    ⟨⟨fun hgone => ⟨(h.timers hgone).1, htimer hgone⟩, h.idle, h.finished, h.attached, h.joined⟩,
      .inl, id, id⟩
  rw [Socket.scheduleExpiry]
  split_ifs
  · exact (hset none nofun).trans (hset none nofun).sound.disconnect
  · refine hset (some scheduler) fun hgone hsome => ?_
    rw [hthere (Option.some.inj hsome)] at hgone
    cases hgone

theorem Sound.limited (h : s.Sound) {isBlocked : Bool} : s.Moves (s.limited servers isBlocked) := by
  cases isBlocked with
  | true => exact h.reject
  | false => exact h.moveTo (by rintro (hc | hc) <;> cases hc) nofun

theorem scheduleExpiry_user {scheduler : Scheduler} {remaining : ℤ} :
    (s.scheduleExpiry servers scheduler remaining).user = s.user := by
  rw [Socket.scheduleExpiry]
  split_ifs
  · exact disconnect_user
  · rfl

/-- The session is answered in time. -/
theorem Sound.authenticated (h : s.Sound) {principal : Option ℤ} (hthere : principal.isSome → s.connected = true) :
    s.Moves (s.authenticated servers principal) := by
  cases principal with
  | none => exact h.reject
  | some remaining =>
    have hconnected := hthere rfl
    have hattach : s.Moves { s with user := true, revalidationTimer := true } := by
      refine ⟨⟨?_, h.idle, fun _ _ => rfl, fun _ => rfl, fun hjoined => ⟨hconnected, rfl⟩⟩,
        fun _ => .inl ⟨hconnected, rfl⟩, id, id⟩
      intro hgone
      rw [hconnected] at hgone
      cases hgone
    have hschedule : Moves _ (Socket.scheduleExpiry servers .handleConnection remaining
        { s with user := true, revalidationTimer := true }) :=
      hattach.sound.scheduleExpiry fun _ => hconnected
    exact hattach.trans (hschedule.trans (hschedule.sound.moveTo
      (fun _ => scheduleExpiry_user) nofun))

theorem Sound.join (h : s.Sound) (hwaits : s.connection = .joining) {succeeds : Bool} :
    s.Moves (s.join servers succeeds) := by
  cases succeeds with
  | false => exact h.reject
  | true =>
    have huser := h.attached (.inl hwaits)
    exact ⟨⟨h.timers, h.idle, nofun, fun _ => huser, fun hjoined => ⟨hjoined, huser⟩⟩, .inl, id, nofun⟩

theorem Sound.revalidate (h : s.Sound) : s.Moves s.revalidate := by
  rw [Socket.revalidate]
  split_ifs
  · exact ⟨⟨h.timers, h.idle, h.finished, h.attached, h.joined⟩, .inl, id, id⟩
  · exact Moves.refl h

theorem Sound.revalidated (h : s.Sound) {refreshed : Option ℤ} :
    s.Moves (s.revalidated servers refreshed) := by
  have hless : s.Moves { s with revalidations := s.revalidations - 1 } :=
    ⟨⟨h.timers, h.idle, h.finished, h.attached, h.joined⟩, .inl, id, id⟩
  cases refreshed with
  | none => exact hless.trans hless.sound.disconnect
  | some remaining => exact hless.trans (hless.sound.scheduleExpiry nofun)

/-- Where `handleDisconnect` is does not matter to a socket that is gone. -/
theorem Sound.setDisconnection (h : s.Sound) (hgone : s.connected = false) (d : Disconnection) :
    Sound { s with disconnection := d } :=
  ⟨h.timers, fun hconnected => absurd hconnected (by simp [hgone]), h.finished, h.attached, h.joined⟩

/-- A handler runs for a socket that is gone. -/
theorem Sound.gone (h : s.Sound) (hbusy : s.disconnection ≠ .idle) : s.connected = false := by
  by_contra hconnected
  exact hbusy (h.idle (by simpa using hconnected))

end Socket

/-! ## Every step -/

/-- A new socket is turned away, or the gate is open and it waits for the rate limits. -/
theorem handleConnection_cases {server : ℕ} {refused : Bool} :
    Socket.handleConnection release server refused = .turnedAway server ∨
      release = .ready ∧ Socket.handleConnection release server refused =
        { Socket.turnedAway server with
          connected := true
          connection := .limiting
          disconnection := .idle } := by
  cases release with
  | blocked => exact .inl rfl
  | ready =>
    cases refused with
    | true => exact .inl rfl
    | false => exact .inr ⟨rfl, rfl⟩

theorem Settles.connect (h : Settles w) {server : ℕ} {refused : Bool} :
    Settles { w with sockets := w.sockets ++ [.handleConnection release server refused] } := by
  have hnew : ∀ t ∈ w.sockets ++ [Socket.handleConnection release server refused], t ∈ w.sockets ∨
      t = .handleConnection release server refused := by
    intro t ht
    simpa using ht
  have hold : ∀ t ∈ w.sockets, t ∈ w.sockets ++ [Socket.handleConnection release server refused] :=
    fun t ht => List.mem_append_left _ ht
  refine ⟨?_, ?_, ?_⟩
  · intro t ht
    rcases hnew t ht with ht | rfl
    · exact h.sound t ht
    · rcases @handleConnection_cases release server refused with haway | ⟨-, hwaits⟩
      · rw [haway]
        exact ⟨fun _ => ⟨rfl, nofun⟩, nofun, nofun, (by rintro (hc | hc) <;> cases hc), nofun⟩
      · rw [hwaits]
        exact ⟨nofun, fun _ => rfl, nofun, (by rintro (hc | hc) <;> cases hc), nofun⟩
  · intro t ht hannounced
    rcases hnew t ht with ht | rfl
    · exact h.online t ht hannounced
    · obtain ⟨hconnected, hfinished⟩ := hannounced
      rcases @handleConnection_cases release server refused with haway | ⟨-, hwaits⟩
      · rw [haway] at hconnected
        cases hconnected
      · rw [hwaits] at hfinished
        cases hfinished
  · intro hpublished
    rcases h.offline hpublished with ⟨t, ht, ha⟩ | ⟨t, ht, hr⟩
    · exact .inl ⟨t, hold t ht, ha⟩
    · exact .inr ⟨t, hold t ht, hr⟩

/-- A handler of a disconnection goes on, and where it will not publish some socket is there. -/
theorem Settles.setDisconnection (h : Settles w) (hs : w.sockets[i]? = some s) {d : Disconnection}
    (hbusy : s.disconnection ≠ .idle)
    (hretires : s.Retires → Socket.Retires { s with disconnection := d } ∨ w.Occupied) :
    Settles { w with sockets := w.sockets.set i { s with disconnection := d } } := by
  have hmem : s ∈ w.sockets := List.mem_of_getElem? hs
  have hgone := (h.sound s hmem).gone hbusy
  refine ⟨?_, ?_, ?_⟩
  · intro t ht
    rcases mem_of_mem_set ht with ht | rfl
    · exact h.sound t ht
    · exact (h.sound s hmem).setDisconnection hgone d
  · intro t ht hannounced
    rcases mem_of_mem_set ht with ht | rfl
    · exact h.online t ht hannounced
    · exact h.online s hmem hannounced
  · exact fun hpublished => covered_set hs .inl hretires (h.offline hpublished)

/-- Sockets in the room of the user are connected. -/
theorem Settles.occupied_of_roomSize (h : Settles w) {server : ℕ} (hsize : w.roomSize server ≠ 0) :
    w.Occupied := by
  rw [State.roomSize] at hsize
  obtain ⟨t, ht, hin⟩ := List.countP_pos_iff.mp (Nat.pos_of_ne_zero hsize)
  simp only [Bool.and_eq_true] at hin
  exact ⟨t, ht, (h.sound t ht).joined hin.1.2⟩

theorem Settles.answer (h : Settles w) (hs : w.sockets[i]? = some s) {server : ℕ}
    (hanswer : s.answered server (w.roomSize server) = some s') :
    Settles { w with sockets := w.sockets.set i s' } := by
  rw [Socket.answered] at hanswer
  split at hanswer
  case h_1 asked found hcounting =>
    split_ifs at hanswer with hasked
    obtain rfl := Option.some.inj hanswer
    refine h.setDisconnection hs (by rw [hcounting]; nofun) ?_
    rintro (⟨asked', hzero⟩ | hpublishing)
    · rw [hcounting] at hzero
      obtain ⟨-, rfl⟩ := Disconnection.counting.inj hzero
      by_cases hsize : w.roomSize server = 0
      · exact .inl (.inl ⟨_, by rw [hsize]⟩)
      · exact .inr (h.occupied_of_roomSize hsize)
    · rw [hcounting] at hpublishing
      cases hpublishing
  case h_2 => cases hanswer

theorem Settles.count (h : Settles w) (hs : w.sockets[i]? = some s) (hcount : s.counted = some s') :
    Settles { w with sockets := w.sockets.set i s' } := by
  rw [Socket.counted] at hcount
  split at hcount
  case h_1 found hcounting =>
    obtain rfl := Option.some.inj hcount
    refine h.setDisconnection hs (by rw [hcounting]; nofun) ?_
    rintro (⟨asked, hzero⟩ | hpublishing)
    · rw [hcounting] at hzero
      obtain ⟨-, rfl⟩ := Disconnection.counting.inj hzero
      exact .inl (.inr rfl)
    · rw [hcounting] at hpublishing
      cases hpublishing
  case h_2 => cases hcount

theorem Settles.fail (h : Settles w) (hs : w.sockets[i]? = some s)
    (hbusy : s.disconnection ≠ .idle) (hoccupied : w.Occupied) :
    Settles { w with sockets := w.sockets.set i { s with disconnection := .finished } } :=
  h.setDisconnection hs hbusy fun _ => .inr hoccupied

/-- **An announcement in time.** -/
theorem Settles.announce (h : Settles w) (hs : w.sockets[i]? = some s)
    (hwaits : s.connection = .announcing) (htimely : w.Occupied ∨ w.Retiring) :
    Settles { w with
      sockets := w.sockets.set i { s with connection := .finished }, published := some .online } := by
  have hmem : s ∈ w.sockets := List.mem_of_getElem? hs
  have hsound := h.sound s hmem
  refine ⟨?_, fun _ _ _ => rfl, fun _ => covered_set (w := w) hs .inl .inl htimely⟩
  intro t ht
  rcases mem_of_mem_set ht with ht | rfl
  · exact h.sound t ht
  · have huser := hsound.attached (.inr hwaits)
    exact ⟨hsound.timers, hsound.idle, fun _ _ => huser, fun _ => huser, hsound.joined⟩

theorem Settles.retire (h : Settles w) (hs : w.sockets[i]? = some s)
    (hbusy : s.disconnection = .publishing) (htimely : ∀ s ∈ w.sockets, ¬ s.Announced) :
    Settles { w with
      sockets := w.sockets.set i { s with disconnection := .finished },
      published := some .offline } := by
  have hmem : s ∈ w.sockets := List.mem_of_getElem? hs
  have hgone := (h.sound s hmem).gone (by rw [hbusy]; nofun)
  refine ⟨?_, ?_, nofun⟩
  · intro t ht
    rcases mem_of_mem_set ht with ht | rfl
    · exact h.sound t ht
    · exact (h.sound s hmem).setDisconnection hgone .finished
  · intro t ht hannounced
    rcases mem_of_mem_set ht with ht | rfl
    · exact absurd hannounced (htimely t ht)
    · exact absurd hannounced (htimely s hmem)

/-- **The step.** What settles goes on settling while the steps are in time. -/
theorem Settles.step (h : Settles w) {action : Action}
    (hstep : w.step release servers action = some w') (htimely : Timely w action) : Settles w' := by
  have hsound : ∀ {i : ℕ} {s : Socket}, w.sockets[i]? = some s → s.Sound := fun hs =>
    h.sound _ (List.mem_of_getElem? hs)
  cases action with
  | connect server refused =>
    rw [State.step] at hstep
    split_ifs at hstep
    obtain rfl := Option.some.inj hstep
    exact h.connect
  | close i =>
    obtain ⟨s, s', hs, hdo, rfl⟩ := modify_eq_some.mp hstep
    obtain ⟨-, rfl⟩ := when_eq_some.mp hdo
    exact h.move hs (hsound hs).disconnect
  | limits i isBlocked =>
    obtain ⟨s, s', hs, hdo, rfl⟩ := modify_eq_some.mp hstep
    obtain ⟨-, rfl⟩ := when_eq_some.mp hdo
    exact h.move hs (hsound hs).limited
  -- A session may have ended between the connection and its check.
  | principal i principal =>
    obtain ⟨s, s', hs, hdo, rfl⟩ := modify_eq_some.mp hstep
    obtain ⟨-, rfl⟩ := when_eq_some.mp hdo
    refine h.move hs ((hsound hs).authenticated fun hsome => ?_)
    cases principal with
    | none => cases hsome
    | some remaining => exact htimely s hs
  | join i succeeds =>
    obtain ⟨s, s', hs, hdo, rfl⟩ := modify_eq_some.mp hstep
    obtain ⟨hwaits, rfl⟩ := when_eq_some.mp hdo
    exact h.move hs ((hsound hs).join (by simpa using hwaits))
  -- The announcement is the step that makes a user present.
  | announce i succeeds =>
    obtain ⟨v, hmodify, hpublish⟩ := Option.bind_eq_some_iff.mp hstep
    obtain ⟨s, s', hs, hdo, rfl⟩ := modify_eq_some.mp hmodify
    obtain ⟨hwaits, rfl⟩ := when_eq_some.mp hdo
    obtain rfl := Option.some.inj hpublish
    cases succeeds with
    | true => exact h.announce hs (by simpa using hwaits) htimely
    | false => exact h.move hs (hsound hs).reject
  | answer i server =>
    obtain ⟨s, s', hs, hdo, rfl⟩ := modify_eq_some.mp hstep
    exact h.answer hs hdo
  | count i =>
    obtain ⟨s, s', hs, hdo, rfl⟩ := modify_eq_some.mp hstep
    exact h.count hs hdo
  | countFails i =>
    obtain ⟨s, s', hs, hdo, rfl⟩ := modify_eq_some.mp hstep
    obtain ⟨hcounting, rfl⟩ := when_eq_some.mp hdo
    refine h.fail hs (fun hidle => ?_) htimely
    rw [Socket.isCounting, hidle] at hcounting
    cases hcounting
  -- The last connection of a user retires, which makes the user absent.
  | retire i succeeds =>
    obtain ⟨v, hmodify, hpublish⟩ := Option.bind_eq_some_iff.mp hstep
    obtain ⟨s, s', hs, hdo, rfl⟩ := modify_eq_some.mp hmodify
    obtain ⟨hbusy, rfl⟩ := when_eq_some.mp hdo
    obtain rfl := Option.some.inj hpublish
    have hpublishing : s.disconnection = .publishing := by simpa using hbusy
    cases succeeds with
    | true => exact h.retire hs hpublishing htimely
    | false => exact h.fail hs (by rw [hpublishing]; nofun) htimely
  | tick i =>
    obtain ⟨s, s', hs, hdo, rfl⟩ := modify_eq_some.mp hstep
    obtain rfl := Option.some.inj hdo
    exact h.move hs (hsound hs).revalidate
  -- A timer that has fired is cleared before the session is checked.
  | expire i =>
    obtain ⟨s, s', hs, hdo, rfl⟩ := modify_eq_some.mp hstep
    obtain ⟨-, rfl⟩ := when_eq_some.mp hdo
    have hfired : s.Moves { s with expiryTimer := none } :=
      ⟨⟨fun hgone => ⟨((hsound hs).timers hgone).1, nofun⟩, (hsound hs).idle, (hsound hs).finished,
        (hsound hs).attached, (hsound hs).joined⟩, .inl, id, id⟩
    exact h.move hs (hfired.trans hfired.sound.revalidate)
  | revalidate i refreshed =>
    obtain ⟨s, s', hs, hdo, rfl⟩ := modify_eq_some.mp hstep
    obtain ⟨-, rfl⟩ := when_eq_some.mp hdo
    exact h.move hs (hsound hs).revalidated

theorem settles_start : Settles .start := ⟨nofun, nofun, nofun⟩

/-- **Over a run.** -/
theorem settles_of_run {trace : List Action}
    (h : ((gateway release servers).guarded Timely).Run trace w) : Settles w :=
  h.stateInvariant (fun _ hinit => hinit ▸ settles_start)
    fun _ _ _ hsettles hstep => hsettles.step hstep.1 hstep.2

/-- **Presence tells the truth**: while no handler is in progress the last status published is
online exactly when some socket is connected, and no timer that `handleConnection` started is left
to a socket that has disconnected. -/
structure State.Settled (w : State) : Prop where
  presence : w.Quiet → ∀ status, w.published = some status →
    (status = .online ↔ ∃ s ∈ w.sockets, s.connected = true)
  timers : ∀ s ∈ w.sockets, s.connected = false →
    s.revalidationTimer = false ∧ s.expiryTimer ≠ some .handleConnection

theorem Settles.settled (h : Settles w) : w.Settled := by
  refine ⟨?_, fun s hs hgone => (h.sound s hs).timers hgone⟩
  intro hquiet status hpublished
  constructor
  · rintro rfl
    rcases h.offline hpublished with ⟨s, hs, hconnected, -⟩ | ⟨s, hs, hretires⟩
    · exact ⟨s, hs, hconnected⟩
    · obtain ⟨-, hdone⟩ := hquiet s hs
      rcases hretires with ⟨asked, hcounting⟩ | hpublishing
      · rw [hcounting] at hdone
        rcases hdone with hdone | hdone <;> cases hdone
      · rw [hpublishing] at hdone
        rcases hdone with hdone | hdone <;> cases hdone
  · rintro ⟨s, hs, hconnected⟩
    have honline := h.online s hs ⟨hconnected, (hquiet s hs).1⟩
    rw [hpublished] at honline
    exact Option.some.inj honline

/-! ## Behind the gate that is compiled -/

/-- Every socket has been turned away. -/
def State.Shut (w : State) : Prop := ∀ s ∈ w.sockets, ∃ server, s = .turnedAway server

/-- A socket that was turned away takes no step that changes it. -/
theorem Shut.unchanged (h : w.Shut) {condition : Socket → Bool} {f : Socket → Socket}
    (hcondition : ∀ server, condition (.turnedAway server) = false) :
    w.modify i (when condition f) = none := by
  cases hmodify : w.modify i (when condition f) with
  | none => rfl
  | some w' =>
    obtain ⟨s, s', hs, hdo, -⟩ := modify_eq_some.mp hmodify
    obtain ⟨server, rfl⟩ := h s (List.mem_of_getElem? hs)
    obtain ⟨hholds, -⟩ := when_eq_some.mp hdo
    rw [hcondition server] at hholds
    cases hholds

/-- **Behind the shut gate every step is in time**, and every socket is turned away. -/
theorem Shut.step (h : w.Shut) {action : Action}
    (hstep : w.step e2eeRelease servers action = some w') : w'.Shut ∧ Timely w action := by
  cases action with
  | connect server refused =>
    rw [State.step] at hstep
    split_ifs at hstep
    obtain rfl := Option.some.inj hstep
    refine ⟨fun s hs => ?_, trivial⟩
    rcases List.mem_append.mp hs with hs | hs
    · exact h s hs
    · exact ⟨server, List.mem_singleton.mp hs⟩
  | close i =>
    rw [State.step, Shut.unchanged h fun _ => rfl] at hstep
    cases hstep
  | limits i isBlocked =>
    rw [State.step, Shut.unchanged h fun _ => rfl] at hstep
    cases hstep
  | principal i principal =>
    rw [State.step, Shut.unchanged h fun _ => rfl] at hstep
    cases hstep
  | join i succeeds =>
    rw [State.step, Shut.unchanged h fun _ => rfl] at hstep
    cases hstep
  | announce i succeeds =>
    rw [State.step, Shut.unchanged h fun _ => rfl] at hstep
    cases hstep
  | answer i server =>
    obtain ⟨s, s', hs, hdo, -⟩ := modify_eq_some.mp hstep
    obtain ⟨server', rfl⟩ := h s (List.mem_of_getElem? hs)
    cases hdo
  | count i =>
    obtain ⟨s, s', hs, hdo, -⟩ := modify_eq_some.mp hstep
    obtain ⟨server, rfl⟩ := h s (List.mem_of_getElem? hs)
    cases hdo
  | countFails i =>
    rw [State.step, Shut.unchanged h fun _ => rfl] at hstep
    cases hstep
  | retire i succeeds =>
    rw [State.step, Shut.unchanged h fun _ => rfl] at hstep
    cases hstep
  | tick i =>
    obtain ⟨s, s', hs, hdo, rfl⟩ := modify_eq_some.mp hstep
    obtain ⟨server, rfl⟩ := h s (List.mem_of_getElem? hs)
    obtain rfl := Option.some.inj hdo
    refine ⟨fun t ht => ?_, trivial⟩
    rcases mem_of_mem_set ht with ht | rfl
    · exact h t ht
    · exact ⟨server, rfl⟩
  | expire i =>
    rw [State.step, Shut.unchanged h fun _ => rfl] at hstep
    cases hstep
  | revalidate i refreshed =>
    rw [State.step, Shut.unchanged h fun _ => rfl] at hstep
    cases hstep

theorem timely_of_shut {trace : List Action} (h : (gateway e2eeRelease servers).Run trace w) :
    ((gateway e2eeRelease servers).guarded Timely).Run trace w ∧ w.Shut := by
  refine h.invariant (I := fun trace w =>
    ((gateway e2eeRelease servers).guarded Timely).Run trace w ∧ w.Shut) (fun w hw => ?_) ?_
  · obtain rfl : w = .start := hw
    exact ⟨.init rfl, nofun⟩
  · rintro trace w action w' - ⟨hrun, hshut⟩ hstep
    obtain ⟨hshut', htimely⟩ := Shut.step hshut hstep
    exact ⟨hrun.step ⟨hstep, htimely⟩, hshut'⟩

/-- **Presence settles on the truth** in every run behind the gate that is compiled, and in every
run behind any gate whose steps are in time. -/
theorem presence_settles (servers : ℕ) :
    (∀ trace w, (gateway e2eeRelease servers).Run trace w → w.Settled) ∧
    ∀ release trace w, ((gateway release servers).guarded Timely).Run trace w → w.Settled :=
  ⟨fun _ _ h => (settles_of_run (timely_of_shut h).1).settled,
    fun _ _ _ h => (settles_of_run h).settled⟩

/-! ## Runs -/

instance : DecidablePred Socket.Quiet := fun _ => inferInstanceAs (Decidable (_ ∧ (_ ∨ _)))

instance : DecidablePred State.Quiet := fun w =>
  inferInstanceAs (Decidable (∀ s ∈ w.sockets, s.Quiet))

namespace Sample

/-- A socket connects and leaves, and each handler goes on in time. -/
def visit : List Action :=
  [.connect 0 false, .limits 0 false, .principal 0 (some 60000), .join 0 true, .announce 0 true,
    .close 0, .answer 0 0, .count 0, .retire 0 true]

/-- The socket disconnects while the session is looked up. -/
def tooEarly : List Action :=
  [.connect 0 false, .limits 0 false, .close 0, .principal 0 (some 60000), .join 0 true,
    .announce 0 true]

/-- A second socket connects after the first has been counted as the last. -/
def overtaken : List Action :=
  [.connect 0 false, .limits 0 false, .principal 0 (some 60000), .join 0 true, .announce 0 true,
    .close 0, .answer 0 0, .count 0, .connect 0 false, .limits 1 false,
    .principal 1 (some 60000), .join 1 true, .announce 1 true, .retire 0 true]

/-- A step of one server whose gate is open. -/
def exec (action : Action) (w : State) : Option (Action × State) :=
  (w.step .ready 1 action).map fun w' => (action, w')

theorem step_of_exec (action : Action) (w : State) (a : Action) (w' : State)
    (h : exec action w = some (a, w')) : (gateway .ready 1).step w a w' := by
  obtain ⟨v, hv, hpair⟩ := Option.map_eq_some_iff.mp h
  cases hpair
  exact hv

/-- **Behind an open gate what is published can be wrong for good, and timers are left.** -/
theorem presence_stale :
    (∃ trace w, (gateway .ready 1).Run trace w ∧ w.Quiet ∧ w.published = some .online ∧
      (∀ s ∈ w.sockets, s.connected = false) ∧
      ∃ s ∈ w.sockets, s.revalidationTimer = true ∧ s.expiryTimer = some .handleConnection) ∧
    ∃ trace w, (gateway .ready 1).Run trace w ∧ w.Quiet ∧ w.published = some .offline ∧
      ∃ s ∈ w.sockets, s.connected = true := by
  constructor
  · obtain ⟨trace, w, hrun, hcheck⟩ := Machine.exists_run_of_perform step_of_exec
      (s := .start) rfl tooEarly (fun _ w => decide (w.Quiet ∧ w.published = some .online ∧
        (∀ s ∈ w.sockets, s.connected = false) ∧
        ∃ s ∈ w.sockets, s.revalidationTimer = true ∧ s.expiryTimer = some .handleConnection))
      (by decide +kernel)
    exact ⟨trace, w, hrun, of_decide_eq_true hcheck⟩
  · obtain ⟨trace, w, hrun, hcheck⟩ := Machine.exists_run_of_perform step_of_exec
      (s := .start) rfl overtaken (fun _ w => decide (w.Quiet ∧ w.published = some .offline ∧
        ∃ s ∈ w.sockets, s.connected = true)) (by decide +kernel)
    exact ⟨trace, w, hrun, of_decide_eq_true hcheck⟩

/-- The visit behind the gate that is compiled ends where it begins. Behind an open one it is a run
in time, so that the user is offline at its end, and no timer is left. -/
theorem presence_settles_visit :
    (∃ w : State, (gateway e2eeRelease 1).Run [.tick 0, .connect 0 false] w ∧
      w.published = none ∧ w.Settled) ∧
    ∃ w : State, ((gateway .ready 1).guarded Timely).Run visit.reverse w ∧
      w.published = some .offline ∧ ¬ (∃ s ∈ w.sockets, s.connected = true) ∧
      ∀ s ∈ w.sockets, s.connected = false →
        s.revalidationTimer = false ∧ s.expiryTimer ≠ some .handleConnection := by
  constructor
  · have hstep : State.start.step e2eeRelease 1 (.connect 0 false) =
        some ⟨[.turnedAway 0], none⟩ := rfl
    have hticks : State.step e2eeRelease 1 ⟨[.turnedAway 0], none⟩ (.tick 0) =
        some ⟨[.turnedAway 0], none⟩ := rfl
    have hstart : (gateway e2eeRelease 1).Run [] .start := .init rfl
    have haway : (gateway e2eeRelease 1).Run [.connect 0 false] ⟨[.turnedAway 0], none⟩ :=
      hstart.step hstep
    have htick : (gateway e2eeRelease 1).Run [.tick 0, .connect 0 false] ⟨[.turnedAway 0], none⟩ :=
      haway.step hticks
    exact ⟨_, htick, rfl, (presence_settles 1).1 _ _ htick⟩
  · have take : ∀ {trace : List Action} {w w' : State} (a : Action),
        ((gateway .ready 1).guarded Timely).Run trace w → w.step .ready 1 a = some w' →
          Timely w a → ((gateway .ready 1).guarded Timely).Run (a :: trace) w' :=
      fun a hrun hstep htimely => hrun.step ⟨hstep, htimely⟩
    have hconnect := take (.connect 0 false) (.init rfl) rfl trivial
    have hlimits := take (.limits 0 false) hconnect rfl trivial
    have hprincipal := take (.principal 0 (some 60000)) hlimits rfl fun s hs => by
      obtain rfl := Option.some.inj hs
      rfl
    have hjoin := take (.join 0 true) hprincipal rfl trivial
    have hannounce := take (.announce 0 true) hjoin rfl
      (.inl ⟨_, List.mem_cons_self, rfl, rfl⟩)
    have hclose := take (.close 0) hannounce rfl trivial
    have hanswer := take (.answer 0 0) hclose rfl trivial
    have hcount := take (.count 0) hanswer rfl trivial
    have hretire := take (.retire 0 true) hcount rfl fun s hs hannounced => by
      obtain rfl := List.mem_singleton.mp hs
      cases hannounced.1
    obtain ⟨hpresence, htimers⟩ := (presence_settles 1).2 .ready _ _ hretire
    refine ⟨_, hretire, rfl, ?_, htimers⟩
    intro hconnected
    have honline := (hpresence (by decide) .offline rfl).mpr hconnected
    cases honline

end Sample

end ChatGateway

end SinoChat
