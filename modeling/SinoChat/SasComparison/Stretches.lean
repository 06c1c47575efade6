import SinoChat.Model.SasComparison

/-!
# What a stretch of an operation can do

A stretch reads the SAS object and then at most answers, raises, sends one request
or confirms (`StretchCase`); that of `close` frees the object.
-/

namespace SinoChat

open Js

namespace SasComparison

variable {comparison : Comparison}

/-! ## The view -/

/-- Getters are read, and the flow may be cancelled. -/
def SasEffect.quiet : SasEffect → Bool
  | .query | .decimals _ | .cancelWithCode _ => true
  | _ => false

/-- Only quiet effects, and none of a closed controller. -/
structure Quiet (c : Controller) (effects : List SasEffect) : Prop where
  quiet : ∀ effect ∈ effects, effect.quiet = true
  closed : c.terminal = some .closed → effects = []

/-- What a stretch may do to the controller, apart from confirming and freeing. -/
structure Moves (fresh : ComparisonId) (c c' : Controller) : Prop where
  terminal : ∀ state, c.terminal = some state → c'.terminal = some state
  cancelRequested : c'.cancelRequested = c.cancelRequested
  confirmedHere : c'.confirmedHere = c.confirmedHere
  freed : c'.freed = c.freed
  closing : c'.closing = c.closing
  displayed : ∀ shown, c'.displayed = some shown → c.displayed = some shown ∨ shown.1 = fresh

theorem Moves.refl (fresh : ComparisonId) (c : Controller) : Moves fresh c c :=
  ⟨fun _ h => h, rfl, rfl, rfl, rfl, fun _ h => .inl h⟩

theorem Moves.hide (fresh : ComparisonId) (c : Controller) :
    Moves fresh c { c with displayed := none } :=
  ⟨fun _ h => h, rfl, rfl, rfl, rfl, nofun⟩

/-- A controller that is not in a terminal state enters one. -/
theorem Moves.finish (fresh : ComparisonId) {c : Controller} (h : c.terminal = none)
    (state : Terminal) :
    Moves fresh c { c with terminal := some state, displayed := none, timer := false } := by
  refine ⟨fun other hother => ?_, rfl, rfl, rfl, rfl, nofun⟩
  rw [h] at hother
  cases hother

/-- Two moves are one. -/
theorem Moves.trans {fresh : ComparisonId} {c c' c'' : Controller} (h : Moves fresh c c')
    (h' : Moves fresh c' c'') : Moves fresh c c'' := by
  refine ⟨fun state hstate => h'.terminal state (h.terminal state hstate),
    h'.cancelRequested.trans h.cancelRequested, h'.confirmedHere.trans h.confirmedHere,
    h'.freed.trans h.freed, h'.closing.trans h.closing, fun shown hshown => ?_⟩
  rcases h'.displayed shown hshown with hbefore | hfresh
  · exact h.displayed shown hbefore
  · exact .inr hfresh

/-- Quiet effects of a controller that is open. -/
theorem quiet_of_not_closed {c : Controller} {effects : List SasEffect}
    (h : ∀ effect ∈ effects, effect.quiet = true) (hterminal : c.terminal = none) :
    Quiet c effects := by
  refine ⟨h, fun hclosed => ?_⟩
  rw [hterminal] at hclosed
  cases hclosed

/-- A local cancellation is quiet. -/
theorem quiet_cancelSdkLocally (code : JsString) (sas : Sas) :
    ∀ effect ∈ (cancelSdkLocally code sas).1, effect.quiet = true := by
  unfold cancelSdkLocally
  split <;> simp [SasEffect.quiet]

/-- **What a view can be.** -/
structure ViewSpec (fresh : ComparisonId) (c : Controller)
    (viewed : Stretch (Except ErrorCode MatrixSasComparisonView)) : Prop where
  moves : Moves fresh c viewed.controller
  quiet : Quiet c viewed.effects
  ended : ∀ state, c.terminal = some state → viewed = ⟨c, [], .ok (.ended state)⟩
  /-- A view of a comparison that goes on. -/
  goesOn : ∀ current, viewed.outcome = .ok current → current.isEnded = false →
    c.terminal = none ∧ c.cancelRequested = none ∧ viewed.controller.terminal = none
  complete : viewed.outcome = .ok .comparisonComplete → c.confirmedHere = true
  compare : ∀ id values, viewed.outcome = .ok (.compare id values) →
    c.confirmedHere = false ∧ viewed.effects = [.query, .decimals (some values)] ∧
      viewed.controller.displayed = some (id, values)

/-- A comparison is shown under its id. -/
theorem compare_inj {shown : ComparisonId × Decimals} {id : ComparisonId} {values : Decimals}
    (h : MatrixSasComparisonView.compare shown.1 shown.2 = .compare id values) :
    shown = (id, values) := by
  injection h with hid hvalues
  exact Prod.ext hid hvalues

/-- Decimals are shown under the id they had, or a new one. -/
theorem viewSpec_present {c : Controller} (hterminal : c.terminal = none)
    (hrequested : c.cancelRequested = none) (hconfirmed : c.confirmedHere = false)
    (fresh : ComparisonId) (sas : Sas)
    (hended : ∀ state, c.terminal = some state → present fresh sas c = ⟨c, [], .ok (.ended state)⟩) :
    ViewSpec fresh c (present fresh sas c) := by
  have hquiet : ∀ values, Quiet c [.query, .decimals values] :=
    fun values => quiet_of_not_closed (by simp [SasEffect.quiet]) hterminal
  unfold present at hended ⊢
  cases hdecimals : readDecimals sas.decimals with
  | none =>
    rw [hdecimals] at hended
    exact ⟨.refl _ c, hquiet _, hended, nofun, nofun, nofun⟩
  | some values =>
    rw [hdecimals] at hended
    refine ⟨⟨fun _ h => h, rfl, rfl, rfl, rfl, fun shown hshown => ?_⟩, hquiet _, hended,
      fun current _ _ => ⟨hterminal, hrequested, hterminal⟩, nofun, fun id values' hok => ?_⟩
    · obtain rfl := Option.some.inj hshown
      split
      · rename_i id before hbefore
        split
        · exact .inl hbefore
        · exact .inr rfl
      · exact .inr rfl
    · have hvalues : values = values' := by
        have hshown := congrArg Prod.snd (compare_inj (Except.ok.inj hok))
        refine Eq.trans ?_ hshown
        split
        · split
          · rename_i hsame
            exact hsame.symm
          · rfl
        · rfl
      exact ⟨hconfirmed, by rw [hvalues], congrArg some (compare_inj (Except.ok.inj hok))⟩

/-- **What a view shows and changes.** -/
theorem viewSpec (comparison : Comparison) (around : Surroundings) (c : Controller) :
    ViewSpec around.fresh c (view comparison around c) := by
  -- A controller that has ended shows its end.
  cases hterminal : c.terminal with
  | some state =>
    have hview : view comparison around c = ⟨c, [], .ok (.ended state)⟩ := by
      rw [view, hterminal]
    rw [hview]
    refine ⟨.refl _ c, ⟨nofun, fun _ => rfl⟩, fun other hother => ?_, fun current hok hopen => ?_,
      nofun, nofun⟩
    · rw [hterminal] at hother
      cases hother
      rfl
    · cases hok
      cases hopen
  | none =>
    have hended : ∀ viewed : Stretch (Except ErrorCode MatrixSasComparisonView), ∀ state,
        c.terminal = some state → viewed = ⟨c, [], .ok (.ended state)⟩ := by
      intro viewed state hstate
      rw [hterminal] at hstate
      cases hstate
    have hquiet : Quiet c [.query] := quiet_of_not_closed (by simp [SasEffect.quiet]) hterminal
    unfold view
    split
    · rename_i state hstate
      rw [hterminal] at hstate
      cases hstate
    dsimp only
    -- The checks in their order: time, end, wait and what the SDK shows.
    split_ifs with hbound hdeadline hrequested hcancelled hdone hunconfirmed hwaiting hforeign
      hpresent
    · exact ⟨.refl _ c, hquiet, hended _, nofun, nofun, nofun⟩
    -- A verification that has run out is cancelled.
    · refine ⟨.finish _ hterminal _, quiet_of_not_closed (fun effect heffect => ?_) hterminal,
        hended _, fun current hok hopen => ?_, fun hok => ?_, fun id values hok => ?_⟩
      · rcases List.mem_cons.mp heffect with rfl | heffect
        · rfl
        · exact quiet_cancelSdkLocally _ _ effect heffect
      all_goals
        dsimp only at hok
        cases hraised : (cancelSdkLocally (js "m.timeout") around.sas).2 with
        | error code =>
          rw [hraised] at hok
          cases hok
        | ok _ =>
          rw [hraised] at hok
          cases hok
          try cases hopen
    · exact ⟨.refl _ c, hquiet, hended _, fun current hok hopen => (by cases hok; cases hopen),
        nofun, nofun⟩
    · exact ⟨.finish _ hterminal _, hquiet, hended _,
        fun current hok hopen => (by cases hok; cases hopen), nofun, nofun⟩
    · exact ⟨.refl _ c, hquiet, hended _, nofun, nofun, nofun⟩
    -- A comparison that is not confirmed is hidden while the SDK has not both codes.
    · simp only [Bool.or_eq_true, Bool.not_eq_true', not_or, Bool.not_eq_false] at hunconfirmed
      exact ⟨.hide _ c, hquiet, hended _,
        fun current _ _ => ⟨hterminal, Option.not_isSome_iff_eq_none.mp hrequested, hterminal⟩,
        fun _ => hunconfirmed.1, nofun⟩
    · exact ⟨.refl _ c, hquiet, hended _, nofun, nofun, nofun⟩
    · exact ⟨.refl _ c, hquiet, hended _,
        fun current _ _ => ⟨hterminal, Option.not_isSome_iff_eq_none.mp hrequested, hterminal⟩,
        nofun, nofun⟩
    · exact ⟨.hide _ c, hquiet, hended _,
        fun current _ _ => ⟨hterminal, Option.not_isSome_iff_eq_none.mp hrequested, hterminal⟩,
        nofun, nofun⟩
    · simp only [Bool.or_eq_true, not_or, Bool.not_eq_true] at hwaiting
      exact (viewSpec_present hterminal (Option.not_isSome_iff_eq_none.mp hrequested) hwaiting.1
        around.fresh around.sas) (hended _)

/-! ## What a stretch can do -/

/-- The event types `sendRequests` lets through. -/
def allowed (cancelling : Bool) : List JsString :=
  if cancelling then [cancelEventType] else [macEventType, doneEventType]

/-- The requests that wait were checked. -/
def PhaseOk : Option Phase → Prop
  | some (.sending rest cancelling) => ∀ request ∈ rest, request.eventType ∈ allowed cancelling
  | _ => True

/-- **A stretch**, apart from that of `close`: quiet effects, and at most one more. -/
inductive StretchCase (fresh : ComparisonId) (c : Controller) : Stretch Next → Prop
  | quiet {c' : Controller} {effects : List SasEffect} {next : Next} :
      Moves fresh c c' → Quiet c effects → PhaseOk next → StretchCase fresh c ⟨c', effects, next⟩
  | answered {c' : Controller} {effects : List SasEffect} {current : MatrixSasComparisonView} :
      Moves fresh c c' → Quiet c effects →
      (current = .comparisonComplete → c.confirmedHere = true) →
      (∀ id values, current = .compare id values → c'.displayed = some (id, values)) →
      StretchCase fresh c ⟨c', effects ++ [.answered current], none⟩
  | raised {c' : Controller} {effects : List SasEffect} {code : ErrorCode} :
      Moves fresh c c' → Quiet c effects →
      StretchCase fresh c ⟨c', effects ++ [.raised code], none⟩
  | cancels {c' : Controller} {effects : List SasEffect} {rest : List SasRequest} :
      Moves fresh c c' → Quiet c effects → c.terminal ≠ some .closed →
      PhaseOk (some (.sending rest true)) →
      StretchCase fresh c ⟨c', effects ++ [.send cancelEventType], some (.sending rest true)⟩
  | sends {c' : Controller} {effects : List SasEffect} {eventType : JsString}
      {rest : List SasRequest} :
      Moves fresh c c' → Quiet c effects → c.terminal = none → c.cancelRequested = none →
      c'.terminal = none → PhaseOk (some (.sending rest false)) →
      StretchCase fresh c ⟨c', effects ++ [.send eventType], some (.sending rest false)⟩
  | confirms {c' : Controller} {id : ComparisonId} {values : Decimals} :
      Moves fresh c c' → c.terminal = none → c.cancelRequested = none → c'.terminal = none →
      c.confirmedHere = false → c.displayed = some (id, values) →
      StretchCase fresh c ⟨{ c' with displayed := none, confirmedHere := true },
        [.query, .decimals (some values), .confirm id], some .confirming⟩

theorem Quiet.nil (c : Controller) : Quiet c [] := ⟨nofun, fun _ => rfl⟩

/-- A view is one of the stretches. -/
theorem stretchCase_answerView (comparison : Comparison) (around : Surroundings) (c : Controller) :
    StretchCase around.fresh c (answerView (view comparison around c)) := by
  have hview := viewSpec comparison around c
  unfold answerView
  split
  · rename_i current hok
    refine .answered hview.moves hview.quiet (fun hcurrent => ?_) fun id values hcurrent => ?_
    · subst hcurrent
      exact hview.complete hok
    · subst hcurrent
      exact (hview.compare id values hok).2.2
  · exact .quiet hview.moves hview.quiet trivial

/-- The loop of `sendRequests`. -/
theorem stretchCase_sendNext {around : Surroundings} {cancelling : Bool}
    {requests : List SasRequest} {c : Controller}
    (hallowed : ∀ request ∈ requests, request.eventType ∈ allowed cancelling) :
    StretchCase around.fresh c
      ⟨(sendNext comparison around cancelling requests c).controller,
        (sendNext comparison around cancelling requests c).effects,
        some (sendNext comparison around cancelling requests c).outcome⟩ := by
  cases requests with
  | nil => exact .quiet (.refl _ c) (.nil c) trivial
  | cons request rest =>
    have hrest : PhaseOk (some (.sending rest cancelling)) :=
      fun other hother => hallowed other (List.mem_cons_of_mem _ hother)
    have hrequest := hallowed request List.mem_cons_self
    have hview := viewSpec comparison around c
    unfold sendNext
    dsimp only
    split_ifs with hended hbound hcancelling
    · exact .quiet (.refl _ c) (.nil c) trivial
    · simp only [Bool.or_eq_true, decide_eq_true_eq, not_or] at hended
      exact .quiet (.refl _ c)
        ⟨by simp [SasEffect.quiet], fun hclosed => absurd hclosed hended.1⟩ trivial
    · simp only [Bool.or_eq_true, decide_eq_true_eq, not_or] at hended
      subst hcancelling
      rw [List.mem_singleton.mp hrequest]
      exact @StretchCase.cancels around.fresh c c [.query] rest (.refl _ c)
        ⟨by simp [SasEffect.quiet], fun hclosed => absurd hclosed hended.1⟩ hended.1 hrest
    · simp only [Bool.or_eq_true, decide_eq_true_eq, not_or] at hended
      have hquiet : Quiet c (.query :: (view comparison around c).effects) := by
        refine ⟨fun effect heffect => ?_, fun hclosed => absurd hclosed hended.1⟩
        rcases List.mem_cons.mp heffect with rfl | heffect
        · rfl
        · exact hview.quiet.quiet effect heffect
      obtain rfl := Bool.eq_false_iff.mpr hcancelling
      split
      · exact .quiet hview.moves hquiet trivial
      · rename_i current hok
        split_ifs with hfinished
        · exact .quiet hview.moves hquiet trivial
        · obtain ⟨hterminal, hrequested, hafter⟩ :=
            hview.goesOn current hok (Bool.eq_false_iff.mpr hfinished)
          exact .sends hview.moves hquiet hterminal hrequested hafter hrest

/-- Checked requests are of the allowed types. -/
theorem allowed_of_requestValid {cancelling : Bool} {request : SasRequest}
    (h : requestValid comparison cancelling request = true) :
    request.eventType ∈ allowed cancelling := by
  unfold requestValid at h
  simp only [Bool.and_eq_true] at h
  exact List.contains_iff_mem.mp h.1.2

/-- So is sending. -/
theorem stretchCase_sendRequests {around : Surroundings} {cancelling : Bool}
    {requests : List SasRequest} {c : Controller} :
    StretchCase around.fresh c
      ⟨(sendRequests comparison around cancelling requests c).controller,
        (sendRequests comparison around cancelling requests c).effects,
        some (sendRequests comparison around cancelling requests c).outcome⟩ := by
  unfold sendRequests
  split
  · rename_i hvalid
    exact stretchCase_sendNext fun request hrequest =>
      allowed_of_requestValid (List.all_eq_true.mp hvalid request hrequest)
  · exact .quiet (.refl _ c) (.nil c) trivial

/-- So is a confirmation. -/
theorem stretchCase_runConfirm (comparison : Comparison) (around : Surroundings)
    (comparisonId : ComparisonId) {c : Controller}
    (hfresh : ∀ shown, c.displayed = some shown → shown.1 ≠ around.fresh) :
    StretchCase around.fresh c (runConfirm comparison around comparisonId c) := by
  have hview := viewSpec comparison around c
  unfold runConfirm
  dsimp only
  split
  · exact .quiet hview.moves hview.quiet trivial
  · rename_i current hok
    split
    · rename_i id values shown before hdisplayed
      split
      · rename_i hsame
        obtain ⟨hterminal, hrequested, hafter⟩ := hview.goesOn _ hok rfl
        obtain ⟨hconfirmed, heffects, hshown⟩ := hview.compare id values hok
        rw [Bool.and_eq_true, decide_eq_true_eq, decide_eq_true_eq] at hsame
        obtain ⟨rfl, rfl⟩ := hsame
        have hsame : c.displayed = some (id, values) :=
          (hview.moves.displayed _ hshown).resolve_right
            (show id ≠ around.fresh from hfresh (id, before) hdisplayed)
        rw [heffects]
        exact .confirms hview.moves hterminal hrequested hafter hconfirmed hsame
      · exact .quiet hview.moves hview.quiet trivial
    · exact .quiet hview.moves hview.quiet trivial

/-- The handler of `exclusive`. -/
theorem stretchCase_handle (code : ErrorCode) (around : Surroundings) (c : Controller) :
    StretchCase around.fresh c (handle code around c) := by
  unfold handle
  split
  · exact @StretchCase.raised around.fresh c c [] code (.refl _ c) (.nil c)
  · dsimp only
    generalize hnext : (if (c.terminal.isNone && c.cancelRequested.isNone) = true
      then some Terminal.failed else c.terminal) = next
    have hmoves : ∀ timer, Moves around.fresh c
        { c with terminal := next, displayed := none, timer := timer } := by
      refine fun timer => ⟨fun state hstate => ?_, rfl, rfl, rfl, rfl, nofun⟩
      rw [hstate] at hnext
      exact hnext.symm
    split
    · rename_i hfailed
      subst hfailed
      refine .raised (hmoves false) ⟨quiet_cancelSdkLocally _ _, fun hclosed => ?_⟩
      rw [hclosed] at hnext
      cases hnext
    · exact @StretchCase.raised around.fresh c _ [] code (hmoves c.timer) (.nil c)

/-- So is a timeout. -/
theorem stretchCase_runTimeout (around : Surroundings) (c : Controller) :
    StretchCase around.fresh c (runTimeout around c) := by
  unfold runTimeout
  split
  · rename_i hexpired
    rw [Bool.and_eq_true, decide_eq_true_eq] at hexpired
    refine .quiet (.refl _ c) ⟨quiet_cancelSdkLocally _ _, fun hclosed => ?_⟩ trivial
    rw [hexpired.2] at hclosed
    cases hclosed
  · exact .quiet (.refl _ c) (.nil c) trivial

/-- So is what follows an answer. -/
theorem stretchCase_resume (comparison : Comparison) (around : Surroundings) {phase : Phase}
    (resumed : Resumed) {c : Controller} (hphase : PhaseOk (some phase)) :
    StretchCase around.fresh c (resume comparison around phase resumed c) := by
  unfold resume
  split
  · exact stretchCase_handle _ around c
  · exact .quiet (.refl _ c) (.nil c) trivial
  · exact stretchCase_sendRequests
  · exact stretchCase_sendNext hphase
  · exact @StretchCase.answered around.fresh c c [] (.ended .cancelled) (.refl _ c) (.nil c)
      nofun nofun
  · exact stretchCase_answerView comparison around c
  · exact .quiet (.refl _ c) (.nil c) trivial

theorem Quiet.append {c : Controller} {effects effects' : List SasEffect}
    (h : ∀ effect ∈ effects, effect.quiet = true) (h' : ∀ effect ∈ effects', effect.quiet = true)
    (hterminal : c.terminal = none) : Quiet c (effects ++ effects') := by
  refine quiet_of_not_closed (fun effect heffect => ?_) hterminal
  rcases List.mem_append.mp heffect with hbefore | hafter
  · exact h effect hbefore
  · exact h' effect hafter

/-- A stretch of a controller that has just ended, behind quiet effects. -/
theorem StretchCase.behind {fresh : ComparisonId} {c c' : Controller} {stretch : Stretch Next}
    {effects : List SasEffect} (h : StretchCase fresh c' stretch) (hmoves : Moves fresh c c')
    (hquiet : Quiet c effects) (hterminal : c.terminal = none)
    (hended : c'.terminal = some .cancelled) (hconfirmed : c'.confirmedHere = c.confirmedHere) :
    StretchCase fresh c ⟨stretch.controller, effects ++ stretch.effects, stretch.outcome⟩ := by
  cases h with
  | quiet hmoves' hquiet' hnext =>
    exact .quiet (hmoves.trans hmoves') (.append hquiet.quiet hquiet'.quiet hterminal) hnext
  | answered hmoves' hquiet' hcomplete hcompare =>
    dsimp only
    rw [← List.append_assoc]
    exact .answered (hmoves.trans hmoves') (.append hquiet.quiet hquiet'.quiet hterminal)
      (fun hcurrent => hconfirmed ▸ hcomplete hcurrent) hcompare
  | raised hmoves' hquiet' =>
    dsimp only
    rw [← List.append_assoc]
    exact .raised (hmoves.trans hmoves') (.append hquiet.quiet hquiet'.quiet hterminal)
  | cancels hmoves' hquiet' _ hrest =>
    dsimp only
    rw [← List.append_assoc]
    exact .cancels (hmoves.trans hmoves') (.append hquiet.quiet hquiet'.quiet hterminal)
      (by rw [hterminal]; decide) hrest
  | sends _ _ hnone => rw [hended] at hnone; cases hnone
  | confirms _ hnone => rw [hended] at hnone; cases hnone

/-- So is a cancellation. -/
theorem stretchCase_runCancel (comparison : Comparison) (around : Surroundings)
    (request : Option SasRequest) (c : Controller) :
    StretchCase around.fresh c (runCancel comparison around request c) := by
  have hview := viewSpec comparison around c
  unfold runCancel
  dsimp only
  split
  · exact .quiet hview.moves hview.quiet trivial
  · rename_i current hok
    split
    · rename_i hended
      have hcurrent : current.isEnded = true := by
        cases hopen : current.isEnded with
        | true => rfl
        | false =>
          rw [(hview.goesOn current hok hopen).2.2] at hended
          cases hended
      refine .answered hview.moves hview.quiet ?_ ?_
      · rintro rfl
        cases hcurrent
      · rintro id values rfl
        cases hcurrent
    · rename_i hended
      have hafter : (view comparison around c).controller.terminal = none :=
        Option.not_isSome_iff_eq_none.mp hended
      have hterminal : c.terminal = none := by
        cases hbefore : c.terminal with
        | none => rfl
        | some state =>
          rw [hview.moves.terminal state hbefore] at hafter
          cases hafter
      have hmoves := hview.moves.trans (Moves.finish around.fresh hafter .cancelled)
      have hquiet := fun code =>
        @Quiet.append c _ [.cancelWithCode code] hview.quiet.quiet (by simp [SasEffect.quiet])
          hterminal
      split
      · exact .quiet hmoves (hquiet _) trivial
      · split
        · exact .answered hmoves (hquiet _) nofun nofun
        · exact stretchCase_sendRequests.behind hmoves (hquiet _) hterminal rfl
            hview.moves.confirmedHere

/-- **Every stretch but that of `close`.** -/
theorem stretchCase_runOperation (comparison : Comparison) (around : Surroundings)
    (request : Option SasRequest) {operation : Operation} {c : Controller}
    (hfresh : ∀ shown, c.displayed = some shown → shown.1 ≠ around.fresh)
    (hoperation : operation ≠ .close) :
    StretchCase around.fresh c (runOperation comparison around request operation c) := by
  cases operation with
  | read => exact stretchCase_answerView comparison around c
  | confirm comparisonId => exact stretchCase_runConfirm comparison around comparisonId hfresh
  | cancel => exact stretchCase_runCancel comparison around request c
  | close => exact absurd rfl hoperation
  | timeout => exact stretchCase_runTimeout around c

end SasComparison

end SinoChat
