import SinoChat.SasComparison.Stretches

/-!
# The SAS comparison controller is safe

What a run may do follows from what its stretches can do (`StretchCase`) and from
what the controller remembers of the run (`WorldInv`).
-/

namespace SinoChat

open Js

namespace SasComparison

variable {comparison : Comparison}

/-! ## Runs -/

/-- `sas.confirm()` is called. -/
def SasEffect.isConfirm : SasEffect → Bool
  | .confirm _ => true
  | _ => false

/-- What a run has done, as the controller remembers it. -/
structure WorldInv (trace : List SasAction) (w : World) : Prop where
  running : PhaseOk w.running
  displayed : ∀ shown, w.controller.displayed = some shown → shown.1 ∈ w.drawn
  answered : ∀ id values, .answered (.compare id values) ∈ history trace →
    id ∈ w.drawn ∧ ∀ shown, w.controller.displayed = some (id, shown) → shown = values
  freed : w.controller.freed = true → w.controller.terminal = some .closed
  closing : .close ∈ w.queue → w.controller.terminal = some .closed
  frees : .free ∈ history trace → w.controller.freed = true
  confirms : (history trace).countP SasEffect.isConfirm = w.controller.confirmedHere.toNat
  order : (history trace).Pairwise fun earlier later => earlier = .free → later.onSas = false

/-- The same run, with a controller that remembers the same and shows no more. -/
theorem WorldInv.outside {trace : List SasAction} {w w' : World} {action : SasAction}
    (h : WorldInv trace w) (heffects : action.effects = []) (hrunning : w'.running = w.running)
    (hdrawn : w'.drawn = w.drawn)
    (hdisplayed : ∀ shown, w'.controller.displayed = some shown →
      w.controller.displayed = some shown)
    (hterminal : w.controller.terminal = some .closed → w'.controller.terminal = some .closed)
    (hfreed : w'.controller.freed = w.controller.freed)
    (hconfirmed : w'.controller.confirmedHere = w.controller.confirmedHere)
    (hclosing : .close ∈ w'.queue → .close ∈ w.queue ∨ w'.controller.terminal = some .closed) :
    WorldInv (action :: trace) w' := by
  have hhistory : history (action :: trace) = history trace := by
    rw [history, heffects, List.append_nil]
  refine ⟨by rw [hrunning]; exact h.running, fun shown hshown => ?_, fun id values hanswered => ?_,
    fun hfree => ?_, fun hclose => ?_, fun hfree => ?_, ?_, ?_⟩
  · rw [hdrawn]
    exact h.displayed shown (hdisplayed shown hshown)
  · rw [hhistory] at hanswered
    rw [hdrawn]
    obtain ⟨hid, hvalues⟩ := h.answered id values hanswered
    exact ⟨hid, fun shown hshown => hvalues shown (hdisplayed _ hshown)⟩
  · rw [hfreed] at hfree
    exact hterminal (h.freed hfree)
  · rcases hclosing hclose with hbefore | hafter
    · exact hterminal (h.closing hbefore)
    · exact hafter
  · rw [hhistory] at hfree
    rw [hfreed]
    exact h.frees hfree
  · rw [hhistory, hconfirmed]
    exact h.confirms
  · rw [hhistory]
    exact h.order

/-- What a stretch may do, read off its effects. -/
structure EffectsSpec (fresh : ComparisonId) (c : Controller) (stretch : Stretch Next) : Prop where
  terminal : ∀ state, c.terminal = some state → stretch.controller.terminal = some state
  freed : stretch.controller.freed = c.freed
  noFree : .free ∉ stretch.effects
  closed : c.terminal = some .closed → ∀ effect ∈ stretch.effects, effect.onSas = false
  confirms : stretch.effects.countP SasEffect.isConfirm + c.confirmedHere.toNat =
    stretch.controller.confirmedHere.toNat
  confirm : ∀ id, .confirm id ∈ stretch.effects → ∃ values, c.displayed = some (id, values) ∧
    stretch.effects = [.query, .decimals (some values), .confirm id]
  complete : .answered .comparisonComplete ∈ stretch.effects → c.confirmedHere = true
  compare : ∀ id values, .answered (.compare id values) ∈ stretch.effects →
    stretch.controller.displayed = some (id, values)
  sends : ∀ effect ∈ stretch.effects, effect.confirms = true →
    c.terminal = none ∧ c.cancelRequested = none ∧ stretch.controller.terminal = none
  running : PhaseOk stretch.outcome
  displayed : ∀ shown, stretch.controller.displayed = some shown →
    c.displayed = some shown ∨ shown.1 = fresh

theorem quiet_cases {effect : SasEffect} (h : effect.quiet = true) :
    effect ≠ .free ∧ effect.isConfirm = false ∧ effect.confirms = false ∧
      ∀ current, effect ≠ .answered current := by
  cases effect <;> simp_all [SasEffect.quiet, SasEffect.isConfirm, SasEffect.confirms]

theorem Quiet.countP {c : Controller} {effects : List SasEffect} (h : Quiet c effects) :
    effects.countP SasEffect.isConfirm = 0 :=
  List.countP_eq_zero.mpr fun effect heffect => by
    rw [(quiet_cases (h.quiet effect heffect)).2.1]
    decide

/-- Quiet effects and one more, which neither confirms nor frees. -/
theorem effectsSpec_of_last {fresh : ComparisonId} {c c' : Controller} {effects : List SasEffect}
    {last : SasEffect} {next : Next} (hmoves : Moves fresh c c') (hquiet : Quiet c effects)
    (honSas : last.onSas = false)
    (hcomplete : last = .answered .comparisonComplete → c.confirmedHere = true)
    (hcompare : ∀ id values, last = .answered (.compare id values) →
      c'.displayed = some (id, values))
    (hsends : last.confirms = true →
      c.terminal = none ∧ c.cancelRequested = none ∧ c'.terminal = none)
    (hnext : PhaseOk next) : EffectsSpec fresh c ⟨c', effects ++ [last], next⟩ := by
  have hmem : ∀ effect ∈ effects ++ [last], effect.quiet = true ∨ effect = last := by
    intro effect heffect
    rcases List.mem_append.mp heffect with hbefore | hlast
    · exact .inl (hquiet.quiet effect hbefore)
    · exact .inr (List.mem_singleton.mp hlast)
  refine ⟨hmoves.terminal, hmoves.freed, fun hfree => ?_, fun hclosed effect heffect => ?_, ?_,
    fun id hid => ?_, fun hanswer => ?_, fun id values hanswer => ?_,
    fun effect heffect hconfirms => ?_, hnext, hmoves.displayed⟩
  · rcases hmem _ hfree with h | rfl
    · cases h
    · cases honSas
  · dsimp only at heffect
    rw [hquiet.closed hclosed, List.nil_append, List.mem_singleton] at heffect
    rw [heffect, honSas]
  · have hlast : last.isConfirm = false := by
      cases last <;> first | rfl | cases honSas
    dsimp only
    rw [List.countP_append, hquiet.countP, List.countP_singleton, hlast, hmoves.confirmedHere]
    simp
  · rcases hmem _ hid with h | rfl
    · cases h
    · cases honSas
  · rcases hmem _ hanswer with h | rfl
    · cases h
    · exact hcomplete rfl
  · rcases hmem _ hanswer with h | rfl
    · cases h
    · exact hcompare id values rfl
  · rcases hmem _ heffect with h | rfl
    · rw [(quiet_cases h).2.2.1] at hconfirms
      cases hconfirms
    · exact hsends hconfirms

theorem StretchCase.spec {fresh : ComparisonId} {c : Controller} {stretch : Stretch Next}
    (h : StretchCase fresh c stretch) : EffectsSpec fresh c stretch := by
  cases h with
  | quiet hmoves hquiet hnext =>
    refine ⟨hmoves.terminal, hmoves.freed, fun hfree => ?_, fun hclosed effect heffect => ?_, ?_,
      fun id hid => ?_, fun hanswer => ?_, fun id values hanswer => ?_,
      fun effect heffect hconfirms => ?_, hnext, hmoves.displayed⟩
    · cases hquiet.quiet _ hfree
    · dsimp only at heffect
      rw [hquiet.closed hclosed] at heffect
      cases heffect
    · dsimp only
      rw [hquiet.countP, hmoves.confirmedHere, Nat.zero_add]
    · cases hquiet.quiet _ hid
    · cases hquiet.quiet _ hanswer
    · cases hquiet.quiet _ hanswer
    · rw [(quiet_cases (hquiet.quiet effect heffect)).2.2.1] at hconfirms
      cases hconfirms
  | answered hmoves hquiet hcomplete hcompare =>
    exact effectsSpec_of_last hmoves hquiet rfl
      (fun hlast => hcomplete (SasEffect.answered.inj hlast))
      (fun id values hlast => hcompare id values (SasEffect.answered.inj hlast)) nofun trivial
  | raised hmoves hquiet =>
    exact effectsSpec_of_last hmoves hquiet rfl nofun nofun nofun trivial
  | cancels hmoves hquiet _ hrest =>
    exact effectsSpec_of_last hmoves hquiet rfl nofun nofun (fun h => absurd h (by decide)) hrest
  | sends hmoves hquiet hterminal hrequested hafter hrest =>
    exact effectsSpec_of_last hmoves hquiet rfl nofun nofun
      (fun _ => ⟨hterminal, hrequested, hafter⟩) hrest
  | confirms hmoves hterminal _ hafter hconfirmed hdisplayed =>
    refine ⟨fun state hstate => ?_, hmoves.freed, by simp, fun hclosed => ?_, ?_, fun id hid => ?_,
      by simp, by simp, by simp [SasEffect.confirms], trivial, nofun⟩
    · rw [hterminal] at hstate
      cases hstate
    · rw [hterminal] at hclosed
      cases hclosed
    · dsimp only
      rw [hconfirmed]
      rfl
    · simp only [List.mem_cons, reduceCtorEq, SasEffect.confirm.injEq, List.not_mem_nil, or_false,
        false_or] at hid
      subst hid
      exact ⟨_, hdisplayed, rfl⟩

/-! ## Steps -/

/-- **A stretch other than that of `close` keeps the invariant.** -/
theorem WorldInv.ran {trace : List SasAction} {w : World} {stretch : Stretch Next}
    {fresh : ComparisonId} {queue : List Operation} (h : WorldInv trace w)
    (hspec : EffectsSpec fresh w.controller stretch) (hfresh : fresh ∉ w.drawn)
    (hqueue : ∀ operation ∈ queue, operation ∈ w.queue) :
    WorldInv (.ran stretch.effects :: trace) (w.after stretch fresh queue) := by
  have hhistory : history (.ran stretch.effects :: trace) = history trace ++ stretch.effects := rfl
  have hterminal : w.controller.terminal = some .closed →
      stretch.controller.terminal = some .closed := hspec.terminal .closed
  refine ⟨hspec.running, fun shown hshown => ?_, fun id values hanswered => ?_, fun hfree => ?_,
    fun hclose => hterminal (h.closing (hqueue _ hclose)), fun hfree => ?_, ?_, ?_⟩
  · rcases hspec.displayed shown hshown with hbefore | hnew
    · exact List.mem_cons_of_mem _ (h.displayed shown hbefore)
    · exact List.mem_cons.mpr (.inl hnew)
  · rw [hhistory] at hanswered
    rcases List.mem_append.mp hanswered with hbefore | hnow
    · obtain ⟨hid, hvalues⟩ := h.answered id values hbefore
      refine ⟨List.mem_cons_of_mem _ hid, fun shown hshown => ?_⟩
      rcases hspec.displayed _ hshown with hsame | hnew
      · exact hvalues shown hsame
      · exact absurd (show fresh ∈ w.drawn from hnew ▸ hid) hfresh
    · have hshown := hspec.compare id values hnow
      refine ⟨?_, fun shown hother => ?_⟩
      · rcases hspec.displayed _ hshown with hbefore | hnew
        · exact List.mem_cons_of_mem _ (h.displayed _ hbefore)
        · exact List.mem_cons.mpr (.inl hnew)
      · rw [show stretch.controller.displayed = some (id, shown) from hother] at hshown
        cases hshown
        rfl
  · exact hterminal (h.freed (hspec.freed ▸ hfree))
  · rw [hhistory] at hfree
    rcases List.mem_append.mp hfree with hbefore | hnow
    · show stretch.controller.freed = true
      rw [hspec.freed]
      exact h.frees hbefore
    · exact absurd hnow hspec.noFree
  · show _ = stretch.controller.confirmedHere.toNat
    rw [hhistory, List.countP_append, h.confirms, ← hspec.confirms, Nat.add_comm]
  · rw [hhistory, List.pairwise_append]
    refine ⟨h.order, ?_, fun earlier hearlier later hlater hfree => ?_⟩
    · refine List.pairwise_iff_getElem.mpr fun i j hi hj _ hfree => ?_
      exact absurd (hfree ▸ List.getElem_mem hi) hspec.noFree
    · subst hfree
      exact hspec.closed (h.freed (h.frees hearlier)) later hlater

/-- The stretch of `close` frees the object, once, and does nothing behind it. -/
theorem WorldInv.close {trace : List SasAction} {w : World} {around : Surroundings}
    {queue : List Operation} (h : WorldInv trace w) (hclose : .close ∈ w.queue) :
    WorldInv (.ran (runClose around w.controller).effects :: trace)
      (w.after (runClose around w.controller) around.fresh queue) := by
  have hterminal := h.closing hclose
  unfold runClose
  split
  · refine ⟨trivial, fun shown hshown => List.mem_cons_of_mem _ (h.displayed shown hshown),
      fun id values hanswered => ?_, fun _ => hterminal, fun _ => hterminal, fun hfree => ?_, ?_, ?_⟩
    all_goals rw [show history (.ran [] :: trace) = history trace from List.append_nil _] at *
    · obtain ⟨hid, hvalues⟩ := h.answered id values hanswered
      exact ⟨List.mem_cons_of_mem _ hid, hvalues⟩
    · exact h.frees hfree
    · exact h.confirms
    · exact h.order
  · rename_i hfreed
    have hquiet := quiet_cancelSdkLocally (js "m.user") around.sas
    generalize (cancelSdkLocally (js "m.user") around.sas).1 = effects at hquiet ⊢
    have hhistory : history (.ran (effects ++ [.free]) :: trace) =
      history trace ++ (effects ++ [.free]) := rfl
    have hmem : ∀ effect ∈ effects ++ [SasEffect.free], effect.quiet = true ∨ effect = .free := by
      intro effect heffect
      rcases List.mem_append.mp heffect with hbefore | hlast
      · exact .inl (hquiet effect hbefore)
      · exact .inr (List.mem_singleton.mp hlast)
    have hnone : SasEffect.free ∉ history trace := fun hfree => hfreed (h.frees hfree)
    refine ⟨trivial, fun shown hshown => List.mem_cons_of_mem _ (h.displayed shown hshown),
      fun id values hanswered => ?_, fun _ => hterminal, fun _ => hterminal, fun _ => rfl, ?_, ?_⟩
    · rw [hhistory] at hanswered
      rcases List.mem_append.mp hanswered with hbefore | hnow
      · obtain ⟨hid, hvalues⟩ := h.answered id values hbefore
        exact ⟨List.mem_cons_of_mem _ hid, hvalues⟩
      · rcases hmem _ hnow with hother | hother
        · cases hother
        · cases hother
    · have hzero : (effects ++ [SasEffect.free]).countP SasEffect.isConfirm = 0 := by
        refine List.countP_eq_zero.mpr fun effect heffect => ?_
        rcases hmem effect heffect with hother | rfl
        · rw [(quiet_cases hother).2.1]
          decide
        · decide
      rw [hhistory, List.countP_append, hzero]
      exact h.confirms
    · rw [hhistory, ← List.append_assoc, List.pairwise_append]
      refine ⟨?_, List.pairwise_singleton _ _, fun earlier hearlier later _ hfree => ?_⟩
      · refine List.pairwise_iff_getElem.mpr fun i j hi hj _ hfree => ?_
        rcases List.mem_append.mp (hfree ▸ List.getElem_mem hi) with hbefore | hnow
        · exact absurd hbefore hnone
        · exact absurd rfl (quiet_cases (hquiet _ hnow)).1
      · subst hfree
        rcases List.mem_append.mp hearlier with hbefore | hnow
        · exact absurd hbefore hnone
        · exact absurd rfl (quiet_cases (hquiet _ hnow)).1

/-- **Every step keeps the invariant.** -/
theorem WorldInv.step {trace : List SasAction} {w w' : World} {action : SasAction}
    (h : WorldInv trace w) (hstep : SasStep comparison w action w') :
    WorldInv (action :: trace) w' := by
  cases hstep with
  | read =>
    exact h.outside rfl rfl rfl (fun _ h => h) (fun h => h) rfl rfl fun hclose =>
      .inl ((List.mem_cons.mp hclose).resolve_left (by decide))
  | confirm =>
    exact h.outside rfl rfl rfl (fun _ h => h) (fun h => h) rfl rfl fun hclose =>
      .inl ((List.mem_cons.mp hclose).resolve_left (by simp))
  | @cancel code _ =>
    have hcontroller : requestCancel code w.controller = w.controller ∨
        ∃ requested, requestCancel code w.controller =
          { w.controller with cancelRequested := requested, displayed := none } := by
      unfold requestCancel
      split
      · exact .inl rfl
      · exact .inr ⟨_, rfl⟩
    have hclose : ∀ queue, Operation.close ∈ Operation.cancel :: queue → .close ∈ queue :=
      fun queue hclose => (List.mem_cons.mp hclose).resolve_left (by decide)
    rcases hcontroller with hsame | ⟨requested, hsame⟩
    · refine h.outside rfl rfl rfl ?_ ?_ ?_ ?_ fun hclosing => .inl (hclose _ hclosing)
      all_goals dsimp only; rw [hsame]
      · exact fun _ h => h
      · exact fun h => h
    · refine h.outside rfl rfl rfl ?_ ?_ ?_ ?_ fun hclosing => .inl (hclose _ hclosing)
      all_goals dsimp only; rw [hsame]
      · exact nofun
      · exact fun h => h
  | close => exact h.outside rfl rfl rfl nofun (fun _ => rfl) rfl rfl fun _ => .inr rfl
  | timeOut _ hterminal =>
    refine h.outside rfl rfl rfl nofun (fun hclosed => ?_) rfl rfl fun hclose =>
      .inl ((List.mem_cons.mp hclose).resolve_left (by decide))
    rw [hterminal] at hclosed
    cases hclosed
  | @run operation around request _ hmem hfresh =>
    have hqueue : ∀ other ∈ w.queue.erase operation, other ∈ w.queue :=
      fun other hother => List.mem_of_mem_erase hother
    by_cases hclose : operation = .close
    · subst hclose
      exact h.close hmem
    · refine h.ran (stretchCase_runOperation comparison around request ?_ hclose).spec hfresh hqueue
      intro shown hshown hsame
      exact hfresh (hsame ▸ h.displayed shown hshown)
  | @resume phase around resumed hrunning hfresh =>
    have hphase : PhaseOk (some phase) := hrunning ▸ h.running
    exact h.ran (stretchCase_resume comparison around resumed hphase).spec hfresh fun _ h => h

theorem worldInv_of_run {trace : List SasAction} {w : World}
    (h : (controller comparison).Run trace w) : WorldInv trace w := by
  refine h.invariant (I := WorldInv) (fun w hw => ?_) fun _ _ _ _ _ hinv hstep => hinv.step hstep
  obtain ⟨⟨clock, hconstruct⟩, hqueue, hrunning, hdrawn⟩ := hw
  obtain ⟨_, -, hconstruct⟩ := bind_eq_ok.mp hconstruct
  have hcontroller : _ = w.controller := congrArg Prod.snd (Except.ok.inj hconstruct)
  have hterminal : w.controller.displayed = none ∧ w.controller.freed = false ∧
      w.controller.confirmedHere = false := by
    rw [← hcontroller]
    exact ⟨rfl, rfl, rfl⟩
  obtain ⟨hdisplayed, hfreed, hconfirmed⟩ := hterminal
  refine ⟨by rw [hrunning]; trivial, fun shown hshown => ?_, nofun, fun hfree => ?_,
    fun hclose => ?_, nofun, ?_, .nil⟩
  · rw [hdisplayed] at hshown
    cases hshown
  · rw [hfreed] at hfree
    cases hfree
  · rw [hqueue] at hclose
    cases hclose
  · rw [hconfirmed]
    rfl

/-! ## Safety -/

/-- A step of a run: what it did, where it ended, and from where. -/
theorem effectsSpec_of_step {trace : List SasAction} {w w' : World} {action : SasAction}
    (h : WorldInv trace w) (hstep : SasStep comparison w action w') :
    (∃ fresh stretch, EffectsSpec fresh w.controller stretch ∧
        action.effects = stretch.effects ∧ w'.controller = stretch.controller) ∨
      (∀ effect ∈ action.effects, effect.quiet = true ∨ effect = .free) ∧
        ∀ state, w.controller.terminal = some state →
          w'.controller.terminal = some state ∨ w'.controller.terminal = some .closed := by
  cases hstep with
  | read => exact .inr ⟨nofun, fun _ h => .inl h⟩
  | confirm => exact .inr ⟨nofun, fun _ h => .inl h⟩
  | @cancel code _ =>
    refine .inr ⟨nofun, fun state hstate => .inl ?_⟩
    show (requestCancel code w.controller).terminal = some state
    unfold requestCancel
    split
    · exact hstate
    · exact hstate
  | close => exact .inr ⟨nofun, fun _ _ => .inr rfl⟩
  | timeOut _ hterminal =>
    refine .inr ⟨nofun, fun state hstate => ?_⟩
    rw [hterminal] at hstate
    cases hstate
  | @run operation around request _ hmem hfresh =>
    by_cases hclose : operation = .close
    · subst hclose
      refine .inr ⟨fun effect heffect => ?_, fun state hstate => .inl ?_⟩
      · unfold runOperation runClose at heffect
        dsimp only [SasAction.effects] at heffect
        split at heffect
        · cases heffect
        · rcases List.mem_append.mp heffect with hbefore | hlast
          · exact .inl (quiet_cancelSdkLocally _ _ effect hbefore)
          · exact .inr (List.mem_singleton.mp hlast)
      · show (runClose around w.controller).controller.terminal = some state
        unfold runClose
        split
        · exact hstate
        · exact hstate
    · refine .inl ⟨around.fresh, _,
        (stretchCase_runOperation comparison around request ?_ hclose).spec, rfl, rfl⟩
      intro shown hshown hsame
      exact hfresh (hsame ▸ h.displayed shown hshown)
  | @resume phase around resumed hrunning _ =>
    have hphase : PhaseOk (some phase) := hrunning ▸ h.running
    exact .inl ⟨around.fresh, _, (stretchCase_resume comparison around resumed hphase).spec,
      rfl, rfl⟩

/-! ### A comparison that is confirmed -/

/-- What the code outside does: an operation is called, and one that waits is run. -/
inductive Command where
  | call (operation : Operation)
  | run (operation : Operation) (around : Surroundings)

/-- A command as a step; only reading and confirming are called. -/
def exec (comparison : Comparison) : Command → World → Option (SasAction × World)
  | .call .read, w => some (.called .read, { w with queue := .read :: w.queue })
  | .call (.confirm id), w =>
    some (.called (.confirm id), { w with queue := .confirm id :: w.queue })
  | .call _, _ => none
  | .run operation around, w =>
    if w.running.isNone && w.queue.contains operation && !w.drawn.contains around.fresh then
      let stretch := runOperation comparison around none operation w.controller
      some (.ran stretch.effects, w.after stretch around.fresh (w.queue.erase operation))
    else none

theorem step_of_exec {command : Command} {w w' : World} {action : SasAction}
    (h : exec comparison command w = some (action, w')) :
    (controller comparison).step w action w' := by
  unfold exec at h
  split at h
  · cases h
    exact .read
  · cases h
    exact .confirm
  · cases h
  · split_ifs at h with hready
    simp only [Bool.and_eq_true, Option.isNone_iff_eq_none, List.contains_eq_mem,
      decide_eq_true_eq, Bool.not_eq_true', decide_eq_false_iff_not] at hready
    cases h
    exact .run hready.1.1 hready.1.2 hready.2

namespace Sample

/-- Two devices of a user. -/
def scope : MatrixSasComparisonScope where
  userId := js "@u0c000000000040008000000000000001:chat.example"
  deviceId := js "D0C000000000040008000000000000002"
  otherDeviceId := js "D0C000000000040008000000000000009"
  flowId := js "flow-1"
  expiresAtMs := 600000

/-- A verification of ten minutes. -/
def verification : Comparison where
  scope := scope
  startedAt := 5
  duration := ((600000 : ℤ) : ℚ) - 1000
  round := fun _ => .negativeZero

/-- The SAS object shows three decimals. -/
def sas : Sas where
  userId := scope.userId
  deviceId := scope.deviceId
  otherUserId := scope.userId
  otherDeviceId := scope.otherDeviceId
  roomId := none
  flowId := scope.flowId
  isSelfVerification := true
  startedFromRequest := true
  timedOut := false
  isCancelled := false
  isDone := false
  haveWeConfirmed := false
  canBePresented := true
  decimals := some [1234, 2345, 3456]
  cancelRaises := false

/-- What surrounds a step. -/
def around (fresh : ComparisonId) : Surroundings := ⟨⟨some 2000, some 1005⟩, sas, fresh⟩

/-- The world before the comparison. -/
def world : World := ⟨⟨none, none, none, false, false, false, true⟩, [], none, []⟩

theorem world_init : (controller verification).init world :=
  ⟨⟨⟨some 1000, some 5⟩, bind_eq_ok.mpr ⟨(), require_eq_ok.mpr (by decide +kernel), rfl⟩⟩,
    rfl, rfl, rfl⟩

/-- The decimals are read and confirmed. -/
def script : List Command :=
  [.call .read, .run .read (around 0), .call (.confirm 0), .run (.confirm 0) (around 1)]

end Sample

/-- **The controller is safe.** In every run, `confirm` is called at most once, in a
stretch that has just read the decimals that are displayed and were answered under
the id; the comparison is complete only behind it; a controller that is in a terminal
state, or was asked to cancel, sends no mac or done request, and a terminal state
changes at most to closed; and the SAS object is not called behind `free`. -/
theorem sas_comparison_safe (comparison : Comparison) {trace : List SasAction} {w : World}
    (hrun : (controller comparison).Run trace w) :
    (history trace).countP SasEffect.isConfirm ≤ 1 ∧
      ((history trace).Pairwise fun earlier later => earlier = .free → later.onSas = false) ∧
      ∀ action w', (controller comparison).step w action w' →
        (∀ id, .confirm id ∈ action.effects → ∃ values,
          w.controller.displayed = some (id, values) ∧
          action.effects = [.query, .decimals (some values), .confirm id] ∧
          ∀ shown, .answered (.compare id shown) ∈ history trace → shown = values) ∧
        (.answered .comparisonComplete ∈ action.effects → ∃ id, .confirm id ∈ history trace) ∧
        (∀ effect ∈ action.effects, effect.confirms = true → w.controller.terminal = none ∧
          w.controller.cancelRequested = none ∧ w'.controller.terminal = none) ∧
        ∀ state, w.controller.terminal = some state →
          w'.controller.terminal = some state ∨ w'.controller.terminal = some .closed := by
  have hinv := worldInv_of_run hrun
  refine ⟨?_, hinv.order, fun action w' hstep => ?_⟩
  · rw [hinv.confirms]
    cases w.controller.confirmedHere <;> decide
  rcases effectsSpec_of_step hinv hstep with ⟨fresh, stretch, hspec, heffects, hafter⟩ | ⟨hquiet, hends⟩
  · rw [heffects, hafter]
    refine ⟨fun id hid => ?_, fun hcomplete => ?_, hspec.sends,
      fun state hstate => .inl (hspec.terminal state hstate)⟩
    · obtain ⟨values, hdisplayed, hread⟩ := hspec.confirm id hid
      exact ⟨values, hdisplayed, hread, fun shown hshown =>
        ((hinv.answered id shown hshown).2 values hdisplayed).symm⟩
    · have hcount := hinv.confirms
      rw [hspec.complete hcomplete] at hcount
      have hpositive : 0 < (history trace).countP SasEffect.isConfirm := by
        rw [hcount]
        decide
      obtain ⟨effect, heffect, hconfirm⟩ := List.countP_pos_iff.mp hpositive
      cases effect with
      | confirm id => exact ⟨id, heffect⟩
      | _ => cases hconfirm
  · refine ⟨fun id hid => ?_, fun hcomplete => ?_, fun effect heffect hconfirms => ?_, hends⟩
    · rcases hquiet _ hid with h | h <;> cases h
    · rcases hquiet _ hcomplete with h | h <;> cases h
    · rcases hquiet effect heffect with h | rfl
      · rw [(quiet_cases h).2.2.1] at hconfirms
        cases hconfirms
      · cases hconfirms

/-- A comparison is read and confirmed, and never confirmed again. -/
theorem sas_comparison_safe_confirmed :
    ∃ trace w, (controller Sample.verification).Run trace w ∧
      .confirm 0 ∈ history trace ∧ (history trace).countP SasEffect.isConfirm ≤ 1 := by
  obtain ⟨trace, w, hrun, hcheck⟩ := Machine.exists_run_of_perform
    (M := controller Sample.verification)
    (fun command w action w' => @step_of_exec Sample.verification command w w' action)
    Sample.world_init Sample.script (fun trace _ => (history trace).contains (.confirm 0))
    (by decide +kernel)
  exact ⟨trace, w, hrun, List.contains_iff_mem.mp hcheck,
    (sas_comparison_safe Sample.verification hrun).1⟩

end SasComparison

end SinoChat
