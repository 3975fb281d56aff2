import Translator.Control.Api

/-! Is what the store calls running really there? `translation_running` lives in the store, the runtime
    in the handle, and every handler updates both. `patch_direction` and `patch_voice_profile` report
    a translation that could not be stopped as stopped, because the handle has let go of it by then.
    `stop_translation` does not: after a stop that fails the flag stays up with nothing behind it.
    Exactly the runs without such a stop keep flag and handle in step. -/

namespace Translator.Control
open Schemes Core
open DuplexRuntimeHandle (start_cases stop_active)

namespace ApiState

/-- `active` of the handle, when there is a handle. -/
def owned (s : ApiState) : Option ActiveProductionRuntime := s.translation.bind (·.active)

/-- The store reports a running translation exactly when the handle holds a runtime. -/
def ShowsRuntime (s : ApiState) : Prop := s.store.snapshot.translationRunning = s.owned.isSome

/-- A `stop_translation` that finds a runtime which does not stop. -/
def FailsToStop (s : ApiState) (op : Op) : Prop :=
  ∃ world runtime, op = .stop world ∧ s.owned = some runtime
    ∧ DuplexRuntimeHandle.stopRuntime runtime world ≠ .ok ()

/-- Flag and handle are in step, and a poisoned handle holds nothing. -/
structure Honest (s : ApiState) : Prop where
  shows : s.ShowsRuntime
  poisoned : ∀ h, s.translation = some h → h.poisoned = true → h.active = none

variable {s : ApiState} {h h' : DuplexRuntimeHandle} {world : World} {op : Op}

theorem honest_new (translation manualRoutes : Bool) : Honest (new translation manualRoutes) where
  shows := by cases translation <;> rfl
  poisoned := by
    intro h hh hp
    cases translation with
    | false => cases hh
    | true => cases hh; cases hp

/-- A change of the store that leaves the flag alone. -/
theorem honest_store {store : RuntimeStore} (hi : Honest s)
    (hr : store.snapshot.translationRunning = s.store.snapshot.translationRunning) :
    Honest (s.withStore store) :=
  ⟨hr.trans hi.shows, hi.poisoned⟩

theorem honest_refreshed (hi : Honest s) : Honest (s.refreshed world) := by
  unfold refreshed
  split
  · exact honest_store hi rfl
  · exact hi

/-- A handle that holds nothing, behind a flag that is down. -/
theorem honest_down (store : RuntimeStore) (manualRoutes : Bool) (hnone : h'.active = none) :
    Honest ⟨store.setTranslationRunning false, some h', manualRoutes⟩ where
  shows := by simp [ShowsRuntime, owned, RuntimeStore.setTranslationRunning, hnone]
  poisoned := by
    rintro _ ⟨⟩ -
    exact hnone

/-- A handle that has just been given a runtime, behind a flag that is up. -/
theorem honest_up {store : RuntimeStore} {manualRoutes : Bool} {runtime : ActiveProductionRuntime}
    (hup : store.snapshot.translationRunning = true) (hp : h.poisoned = false) :
    Honest ⟨store, some { h with active := some runtime }, manualRoutes⟩ where
  shows := hup
  poisoned := by
    rintro _ ⟨⟩ hpoisoned
    rw [show h.poisoned = true from hpoisoned] at hp
    cases hp

theorem honest_start (hi : Honest s) : Honest (s.startTranslation world).2 := by
  unfold startTranslation
  cases ht : s.translation with
  | none => exact hi
  | some controller =>
    have hi' : Honest (s.refreshed world) := honest_refreshed hi
    have htr : (s.refreshed world).translation = some controller := by
      unfold refreshed
      split <;> exact ht
    generalize s.refreshed world = s at hi' htr
    dsimp only
    split
    · exact hi'
    cases hst : controller.start s.store.snapshot world with
    | mk r h' =>
      rcases start_cases hst with ⟨hr, hact, hp⟩ | ⟨rfl, hp, launch, -, rfl⟩
      · have hrefused : Honest { s with translation := some h' } := by
          refine ⟨?_, ?_⟩
          · have hshows := hi'.shows
            rw [ShowsRuntime, owned, htr, Option.bind_some, ← hact] at hshows
            exact hshows
          · rintro _ ⟨⟩ hpoisoned
            rw [hact]
            exact (hp hpoisoned).elim (hi'.poisoned controller htr) id
        cases r with
        | ok x => exact absurd rfl hr
        | err e => exact hrefused
        | panic => exact hrefused
      · exact honest_up rfl hp

/-- A stop that does what it says, or finds nothing to stop, keeps flag and handle in step. -/
theorem honest_stop (hi : Honest s) (hok : ¬ s.FailsToStop (.stop world)) :
    Honest (s.stopTranslation world).2 := by
  unfold stopTranslation
  cases ht : s.translation with
  | none => exact hi
  | some controller =>
    have hpoisoned := hi.poisoned controller ht
    have howned : s.owned = controller.active := by rw [owned, ht, Option.bind_some]
    dsimp only
    cases hst : controller.stop world with
    | mk r h' =>
      have hnone := stop_active hpoisoned hst
      cases r with
      | ok x =>
        dsimp only
        split <;> exact honest_refreshed (honest_down s.store s.manualRoutes hnone)
      | _ =>
        -- a stop that is refused for a runtime that is there would be the failure
        have hnothing : controller.active = none := by
          by_contra hsome
          obtain ⟨runtime, hrt⟩ := Option.ne_none_iff_exists'.mp hsome
          refine hok ⟨world, runtime, rfl, howned.trans hrt, fun hstopped => ?_⟩
          unfold DuplexRuntimeHandle.stop at hst
          split at hst
          · next hp => exact hsome (hpoisoned hp)
          · rw [hrt] at hst
            simp only [hstopped] at hst
            cases hst
        refine ⟨?_, ?_⟩
        · have hshows := hi.shows
          rw [ShowsRuntime, howned, hnothing, ← hnone] at hshows
          exact hshows
        · rintro _ ⟨⟩ -
          exact hnone

/-- The flag stays up over a handle that has let go of its runtime. -/
theorem not_shows_of_failsToStop (hi : Honest s) (hfail : s.FailsToStop op) :
    ¬ (s.apply op).2.ShowsRuntime := by
  obtain ⟨world, runtime, rfl, hrt, hstop⟩ := hfail
  have hup : s.store.snapshot.translationRunning = true := by
    rw [hi.shows, hrt]
    rfl
  cases ht : s.translation with
  | none => rw [owned, ht] at hrt; cases hrt
  | some controller =>
    have hact : controller.active = some runtime := by rw [owned, ht] at hrt; exact hrt
    have hp : controller.poisoned = false := by
      cases hp : controller.poisoned with
      | false => rfl
      | true => rw [hi.poisoned controller ht hp] at hact; cases hact
    simp only [apply, stopTranslation, ht, DuplexRuntimeHandle.stop, hp, Bool.false_eq_true, if_false,
      hact]
    cases hres : DuplexRuntimeHandle.stopRuntime runtime world with
    | ok x => exact absurd hres hstop
    | err e => simp [ShowsRuntime, owned, fail, hup]
    | panic => simp [ShowsRuntime, owned, fail, hup]

theorem honest_applyToRunning (hi : Honest s) {wasRunning : Bool}
    (hrun : wasRunning = s.store.snapshot.translationRunning) :
    Honest (s.applyToRunning wasRunning world).2 := by
  unfold applyToRunning
  split
  case isFalse => exact hi
  next hwas =>
  cases ht : s.translation with
  | none => exact hi
  | some controller =>
    dsimp only
    cases hst : controller.reconfigure s.store.snapshot world with
    | mk r h' =>
      unfold DuplexRuntimeHandle.reconfigure at hst
      cases hstop : controller.stop world with
      | mk r₁ h₁ =>
        have hnone := stop_active (hi.poisoned controller ht) hstop
        rw [hstop] at hst
        cases r₁ with
        | ok x =>
          rcases start_cases hst with ⟨hr, hact, -⟩ | ⟨rfl, hp, launch, -, rfl⟩
          · have hdown := honest_down s.store s.manualRoutes (hact.trans hnone)
            cases r with
            | ok x => exact absurd rfl hr
            | err e => exact hdown
            | panic => exact hdown
          · exact honest_up (hrun ▸ hwas) hp
        | err e => cases hst; exact honest_down s.store s.manualRoutes hnone
        | panic => cases hst; exact honest_down s.store s.manualRoutes hnone

/-- A mutation that leaves the flag alone, and what is done with the changed state. -/
theorem honest_mutate {mutation : Mutation} {next : ApiState → Served} (hi : Honest s)
    (hr : mutation.2.snapshot.translationRunning = s.store.snapshot.translationRunning)
    (hnext : Honest (s.withStore mutation.2) → Honest (next (s.withStore mutation.2)).2) :
    Honest (s.mutate mutation next).2 := by
  have hstored : Honest (s.withStore mutation.2) := honest_store hi hr
  obtain ⟨res, store⟩ := mutation
  cases res with
  | ok x => exact hnext hstored
  | err e => exact hstored
  | panic => exact hstored

theorem setDirection_running (store : RuntimeStore) (patch : DirectionPatch) :
    (store.setDirection patch).2.snapshot.translationRunning = store.snapshot.translationRunning := by
  unfold RuntimeStore.setDirection
  split
  · rfl
  · split <;> rfl

theorem setVoiceProfile_running (store : RuntimeStore) (patch : VoiceProfilePatch) :
    (store.setVoiceProfile patch).2.snapshot.translationRunning
      = store.snapshot.translationRunning := by
  unfold RuntimeStore.setVoiceProfile
  split
  · rfl
  · split <;> rfl

theorem setProvider_running (store : RuntimeStore) (patch : ProviderPatch) :
    (store.setProvider patch).2.snapshot.translationRunning = store.snapshot.translationRunning := by
  unfold RuntimeStore.setProvider
  split <;> rfl

/-- Every request but a stop that fails keeps flag and handle in step. -/
theorem honest_apply (hi : Honest s) (op : Op) (hok : ¬ s.FailsToStop op) :
    Honest (s.apply op).2 := by
  cases op with
  | start world => exact honest_start hi
  | stop world => exact honest_stop hi hok
  | patchProvider patch => exact honest_mutate hi (setProvider_running _ _) id
  | patchDirection patch world =>
    have hr := setDirection_running s.store patch
    exact honest_mutate hi hr fun hstored => honest_applyToRunning hstored hr.symm
  | patchVoiceProfile patch world =>
    have hr := setVoiceProfile_running s.store patch
    exact honest_mutate hi hr fun hstored => honest_applyToRunning hstored hr.symm
  | patchLatencyPolicy patch monotonicMs =>
    show Honest (s.withStore _)
    unfold RuntimeStore.setLatencyPolicy
    split
    · exact honest_store hi rfl
    · exact hi
  | patchDebugText enabled => exact honest_store hi rfl
  | watch audioGraph devices => exact honest_store hi rfl
  | recordLatency direction atMs sample => exact honest_store hi rfl
  | observeQueue direction atMs queueLagMs => exact honest_store hi rfl
  | evaluateEpoch direction epochEndMs => exact honest_store hi rfl

/-! ### Every run -/

/-- Flag and handle agree after every request of a run exactly when no `stop_translation` of the run
    meets a runtime that fails to stop. -/
theorem run_shows_runtime_iff (translation manualRoutes : Bool) (ops : List Op) :
    (∀ pre, pre <+: ops → (exec apply (new translation manualRoutes) pre).2.ShowsRuntime)
      ↔ Adm apply (fun s op => ¬ s.FailsToStop op) (new translation manualRoutes) ops := by
  constructor
  · intro hall
    induction ops using List.reverseRecOn with
    | nil => intro pre op hp; simp at hp
    | append_singleton ops op ih =>
      have hadm := ih fun pre hp => hall pre (hp.trans (List.prefix_append ..))
      have hi : Honest (exec apply (new translation manualRoutes) ops).2 :=
        exec_invariant (I := fun _ s => Honest s) (honest_new translation manualRoutes)
          (fun _ _ op hi hok => honest_apply hi op hok) ops hadm
      intro pre o hp
      rcases List.prefix_concat_iff.mp hp with heq | hp
      · obtain ⟨rfl, ho⟩ := List.append_inj' heq rfl
        cases ho
        intro hfail
        have hshows := hall _ (List.prefix_refl _)
        rw [exec_concat] at hshows
        exact not_shows_of_failsToStop hi hfail hshows
      · exact hadm pre o hp
  · intro hadm pre hp
    have hpre : Adm apply (fun s op => ¬ s.FailsToStop op) (new translation manualRoutes) pre :=
      fun p o hpo => hadm p o (hpo.trans hp)
    exact (exec_invariant (I := fun _ s => Honest s) (honest_new translation manualRoutes)
      (fun _ _ op hi hok => honest_apply hi op hok) pre hpre).shows

/-- A world in which everything starts and nothing stops in time. -/
def stuckWorld : World where
  gateFree := true
  spawn := .ok ()
  halt := .err .stopFailed
  refreshPanics := false
  audioGraph := some .ready
  devices := some ⟨some ⟨"mic", true⟩, some ⟨"sink", true⟩, .headphones, .unavailable⟩

/-- Translation is started and stopped; the runtime does not stop in time and the request fails. -/
def stuckRun : List Op := [.start stuckWorld, .stop stuckWorld]

theorem stuckRun_shows_nothing :
    ¬ ∀ translation manualRoutes ops,
      (exec apply (new translation manualRoutes) ops).2.ShowsRuntime := by
  intro h
  have hflag := h true true stuckRun
  exact absurd hflag (by unfold ShowsRuntime; decide)

end ApiState

end Translator.Control
