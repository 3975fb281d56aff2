import Translator.Control.Api

/-! Does the store say where the audio goes? The provider a runtime streams to is fixed when it is
    launched, while `provider_id` and `audio_leaves_machine` live in the store. Every handler that
    changes what a runtime is launched with relaunches it, except `patch_provider`: as long as no
    accepted provider patch changes the provider under a running runtime, the two are in step. -/

namespace Translator.Control
open Schemes Core
open DuplexRuntimeHandle (start_cases stop_active)

/-- The provider a runtime was launched with. -/
def ActiveProductionRuntime.providerId (runtime : ActiveProductionRuntime) : ProviderId :=
  runtime.snapshot.providerId

/-- The snapshot tells the provider of the runtime, and every direction of the runtime uses it. -/
structure Describes (snapshot : RuntimeSnapshot) (runtime : ActiveProductionRuntime) : Prop where
  provider : snapshot.providerId = runtime.providerId
  leaves : snapshot.audioLeavesMachine = decide (runtime.providerId = .openai)
  directions : ∀ l ∈ runtime.launch.directions, l.runtime.providerId = runtime.providerId

namespace ApiState

/-- The runtime that is active, if any. -/
def runtime (s : ApiState) : Option ActiveProductionRuntime := s.translation.bind (·.active)

/-- The operation switches the provider while a runtime is active: the patch is accepted and names
    another provider than the store does. -/
def SwitchesUnderRuntime (s : ApiState) (op : Op) : Prop :=
  ∃ patch, op = .patchProvider patch ∧ s.runtime.isSome
    ∧ patch.providerId ≠ s.store.snapshot.providerId
    ∧ (patch.providerId = .openai → patch.cloudOptIn = some true)

/-- A handle in step with the store: a poisoned one owns nothing, and what it owns is reported as
    running with the provider it was launched with. -/
structure Tracks (store : RuntimeStore) (h : DuplexRuntimeHandle) : Prop where
  poisoned : h.poisoned = true → h.active = none
  running : ∀ r, h.active = some r → store.snapshot.translationRunning = true
  provider : ∀ r, h.active = some r → store.snapshot.providerId = r.providerId
  launched : ∀ r, h.active = some r → ∀ l ∈ r.launch.directions, l.runtime.providerId = r.providerId

/-- The store says that audio leaves the machine exactly when its provider is the cloud one, and the
    handle is in step with it. -/
structure InStep (s : ApiState) : Prop where
  leaves : s.store.snapshot.audioLeavesMachine = decide (s.store.snapshot.providerId = .openai)
  tracks : ∀ h, s.translation = some h → Tracks s.store h

variable {s : ApiState} {store : RuntimeStore} {h h' : DuplexRuntimeHandle} {world : World}
  {snapshot : RuntimeSnapshot} {r : Outcome ControlFailure Unit}

theorem inStep_new (translation manualRoutes : Bool) : InStep (new translation manualRoutes) where
  leaves := rfl
  tracks := fun h hh => by
    cases translation with
    | false => cases hh
    | true => cases hh; exact ⟨by simp [DuplexRuntimeHandle.idle], by simp [DuplexRuntimeHandle.idle],
        by simp [DuplexRuntimeHandle.idle], by simp [DuplexRuntimeHandle.idle]⟩

/-- A handle that owns nothing is in step with any store. -/
theorem tracks_none (hnone : h.active = none) : Tracks store h where
  poisoned := fun _ => hnone
  running := fun r hr => by rw [hnone] at hr; cases hr
  provider := fun r hr => by rw [hnone] at hr; cases hr
  launched := fun r hr => by rw [hnone] at hr; cases hr

/-- A change of the store that keeps what is reported of the runtime. -/
theorem tracks_store {store' : RuntimeStore} (ht : Tracks store h)
    (hr : store'.snapshot.translationRunning = store.snapshot.translationRunning)
    (hp : store'.snapshot.providerId = store.snapshot.providerId) : Tracks store' h where
  poisoned := ht.poisoned
  running := fun r hrt => by rw [hr]; exact ht.running r hrt
  provider := fun r hrt => by rw [hp]; exact ht.provider r hrt
  launched := ht.launched

/-! ### The handle -/

/-- A launched snapshot is in step with a store that shows it running. -/
theorem tracks_launched {launch : DuplexLaunch} (hp : h.poisoned = false)
    (hl : DuplexLaunch.tryFrom snapshot = .ok launch)
    (hrun : store.snapshot.translationRunning = true)
    (hprov : store.snapshot.providerId = snapshot.providerId) :
    Tracks store { h with active := some ⟨snapshot, launch⟩ } where
  poisoned := fun hp' => by rw [show h.poisoned = true from hp'] at hp; cases hp
  running := fun _ _ => hrun
  provider := fun _ hr => by cases hr; exact hprov
  launched := fun _ hr => by cases hr; exact (tryFrom_provider hl).1

/-- A refused start keeps a handle in step. -/
theorem tracks_refused (ht : Tracks store h) (hact : h'.active = h.active)
    (hp : h'.poisoned = true → h.poisoned = true ∨ h.active = none) : Tracks store h' where
  poisoned := fun hp' => by rw [hact]; exact (hp hp').elim ht.poisoned id
  running := fun r hr => ht.running r (hact ▸ hr)
  provider := fun r hr => ht.provider r (hact ▸ hr)
  launched := fun r hr => ht.launched r (hact ▸ hr)

/-- A reconfiguration relaunches the store's snapshot, or leaves nothing running. -/
theorem reconfigure_tracks (ht : Tracks store h)
    (hs : h.reconfigure store.snapshot world = (r, h')) :
    (r = .ok () → store.snapshot.translationRunning = true → Tracks store h')
      ∧ (r ≠ .ok () → h'.active = none) := by
  unfold DuplexRuntimeHandle.reconfigure at hs
  cases hstop : h.stop world with
  | mk r₁ h₁ =>
    have hnone := stop_active ht.poisoned hstop
    rw [hstop] at hs
    cases r₁ with
    | ok x =>
      rcases start_cases hs with ⟨hr, hact, -⟩ | ⟨hr, hp, launch, hl, rfl⟩
      · exact ⟨fun h => absurd h hr, fun _ => hact.trans hnone⟩
      · exact ⟨fun _ hrun => tracks_launched hp hl hrun rfl, fun h => absurd hr h⟩
    | err e => cases hs; exact ⟨by simp, fun _ => hnone⟩
    | panic => cases hs; exact ⟨by simp, fun _ => hnone⟩

/-! ### The handlers -/

/-- A change of the store alone. -/
theorem inStep_store {store' : RuntimeStore} (hi : InStep s)
    (hr : store'.snapshot.translationRunning = s.store.snapshot.translationRunning)
    (hp : store'.snapshot.providerId = s.store.snapshot.providerId)
    (hl : store'.snapshot.audioLeavesMachine = s.store.snapshot.audioLeavesMachine) :
    InStep (s.withStore store') where
  leaves := by rw [withStore, hl, hp]; exact hi.leaves
  tracks := fun h hh => tracks_store (hi.tracks h hh) hr hp

theorem inStep_refreshed (hi : InStep s) : InStep (s.refreshed world) := by
  unfold refreshed
  split
  · exact inStep_store hi rfl rfl rfl
  · exact hi

theorem inStep_start (hi : InStep s) : InStep (s.startTranslation world).2 := by
  unfold startTranslation
  cases ht : s.translation with
  | none => exact hi
  | some controller =>
    have hi' : InStep (s.refreshed world) := inStep_refreshed hi
    have htr : (s.refreshed world).translation = some controller := by
      unfold refreshed; split <;> exact ht
    generalize s.refreshed world = s at hi' htr
    have htracks := hi'.tracks controller htr
    dsimp only
    split
    · exact hi'
    cases hst : controller.start s.store.snapshot world with
    | mk r h' =>
      rcases start_cases hst with ⟨hr, hact, hp⟩ | ⟨hr, hp, launch, hl, rfl⟩
      · have hrefused : InStep { s with translation := some h' } :=
          ⟨hi'.leaves, fun h hh => by cases hh; exact tracks_refused htracks hact hp⟩
        cases r with
        | ok x => exact absurd rfl hr
        | err e => exact hrefused
        | panic => exact hrefused
      · subst hr
        exact ⟨hi'.leaves, fun h hh => by cases hh; exact tracks_launched hp hl rfl rfl⟩

theorem inStep_stop (hi : InStep s) : InStep (s.stopTranslation world).2 := by
  unfold stopTranslation
  cases ht : s.translation with
  | none => exact hi
  | some controller =>
    dsimp only
    cases hst : controller.stop world with
    | mk r h' =>
      have hnone := stop_active (hi.tracks controller ht).poisoned hst
      have hdown : InStep { s with translation := some h' } :=
        ⟨hi.leaves, fun h hh => by cases hh; exact tracks_none hnone⟩
      cases r with
      | ok x =>
        have hstopped : InStep { s with store := s.store.setTranslationRunning false,
                                        translation := some h' } :=
          ⟨hi.leaves, fun h hh => by cases hh; exact tracks_none hnone⟩
        dsimp only
        split <;> exact inStep_refreshed hstopped
      | err e => exact hdown
      | panic => exact hdown

theorem inStep_applyToRunning (hi : InStep s) {wasRunning : Bool}
    (hrun : wasRunning = s.store.snapshot.translationRunning) :
    InStep (s.applyToRunning wasRunning world).2 := by
  unfold applyToRunning
  split
  case isFalse => exact hi
  next hwas =>
  cases ht : s.translation with
  | none => exact hi
  | some controller =>
    dsimp only
    cases hst : controller.reconfigure s.store.snapshot world with
    | mk r h' =>
      obtain ⟨hok, hno⟩ := reconfigure_tracks (hi.tracks controller ht) hst
      cases r with
      | ok x =>
        exact ⟨hi.leaves, fun h hh => by cases hh; exact hok rfl (by rw [← hrun]; exact hwas)⟩
      | err e =>
        exact ⟨hi.leaves, fun h hh => by cases hh; exact tracks_none (hno (by simp))⟩
      | panic =>
        exact ⟨hi.leaves, fun h hh => by cases hh; exact tracks_none (hno (by simp))⟩

/-- A refused mutation changes nothing, and an accepted one leads on. -/
theorem inStep_mutate {mutation : Mutation} {next : ApiState → Served} (hi : InStep s)
    (hno : mutation.1 ≠ .ok () → mutation.2 = s.store)
    (hok : mutation.1 = .ok () → InStep (next (s.withStore mutation.2)).2) :
    InStep (s.mutate mutation next).2 := by
  obtain ⟨res, store'⟩ := mutation
  cases res with
  | ok x => exact hok rfl
  | err e => obtain rfl : store' = s.store := hno (by simp); exact hi
  | panic => obtain rfl : store' = s.store := hno (by simp); exact hi

theorem setDirection_cases (store : RuntimeStore) (patch : DirectionPatch) :
    ((store.setDirection patch).1 ≠ .ok () ∧ (store.setDirection patch).2 = store)
      ∨ ∃ f, (store.setDirection patch).2 = store.withDirection patch.directionId f := by
  unfold RuntimeStore.setDirection
  split
  · exact .inl ⟨by simp, rfl⟩
  · split
    · exact .inl ⟨by simp, rfl⟩
    · exact .inr ⟨_, rfl⟩

theorem setVoiceProfile_cases (store : RuntimeStore) (patch : VoiceProfilePatch) :
    ((store.setVoiceProfile patch).1 ≠ .ok () ∧ (store.setVoiceProfile patch).2 = store)
      ∨ ∃ f, (store.setVoiceProfile patch).2 = store.withDirection patch.directionId f := by
  unfold RuntimeStore.setVoiceProfile
  split
  · exact .inl ⟨by simp, rfl⟩
  · split
    · exact .inl ⟨by simp, rfl⟩
    · exact .inr ⟨_, rfl⟩

theorem setProvider_cases (store : RuntimeStore) (patch : ProviderPatch) :
    ((store.setProvider patch).1 ≠ .ok () ∧ (store.setProvider patch).2 = store)
      ∨ (patch.providerId = .openai → patch.cloudOptIn = some true)
        ∧ (store.setProvider patch).1 = .ok ()
        ∧ (store.setProvider patch).2
          = { store with
              snapshot :=
                { store.snapshot with
                  providerId := patch.providerId
                  audioLeavesMachine := decide (patch.providerId = .openai) } } := by
  unfold RuntimeStore.setProvider
  split
  · exact .inl ⟨by simp, rfl⟩
  · next hin => exact .inr ⟨fun ho => not_not.mp fun hopt => hin ⟨ho, hopt⟩, rfl, rfl⟩

/-- A change of a direction, applied to what is running. -/
theorem inStep_directions {mutation : Mutation} (hi : InStep s)
    (hcases : (mutation.1 ≠ .ok () ∧ mutation.2 = s.store)
      ∨ ∃ directionId f, mutation.2 = s.store.withDirection directionId f) :
    InStep (s.mutate mutation fun changed =>
      changed.applyToRunning s.store.snapshot.translationRunning world).2 := by
  rcases hcases with ⟨hr, hsame⟩ | ⟨directionId, f, hchanged⟩
  · exact inStep_mutate hi (fun _ => hsame) fun hok => absurd hok hr
  · obtain ⟨res, store'⟩ := mutation
    obtain rfl : store' = _ := hchanged
    have hstored : InStep (s.withStore (s.store.withDirection directionId f)) :=
      inStep_store hi rfl rfl rfl
    cases res with
    | ok x => exact inStep_applyToRunning hstored rfl
    | err e => exact hstored
    | panic => exact hstored

theorem inStep_patchDirection (hi : InStep s) (patch : DirectionPatch) :
    InStep (s.patchDirection patch world).2 :=
  inStep_directions hi ((setDirection_cases s.store patch).imp_right fun ⟨f, hf⟩ => ⟨_, f, hf⟩)

theorem inStep_patchVoiceProfile (hi : InStep s) (patch : VoiceProfilePatch) :
    InStep (s.patchVoiceProfile patch world).2 :=
  inStep_directions hi ((setVoiceProfile_cases s.store patch).imp_right fun ⟨f, hf⟩ => ⟨_, f, hf⟩)

/-- A provider patch keeps the two in step unless it switches the provider under a runtime. -/
theorem inStep_patchProvider (hi : InStep s) (patch : ProviderPatch)
    (hok : ¬ s.SwitchesUnderRuntime (.patchProvider patch)) : InStep (s.patchProvider patch).2 := by
  rcases setProvider_cases s.store patch with ⟨hr, hsame⟩ | ⟨hopt, hr, hchanged⟩
  · exact inStep_mutate hi (fun _ => hsame) fun hacc => absurd hacc hr
  refine inStep_mutate hi (fun hno => absurd hr hno) fun _ => ?_
  rw [hchanged]
  refine ⟨rfl, fun h hh => ?_⟩
  have ht := hi.tracks h hh
  refine ⟨ht.poisoned, ht.running, fun r hrt => ?_, ht.launched⟩
  -- under a running runtime an accepted patch names the provider the store already has
  by_contra hne
  refine hok ⟨patch, rfl, ?_, fun heq => hne (heq.trans (ht.provider r hrt)), hopt⟩
  rw [runtime, show s.translation = some h from hh]
  exact Option.isSome_iff_exists.mpr ⟨r, hrt⟩

theorem inStep_apply (hi : InStep s) (op : Op) (hok : ¬ s.SwitchesUnderRuntime op) :
    InStep (s.apply op).2 := by
  cases op with
  | start world => exact inStep_start hi
  | stop world => exact inStep_stop hi
  | patchProvider patch => exact inStep_patchProvider hi patch hok
  | patchDirection patch world => exact inStep_patchDirection hi patch
  | patchVoiceProfile patch world => exact inStep_patchVoiceProfile hi patch
  | patchLatencyPolicy patch monotonicMs =>
    show InStep (s.withStore _)
    unfold RuntimeStore.setLatencyPolicy
    split
    · exact inStep_store hi rfl rfl rfl
    · exact hi
  | patchDebugText enabled => exact inStep_store hi rfl rfl rfl
  | watch audioGraph devices => exact inStep_store hi rfl rfl rfl
  | recordLatency direction atMs sample => exact inStep_store hi rfl rfl rfl
  | observeQueue direction atMs queueLagMs => exact inStep_store hi rfl rfl rfl
  | evaluateEpoch direction epochEndMs => exact inStep_store hi rfl rfl rfl

/-! ### Every run -/

theorem describes_of_inStep (hi : InStep s) {r : ActiveProductionRuntime}
    (hr : s.runtime = some r) : Describes s.store.snapshot r := by
  unfold runtime at hr
  cases ht : s.translation with
  | none => rw [ht] at hr; cases hr
  | some h =>
    rw [ht] at hr
    have htr := hi.tracks h ht
    have hp := htr.provider r hr
    exact ⟨hp, by rw [hi.leaves, hp], htr.launched r hr⟩

/-- As long as no provider patch switches the provider under a running runtime, the store describes
    the runtime that is active. -/
theorem run_describes_runtime (translation manualRoutes : Bool) (ops : List Op)
    (hadm : Adm apply (fun s op => ¬ s.SwitchesUnderRuntime op) (new translation manualRoutes) ops)
    {r : ActiveProductionRuntime}
    (hr : (exec apply (new translation manualRoutes) ops).2.runtime = some r) :
    Describes (exec apply (new translation manualRoutes) ops).2.store.snapshot r :=
  describes_of_inStep (exec_invariant (I := fun _ s => InStep s)
    (inStep_new translation manualRoutes) (fun _ _ op hi hok => inStep_apply hi op hok) ops hadm) hr

/-- A world in which everything goes well. -/
def fairWorld : World where
  gateFree := true
  spawn := .ok ()
  halt := .ok ()
  refreshPanics := false
  audioGraph := some .ready
  devices := some ⟨some ⟨"mic", true⟩, some ⟨"sink", true⟩, .headphones, .unavailable⟩

/-- The cloud provider is chosen, translation started, and the speaker direction switched off. -/
def cloudRun : List Op :=
  [.patchProvider ⟨.openai, some true⟩, .start fairWorld,
    .patchDirection ⟨.speaker, none, none, some false⟩ fairWorld]

/-- The runtime the run ends with. -/
def cloudRuntime (ops : List Op) : ActiveProductionRuntime :=
  ((exec apply (new true true) ops).2.runtime).getD ⟨.default, none, none⟩

theorem cloudRun_describes_runtime :
    (cloudRuntime cloudRun).providerId = .openai
      ∧ Describes (exec apply (new true true) cloudRun).2.store.snapshot (cloudRuntime cloudRun) := by
  refine ⟨by decide, run_describes_runtime true true cloudRun ?_ (by decide)⟩
  refine adm_cons ?_ (adm_cons ?_ (adm_cons ?_ (adm_of_forall (by simp))))
  · rintro ⟨patch, -, hrt, -⟩
    exact absurd hrt (by decide)
  · rintro ⟨patch, ⟨⟩, -⟩
  · rintro ⟨patch, ⟨⟩, -⟩

/-- The cloud provider is chosen, translation started, and the local provider chosen again: the
    runtime still streams to the cloud. -/
def silentRun : List Op :=
  [.patchProvider ⟨.openai, some true⟩, .start fairWorld, .patchProvider ⟨.local, none⟩]

theorem silentRun_hides_egress :
    ¬ ∀ translation manualRoutes ops r,
      (exec apply (new translation manualRoutes) ops).2.runtime = some r →
        Describes (exec apply (new translation manualRoutes) ops).2.store.snapshot r := by
  intro h
  have hd := (h true true silentRun (cloudRuntime silentRun) (by decide)).leaves
  exact absurd hd (by decide)

end ApiState

end Translator.Control
