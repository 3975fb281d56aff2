import Translator.Control.Launch
import Translator.Schemes.Run

/-! The control API: the request handlers of `api.rs` over the store and over the handle that owns the
    running duplex runtime. What the outside world decides (whether another audio operation holds the
    gate, whether the runner starts or stops, what a refresh finds) comes with each request. A panic
    inside the handle poisons its mutex, and every later call on it panics too. -/

namespace Translator.Control
open Schemes Core Latency

structure ControlFailure where
  status : Nat
  code : String
  deriving DecidableEq, Repr

/-- A running duplex runtime, with the snapshot the runner was given. -/
structure ActiveProductionRuntime where
  snapshot : RuntimeSnapshot
  launch : DuplexLaunch
  deriving DecidableEq, Repr

structure DuplexRuntimeHandle where
  active : Option ActiveProductionRuntime
  poisoned : Bool
  deriving DecidableEq, Repr

/-- What the world answers while a request is served. -/
structure World where
  gateFree : Bool
  spawn : Outcome DuplexRuntimeError Unit
  halt : Outcome DuplexRuntimeError Unit
  refreshPanics : Bool
  audioGraph : Option GraphHealth
  devices : Option DeviceState
  deriving DecidableEq, Repr

/-- `ProcessDuplexRunner::start`: the snapshot is turned into a launch, which is spawned unless it
    runs no direction at all. -/
def startRunner (snapshot : RuntimeSnapshot) (spawn : Outcome DuplexRuntimeError Unit) :
    Outcome DuplexRuntimeError DuplexLaunch :=
  match DuplexLaunch.tryFrom snapshot with
  | .error error => .err error
  | .ok launch => if launch.bypassOnly then .ok launch else spawn.map fun _ => launch

def startFailure : DuplexRuntimeError → ControlFailure
  | .invalidConfiguration => ⟨409, "translation_precondition_failed"⟩
  | .startFailed => ⟨503, "translation_start_failed"⟩
  | .stopFailed => ⟨503, "translation_start_failed"⟩

namespace DuplexRuntimeHandle

variable (h : DuplexRuntimeHandle)

def idle : DuplexRuntimeHandle := ⟨none, false⟩

def start (snapshot : RuntimeSnapshot) (world : World) :
    Outcome ControlFailure Unit × DuplexRuntimeHandle :=
  if h.poisoned then (.panic, h)
  else if h.active.isSome then (.err ⟨409, "translation_already_running"⟩, h)
  else if !world.gateFree then (.err ⟨409, "audio_operation_busy"⟩, h)
  else
    match startRunner snapshot world.spawn with
    | .ok launch => (.ok (), { h with active := some ⟨snapshot, launch⟩ })
    | .err error => (.err (startFailure error), h)
    | .panic => (.panic, { h with poisoned := true })

/-- `runtime.stop()`; a bypass has nothing to stop. -/
def stopRuntime (runtime : ActiveProductionRuntime) (world : World) :
    Outcome DuplexRuntimeError Unit :=
  if runtime.launch.bypassOnly then .ok () else world.halt

/-- The runtime is taken out before it is stopped, so it is gone whatever comes of the stop. -/
def stop (world : World) : Outcome ControlFailure Unit × DuplexRuntimeHandle :=
  if h.poisoned then (.panic, h)
  else
    match h.active with
    | none => (.err ⟨409, "translation_not_running"⟩, h)
    | some runtime =>
      match stopRuntime runtime world with
      | .ok () => (.ok (), { h with active := none })
      | .err _ => (.err ⟨409, "translation_not_running"⟩, { h with active := none })
      | .panic => (.panic, ⟨none, true⟩)

def reconfigure (snapshot : RuntimeSnapshot) (world : World) :
    Outcome ControlFailure Unit × DuplexRuntimeHandle :=
  match h.stop world with
  | (.ok (), h') => h'.start snapshot world
  | refused => refused

/-! ### What the handle does -/

variable {h h' : DuplexRuntimeHandle} {world : World} {snapshot : RuntimeSnapshot}
  {r : Outcome ControlFailure Unit}

theorem startRunner_ok {spawn : Outcome DuplexRuntimeError Unit} {launch : DuplexLaunch}
    (hs : startRunner snapshot spawn = .ok launch) : DuplexLaunch.tryFrom snapshot = .ok launch := by
  unfold startRunner at hs
  split at hs
  · cases hs
  · next launch' hl =>
    split at hs
    · cases hs; exact hl
    · cases spawn <;> cases hs
      exact hl

/-- A start is refused with the owned runtime as it was, or launches the snapshot it is given. -/
theorem start_cases (hs : h.start snapshot world = (r, h')) :
    (r ≠ .ok () ∧ h'.active = h.active ∧ (h'.poisoned = true → h.poisoned = true ∨ h.active = none))
      ∨ r = .ok () ∧ h.poisoned = false ∧ ∃ launch, DuplexLaunch.tryFrom snapshot = .ok launch
        ∧ h' = { h with active := some ⟨snapshot, launch⟩ } := by
  unfold start at hs
  split at hs
  · cases hs; exact .inl ⟨by simp, rfl, .inl⟩
  next hp =>
  split at hs
  · cases hs; exact .inl ⟨by simp, rfl, .inl⟩
  next hact =>
  split at hs
  · cases hs; exact .inl ⟨by simp, rfl, .inl⟩
  split at hs
  · next launch hl =>
    cases hs
    exact .inr ⟨rfl, by simpa using hp, launch, startRunner_ok hl, rfl⟩
  · cases hs; exact .inl ⟨by simp, rfl, .inl⟩
  · cases hs; exact .inl ⟨by simp, rfl, fun _ => .inr (by simpa using hact)⟩

/-- After a stop nothing is owned, whatever came of it. -/
theorem stop_active (hp : h.poisoned = true → h.active = none) (hs : h.stop world = (r, h')) :
    h'.active = none := by
  unfold stop at hs
  split at hs
  · next hpoisoned => cases hs; exact hp hpoisoned
  split at hs
  · next hnone => cases hs; exact hnone
  split at hs <;> cases hs <;> rfl

end DuplexRuntimeHandle

/-- What a request is answered with; `aborted` is a handler that panicked. -/
inductive Response where
  | snapshot (value : RuntimeSnapshot)
  | problem (status : Nat) (code : String)
  | aborted
  deriving DecidableEq, Repr

structure ApiState where
  store : RuntimeStore
  translation : Option DuplexRuntimeHandle
  manualRoutes : Bool
  deriving DecidableEq, Repr

abbrev Served := Response × ApiState

namespace ApiState

/-- A fresh daemon, with or without a translation and a route controller. -/
def new (translation manualRoutes : Bool) : ApiState :=
  ⟨.default, if translation then some .idle else none, manualRoutes⟩

variable (s : ApiState)

/-- The current snapshot, as a response. -/
def ok : Served := (.snapshot s.store.snapshot, s)

/-- A response that leaves the state as it is. -/
def fail (status : Nat) (code : String) : Served := (.problem status code, s)

def withStore (store : RuntimeStore) : ApiState := { s with store := store }

/-- The refresh of the audio state, when a route controller is there. -/
def refreshed (world : World) : ApiState :=
  if s.manualRoutes then s.withStore (s.store.refreshAudioState world.audioGraph world.devices)
  else s

def startTranslation (world : World) : Served :=
  match s.translation with
  | none => s.fail 503 "translation_controller_unavailable"
  | some controller =>
    let s := s.refreshed world
    if s.manualRoutes && world.refreshPanics then s.fail 500 "audio_refresh_failed"
    else
      match controller.start s.store.snapshot world with
      | (.ok (), controller) =>
        ok { s with
          store := s.store.setTranslationRunning true
          translation := some controller }
      | (.err error, controller) =>
        { s with translation := some controller }.fail error.status error.code
      | (.panic, controller) =>
        { s with translation := some controller }.fail 500 "translation_controller_failed"

def stopTranslation (world : World) : Served :=
  match s.translation with
  | none => s.fail 503 "translation_controller_unavailable"
  | some controller =>
    match controller.stop world with
    | (.ok (), controller) =>
      let s :=
        { s with
          store := s.store.setTranslationRunning false
          translation := some controller }
      let s := s.refreshed world
      if s.manualRoutes && world.refreshPanics then s.fail 500 "audio_refresh_failed" else s.ok
    | (.err error, controller) =>
      { s with translation := some controller }.fail error.status error.code
    | (.panic, controller) =>
      { s with translation := some controller }.fail 500 "translation_controller_failed"

def mutationFailure : RuntimeMutationError → String
  | .invalidLanguagePair => "invalid_language_pair"
  | .voiceLanguageMismatch => "voice_language_mismatch"
  | .cloudProviderOptInRequired => "cloud_provider_opt_in_required"

/-- The part `patch_direction` and `patch_voice_profile` share: a running translation is reconfigured
    to the changed store, and is reported stopped when that fails. -/
def applyToRunning (wasRunning : Bool) (world : World) : Served :=
  if wasRunning then
    match s.translation with
    | none => s.fail 503 "translation_controller_unavailable"
    | some controller =>
      match controller.reconfigure s.store.snapshot world with
      | (.ok (), controller) => ok { s with translation := some controller }
      | (.err error, controller) =>
        { s with
          store := s.store.setTranslationRunning false
          translation := some controller }.fail error.status error.code
      | (.panic, controller) =>
        { s with
          store := s.store.setTranslationRunning false
          translation := some controller }.fail 500 "translation_controller_failed"
  else s.ok

/-- A mutation of the store followed by what is done with the changed state. -/
def mutate (mutation : Mutation) (next : ApiState → Served) : Served :=
  match mutation with
  | (.ok (), store) => next (s.withStore store)
  | (.err error, store) => (s.withStore store).fail 400 (mutationFailure error)
  | (.panic, store) => (.aborted, s.withStore store)

def patchDirection (patch : DirectionPatch) (world : World) : Served :=
  s.mutate (s.store.setDirection patch) fun changed =>
    changed.applyToRunning s.store.snapshot.translationRunning world

def patchVoiceProfile (patch : VoiceProfilePatch) (world : World) : Served :=
  s.mutate (s.store.setVoiceProfile patch) fun changed =>
    changed.applyToRunning s.store.snapshot.translationRunning world

/-- The store is changed and nothing else: a running translation is left alone. -/
def patchProvider (patch : ProviderPatch) : Served :=
  s.mutate (s.store.setProvider patch) ok

def patchLatencyPolicy (patch : LatencyPolicyPatch) (monotonicMs : Nat) : Served :=
  ok (s.withStore (s.store.setLatencyPolicy patch monotonicMs))

def patchDebugText (enabled : Bool) : Served := ok (s.withStore (s.store.setDebugTextEnabled enabled))

/-! ### Requests as operations -/

/-- A request of the control API, or one of the store's other writers at work. -/
inductive Op where
  | start (world : World)
  | stop (world : World)
  | patchProvider (patch : ProviderPatch)
  | patchDirection (patch : DirectionPatch) (world : World)
  | patchVoiceProfile (patch : VoiceProfilePatch) (world : World)
  | patchLatencyPolicy (patch : LatencyPolicyPatch) (monotonicMs : Nat)
  | patchDebugText (enabled : Bool)
  | watch (audioGraph : Option GraphHealth) (devices : Option DeviceState)
  | recordLatency (direction : AudioDirection) (atMs : Nat) (sample : LatencySample)
  | observeQueue (direction : AudioDirection) (atMs : Nat) (queueLagMs : Option Nat)
  | evaluateEpoch (direction : AudioDirection) (epochEndMs : Nat)

def apply : Op → Served
  | .start world => s.startTranslation world
  | .stop world => s.stopTranslation world
  | .patchProvider patch => s.patchProvider patch
  | .patchDirection patch world => s.patchDirection patch world
  | .patchVoiceProfile patch world => s.patchVoiceProfile patch world
  | .patchLatencyPolicy patch monotonicMs => s.patchLatencyPolicy patch monotonicMs
  | .patchDebugText enabled => s.patchDebugText enabled
  | .watch audioGraph devices => ok (s.withStore (s.store.refreshAudioState audioGraph devices))
  | .recordLatency direction atMs sample =>
    ok (s.withStore (s.store.recordLatencyUtterance direction atMs sample).2)
  | .observeQueue direction atMs queueLagMs =>
    ok (s.withStore (s.store.observeLatencyQueue direction atMs queueLagMs).2)
  | .evaluateEpoch direction epochEndMs =>
    ok (s.withStore (s.store.evaluateLatencyEpoch direction epochEndMs).2)

end ApiState

end Translator.Control
