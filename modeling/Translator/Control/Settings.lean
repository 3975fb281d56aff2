import Translator.Control.DebugText
import Translator.Control.Launch
import Translator.Control.RoundTrip
import Translator.Latency.Clocks

/-! The settings of the store as a whole: the store of the control API with the audio mix, the self test
    and the debug text, and everything that is set on it. The launch relies on relations between the
    fields that no setter establishes alone. -/

namespace Translator.Control
open Schemes Core Latency

/-- The languages of a direction differ, and it speaks the one it translates to. -/
structure DirectionState.Consistent (direction : DirectionState) : Prop where
  languages : direction.sourceLanguage ≠ direction.targetLanguage
  voice : direction.voiceProfile.language = direction.targetLanguage

structure AudioMixState where
  microphoneOriginalPercent : Nat
  microphoneTranslationPercent : Nat
  speakerOriginalPercent : Nat
  speakerTranslationPercent : Nat
  deriving DecidableEq, Repr

def AudioMixState.default : AudioMixState := ⟨0, 100, 0, 100⟩

structure AudioMixPatch where
  microphoneOriginalPercent : Option Nat
  microphoneTranslationPercent : Option Nat
  speakerOriginalPercent : Option Nat
  speakerTranslationPercent : Option Nat
  deriving DecidableEq, Repr

structure AudioMixState.Bounded (mix : AudioMixState) : Prop where
  microphoneOriginal : mix.microphoneOriginalPercent ≤ 100
  microphoneTranslation : mix.microphoneTranslationPercent ≤ 100
  speakerOriginal : mix.speakerOriginalPercent ≤ 100
  speakerTranslation : mix.speakerTranslationPercent ≤ 100

/-- The `RuntimeMutationError` of the audio mix. -/
inductive AudioMixError where | invalidAudioMixVolume
  deriving DecidableEq, Repr

structure RoundTripSelfTestState where
  availability : String
  preconditions : Option RoundTripPreconditions
  status : RoundTripStatus
  deriving DecidableEq, Repr

def RoundTripSelfTestState.default : RoundTripSelfTestState := ⟨"unavailable", none, .default⟩

/-- The status without its transcript and translation. -/
def RoundTripSelfTestState.withoutDebugText (state : RoundTripSelfTestState) :
    RoundTripSelfTestState :=
  { state with status := { state.status with debugText := none } }

/-- The `RuntimeStore` with the fields of the snapshot that the control API does not read back. -/
structure RuntimeSettings extends RuntimeStore where
  audioMix : AudioMixState
  selfTest : RoundTripSelfTestState
  debugText : DebugTextBuffer
  deriving DecidableEq, Repr

namespace RuntimeSettings

def default : RuntimeSettings := ⟨.default, .default, .default, .default⟩

variable (s : RuntimeSettings)

def withStore (store : RuntimeStore) : RuntimeSettings := { s with toRuntimeStore := store }

def setSelfTest (state : RoundTripSelfTestState) : RuntimeSettings :=
  { s with selfTest := if s.snapshot.debugTextEnabled then state else state.withoutDebugText }

def setDirection (patch : DirectionPatch) : Outcome RuntimeMutationError Unit × RuntimeSettings :=
  let (result, store) := s.toRuntimeStore.setDirection patch
  (result, s.withStore store)

def setVoiceProfile (patch : VoiceProfilePatch) :
    Outcome RuntimeMutationError Unit × RuntimeSettings :=
  let (result, store) := s.toRuntimeStore.setVoiceProfile patch
  (result, s.withStore store)

/-- Another provider also takes the debug text away. -/
def setProvider (patch : ProviderPatch) : Outcome RuntimeMutationError Unit × RuntimeSettings :=
  match s.toRuntimeStore.setProvider patch with
  | (.ok (), store) =>
    (.ok (),
      { s.withStore store with
        selfTest := s.selfTest.withoutDebugText
        debugText := s.debugText.clear })
  | (result, store) => (result, s.withStore store)

def setAudioMix (patch : AudioMixPatch) : Except AudioMixError AudioMixState × RuntimeSettings :=
  if [patch.microphoneOriginalPercent, patch.microphoneTranslationPercent,
      patch.speakerOriginalPercent, patch.speakerTranslationPercent].any
        (fun value => value.any (100 < ·)) then
    (.error .invalidAudioMixVolume, s)
  else
    let audioMix : AudioMixState :=
      { microphoneOriginalPercent :=
          patch.microphoneOriginalPercent.getD s.audioMix.microphoneOriginalPercent
        microphoneTranslationPercent :=
          patch.microphoneTranslationPercent.getD s.audioMix.microphoneTranslationPercent
        speakerOriginalPercent :=
          patch.speakerOriginalPercent.getD s.audioMix.speakerOriginalPercent
        speakerTranslationPercent :=
          patch.speakerTranslationPercent.getD s.audioMix.speakerTranslationPercent }
    (.ok audioMix, { s with audioMix := audioMix })

def setTranslationRunning (running : Bool) : RuntimeSettings :=
  let s := s.withStore (s.toRuntimeStore.setTranslationRunning running)
  if running then s
  else { s with selfTest := s.selfTest.withoutDebugText, debugText := s.debugText.clear }

def setDebugTextEnabled (enabled : Bool) : RuntimeSettings :=
  let s := { s with debugText := s.debugText.setEnabled enabled }
  let s := s.withStore (s.toRuntimeStore.setDebugTextEnabled enabled)
  if enabled then s else { s with selfTest := s.selfTest.withoutDebugText }

inductive Op where
  | setDirection (patch : DirectionPatch)
  | setProvider (patch : ProviderPatch)
  | setVoiceProfile (patch : VoiceProfilePatch)
  | setAudioMix (patch : AudioMixPatch)
  | setLatencyPolicy (patch : LatencyPolicyPatch) (monotonicMs : Nat)
  | recordLatencyUtterance (direction : AudioDirection) (atMs : Nat) (sample : LatencySample)
  | observeLatencyQueue (direction : AudioDirection) (atMs : Nat) (queueLagMs : Option Nat)
  | evaluateLatencyEpoch (direction : AudioDirection) (epochEndMs : Nat)
  | setSelfTest (state : RoundTripSelfTestState)
  | setTranslationRunning (running : Bool)
  | setDebugTextEnabled (enabled : Bool)
  /-- What the audio watcher refreshes. -/
  | refreshAudioState (audioGraph : Option GraphHealth) (devices : Option DeviceState)
  deriving DecidableEq

inductive Answer where
  | mutated (result : Outcome RuntimeMutationError Unit)
  | mixed (result : Except AudioMixError AudioMixState)
  | observed (transition : Option LatencyTransition)
  | nothing

def apply : Op → Answer × RuntimeSettings
  | .setDirection patch =>
    let (result, s) := s.setDirection patch
    (.mutated result, s)
  | .setProvider patch =>
    let (result, s) := s.setProvider patch
    (.mutated result, s)
  | .setVoiceProfile patch =>
    let (result, s) := s.setVoiceProfile patch
    (.mutated result, s)
  | .setAudioMix patch =>
    let (result, s) := s.setAudioMix patch
    (.mixed result, s)
  | .setLatencyPolicy patch monotonicMs =>
    (.nothing, s.withStore (s.toRuntimeStore.setLatencyPolicy patch monotonicMs))
  | .recordLatencyUtterance direction atMs sample =>
    let (transition, store) := s.toRuntimeStore.recordLatencyUtterance direction atMs sample
    (.observed transition, s.withStore store)
  | .observeLatencyQueue direction atMs queueLagMs =>
    let (transition, store) := s.toRuntimeStore.observeLatencyQueue direction atMs queueLagMs
    (.observed transition, s.withStore store)
  | .evaluateLatencyEpoch direction epochEndMs =>
    let (transition, store) := s.toRuntimeStore.evaluateLatencyEpoch direction epochEndMs
    (.observed transition, s.withStore store)
  | .setSelfTest state => (.nothing, s.setSelfTest state)
  | .setTranslationRunning running => (.nothing, s.setTranslationRunning running)
  | .setDebugTextEnabled enabled => (.nothing, s.setDebugTextEnabled enabled)
  | .refreshAudioState audioGraph devices =>
    (.nothing, s.withStore (s.toRuntimeStore.refreshAudioState audioGraph devices))

/-- The mutation was refused. -/
def Answer.Rejected : Answer → Prop
  | .mutated result => ∀ u, result ≠ .ok u
  | .mixed result => ∀ mix, result ≠ .ok mix
  | _ => False

/-! ### How the fields hang together -/

/-- What every setter keeps. -/
structure Coherent : Prop where
  directions : s.snapshot.directions.map DirectionState.directionId = [.microphone, .speaker]
  consistent : ∀ direction ∈ s.snapshot.directions, direction.Consistent
  policies : s.snapshot.latencyPolicy = [s.latency.microphone.state, s.latency.speaker.state]
  policyIds : ∀ direction, (s.latency.policy direction).state.directionId = direction
  leaves : s.snapshot.audioLeavesMachine = true ↔ s.snapshot.providerId = .openai
  mix : s.audioMix.Bounded
  quiet : s.snapshot.debugTextEnabled = false → s.selfTest.status.debugText = none

variable {s}

theorem coherent_default : Coherent default where
  directions := rfl
  consistent := by
    intro direction hd
    rcases List.mem_pair.mp hd with rfl | rfl
    · exact ⟨by decide, rfl⟩
    · exact ⟨by decide, rfl⟩
  policies := rfl
  policyIds direction := by cases direction <;> rfl
  leaves := by decide
  mix := ⟨by decide, by decide, by decide, by decide⟩
  quiet _ := rfl

/-! ### Directions -/

section Directions

variable {id : AudioDirection} {f : DirectionState → DirectionState} {l : List DirectionState}
  {direction : DirectionState}

theorem updateFirst_ids (hf : ∀ d, (f d).directionId = d.directionId) (l : List DirectionState) :
    (RuntimeStore.updateFirst id f l).map DirectionState.directionId
      = l.map DirectionState.directionId := by
  induction l with
  | nil => rfl
  | cons d l ih =>
    unfold RuntimeStore.updateFirst
    split
    · rw [List.map_cons, List.map_cons, hf]
    · rw [List.map_cons, List.map_cons, ih]

/-- What is changed is the direction that was found. -/
theorem mem_updateFirst (h : direction ∈ RuntimeStore.updateFirst id f l) :
    direction ∈ l ∨ ∃ d, l.find? (fun d => d.directionId = id) = some d ∧ direction = f d := by
  induction l with
  | nil => exact .inl h
  | cons d l ih =>
    unfold RuntimeStore.updateFirst at h
    split at h
    · next hd =>
      rcases List.mem_cons.mp h with rfl | hrest
      · exact .inr ⟨d, by simp [hd], rfl⟩
      · exact .inl (List.mem_cons_of_mem _ hrest)
    · next hd =>
      rcases List.mem_cons.mp h with rfl | hrest
      · exact .inl List.mem_cons_self
      · rcases ih hrest with hold | ⟨d', hfind, heq⟩
        · exact .inl (List.mem_cons_of_mem _ hold)
        · exact .inr ⟨d', by simp [hd, hfind], heq⟩

theorem Coherent.direction?_isSome (h : Coherent s) (id : AudioDirection) :
    (s.toRuntimeStore.direction? id).isSome = true := by
  have hmem : id ∈ s.snapshot.directions.map DirectionState.directionId := by
    rw [h.directions]
    cases id <;> decide
  obtain ⟨d, hd, hid⟩ := List.mem_map.mp hmem
  rw [RuntimeStore.direction?, List.find?_isSome]
  exact ⟨d, hd, decide_eq_true hid⟩

/-- Rewriting a direction with a consistent one. -/
theorem coherent_withDirection (h : Coherent s) (hf : ∀ d, (f d).directionId = d.directionId)
    (hconsistent : ∀ d, s.toRuntimeStore.direction? id = some d → d.Consistent → (f d).Consistent) :
    Coherent (s.withStore (s.toRuntimeStore.withDirection id f)) where
  directions := (updateFirst_ids hf _).trans h.directions
  consistent := by
    intro direction hd
    rcases mem_updateFirst hd with hold | ⟨d, hfind, rfl⟩
    · exact h.consistent direction hold
    · exact hconsistent d hfind (h.consistent d (List.mem_of_find?_eq_some hfind))
  policies := h.policies
  policyIds := h.policyIds
  leaves := h.leaves
  mix := h.mix
  quiet := h.quiet

theorem languagePair_ne {patch : DirectionPatch} {pair : Language × Language}
    (h : RuntimeStore.languagePair patch = .ok (some pair)) : pair.1 ≠ pair.2 := by
  unfold RuntimeStore.languagePair at h
  split at h
  · split at h
    · next hne =>
      cases h
      exact hne
    · cases h
  · cases h
  · cases h

theorem setLanguages_consistent {pair : Language × Language} (hne : pair.1 ≠ pair.2) :
    (RuntimeStore.setLanguages pair direction).Consistent := by
  refine ⟨hne, ?_⟩
  simp only [RuntimeStore.setLanguages]
  split
  · rfl
  · next hsame => exact not_not.mp hsame

theorem patchDirection_consistent {patch : DirectionPatch} {pair : Option (Language × Language)}
    (hpair : RuntimeStore.languagePair patch = .ok pair) (h : direction.Consistent) :
    (RuntimeStore.patchDirection patch pair direction).Consistent := by
  unfold RuntimeStore.patchDirection
  cases pair with
  | none =>
    cases patch.enabled with
    | none => exact h
    | some enabled => exact ⟨h.languages, h.voice⟩
  | some pair =>
    have hlanguages : (RuntimeStore.setLanguages pair direction).Consistent :=
      setLanguages_consistent (languagePair_ne hpair)
    cases patch.enabled with
    | none => exact hlanguages
    | some enabled => exact ⟨hlanguages.languages, hlanguages.voice⟩

theorem patchDirection_id (patch : DirectionPatch) (pair : Option (Language × Language))
    (d : DirectionState) :
    (RuntimeStore.patchDirection patch pair d).directionId = d.directionId := by
  unfold RuntimeStore.patchDirection
  cases pair <;> cases patch.enabled <;> rfl

end Directions

/-- A patch of a direction is refused, or it is taken. -/
theorem setDirection_cases (h : Coherent s) (patch : DirectionPatch) :
    (∃ error, s.setDirection patch = (.err error, s))
      ∨ (s.setDirection patch).1 = .ok () ∧ Coherent (s.setDirection patch).2 := by
  simp only [setDirection, RuntimeStore.setDirection]
  cases hpair : RuntimeStore.languagePair patch with
  | error error => exact .inl ⟨error, rfl⟩
  | ok pair =>
    obtain ⟨d, hd⟩ := Option.isSome_iff_exists.mp (h.direction?_isSome patch.directionId)
    simp only [hd]
    refine .inr ⟨trivial, coherent_withDirection h (patchDirection_id patch pair) ?_⟩
    exact fun d _ hconsistent => patchDirection_consistent hpair hconsistent

theorem setVoiceProfile_cases (h : Coherent s) (patch : VoiceProfilePatch) :
    (∃ error, s.setVoiceProfile patch = (.err error, s))
      ∨ (s.setVoiceProfile patch).1 = .ok () ∧ Coherent (s.setVoiceProfile patch).2 := by
  simp only [setVoiceProfile, RuntimeStore.setVoiceProfile]
  obtain ⟨d, hd⟩ := Option.isSome_iff_exists.mp (h.direction?_isSome patch.directionId)
  simp only [hd]
  split
  · exact .inl ⟨_, rfl⟩
  · next hvoice =>
    refine .inr ⟨rfl, coherent_withDirection h (fun _ => rfl) fun d' hd' hconsistent => ?_⟩
    obtain rfl : d' = d := Option.some.inj (hd'.symm.trans hd)
    exact ⟨hconsistent.languages, not_not.mp hvoice⟩

/-! ### The other setters -/

theorem setProvider_cases (h : Coherent s) (patch : ProviderPatch) :
    (∃ error, s.setProvider patch = (.err error, s))
      ∨ (s.setProvider patch).1 = .ok () ∧ Coherent (s.setProvider patch).2 := by
  by_cases hno : patch.providerId = .openai ∧ patch.cloudOptIn ≠ some true
  · refine .inl ⟨.cloudProviderOptInRequired, ?_⟩
    simp only [setProvider, RuntimeStore.setProvider, if_pos hno]
    rfl
  · simp only [setProvider, RuntimeStore.setProvider, if_neg hno]
    refine .inr ⟨trivial, h.directions, h.consistent, h.policies, h.policyIds, ?_, h.mix, fun _ => rfl⟩
    exact decide_eq_true_iff

theorem setAudioMix_cases (h : Coherent s) (patch : AudioMixPatch) :
    (∃ error, s.setAudioMix patch = (.error error, s))
      ∨ (∃ mix, (s.setAudioMix patch).1 = .ok mix) ∧ Coherent (s.setAudioMix patch).2 := by
  unfold setAudioMix
  split
  · exact .inl ⟨_, rfl⟩
  · next hok =>
    have hbound : ∀ (value : Option Nat) (old : Nat), value.any (100 < ·) = false → old ≤ 100 →
        value.getD old ≤ 100 := by
      intro value old hvalue hold
      cases value with
      | none => exact hold
      | some n => simpa using hvalue
    simp only [List.any_cons, List.any_nil, Bool.or_false, Bool.or_eq_true, not_or,
      Bool.not_eq_true] at hok
    obtain ⟨h₁, h₂, h₃, h₄⟩ := hok
    refine .inr ⟨⟨_, rfl⟩, h.directions, h.consistent, h.policies, h.policyIds, h.leaves, ?_, h.quiet⟩
    exact ⟨hbound _ _ h₁ h.mix.microphoneOriginal, hbound _ _ h₂ h.mix.microphoneTranslation,
      hbound _ _ h₃ h.mix.speakerOriginal, hbound _ _ h₄ h.mix.speakerTranslation⟩

theorem coherent_setSelfTest (h : Coherent s) (state : RoundTripSelfTestState) :
    Coherent (s.setSelfTest state) := by
  refine ⟨h.directions, h.consistent, h.policies, h.policyIds, h.leaves, h.mix, fun hoff => ?_⟩
  have hoff : s.snapshot.debugTextEnabled = false := hoff
  simp only [setSelfTest, hoff]
  rfl

theorem coherent_setTranslationRunning (h : Coherent s) (running : Bool) :
    Coherent (s.setTranslationRunning running) := by
  unfold setTranslationRunning
  cases running with
  | true => exact ⟨h.directions, h.consistent, h.policies, h.policyIds, h.leaves, h.mix, h.quiet⟩
  | false =>
    exact ⟨h.directions, h.consistent, h.policies, h.policyIds, h.leaves, h.mix, fun _ => rfl⟩

theorem coherent_setDebugTextEnabled (h : Coherent s) (enabled : Bool) :
    Coherent (s.setDebugTextEnabled enabled) := by
  unfold setDebugTextEnabled
  cases enabled with
  | true => exact ⟨h.directions, h.consistent, h.policies, h.policyIds, h.leaves, h.mix, nofun⟩
  | false =>
    exact ⟨h.directions, h.consistent, h.policies, h.policyIds, h.leaves, h.mix, fun _ => rfl⟩

/-- The snapshot takes over what a call made of the latency policy. -/
theorem coherent_latency (h : Coherent s) {latency : DuplexLatencyPolicy}
    (hids : ∀ direction, (latency.policy direction).state.directionId = direction) :
    Coherent (s.withStore (s.toRuntimeStore.updateLatencySnapshot latency)) :=
  ⟨h.directions, h.consistent, rfl, hids, h.leaves, h.mix, h.quiet⟩

/-- A call on one direction keeps the names of both. -/
theorem update_ids (h : Coherent s) {direction : AudioDirection}
    {f : DirectionPolicy → Observed DirectionPolicy}
    (hf : ∀ p, (f p).2.state.directionId = p.state.directionId) (other : AudioDirection) :
    ((s.latency.update direction f).2.policy other).state.directionId = other := by
  rw [DuplexLatencyPolicy.update_policy]
  split
  · next heq => rw [hf, h.policyIds, heq]
  · exact h.policyIds other

theorem evaluateEpoch_id (p : DirectionPolicy) (epochEndMs : Nat) :
    (p.evaluateEpoch epochEndMs).2.state.directionId = p.state.directionId := by
  by_cases hev : p.evaluates epochEndMs = true
  · exact (DirectionPolicy.evaluateEpoch_call hev).direction
  · unfold DirectionPolicy.evaluateEpoch
    simp [hev]

theorem coherent_setLatencyPolicy (h : Coherent s) (patch : LatencyPolicyPatch) (monotonicMs : Nat) :
    Coherent (s.withStore (s.toRuntimeStore.setLatencyPolicy patch monotonicMs)) := by
  unfold RuntimeStore.setLatencyPolicy
  split
  · next transition latency heq =>
    refine coherent_latency h fun other => ?_
    have hids := @update_ids s h patch.directionId (fun p => p.forceMode monotonicMs patch.currentMode)
      (fun p => (p.forceMode_call monotonicMs patch.currentMode).direction) other
    rw [DuplexLatencyPolicy.forceMode] at heq
    rwa [heq] at hids
  · exact h

/-! ### Every run -/

/-- A mutation that is rejected changes nothing, and none is answered with a panic. -/
theorem apply_cases (h : Coherent s) (op : Op) :
    Coherent (s.apply op).2 ∧ ((s.apply op).1.Rejected → (s.apply op).2 = s)
      ∧ (s.apply op).1 ≠ .mutated .panic := by
  cases op with
  | setDirection patch =>
    rcases setDirection_cases h patch with ⟨error, heq⟩ | ⟨hok, hc⟩
    · have hstep : s.apply (.setDirection patch) = (.mutated (.err error), s) := by
        simp only [apply, heq]
      rw [hstep]
      exact ⟨h, fun _ => rfl, nofun⟩
    · refine ⟨hc, fun hrej => absurd hok (hrej ()), ?_⟩
      simp only [apply, hok]
      nofun
  | setProvider patch =>
    rcases setProvider_cases h patch with ⟨error, heq⟩ | ⟨hok, hc⟩
    · have hstep : s.apply (.setProvider patch) = (.mutated (.err error), s) := by
        simp only [apply, heq]
      rw [hstep]
      exact ⟨h, fun _ => rfl, nofun⟩
    · refine ⟨hc, fun hrej => absurd hok (hrej ()), ?_⟩
      simp only [apply, hok]
      nofun
  | setVoiceProfile patch =>
    rcases setVoiceProfile_cases h patch with ⟨error, heq⟩ | ⟨hok, hc⟩
    · have hstep : s.apply (.setVoiceProfile patch) = (.mutated (.err error), s) := by
        simp only [apply, heq]
      rw [hstep]
      exact ⟨h, fun _ => rfl, nofun⟩
    · refine ⟨hc, fun hrej => absurd hok (hrej ()), ?_⟩
      simp only [apply, hok]
      nofun
  | setAudioMix patch =>
    rcases setAudioMix_cases h patch with ⟨error, heq⟩ | ⟨⟨mix, hok⟩, hc⟩
    · have hstep : s.apply (.setAudioMix patch) = (.mixed (.error error), s) := by
        simp only [apply, heq]
      rw [hstep]
      exact ⟨h, fun _ => rfl, nofun⟩
    · exact ⟨hc, fun hrej => absurd hok (hrej mix), nofun⟩
  | setLatencyPolicy patch monotonicMs =>
    exact ⟨coherent_setLatencyPolicy h patch monotonicMs, False.elim, nofun⟩
  | recordLatencyUtterance direction atMs sample =>
    refine ⟨coherent_latency h fun other => ?_, False.elim, nofun⟩
    exact update_ids h (fun p => (p.recordUtterance_call atMs sample).direction) other
  | observeLatencyQueue direction atMs queueLagMs =>
    refine ⟨coherent_latency h fun other => ?_, False.elim, nofun⟩
    exact update_ids h (fun p => (p.observeQueueLag_call atMs queueLagMs).direction) other
  | evaluateLatencyEpoch direction epochEndMs =>
    refine ⟨coherent_latency h fun other => ?_, False.elim, nofun⟩
    exact update_ids h (fun p => evaluateEpoch_id p epochEndMs) other
  | setSelfTest state => exact ⟨coherent_setSelfTest h state, False.elim, nofun⟩
  | setTranslationRunning running =>
    exact ⟨coherent_setTranslationRunning h running, False.elim, nofun⟩
  | setDebugTextEnabled enabled =>
    exact ⟨coherent_setDebugTextEnabled h enabled, False.elim, nofun⟩
  | refreshAudioState audioGraph devices =>
    exact ⟨⟨h.directions, h.consistent, h.policies, h.policyIds, h.leaves, h.mix, h.quiet⟩,
      False.elim, nofun⟩

/-- One state and one latency entry per direction, as a count. -/
theorem filter_ids {α : Type*} {id : α → AudioDirection} {l : List α}
    (h : l.map id = [.microphone, .speaker]) (direction : AudioDirection) :
    ∃ a, l.filter (fun a => id a = direction) = [a] := by
  rcases l with _ | ⟨a, _ | ⟨b, _ | ⟨c, l⟩⟩⟩
  · simp at h
  · simp at h
  · simp only [List.map_cons, List.map_nil, List.cons.injEq, and_true] at h
    cases direction <;> simp [h.1, h.2]
  · simp at h

theorem Coherent.policyIds_eq (h : Coherent s) :
    s.snapshot.latencyPolicy.map LatencyPolicyState.directionId = [.microphone, .speaker] := by
  have hm : s.latency.microphone.state.directionId = .microphone := h.policyIds .microphone
  have hsp : s.latency.speaker.state.directionId = .speaker := h.policyIds .speaker
  rw [h.policies, List.map_cons, List.map_cons, List.map_nil, hm, hsp]

/-- A coherent snapshot is launched when its graph is ready. -/
theorem Coherent.validateLaunch (h : Coherent s) (hready : s.snapshot.audioGraph = some .ready) :
    validateLaunchSnapshot s.snapshot = .ok () := by
  have hvalid : ∀ direction, validDirection s.snapshot direction = true := by
    intro direction
    obtain ⟨state, hstate⟩ := filter_ids h.directions direction
    obtain ⟨policy, hpolicy⟩ := filter_ids h.policyIds_eq direction
    have hmem : state ∈ s.snapshot.directions := by
      have : state ∈ s.snapshot.directions.filter fun d => d.directionId = direction := by
        rw [hstate]
        exact List.mem_singleton_self state
      exact (List.mem_filter.mp this).1
    obtain ⟨hlanguages, hvoice⟩ := h.consistent state hmem
    simp [validDirection, hstate, hpolicy, hlanguages, hvoice]
  unfold validateLaunchSnapshot
  rw [if_neg, hvalid, hvalid]
  · rfl
  · rintro (⟨hopenai, hstays⟩ | hgraph)
    · rw [h.leaves.mpr hopenai] at hstays
      cases hstays
    · exact hgraph hready

/-- In every run the fields stay coherent, a rejected mutation changes nothing, and only the audio graph
    keeps a snapshot from being launched. -/
theorem run_coherent (ops : List Op) :
    let s := (exec apply default ops).2
    (∀ direction, (∃ state, s.snapshot.directions.filter (fun d => d.directionId = direction) = [state]
          ∧ state.sourceLanguage ≠ state.targetLanguage
          ∧ state.voiceProfile.language = state.targetLanguage)
        ∧ ∃ policy, s.snapshot.latencyPolicy.filter (fun p => p.directionId = direction) = [policy])
      ∧ s.snapshot.directions.length = 2
      ∧ (s.snapshot.audioLeavesMachine = true ↔ s.snapshot.providerId = .openai)
      ∧ s.audioMix.Bounded
      ∧ s.snapshot.latencyPolicy = [s.latency.microphone.state, s.latency.speaker.state]
      ∧ (s.snapshot.debugTextEnabled = false → s.selfTest.status.debugText = none)
      ∧ (∀ op, (s.apply op).1.Rejected → (s.apply op).2 = s)
      ∧ (validateLaunchSnapshot s.snapshot ≠ .ok () → s.snapshot.audioGraph ≠ some .ready) := by
  intro s
  have h : Coherent s := exec_state_invariant coherent_default (fun s op h => (apply_cases h op).1) ops
  refine ⟨fun direction => ⟨?_, filter_ids h.policyIds_eq direction⟩, ?_, h.leaves, h.mix, h.policies,
    h.quiet, fun op => (apply_cases h op).2.1, fun hrejected hready =>
      hrejected (h.validateLaunch hready)⟩
  · obtain ⟨state, hstate⟩ := filter_ids h.directions direction
    have hmem : state ∈ s.snapshot.directions.filter fun d => d.directionId = direction := by
      rw [hstate]
      exact List.mem_singleton_self state
    obtain ⟨hlanguages, hvoice⟩ := h.consistent state (List.mem_filter.mp hmem).1
    exact ⟨state, hstate, hlanguages, hvoice⟩
  · have hlength := congrArg List.length h.directions
    rwa [List.length_map] at hlength

end RuntimeSettings

end Translator.Control
