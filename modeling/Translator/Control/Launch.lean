import Translator.Control.Store
import Translator.Stream.DirectionSession

/-! `DuplexLaunch`: what a duplex runtime is started with. A snapshot is checked, the devices are
    resolved, and each enabled direction gets the configuration its session will run with. -/

namespace Translator.Control
open Schemes Core
open Translator.Stream (DirectionRuntimeConfig)

inductive DuplexRuntimeError where | invalidConfiguration | startFailed | stopFailed
  deriving DecidableEq, Repr

structure DuplexAudioTargets where
  microphoneCapture : String
  microphonePlayback : String
  speakerCapture : String
  speakerPlayback : String
  deriving DecidableEq, Repr

structure DirectionLaunch where
  runtime : DirectionRuntimeConfig
  captureDevice : String
  playbackDevice : String
  captureStreamName : String
  playbackStreamName : String
  deriving DecidableEq, Repr

structure DuplexLaunch where
  microphone : Option DirectionLaunch
  speaker : Option DirectionLaunch
  deriving DecidableEq, Repr

/-- The name of a selected device that is available. -/
def availableName (device : Option PhysicalDevice) : Except DuplexRuntimeError String :=
  match device with
  | some device => if device.available then .ok device.name else .error .invalidConfiguration
  | none => .error .invalidConfiguration

/-- The echo canceller is validated for exactly this pair and the output is one it serves. -/
def usesAec (devices : DeviceState) (source sink : String) : Bool :=
  decide (devices.mode ≠ .unknownUnsafe)
    && decide (devices.aecCapability = .validatedFor source sink)

def resolveDuplexAudioTargets (snapshot : RuntimeSnapshot) :
    Except DuplexRuntimeError DuplexAudioTargets :=
  match snapshot.devices with
  | none => .error .invalidConfiguration
  | some devices => do
    let source ← availableName devices.source
    let sink ← availableName devices.sink
    let (capture, playback) :=
      if usesAec devices source sink then ("translator_aec_source", "translator_aec_sink")
      else (source, sink)
    .ok
      { microphoneCapture := capture
        microphonePlayback := "translator_mic_out"
        speakerCapture := "translator_remote_in.monitor"
        speakerPlayback := playback }

/-- The directions and latency states of one direction, and the languages of an enabled one. -/
def validDirection (snapshot : RuntimeSnapshot) (direction : AudioDirection) : Bool :=
  match snapshot.directions.filter fun state => state.directionId = direction with
  | [state] =>
    (snapshot.latencyPolicy.filter fun policy => policy.directionId = direction).length = 1
      && !(state.enabled && (decide (state.sourceLanguage = state.targetLanguage)
        || decide (state.voiceProfile.language ≠ state.targetLanguage)))
  | _ => false

def validateLaunchSnapshot (snapshot : RuntimeSnapshot) : Except DuplexRuntimeError Unit :=
  if snapshot.providerId = .openai ∧ snapshot.audioLeavesMachine = false
      ∨ snapshot.audioGraph ≠ some .ready then
    .error .invalidConfiguration
  else if validDirection snapshot .microphone && validDirection snapshot .speaker then .ok ()
  else .error .invalidConfiguration

/-- The Unicode property `White_Space`, which `str::trim` strips. -/
def isWhiteSpace (c : Char) : Bool :=
  let n := c.toNat
  9 ≤ n && n ≤ 13 || n = 0x20 || n = 0x85 || n = 0xa0 || n = 0x1680 || 0x2000 ≤ n && n ≤ 0x200a
    || n = 0x2028 || n = 0x2029 || n = 0x202f || n = 0x205f || n = 0x3000

/-- `name.trim().is_empty()`. -/
def isBlank (name : String) : Bool := name.toList.all isWhiteSpace

def validateExplicitAudioTargets (targets : DuplexAudioTargets) : Except DuplexRuntimeError Unit :=
  if isBlank targets.microphoneCapture || isBlank targets.microphonePlayback
      || isBlank targets.speakerCapture || isBlank targets.speakerPlayback then
    .error .invalidConfiguration
  else .ok ()

def directionEnabled (snapshot : RuntimeSnapshot) (direction : AudioDirection) :
    Except DuplexRuntimeError Bool :=
  match snapshot.directions.find? fun state => state.directionId = direction with
  | some state => .ok state.enabled
  | none => .error .invalidConfiguration

def directionLaunch (snapshot : RuntimeSnapshot) (direction : AudioDirection)
    (captureDevice playbackDevice captureStreamName playbackStreamName : String) :
    Except DuplexRuntimeError DirectionLaunch :=
  match snapshot.directions.find? fun state => state.directionId = direction with
  | none => .error .invalidConfiguration
  | some state =>
    match snapshot.latencyPolicy.find? fun policy => policy.directionId = direction with
    | none => .error .invalidConfiguration
    | some policy =>
      .ok
        { runtime :=
            { providerId := snapshot.providerId
              direction := direction
              sourceLanguage := state.sourceLanguage
              targetLanguage := state.targetLanguage
              mode := policy.currentMode
              voiceGender := state.voiceProfile.gender
              voiceEngine := state.voiceProfile.engine
              debugTextEnabled := snapshot.debugTextEnabled }
          captureDevice := captureDevice
          playbackDevice := playbackDevice
          captureStreamName := captureStreamName
          playbackStreamName := playbackStreamName }

/-- The launch of a direction, when it is enabled. -/
def launchEnabled (snapshot : RuntimeSnapshot) (direction : AudioDirection)
    (captureDevice playbackDevice captureStreamName playbackStreamName : String) :
    Except DuplexRuntimeError (Option DirectionLaunch) :=
  match directionEnabled snapshot direction with
  | .error error => .error error
  | .ok false => .ok none
  | .ok true =>
    (directionLaunch snapshot direction captureDevice playbackDevice captureStreamName
      playbackStreamName).map some

namespace DuplexLaunch

def tryWithAudioTargets (snapshot : RuntimeSnapshot) (targets : DuplexAudioTargets) :
    Except DuplexRuntimeError DuplexLaunch := do
  validateLaunchSnapshot snapshot
  validateExplicitAudioTargets targets
  let microphone ← launchEnabled snapshot .microphone targets.microphoneCapture
    targets.microphonePlayback "translator-outgoing-capture" "translator-outgoing-playback"
  let speaker ← launchEnabled snapshot .speaker targets.speakerCapture
    targets.speakerPlayback "translator-incoming-capture" "translator-incoming-playback"
  .ok ⟨microphone, speaker⟩

/-- `TryFrom<RuntimeSnapshot>`. -/
def tryFrom (snapshot : RuntimeSnapshot) : Except DuplexRuntimeError DuplexLaunch := do
  validateLaunchSnapshot snapshot
  let targets ← resolveDuplexAudioTargets snapshot
  tryWithAudioTargets snapshot targets

def bypassOnly (launch : DuplexLaunch) : Bool := launch.microphone.isNone && launch.speaker.isNone

/-- The directions a launch runs. -/
def directions (launch : DuplexLaunch) : List DirectionLaunch :=
  launch.microphone.toList ++ launch.speaker.toList

end DuplexLaunch

/-! ### What a launch is made of -/

theorem directionLaunch_provider {snapshot : RuntimeSnapshot} {direction : AudioDirection}
    {a b c d : String} {launch : DirectionLaunch}
    (h : directionLaunch snapshot direction a b c d = .ok launch) :
    launch.runtime.providerId = snapshot.providerId := by
  unfold directionLaunch at h
  split at h
  · cases h
  · split at h
    · cases h
    · cases h; rfl

theorem launchEnabled_provider {snapshot : RuntimeSnapshot} {direction : AudioDirection}
    {a b c d : String} {launch? : Option DirectionLaunch}
    (h : launchEnabled snapshot direction a b c d = .ok launch?) :
    ∀ launch, launch? = some launch → launch.runtime.providerId = snapshot.providerId := by
  unfold launchEnabled at h
  split at h
  · cases h
  · cases h; rintro _ ⟨⟩
  · cases hl : directionLaunch snapshot direction a b c d with
    | error e => rw [hl] at h; cases h
    | ok launch =>
      rw [hl] at h
      cases h
      rintro _ ⟨⟩
      exact directionLaunch_provider hl

/-- Every direction of a launch runs the provider of the snapshot, and a snapshot that would send
    audio out without saying so is not launched. -/
theorem tryFrom_provider {snapshot : RuntimeSnapshot} {launch : DuplexLaunch}
    (h : DuplexLaunch.tryFrom snapshot = .ok launch) :
    (∀ l ∈ launch.directions, l.runtime.providerId = snapshot.providerId)
      ∧ (snapshot.providerId = .openai → snapshot.audioLeavesMachine = true) := by
  simp only [DuplexLaunch.tryFrom, DuplexLaunch.tryWithAudioTargets, except_bind_ok] at h
  obtain ⟨_, hvalid, targets, -, _, -, _, -, microphone, hm, speaker, hs, heq⟩ := h
  cases heq
  refine ⟨fun l hl => ?_, fun hp => ?_⟩
  · rcases List.mem_append.mp hl with hl | hl
    · exact launchEnabled_provider hm l (Option.mem_toList.mp hl)
    · exact launchEnabled_provider hs l (Option.mem_toList.mp hl)
  · by_contra hleaves
    unfold validateLaunchSnapshot at hvalid
    rw [if_pos (.inl ⟨hp, by simpa using hleaves⟩)] at hvalid
    cases hvalid

end Translator.Control
