import Translator.Latency.Policy
import Translator.Schemes.Outcome

/-! `RuntimeStore`: the state the control API reads and writes. The store holds the snapshot that is
    served to clients and the latency policy behind its `latency_policy` list. The audio mix, the
    routes, the self test, the debug buffers and the event bus are left out: nothing below reads
    them. -/

namespace Translator.Control
open Schemes Core Latency

structure DirectionState where
  directionId : AudioDirection
  sourceLanguage : Language
  targetLanguage : Language
  enabled : Bool
  voiceProfile : VoiceProfile
  deriving DecidableEq, Repr

def DirectionState.new (directionId : AudioDirection) (sourceLanguage targetLanguage : Language) :
    DirectionState where
  directionId := directionId
  sourceLanguage := sourceLanguage
  targetLanguage := targetLanguage
  enabled := true
  voiceProfile := ⟨targetLanguage, .male, .piper, none, none⟩

inductive GraphHealth where | ready | degraded | error
  deriving DecidableEq, Repr

inductive OutputMode where | headphones | openSpeaker | unknownUnsafe
  deriving DecidableEq, Repr

inductive AecCapability where
  | unavailable | availableUnvalidated | validationFailed
  | validatedFor (sourceName sinkName : String)
  deriving DecidableEq, Repr

/-- `PhysicalDevice`, as far as the launch looks at it. -/
structure PhysicalDevice where
  name : String
  available : Bool
  deriving DecidableEq, Repr

/-- `DeviceState`, as far as the launch looks at it. -/
structure DeviceState where
  source : Option PhysicalDevice
  sink : Option PhysicalDevice
  mode : OutputMode
  aecCapability : AecCapability
  deriving DecidableEq, Repr

structure RuntimeSnapshot where
  translationRunning : Bool
  debugTextEnabled : Bool
  directions : List DirectionState
  providerId : ProviderId
  audioLeavesMachine : Bool
  latencyPolicy : List LatencyPolicyState
  audioGraph : Option GraphHealth
  devices : Option DeviceState
  deriving DecidableEq, Repr

def RuntimeSnapshot.default : RuntimeSnapshot where
  translationRunning := false
  debugTextEnabled := false
  directions := [.new .microphone .ru .en, .new .speaker .en .ru]
  providerId := .local
  audioLeavesMachine := false
  latencyPolicy :=
    [(DirectionPolicy.new .microphone).state, (DirectionPolicy.new .speaker).state]
  audioGraph := none
  devices := none

inductive RuntimeMutationError where
  | invalidLanguagePair | voiceLanguageMismatch | cloudProviderOptInRequired
  deriving DecidableEq, Repr

structure DirectionPatch where
  directionId : AudioDirection
  sourceLanguage : Option Language
  targetLanguage : Option Language
  enabled : Option Bool
  deriving DecidableEq, Repr

structure ProviderPatch where
  providerId : ProviderId
  cloudOptIn : Option Bool
  deriving DecidableEq, Repr

structure VoiceProfilePatch where
  directionId : AudioDirection
  voiceProfile : VoiceProfile
  deriving DecidableEq, Repr

structure LatencyPolicyPatch where
  directionId : AudioDirection
  currentMode : TranslationMode
  deriving DecidableEq, Repr

structure RuntimeStore where
  snapshot : RuntimeSnapshot
  latency : DuplexLatencyPolicy
  deriving DecidableEq, Repr

/-- What a mutation returns; the `expect` on a missing direction is a panic. -/
abbrev Mutation := Outcome RuntimeMutationError Unit × RuntimeStore

namespace RuntimeStore

def default : RuntimeStore := ⟨.default, .default⟩

variable (s : RuntimeStore)

/-- The first direction with the given id, rewritten in place. -/
def updateFirst (directionId : AudioDirection) (f : DirectionState → DirectionState) :
    List DirectionState → List DirectionState
  | [] => []
  | direction :: rest =>
    if direction.directionId = directionId then f direction :: rest
    else direction :: updateFirst directionId f rest

/-- `direction_mut`, read. -/
def direction? (directionId : AudioDirection) : Option DirectionState :=
  s.snapshot.directions.find? fun direction => direction.directionId = directionId

/-- `direction_mut`, written. -/
def withDirection (directionId : AudioDirection) (f : DirectionState → DirectionState) :
    RuntimeStore :=
  { s with
    snapshot := { s.snapshot with directions := updateFirst directionId f s.snapshot.directions } }

/-- `None, None` changes no language, two different languages change both. -/
def languagePair (patch : DirectionPatch) :
    Except RuntimeMutationError (Option (Language × Language)) :=
  match patch.sourceLanguage, patch.targetLanguage with
  | some source, some target =>
    if source ≠ target then .ok (some (source, target)) else .error .invalidLanguagePair
  | none, none => .ok none
  | _, _ => .error .invalidLanguagePair

/-- A voice of another language is reset along with the direction's target. -/
def setLanguages (pair : Language × Language) (direction : DirectionState) : DirectionState :=
  { direction with
    sourceLanguage := pair.1
    targetLanguage := pair.2
    voiceProfile :=
      if direction.voiceProfile.language ≠ pair.2 then
        { direction.voiceProfile with
          language := pair.2
          modelPath := none
          providerVoiceId := none }
      else direction.voiceProfile }

def patchDirection (patch : DirectionPatch) (pair : Option (Language × Language))
    (direction : DirectionState) : DirectionState :=
  let direction := match pair with
    | some pair => setLanguages pair direction
    | none => direction
  match patch.enabled with
  | some enabled => { direction with enabled := enabled }
  | none => direction

def setDirection (patch : DirectionPatch) : Mutation :=
  match languagePair patch with
  | .error error => (.err error, s)
  | .ok pair =>
    match s.direction? patch.directionId with
    | none => (.panic, s)
    | some _ => (.ok (), s.withDirection patch.directionId (patchDirection patch pair))

def setProvider (patch : ProviderPatch) : Mutation :=
  if patch.providerId = .openai ∧ patch.cloudOptIn ≠ some true then
    (.err .cloudProviderOptInRequired, s)
  else
    (.ok (),
      { s with
        snapshot :=
          { s.snapshot with
            providerId := patch.providerId
            audioLeavesMachine := decide (patch.providerId = .openai) } })

def setVoiceProfile (patch : VoiceProfilePatch) : Mutation :=
  match s.direction? patch.directionId with
  | none => (.panic, s)
  | some direction =>
    if patch.voiceProfile.language ≠ direction.targetLanguage then (.err .voiceLanguageMismatch, s)
    else
      (.ok (), s.withDirection patch.directionId fun direction =>
        { direction with voiceProfile := patch.voiceProfile })

def setTranslationRunning (running : Bool) : RuntimeStore :=
  { s with snapshot := { s.snapshot with translationRunning := running } }

def setDebugTextEnabled (enabled : Bool) : RuntimeStore :=
  { s with snapshot := { s.snapshot with debugTextEnabled := enabled } }

/-- The graph and device state a refresh of the audio watcher leaves in the store. -/
def refreshAudioState (audioGraph : Option GraphHealth) (devices : Option DeviceState) :
    RuntimeStore :=
  { s with snapshot := { s.snapshot with audioGraph := audioGraph, devices := devices } }

/-- `update_latency_snapshot`. -/
def updateLatencySnapshot (latency : DuplexLatencyPolicy) : RuntimeStore where
  snapshot :=
    { s.snapshot with latencyPolicy := [latency.microphone.state, latency.speaker.state] }
  latency := latency

/-- The manual change reads the store's own clock. -/
def setLatencyPolicy (patch : LatencyPolicyPatch) (monotonicMs : Nat) : RuntimeStore :=
  match s.latency.forceMode patch.directionId monotonicMs patch.currentMode with
  | (some _, latency) => s.updateLatencySnapshot latency
  | (none, _) => s

def recordLatencyUtterance (direction : AudioDirection) (atMs : Nat) (sample : LatencySample) :
    Observed RuntimeStore :=
  let (transition, latency) := s.latency.recordUtterance direction atMs sample
  (transition, s.updateLatencySnapshot latency)

def observeLatencyQueue (direction : AudioDirection) (atMs : Nat) (queueLagMs : Option Nat) :
    Observed RuntimeStore :=
  let (transition, latency) := s.latency.observeQueueLag direction atMs queueLagMs
  (transition, s.updateLatencySnapshot latency)

def evaluateLatencyEpoch (direction : AudioDirection) (epochEndMs : Nat) : Observed RuntimeStore :=
  let (transition, latency) := s.latency.evaluateEpoch direction epochEndMs
  (transition, s.updateLatencySnapshot latency)

end RuntimeStore

end Translator.Control
