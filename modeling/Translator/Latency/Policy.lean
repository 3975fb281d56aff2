import Mathlib.Data.List.Sort
import Translator.Core.Contracts

/-! The latency policy of `latency.rs`: one direction's samples, windows and mode, and the pair of
    directions. Times are milliseconds of whatever clock the caller reads; the policy compares them
    with one another and never reads a clock itself. -/

namespace Translator.Latency
open Core

def epochMs : Nat := 60000
def minimumSamples : Nat := 20
def degradeWindows : Nat := 2
def recoverWindows : Nat := 5
def cooldownMs : Nat := 120000
def queueTripwireMs : Nat := 500
def queueTripwireDurationMs : Nat := 2000

structure LatencySample where
  firstAudioMs : Nat
  lastAudioMs : Nat
  queueLagMs : Nat
  deriving DecidableEq, Repr

inductive LatencyTransitionReason where
  | windowBreach | stableRecovery | consecutiveUtterances | sustainedQueueLag | manualPolicyChange
  deriving DecidableEq, Repr

/-- `as_str`. -/
def LatencyTransitionReason.asStr : LatencyTransitionReason → String
  | .windowBreach => "window_breach"
  | .stableRecovery => "stable_recovery"
  | .consecutiveUtterances => "consecutive_utterances"
  | .sustainedQueueLag => "sustained_queue_lag"
  | .manualPolicyChange => "manual_policy_change"

structure LatencyTransition where
  direction : AudioDirection
  source : TranslationMode
  target : TranslationMode
  reason : LatencyTransitionReason
  atMs : Nat
  deriving DecidableEq, Repr

/-- The published state; the window and cooldown constants it also carries are never read back. -/
structure LatencyPolicyState where
  directionId : AudioDirection
  currentMode : TranslationMode
  p95FirstAudioMs : Nat
  p95LastAudioMs : Nat
  p95QueueLagMs : Nat
  lastModeChangeAt : Option String
  reason : Option String
  deriving DecidableEq, Repr

structure TimedSample where
  atMs : Nat
  value : LatencySample
  deriving DecidableEq, Repr

/-- The `p95` of a non-empty list by nearest rank. -/
def nearestRankP95 (values : List Nat) : Nat :=
  let sorted := values.insertionSort (· ≤ ·)
  let rank := (95 * sorted.length + 99) / 100
  sorted.getD (rank - 1) 0

/-- The limits on first audio and queue lag. -/
def thresholds : TranslationMode → Nat × Nat
  | .qualityFirst => (3000, 500)
  | .balanced => (2000, 350)
  | .streamingFirst => (1000, 250)

def nextDegradedMode : TranslationMode → Option TranslationMode
  | .qualityFirst => some .balanced
  | .balanced => some .streamingFirst
  | .streamingFirst => none

def nextRecoveredMode : TranslationMode → Option TranslationMode
  | .qualityFirst => none
  | .balanced => some .qualityFirst
  | .streamingFirst => some .balanced

structure DirectionPolicy where
  state : LatencyPolicyState
  samples : List TimedSample
  lastEvaluatedEndMs : Nat
  breachWindows : Nat
  recoveryWindows : Nat
  consecutiveUtteranceBreaches : Nat
  queueBreachStartedMs : Option Nat
  cooldownUntilMs : Nat
  lastUtteranceAtMs : Option Nat
  lastQueueObservationAtMs : Option Nat
  deriving DecidableEq, Repr

/-- What a call on a policy returns. -/
abbrev Observed (α : Type) := Option LatencyTransition × α

namespace DirectionPolicy

def new (direction : AudioDirection) : DirectionPolicy where
  state := ⟨direction, .qualityFirst, 0, 0, 0, none, none⟩
  samples := []
  lastEvaluatedEndMs := 0
  breachWindows := 0
  recoveryWindows := 0
  consecutiveUtteranceBreaches := 0
  queueBreachStartedMs := none
  cooldownUntilMs := 0
  lastUtteranceAtMs := none
  lastQueueObservationAtMs := none

variable (p : DirectionPolicy)

/-- The part `transition` and `force_mode` share: the new mode, everything counted so far forgotten
    and the cooldown started. -/
def switchTo (atMs : Nat) (mode : TranslationMode) (reason : LatencyTransitionReason) :
    DirectionPolicy :=
  { p with
    state :=
      { p.state with
        currentMode := mode
        lastModeChangeAt := some (toString atMs ++ "ms")
        reason := some reason.asStr }
    samples := []
    breachWindows := 0
    recoveryWindows := 0
    consecutiveUtteranceBreaches := 0
    queueBreachStartedMs := none
    cooldownUntilMs := saturatingAdd atMs cooldownMs }

def transition (atMs : Nat) (reason : LatencyTransitionReason) (degrade : Bool) :
    Observed DirectionPolicy :=
  let source := p.state.currentMode
  match if degrade then nextDegradedMode source else nextRecoveredMode source with
  | none => (none, p)
  | some target =>
    (some ⟨p.state.directionId, source, target, reason, atMs⟩, p.switchTo atMs target reason)

def forceMode (atMs : Nat) (mode : TranslationMode) : Observed DirectionPolicy :=
  if p.state.currentMode = mode then (none, p)
  else
    (some ⟨p.state.directionId, p.state.currentMode, mode, .manualPolicyChange, atMs⟩,
      p.switchTo atMs mode .manualPolicyChange)

/-- The sample is not newer than the last one. -/
def staleUtterance (atMs : Nat) : Bool :=
  match p.lastUtteranceAtMs with
  | none => false
  | some last => atMs ≤ last

/-- The sample is kept before the mode is looked at. -/
def keepSample (atMs : Nat) (sample : LatencySample) : DirectionPolicy :=
  { p with lastUtteranceAtMs := some atMs, samples := p.samples ++ [⟨atMs, sample⟩] }

def recordUtterance (atMs : Nat) (sample : LatencySample) : Observed DirectionPolicy :=
  if p.staleUtterance atMs then (none, p)
  else
    let p := p.keepSample atMs sample
    if (nextDegradedMode p.state.currentMode).isNone then
      (none, { p with consecutiveUtteranceBreaches := 0 })
    else
      let breaches :=
        if (thresholds p.state.currentMode).1 < sample.firstAudioMs then
          p.consecutiveUtteranceBreaches + 1
        else 0
      let p := { p with consecutiveUtteranceBreaches := breaches }
      if 3 ≤ breaches then p.transition atMs .consecutiveUtterances true else (none, p)

/-- The observation is not newer than the last one. -/
def staleObservation (atMs : Nat) : Bool :=
  match p.lastQueueObservationAtMs with
  | none => false
  | some last => atMs ≤ last

/-- `is_none_or(|lag| lag <= QUEUE_TRIPWIRE_MS)`. -/
def withinTripwire : Option Nat → Bool
  | none => true
  | some lag => lag ≤ queueTripwireMs

def observeQueueLag (atMs : Nat) (queueLagMs : Option Nat) : Observed DirectionPolicy :=
  if p.staleObservation atMs then (none, p)
  else
    let p := { p with lastQueueObservationAtMs := some atMs }
    if (nextDegradedMode p.state.currentMode).isNone || withinTripwire queueLagMs then
      (none, { p with queueBreachStartedMs := none })
    else
      let started := p.queueBreachStartedMs.getD atMs
      let p := { p with queueBreachStartedMs := some started }
      if queueTripwireDurationMs ≤ atMs - started then p.transition atMs .sustainedQueueLag true
      else (none, p)

/-- The guard of `evaluate_epoch`: a later, whole minute. -/
def evaluates (epochEndMs : Nat) : Bool :=
  epochEndMs ≠ 0 && epochEndMs % epochMs = 0 && p.lastEvaluatedEndMs < epochEndMs

/-- The sample lies in the minute that ends at `epochEndMs`. -/
def inEpoch (epochEndMs : Nat) (sample : TimedSample) : Bool :=
  epochEndMs - epochMs ≤ sample.atMs && sample.atMs < epochEndMs

/-- The samples an evaluation counts. -/
def epochSamples (epochEndMs : Nat) : List TimedSample := p.samples.filter (inEpoch epochEndMs)

/-- The policy once the samples up to the end of the epoch have been taken out. -/
def prune (epochEndMs : Nat) : DirectionPolicy :=
  { p with
    lastEvaluatedEndMs := epochEndMs
    samples := p.samples.filter fun sample => epochEndMs ≤ sample.atMs }

/-- The three percentiles of an epoch. -/
def measure (epoch : List LatencySample) : DirectionPolicy :=
  { p with
    state :=
      { p.state with
        p95FirstAudioMs := nearestRankP95 (epoch.map LatencySample.firstAudioMs)
        p95LastAudioMs := nearestRankP95 (epoch.map LatencySample.lastAudioMs)
        p95QueueLagMs := nearestRankP95 (epoch.map LatencySample.queueLagMs) } }

/-- A percentile is over its limit. -/
def breached : Bool :=
  (thresholds p.state.currentMode).1 < p.state.p95FirstAudioMs
    || (thresholds p.state.currentMode).2 < p.state.p95QueueLagMs

/-- The windows after a measured epoch, and the transition they may trigger. -/
def judgeWindow (epochEndMs : Nat) : Observed DirectionPolicy :=
  if p.breached && (nextDegradedMode p.state.currentMode).isSome then
    let p := { p with breachWindows := p.breachWindows + 1, recoveryWindows := 0 }
    if degradeWindows ≤ p.breachWindows then p.transition epochEndMs .windowBreach true
    else (none, p)
  else if !p.breached && (nextRecoveredMode p.state.currentMode).isSome then
    let p := { p with recoveryWindows := p.recoveryWindows + 1, breachWindows := 0 }
    if recoverWindows ≤ p.recoveryWindows && p.cooldownUntilMs ≤ epochEndMs then
      p.transition epochEndMs .stableRecovery false
    else (none, p)
  else (none, { p with breachWindows := 0, recoveryWindows := 0 })

def evaluateEpoch (epochEndMs : Nat) : Observed DirectionPolicy :=
  if !p.evaluates epochEndMs then (none, p)
  else
    let epoch := (p.epochSamples epochEndMs).map TimedSample.value
    let p := p.prune epochEndMs
    if epoch.length < minimumSamples then (none, { p with breachWindows := 0, recoveryWindows := 0 })
    else (p.measure epoch).judgeWindow epochEndMs

end DirectionPolicy

structure DuplexLatencyPolicy where
  microphone : DirectionPolicy
  speaker : DirectionPolicy
  deriving DecidableEq, Repr

namespace DuplexLatencyPolicy

def default : DuplexLatencyPolicy := ⟨.new .microphone, .new .speaker⟩

variable (p : DuplexLatencyPolicy)

/-- `policy_mut`, read. -/
def policy : AudioDirection → DirectionPolicy
  | .microphone => p.microphone
  | .speaker => p.speaker

/-- `policy_mut`, with what the call made of the policy written back. -/
def update (direction : AudioDirection) (f : DirectionPolicy → Observed DirectionPolicy) :
    Observed DuplexLatencyPolicy :=
  match direction with
  | .microphone => ((f p.microphone).1, { p with microphone := (f p.microphone).2 })
  | .speaker => ((f p.speaker).1, { p with speaker := (f p.speaker).2 })

def recordUtterance (direction : AudioDirection) (atMs : Nat) (sample : LatencySample) :
    Observed DuplexLatencyPolicy := p.update direction fun q => q.recordUtterance atMs sample

def observeQueueLag (direction : AudioDirection) (atMs : Nat) (queueLagMs : Option Nat) :
    Observed DuplexLatencyPolicy := p.update direction fun q => q.observeQueueLag atMs queueLagMs

def evaluateEpoch (direction : AudioDirection) (epochEndMs : Nat) : Observed DuplexLatencyPolicy :=
  p.update direction fun q => q.evaluateEpoch epochEndMs

def forceMode (direction : AudioDirection) (atMs : Nat) (mode : TranslationMode) :
    Observed DuplexLatencyPolicy := p.update direction fun q => q.forceMode atMs mode

/-- `update` touches one direction only. -/
theorem update_policy (direction other : AudioDirection)
    (f : DirectionPolicy → Observed DirectionPolicy) :
    (p.update direction f).2.policy other
      = if other = direction then (f (p.policy direction)).2 else p.policy other := by
  cases direction <;> cases other <;> rfl

theorem update_fst (direction : AudioDirection) (f : DirectionPolicy → Observed DirectionPolicy) :
    (p.update direction f).1 = (f (p.policy direction)).1 := by
  cases direction <;> rfl

end DuplexLatencyPolicy

end Translator.Latency
