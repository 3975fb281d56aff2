import Translator.Control.RoundTrip
import Translator.Stream.DirectionSession

/-! `ProgressObserver`: what the two provider streams report, folded into flags, and the checkpoints of the
    round trip that follow from the flags. Reports arrive in any order and any number of times; a flag
    that is up stays up, and after every report the checkpoints are caught up with the flags. -/

namespace Translator.Control
open Schemes
open Core (AudioDirection)
open Translator.Stream (TerminalOutcome)
open Wire (Uuid)

def incomingPlaybackFrameNs : Nat := 20000000

def incomingPlaybackDrainGraceNs : Nat := 100000000

/-- Why a call on the observer is turned away. -/
inductive RoundTripProcessError where | progress
  deriving DecidableEq, Repr

/-- `DuplexRuntimeEvent`, with the fields `ProgressObserver` reads. -/
inductive ProgressEvent where
  | speechStarted (direction : AudioDirection) (utteranceId : Uuid) (captureMonotonicNs : Nat)
  | transcriptFinal (direction : AudioDirection) (utteranceId : Uuid)
  | translationFinal (direction : AudioDirection) (utteranceId : Uuid)
  | audioFrame (direction : AudioDirection) (utteranceId : Uuid) (observedMonotonicNs : Nat)
  | utteranceTerminalOutcome (direction : AudioDirection) (utteranceId : Uuid)
      (outcome : TerminalOutcome)
  | utteranceTerminal (direction : AudioDirection) (utteranceId : Uuid)
  /-- The kinds of events it does not read. -/
  | unread
  deriving DecidableEq, Repr

structure ObserverState where
  checkpoint : RoundTripCheckpoint
  outgoingUtterance : Option Uuid
  incomingUtterance : Option Uuid
  outgoingOnsetNs : Option Nat
  incomingOnsetNs : Option Nat
  outgoingTranscriptFinal : Bool
  outgoingTranslationFinal : Bool
  outgoingFirstAudio : Bool
  outgoingCompleted : Bool
  incomingEnabled : Bool
  incomingTranscriptFinal : Bool
  incomingTranslationFinal : Bool
  incomingFirstAudio : Bool
  incomingCompleted : Bool
  incomingTerminal : Bool
  incomingPlaybackAudibleUntilNs : Nat
  deriving DecidableEq, Repr

/-- The self test stands for `progress`, and a sender for the value it sent last. -/
structure ProgressObserver where
  sessionId : Uuid
  progress : RoundTripSelfTest
  state : ObserverState
  checkpointSender : RoundTripCheckpoint
  outgoingTerminalSender : Bool
  incomingTerminalSender : Bool
  deriving DecidableEq, Repr

namespace ProgressObserver

def new (sessionId : Uuid) (progress : RoundTripSelfTest) : ProgressObserver where
  sessionId
  progress
  state :=
    { checkpoint := .waitingForSpeech
      outgoingUtterance := none
      incomingUtterance := none
      outgoingOnsetNs := none
      incomingOnsetNs := none
      outgoingTranscriptFinal := false
      outgoingTranslationFinal := false
      outgoingFirstAudio := false
      outgoingCompleted := false
      incomingEnabled := false
      incomingTranscriptFinal := false
      incomingTranslationFinal := false
      incomingFirstAudio := false
      incomingCompleted := false
      incomingTerminal := false
      incomingPlaybackAudibleUntilNs := 0 }
  checkpointSender := .waitingForSpeech
  outgoingTerminalSender := false
  incomingTerminalSender := false

/-- `elapsed_ms`: without an onset, or past a `u32`, the greatest time there is. -/
def elapsedMs (startNs : Option Nat) (endNs : Nat) : Nat :=
  match startNs with
  | none => 2 ^ 32 - 1
  | some start =>
    if (endNs - start) / 1000000 < 2 ^ 32 then (endNs - start) / 1000000 else 2 ^ 32 - 1

variable (observer : ProgressObserver)

def advanceLocked (checkpoint : RoundTripCheckpoint) (latency : RoundTripLatency) :
    Except RoundTripProcessError Unit × ProgressObserver :=
  match observer.progress.advance observer.sessionId checkpoint latency with
  | (.error _, progress) => (.error .progress, { observer with progress })
  | (.ok (), progress) =>
    (.ok (), { observer with
      progress
      state := { observer.state with checkpoint }
      checkpointSender := checkpoint })

def failLocked : ProgressObserver :=
  match observer.progress.fail observer.sessionId .runtimeFailed with
  | (false, progress) => { observer with progress }
  | (true, progress) =>
    { observer with
      progress
      state := { observer.state with checkpoint := .failed }
      checkpointSender := .failed
      outgoingTerminalSender := true }

/-- The transition that is due in `drain_locked`. The clock is read at most twice for one. -/
def transition (state : ObserverState) (monotonicNs : Nat → Nat) (reading : Nat) :
    Option (RoundTripCheckpoint × RoundTripLatency) :=
  match state.checkpoint with
  | .outgoingVad =>
    if state.outgoingTranscriptFinal then some (.outgoingAsrFinal, .default) else none
  | .outgoingAsrFinal =>
    if state.outgoingTranslationFinal then some (.outgoingTranslationFinal, .default) else none
  | .outgoingTranslationFinal =>
    if state.outgoingFirstAudio then
      some (.englishFirstAudio, { RoundTripLatency.default with
        outgoingFirstAudioMs := some (elapsedMs state.outgoingOnsetNs (monotonicNs reading)) })
    else none
  | .virtualPeerReinjecting =>
    if state.incomingTranscriptFinal then some (.incomingAsrFinal, .default) else none
  | .incomingAsrFinal =>
    if state.incomingTranslationFinal then some (.incomingTranslationFinal, .default) else none
  | .incomingTranslationFinal =>
    if state.incomingFirstAudio then
      some (.russianFirstAudio, { RoundTripLatency.default with
        incomingFirstAudioMs := some (elapsedMs state.incomingOnsetNs (monotonicNs reading))
        physicalMicOnsetToReturnedRuFirstAudibleMs :=
          some (elapsedMs state.outgoingOnsetNs (monotonicNs (reading + 1))) })
    else none
  | _ => none

/-- How many checkpoints lie ahead. -/
def ahead : RoundTripCheckpoint → Nat
  | .waitingForSpeech => 9
  | .outgoingVad => 8
  | .outgoingAsrFinal => 7
  | .outgoingTranslationFinal => 6
  | .englishFirstAudio => 5
  | .virtualPeerReinjecting => 4
  | .incomingAsrFinal => 3
  | .incomingTranslationFinal => 2
  | .russianFirstAudio => 1
  | .completed | .failed | .stopped => 0

/-- The transition that is due leads to the next checkpoint. -/
theorem transition_next {state : ObserverState} {monotonicNs : Nat → Nat} {reading : Nat}
    {checkpoint : RoundTripCheckpoint} {latency : RoundTripLatency}
    (h : transition state monotonicNs reading = some (checkpoint, latency)) :
    state.checkpoint.next = some checkpoint ∧ checkpoint ≠ .virtualPeerReinjecting
      ∧ checkpoint.isTerminal = false := by
  unfold transition at h
  split at h <;> try cases h
  all_goals
    next hat =>
      rw [hat]
      split at h <;> cases h
      exact ⟨rfl, by decide, rfl⟩

theorem advanceLocked_checkpoint {observer observer' : ProgressObserver}
    {checkpoint : RoundTripCheckpoint} {latency : RoundTripLatency}
    (h : observer.advanceLocked checkpoint latency = (.ok (), observer')) :
    observer'.state.checkpoint = checkpoint := by
  unfold advanceLocked at h
  split at h
  · cases h
  · cases h
    rfl

theorem ahead_next {checkpoint next : RoundTripCheckpoint} (h : checkpoint.next = some next) :
    ahead next < ahead checkpoint := by
  cases checkpoint <;> cases h <;> decide

/-- `drain_locked`: a transition is made while one is due and the self test takes it. -/
def drainLocked (observer : ProgressObserver) (monotonicNs : Nat → Nat) (reading : Nat) :
    ProgressObserver :=
  match _due : transition observer.state monotonicNs reading with
  | none => observer
  | some (checkpoint, latency) =>
    match hadvance : observer.advanceLocked checkpoint latency with
    | (.error _, observer') => observer'
    | (.ok (), observer') => observer'.drainLocked monotonicNs (reading + 2)
termination_by ahead observer.state.checkpoint
decreasing_by
  rw [advanceLocked_checkpoint hadvance]
  exact ahead_next (transition_next _due).1

/-- `observe` before it drains. -/
def take : ProgressEvent → ProgressObserver
  | .speechStarted .microphone utteranceId captureMonotonicNs =>
    if observer.state.outgoingUtterance = none then
      let observer := { observer with
        state := { observer.state with
          outgoingUtterance := some utteranceId
          outgoingOnsetNs := some captureMonotonicNs } }
      if observer.state.checkpoint = .waitingForSpeech then
        (observer.advanceLocked .outgoingVad .default).2
      else observer
    else
      { observer with
        progress := (observer.progress.recordRecursionTrigger observer.sessionId).2 }
  | .transcriptFinal .microphone utteranceId =>
    if observer.state.outgoingUtterance = some utteranceId then
      { observer with state := { observer.state with outgoingTranscriptFinal := true } }
    else observer
  | .translationFinal .microphone utteranceId =>
    if observer.state.outgoingUtterance = some utteranceId then
      { observer with state := { observer.state with outgoingTranslationFinal := true } }
    else observer
  | .audioFrame .microphone utteranceId _ =>
    if observer.state.outgoingUtterance = some utteranceId then
      let state := { observer.state with outgoingFirstAudio := true }
      let state :=
        if state.outgoingCompleted then
          { state with outgoingTranscriptFinal := true, outgoingTranslationFinal := true }
        else state
      { observer with state }
    else observer
  | .utteranceTerminalOutcome .microphone utteranceId outcome =>
    if observer.state.outgoingUtterance = some utteranceId then
      if outcome = .completed then
        let state := { observer.state with outgoingCompleted := true }
        let state :=
          if state.outgoingFirstAudio then
            { state with outgoingTranscriptFinal := true, outgoingTranslationFinal := true }
          else state
        { observer with state }
      else observer.failLocked
    else observer
  | .utteranceTerminal .microphone utteranceId =>
    if observer.state.outgoingUtterance = some utteranceId then
      { observer with outgoingTerminalSender := true }
    else observer
  | .speechStarted .speaker utteranceId captureMonotonicNs =>
    if observer.state.incomingEnabled then
      if observer.state.incomingUtterance = none then
        { observer with
          state := { observer.state with
            incomingUtterance := some utteranceId
            incomingOnsetNs := some captureMonotonicNs } }
      else
        { observer with
          progress := (observer.progress.recordRecursionTrigger observer.sessionId).2 }
    else observer
  | .transcriptFinal .speaker utteranceId =>
    if observer.state.incomingEnabled ∧ observer.state.incomingUtterance = some utteranceId then
      { observer with state := { observer.state with incomingTranscriptFinal := true } }
    else observer
  | .translationFinal .speaker utteranceId =>
    if observer.state.incomingEnabled ∧ observer.state.incomingUtterance = some utteranceId then
      { observer with state := { observer.state with incomingTranslationFinal := true } }
    else observer
  | .audioFrame .speaker utteranceId observedMonotonicNs =>
    if observer.state.incomingEnabled ∧ observer.state.incomingUtterance = some utteranceId then
      let state := { observer.state with
        incomingFirstAudio := true
        incomingPlaybackAudibleUntilNs :=
          saturatingAdd (max observer.state.incomingPlaybackAudibleUntilNs observedMonotonicNs)
            incomingPlaybackFrameNs }
      let state :=
        if state.incomingCompleted then
          { state with incomingTranscriptFinal := true, incomingTranslationFinal := true }
        else state
      { observer with state }
    else observer
  | .utteranceTerminalOutcome .speaker utteranceId outcome =>
    if observer.state.incomingEnabled ∧ observer.state.incomingUtterance = some utteranceId then
      if outcome = .completed then
        let state := { observer.state with incomingCompleted := true }
        let state :=
          if state.incomingFirstAudio then
            { state with incomingTranscriptFinal := true, incomingTranslationFinal := true }
          else state
        { observer with state }
      else observer.failLocked
    else observer
  | .utteranceTerminal .speaker utteranceId =>
    if observer.state.incomingEnabled ∧ observer.state.incomingUtterance = some utteranceId then
      { observer with
        state := { observer.state with incomingTerminal := true }
        incomingTerminalSender := true }
    else observer
  | .unread => observer

def observe (monotonicNs : Nat → Nat) (event : ProgressEvent) : ProgressObserver :=
  (observer.take event).drainLocked monotonicNs 0

def beginIncoming : ProgressObserver :=
  { observer with state := { observer.state with incomingEnabled := true } }

def markReinjecting (monotonicNs : Nat → Nat) (englishMonitorCompleteMs : Nat) :
    Except RoundTripProcessError Unit × ProgressObserver :=
  if observer.state.checkpoint ≠ .englishFirstAudio then (.error .progress, observer)
  else
    match observer.advanceLocked .virtualPeerReinjecting
      { RoundTripLatency.default with englishMonitorCompleteMs := some englishMonitorCompleteMs } with
    | (.error error, observer) => (.error error, observer)
    | (.ok (), observer) => (.ok (), observer.drainLocked monotonicNs 0)

def markCompleted : Except RoundTripProcessError Unit × ProgressObserver :=
  if observer.state.checkpoint ≠ .russianFirstAudio ∨ observer.state.incomingTerminal = false then
    (.error .progress, observer)
  else observer.advanceLocked .completed .default

/-- How long `wait_for_incoming_playback_drain` still has to wait. -/
def playbackRemainingNs (monotonicNs : Nat) : Nat :=
  saturatingAdd observer.state.incomingPlaybackAudibleUntilNs incomingPlaybackDrainGraceNs - monotonicNs

/-- What happens to the observer and to the self test it reports to. -/
inductive Op where
  | observe (monotonicNs : Nat → Nat) (event : ProgressEvent)
  | beginIncoming
  | markReinjecting (monotonicNs : Nat → Nat) (englishMonitorCompleteMs : Nat)
  | markCompleted
  /-- Someone else calls the self test. -/
  | outside (op : RoundTripSelfTest.Op)

def apply : Op → Except RoundTripProcessError Unit × ProgressObserver
  | .observe monotonicNs event => (.ok (), observer.observe monotonicNs event)
  | .beginIncoming => (.ok (), observer.beginIncoming)
  | .markReinjecting monotonicNs englishMonitorCompleteMs =>
    observer.markReinjecting monotonicNs englishMonitorCompleteMs
  | .markCompleted => observer.markCompleted
  | .outside op => (.ok (), { observer with progress := (observer.progress.apply op).2 })

end ProgressObserver

end Translator.Control
