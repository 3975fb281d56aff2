import Translator.Core.Contracts
import Translator.Schemes.Outcome
import Translator.Wire.Contract

/-! `SpeechSegmenter`: captured frames go in, utterances come out. The functions follow `pcm.rs`. The
    detector's verdict on a frame is an argument, and so is the identifier `Uuid::new_v4` returns;
    the environment variables of the configuration arrive as parsed numbers. -/

namespace Translator.Audio
open Schemes Core
open Wire (Uuid)

def defaultSpeechConfirmationFrames : Nat := 10
def minSpeechConfirmationFrames : Nat := 3
def maxSpeechConfirmationFrames : Nat := 25
def endOfUtteranceSilenceFrames : Nat := 15
def adaptiveEndOfUtteranceSilenceFrames : Nat := 6
def defaultMinUtteranceFrames : Nat := 125
def minMinUtteranceFrames : Nat := 50
def defaultMaxUtteranceFrames : Nat := 300
def minMaxUtteranceFrames : Nat := 200
def maxMaxUtteranceFrames : Nat := 1500

/-- What the segmenter tells the session. -/
inductive CaptureEvent where
  | speechStarted (streamId utteranceId : Uuid) (captureMonotonicNs : Nat)
  | frame (streamId utteranceId : Uuid) (frame : PcmFrame) (endOfUtterance : Bool)
  deriving DecidableEq, Repr

inductive VadError where | unsupportedFormat | invalidFrame
  deriving DecidableEq, Repr

/-- The `TRANSLATOR_VAD_*` variables that hold a number; the times are in milliseconds. -/
structure VadEnvironment where
  confirmationFrames : Option Nat
  maxUtteranceMs : Option Nat
  minUtteranceMs : Option Nat
  adaptiveSilenceMs : Option Nat
  deriving DecidableEq, Repr

namespace VadEnvironment

variable (env : VadEnvironment)

/-- `value / frame_duration_ms`. -/
def inFrames (value : Nat) : Nat := value / StreamPcmFormat.providerDefault.frameDurationMs

def configuredSpeechConfirmationFrames : Nat :=
  (env.confirmationFrames.filter fun value =>
    minSpeechConfirmationFrames ≤ value && value ≤ maxSpeechConfirmationFrames).getD
    defaultSpeechConfirmationFrames

def configuredMaxUtteranceFrames : Nat :=
  ((env.maxUtteranceMs.map inFrames).filter fun value =>
    minMaxUtteranceFrames ≤ value && value ≤ maxMaxUtteranceFrames).getD defaultMaxUtteranceFrames

def configuredMinUtteranceFrames (maxUtteranceFrames : Nat) : Nat :=
  (((env.minUtteranceMs.map inFrames).filter fun value => minMinUtteranceFrames ≤ value).map
    fun value => min value maxUtteranceFrames).getD
    (min defaultMinUtteranceFrames maxUtteranceFrames)

def configuredAdaptiveSilenceFrames : Nat :=
  ((env.adaptiveSilenceMs.map inFrames).map fun value =>
    max 1 (min value endOfUtteranceSilenceFrames)).getD adaptiveEndOfUtteranceSilenceFrames

end VadEnvironment

structure SpeechSegmenter where
  streamId : Uuid
  speechConfirmationFrames : Nat
  utteranceId : Option Uuid
  pendingSpeech : List PcmFrame
  trailingSilence : List PcmFrame
  activeFrames : Nat
  minUtteranceFrames : Nat
  maxUtteranceFrames : Nat
  adaptiveSilenceFrames : Nat
  rearmSilenceFrames : Option Nat
  deriving DecidableEq, Repr

namespace SpeechSegmenter

/-- The clamps of `with_confirmation_and_adaptive_frames`. -/
def withConfirmationAndAdaptiveFrames (streamId : Uuid)
    (confirmation minUtterance maxUtterance adaptiveSilence : Nat) : SpeechSegmenter :=
  let confirmation :=
    max minSpeechConfirmationFrames (min confirmation maxSpeechConfirmationFrames)
  let maxUtterance := max minMaxUtteranceFrames (min maxUtterance maxMaxUtteranceFrames)
  { streamId := streamId
    speechConfirmationFrames := confirmation
    utteranceId := none
    pendingSpeech := []
    trailingSilence := []
    activeFrames := 0
    minUtteranceFrames := max confirmation (min minUtterance maxUtterance)
    maxUtteranceFrames := maxUtterance
    adaptiveSilenceFrames := max 1 (min adaptiveSilence endOfUtteranceSilenceFrames)
    rearmSilenceFrames := none }

def new (streamId : Uuid) (env : VadEnvironment) : SpeechSegmenter :=
  withConfirmationAndAdaptiveFrames streamId env.configuredSpeechConfirmationFrames
    (env.configuredMinUtteranceFrames env.configuredMaxUtteranceFrames)
    env.configuredMaxUtteranceFrames env.configuredAdaptiveSilenceFrames

variable (g : SpeechSegmenter)

/-- What a call on the segmenter returns; the `expect`s of the source are panics. -/
abbrev Segmented := Outcome VadError (List CaptureEvent) × SpeechSegmenter

/-- The frames of an utterance, none of them its last. -/
def spoken (utteranceId : Uuid) (frames : List PcmFrame) : List CaptureEvent :=
  frames.map fun frame => .frame g.streamId utteranceId frame false

def processIdle (frame : PcmFrame) (voice : Bool) (freshId : Uuid) : Segmented :=
  if !voice then (.ok [], { g with pendingSpeech := [] })
  else
    let pending := g.pendingSpeech ++ [frame]
    if pending.length < g.speechConfirmationFrames then (.ok [], { g with pendingSpeech := pending })
    else
      match pending.head? with
      | none => (.panic, g)
      | some first =>
        (.ok (.speechStarted g.streamId freshId first.captureMonotonicNs :: g.spoken freshId pending),
          { g with
            utteranceId := some freshId
            activeFrames := pending.length
            pendingSpeech := [] })

/-- The utterance ends with the last frame of the silence; a forced end waits for silence before
    speech counts again. -/
def finishWithTrailingSilence (utteranceId : Uuid) (forced : Bool) : Segmented :=
  match g.trailingSilence.getLast? with
  | none => (.panic, g)
  | some last =>
    (.ok (g.spoken utteranceId g.trailingSilence.dropLast
        ++ [.frame g.streamId utteranceId last true]),
      { g with
        trailingSilence := []
        utteranceId := none
        activeFrames := 0
        rearmSilenceFrames := if forced then some 0 else g.rearmSilenceFrames })

/-- The last frame of the batch becomes the end of the utterance. -/
def finishForcedUtterance (events : List CaptureEvent) : Segmented :=
  match events.getLast? with
  | some (.frame streamId utteranceId frame _) =>
    (.ok (events.dropLast ++ [.frame streamId utteranceId frame true]),
      { g with utteranceId := none, activeFrames := 0 })
  | _ => (.panic, g)

/-- A voice frame of the running utterance: the silence before it belongs to the utterance, and at
    the maximal length the frame is its last one. -/
def processVoice (frame : PcmFrame) (utteranceId : Uuid) : Segmented :=
  let events := g.spoken utteranceId g.trailingSilence
    ++ [.frame g.streamId utteranceId frame false]
  let g := { g with trailingSilence := [], activeFrames := saturatingAdd g.activeFrames 1 }
  if g.maxUtteranceFrames ≤ g.activeFrames then g.finishForcedUtterance events
  else (.ok events, g)

/-- The silence that ends the running utterance. -/
def silenceFrames : Nat :=
  if g.minUtteranceFrames ≤ g.activeFrames then g.adaptiveSilenceFrames
  else endOfUtteranceSilenceFrames

def processActive (frame : PcmFrame) (voice : Bool) (utteranceId : Uuid) : Segmented :=
  if voice then g.processVoice frame utteranceId
  else
    let g :=
      { g with
        trailingSilence := g.trailingSilence ++ [frame]
        activeFrames := saturatingAdd g.activeFrames 1 }
    if g.trailingSilence.length < g.silenceFrames then
      if g.maxUtteranceFrames ≤ g.activeFrames then g.finishWithTrailingSilence utteranceId true
      else (.ok [], g)
    else g.finishWithTrailingSilence utteranceId false

/-- The count of silent frames while the segmenter waits for silence. -/
def rearm (silenceFrames : Nat) (voice : Bool) : SpeechSegmenter :=
  let silenceFrames := if voice then 0 else saturatingAdd silenceFrames 1
  { g with
    rearmSilenceFrames :=
      if silenceFrames < endOfUtteranceSilenceFrames then some silenceFrames else none }

def process (frame : PcmFrame) (voice : Except VadError Bool) (freshId : Uuid) : Segmented :=
  if frame.format ≠ .providerDefault then (.err .unsupportedFormat, g)
  else
    match voice with
    | .error error => (.err error, g)
    | .ok voice =>
      match g.rearmSilenceFrames with
      | some silenceFrames => (.ok [], g.rearm silenceFrames voice)
      | none =>
        match g.utteranceId with
        | some utteranceId => g.processActive frame voice utteranceId
        | none => g.processIdle frame voice freshId

/-! ### Speech starts first -/

/-- The event is a captured frame. -/
def IsFrame (event : CaptureEvent) : Prop := ∃ s u frame last, event = .frame s u frame last

/-- Only the first event of a batch may start an utterance. -/
def StartsFirst : List CaptureEvent → Prop
  | [] => True
  | _ :: rest => ∀ event ∈ rest, IsFrame event

variable {g} {events : List CaptureEvent} {frame : PcmFrame} {u : Uuid}

theorem startsFirst_of_frames (h : ∀ event ∈ events, IsFrame event) : StartsFirst events := by
  cases events with
  | nil => trivial
  | cons event rest => exact fun e he => h e (List.mem_cons_of_mem _ he)

theorem spoken_isFrame (u : Uuid) (frames : List PcmFrame) :
    ∀ event ∈ g.spoken u frames, IsFrame event := by
  intro event h
  obtain ⟨frame, -, rfl⟩ := List.mem_map.mp h
  exact ⟨_, _, _, _, rfl⟩

/-- Silence or speech of an utterance, then its next frame. -/
theorem spoken_concat_isFrame (u : Uuid) (frames : List PcmFrame) (frame : PcmFrame) (last : Bool) :
    ∀ event ∈ g.spoken u frames ++ [.frame g.streamId u frame last], IsFrame event := by
  intro event h
  rcases List.mem_append.mp h with h | h
  · exact spoken_isFrame u frames event h
  · rw [List.mem_singleton.mp h]
    exact ⟨_, _, _, _, rfl⟩

theorem processIdle_startsFirst {voice : Bool}
    (h : (g.processIdle frame voice u).1 = .ok events) : StartsFirst events := by
  rw [processIdle] at h
  dsimp only at h
  split at h
  · cases h; trivial
  split at h
  · cases h; trivial
  split at h
  · cases h
  · cases h; exact spoken_isFrame u _

theorem finishWithTrailingSilence_isFrame {forced : Bool}
    (h : (g.finishWithTrailingSilence u forced).1 = .ok events) : ∀ event ∈ events, IsFrame event := by
  rw [finishWithTrailingSilence] at h
  split at h
  · cases h
  · cases h; exact spoken_concat_isFrame _ _ _ _

/-- A batch that ends with a frame can be made to end the utterance. -/
theorem finishForcedUtterance_concat (events : List CaptureEvent) (s : Uuid) (last : Bool) :
    g.finishForcedUtterance (events ++ [.frame s u frame last])
      = (.ok (events ++ [.frame s u frame true]),
        { g with utteranceId := none, activeFrames := 0 }) := by
  simp [finishForcedUtterance]

theorem processVoice_isFrame (h : (g.processVoice frame u).1 = .ok events) :
    ∀ event ∈ events, IsFrame event := by
  rw [processVoice] at h
  dsimp only at h
  split at h
  · rw [finishForcedUtterance_concat] at h
    cases h
    exact spoken_concat_isFrame _ _ _ _
  · cases h
    exact spoken_concat_isFrame _ _ _ _

theorem processActive_isFrame {voice : Bool}
    (h : (g.processActive frame voice u).1 = .ok events) : ∀ event ∈ events, IsFrame event := by
  rw [processActive] at h
  dsimp only at h
  split at h
  · exact processVoice_isFrame h
  split at h
  · split at h
    · exact finishWithTrailingSilence_isFrame h
    · cases h; simp
  · exact finishWithTrailingSilence_isFrame h

theorem process_startsFirst {voice : Except VadError Bool}
    (h : (g.process frame voice u).1 = .ok events) : StartsFirst events := by
  unfold process at h
  split at h
  · cases h
  split at h
  · cases h
  split at h
  · cases h; trivial
  split at h
  · exact startsFirst_of_frames (processActive_isFrame h)
  · exact processIdle_startsFirst h

end SpeechSegmenter

end Translator.Audio
