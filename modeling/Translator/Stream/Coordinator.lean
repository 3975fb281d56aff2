import Translator.Schemes.Outcome
import Translator.Stream.Watchdog

/-! `ProviderStreamCoordinator`: one provider stream, with its watchdog, its validator and the audio
    it has received and not yet handed on. The functions follow `provider_audio_watchdog.rs` and pass
    the coordinator along; where the source returns early with `?`, what was changed before stays. -/

namespace Translator.Stream
open Schemes Wire

inductive ProviderStreamCoordinatorError where
  | watchdog (error : WatchdogError)
  | validation (error : ProviderValidationError)
  | receiveBufferFull
  | receiveBufferEmpty
  | invalidIdentifier
  deriving DecidableEq, Repr

structure BufferedFrame where
  pcm : List UInt8
  durationMs : Nat
  deriving DecidableEq, Repr

structure ReceiveBuffer where
  frames : List BufferedFrame
  bufferedMs : Nat
  deriving DecidableEq, Repr

structure ProviderStreamCoordinator where
  watchdog : ProviderAudioWatchdog
  validator : ProviderEventValidator
  receiveBuffers : Table (Uuid × Uuid) ReceiveBuffer

/-- What a call on the coordinator returns. -/
abbrev Reply (α : Type) := Outcome ProviderStreamCoordinatorError α × ProviderStreamCoordinator

namespace ProviderStreamCoordinator

def new (contract : ProviderSessionContract) : ProviderStreamCoordinator where
  watchdog := .new contract.sessionId
  validator := .new contract
  receiveBuffers := ∅

variable (c : ProviderStreamCoordinator)

def startUtterance (streamId utteranceId : Uuid) (captureNs : Nat) : Reply Unit :=
  match c.watchdog.startUtterance streamId utteranceId captureNs with
  | .error error => (.err (.watchdog error), c)
  | .ok watchdog =>
    match c.validator.recordInput utteranceId captureNs with
    | (.ok (), validator) => (.ok (), { c with watchdog := watchdog, validator := validator })
    | (.err error, validator) =>
      let disarmed := match watchdog.disarmUtterance streamId utteranceId with
        | .ok disarmed => disarmed
        | .error _ => watchdog
      (.err (.validation error), { c with watchdog := disarmed, validator := validator })
    | (.panic, validator) => (.panic, { c with watchdog := watchdog, validator := validator })

def recordEndOfUtterance (streamId utteranceId : Uuid) (nowNs : Nat) : Reply Unit :=
  match c.watchdog.recordEndOfUtterance streamId utteranceId nowNs with
  | .error error => (.err (.watchdog error), c)
  | .ok watchdog =>
    let (result, validator) := c.validator.recordEndOfUtterance utteranceId nowNs
    (result.mapErr .validation, { c with watchdog := watchdog, validator := validator })

/-- `buffered_ms.checked_add(..)` against the limit: an overflow is over the limit as well. -/
def overflowsBuffer (bufferedMs frameDurationMs : Nat) : Bool :=
  maxReceiveBufferedMs < bufferedMs + frameDurationMs

/-- `entry(key).or_default()` comes first, so a refused frame leaves an empty buffer. -/
def bufferReceiveAudio (streamId utteranceId : Uuid) (pcm : List UInt8) (frameDurationMs : Nat) :
    Reply Unit :=
  let key := (streamId, utteranceId)
  match c.receiveBuffers.lookup key with
  | none =>
    if overflowsBuffer 0 frameDurationMs then
      (.err .receiveBufferFull, { c with receiveBuffers := c.receiveBuffers.insert key ⟨[], 0⟩ })
    else
      let buffer := ⟨[⟨pcm, frameDurationMs⟩], 0 + frameDurationMs⟩
      (.ok (), { c with receiveBuffers := c.receiveBuffers.insert key buffer })
  | some buffer =>
    if overflowsBuffer buffer.bufferedMs frameDurationMs then (.err .receiveBufferFull, c)
    else
      let buffer :=
        ⟨buffer.frames ++ [⟨pcm, frameDurationMs⟩], buffer.bufferedMs + frameDurationMs⟩
      (.ok (), { c with receiveBuffers := c.receiveBuffers.insert key buffer })

/-- `map_or(0, |buffer| buffer.buffered_ms)`. -/
def bufferedMs (streamId utteranceId : Uuid) : Nat :=
  match c.receiveBuffers.lookup (streamId, utteranceId) with
  | none => 0
  | some buffer => buffer.bufferedMs

def canBufferReceiveAudio (streamId utteranceId : Uuid) (frameDurationMs : Nat) :
    Except ProviderStreamCoordinatorError Unit :=
  if overflowsBuffer (c.bufferedMs streamId utteranceId) frameDurationMs then
    .error .receiveBufferFull
  else .ok ()

def consumeReceiveAudio (streamId utteranceId : Uuid) : Reply (List UInt8) :=
  let key := (streamId, utteranceId)
  match c.receiveBuffers.lookup key with
  | none => (.err .receiveBufferEmpty, c)
  | some buffer =>
    match buffer.frames with
    | [] => (.err .receiveBufferEmpty, c)
    | frame :: frames =>
      if frames.isEmpty then
        (.ok frame.pcm, { c with receiveBuffers := c.receiveBuffers.erase key })
      else
        let buffer := ⟨frames, buffer.bufferedMs - frame.durationMs⟩
        (.ok frame.pcm, { c with receiveBuffers := c.receiveBuffers.insert key buffer })

/-- `self.validator.validate(event, now_ns)?`. -/
def validated (event : ProviderEvent) (nowNs : Nat) : Reply Unit :=
  let (result, validator) := c.validator.validate event nowNs
  (result.mapErr .validation, { c with validator := validator })

def validateAudioDelta (value : ProviderAudioDelta) (nowNs : Nat) : Reply Unit :=
  match value.streamId, value.utteranceId with
  | some streamId, some utteranceId =>
    if c.watchdog.cancelPending streamId utteranceId then
      c.validated (some (.audioDelta value)) nowNs
    else
      match c.watchdog.checkAudioDelta streamId utteranceId nowNs with
      | .error error => (.err (.watchdog error), c)
      | .ok () =>
        match c.canBufferReceiveAudio streamId utteranceId value.frameDurationMs with
        | .error error => (.err error, c)
        | .ok () =>
          match c.validated (some (.audioDelta value)) nowNs with
          | (.ok (), c') =>
            match c'.watchdog.recordAudioDelta streamId utteranceId nowNs with
            | .error error => (.err (.watchdog error), c')
            | .ok watchdog =>
              { c' with watchdog := watchdog }.bufferReceiveAudio streamId utteranceId value.pcm
                value.frameDurationMs
          | refused => refused
  | _, _ => (.err .invalidIdentifier, c)

/-- `record_cancelled_final` or `record_completed_final`, by the outcome; other outcomes record
    nothing. -/
def recordFinal (streamId utteranceId : Uuid) (outcome : UtteranceOutcome) :
    Except WatchdogError ProviderAudioWatchdog :=
  match outcome with
  | .cancelled => c.watchdog.recordCancelledFinal streamId utteranceId
  | .completed => c.watchdog.recordCompletedFinal streamId utteranceId
  | .dropped => c.watchdog.recordCompletedFinal streamId utteranceId
  | .unspecified => .ok c.watchdog

def validateUtteranceFinal (value : ProviderUtteranceFinal) (nowNs : Nat) : Reply Unit :=
  match value.streamId, value.utteranceId with
  | some streamId, some utteranceId =>
    match UtteranceOutcome.tryFrom value.outcome with
    | none => (.err (.validation .invalidOutcome), c)
    | some outcome =>
      match c.watchdog.checkFinal streamId utteranceId outcome nowNs with
      | .error error => (.err (.watchdog error), c)
      | .ok () =>
        match c.validated (some (.utteranceFinal value)) nowNs with
        | (.ok (), c') =>
          match c'.recordFinal streamId utteranceId outcome with
          | .error error => (.err (.watchdog error), c')
          | .ok watchdog =>
            if outcome ≠ .completed then
              (.ok (),
                { c' with
                  watchdog := watchdog
                  receiveBuffers := c'.receiveBuffers.erase (streamId, utteranceId) })
            else (.ok (), { c' with watchdog := watchdog })
        | refused => refused
  | _, _ => (.err .invalidIdentifier, c)

def validateSessionClosed (value : ProviderSessionClosed) (nowNs : Nat) : Reply Unit :=
  match c.validated (some (.sessionClosed value)) nowNs with
  | (.ok (), c') =>
    match value.sessionId with
    | none => (.err .invalidIdentifier, c')
    | some sessionId =>
      match c'.watchdog.recordSessionClosed sessionId with
      | .error error => (.err (.watchdog error), c')
      | .ok watchdog => (.ok (), { c' with watchdog := watchdog, receiveBuffers := ∅ })
  | refused => refused

def validateEvent (event : ProviderEvent) (nowNs : Nat) : Reply Unit :=
  match event with
  | none => (.err (.validation .missingEvent), c)
  | some kind =>
    if !c.watchdog.sessionAcceptsEvents && !kind.isSessionClosed then
      (.err (.watchdog .sessionTerminal), c)
    else
      match kind with
      | .audioDelta value => c.validateAudioDelta value nowNs
      | .utteranceFinal value => c.validateUtteranceFinal value nowNs
      | .sessionClosed value => c.validateSessionClosed value nowNs
      | _ => c.validated event nowNs

/-- The first loop of `poll`: every utterance to cancel must be cancellable. -/
def checkCancels : List WatchdogAction → Except ProviderValidationError Unit
  | [] => .ok ()
  | .cancelUtterance _ _ utteranceId _ :: actions =>
    match c.validator.canRecordCancelRequested utteranceId with
    | .error error => .error error
    | .ok () => checkCancels actions
  | _ :: actions => checkCancels actions

/-- One round of the second loop of `poll`. -/
def perform : WatchdogAction → Reply Unit
  | .cancelUtterance _ streamId utteranceId purgeReceiveBuffer =>
    match c.validator.recordCancelRequested utteranceId with
    | (.ok (), validator) =>
      if purgeReceiveBuffer then
        (.ok (),
          { c with
            validator := validator
            receiveBuffers := c.receiveBuffers.erase (streamId, utteranceId) })
      else (.ok (), { c with validator := validator })
    | (refused, validator) => (refused.mapErr .validation, { c with validator := validator })
  | .closeProviderSession _ => (.ok (), { c with receiveBuffers := ∅ })
  | .restartSidecar _ => (.ok (), { c with receiveBuffers := ∅ })

/-- The second loop of `poll`; it stops at the first error. -/
def performAll (c : ProviderStreamCoordinator) : List WatchdogAction → Reply Unit
  | [] => (.ok (), c)
  | action :: actions =>
    match c.perform action with
    | (.ok (), c') => c'.performAll actions
    | refused => refused

def poll (nowNs : Nat) : Reply (List WatchdogAction) :=
  let (actions, watchdog) := c.watchdog.poll nowNs
  match c.checkCancels actions with
  | .error error => (.err (.validation error), c)
  | .ok () =>
    match { c with watchdog := watchdog }.performAll actions with
    | (.ok (), c') => (.ok actions, c')
    | (.err error, c') => (.err error, c')
    | (.panic, c') => (.panic, c')

def cancelExpiredUtterance (streamId utteranceId : Uuid) (nowNs : Nat) : Reply WatchdogAction :=
  match c.watchdog.cancelUtterance streamId utteranceId nowNs with
  | .error error => (.err (.watchdog error), c)
  | .ok (action, watchdog) =>
    match c.validator.recordCancelRequested utteranceId with
    | (.ok (), validator) =>
      (.ok action,
        { watchdog := watchdog
          validator := validator
          receiveBuffers := c.receiveBuffers.erase (streamId, utteranceId) })
    | (.err error, validator) => (.err (.validation error), { c with validator := validator })
    | (.panic, validator) => (.panic, { c with watchdog := watchdog, validator := validator })

end ProviderStreamCoordinator

end Translator.Stream
