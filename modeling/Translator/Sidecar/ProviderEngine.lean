import Translator.Schemes.Call
import Translator.Schemes.Run
import Translator.Sidecar.Messages

/-! `ProviderEngine`: the deterministic provider behind the sidecar's transport. Frames go through an
    input and an output queue, and an utterance ends with one final, whichever queue its frames are in.

    A call works on the session it names. What it did before it raised stays done, and the events it
    had made by then are lost. `health`, `queue_state` and `next_wakeup_ms` leave the queues alone. -/

namespace Translator.Engine
open Schemes Sidecar
open Wire (Uuid)

def inputLimitMs : Nat := 800
def outputLimitMs : Nat := 1200
def maxTerminalUtterances : Nat := 4096
def maxActiveUtterances : Nat := 64
def nanosecondsPerMillisecond : Nat := 1000000

/-- `_MAX_AGE_MS`. -/
def maxAgeMs : Core.TranslationMode → Nat
  | .qualityFirst => 3000
  | .balanced => 2000
  | .streamingFirst => 1000

/-- `ProviderProtocolError`, by its text. -/
inductive ProviderProtocolError where
  | duplicateSession | unsupportedProvider | negotiatedFormatMismatch | activeUtteranceCapacity
  | directionIdentityMismatch | utteranceTerminal | unknownUtterance | unknownSession | sessionTerminal
  | streamIdentityMismatch | duplicateFrameSequence | staleFrameSequence | sessionContractMismatch
  | pcmLengthMismatch | terminalTombstoneCapacity
  deriving DecidableEq, Repr

def ProviderProtocolError.message : ProviderProtocolError → String
  | .duplicateSession => "duplicate_session"
  | .unsupportedProvider => "unsupported_provider"
  | .negotiatedFormatMismatch => "negotiated_format_mismatch"
  | .activeUtteranceCapacity => "active_utterance_capacity"
  | .directionIdentityMismatch => "direction_identity_mismatch"
  | .utteranceTerminal => "utterance_terminal"
  | .unknownUtterance => "unknown_utterance"
  | .unknownSession => "unknown_session"
  | .sessionTerminal => "session_terminal"
  | .streamIdentityMismatch => "stream_identity_mismatch"
  | .duplicateFrameSequence => "duplicate_frame_sequence"
  | .staleFrameSequence => "stale_frame_sequence"
  | .sessionContractMismatch => "session_contract_mismatch"
  | .pcmLengthMismatch => "pcm_length_mismatch"
  | .terminalTombstoneCapacity => "terminal_tombstone_capacity"

/-- What a call raises: a `ValueError` is a message that fails its own checks, or odd PCM. -/
inductive Raised where
  | protocol (error : ProviderProtocolError)
  | valueError
  deriving DecidableEq, Repr

structure MockInjection where
  processDelayMs : Nat
  failAfterFrames : Option Nat
  transcript : String
  translation : String

structure QueuedInput where
  frame : ProviderInputFrame
  enqueuedNs : Int

structure QueuedOutput where
  frame : ProviderInputFrame
  pcm : List UInt8

inductive CloseRequestReason where
  | userStop | routeRemoved | deviceUnavailable | providerSwitch | daemonShutdown
  deriving DecidableEq, Repr

structure CloseProviderSession where
  sessionId : Uuid
  reason : CloseRequestReason

structure UpdateDebugText where
  sessionId : Uuid
  enabled : Bool

/-- What an event of the engine says, besides its session, direction and number. -/
inductive EventBody where
  | sessionOpened (negotiatedInputFormat negotiatedOutputFormat : PcmFormat)
  | audioDelta (streamId utteranceId : Uuid) (sequence providerMonotonicNs sampleRateHz channels
      frameDurationMs : Nat) (pcm : List UInt8)
  | transcriptDelta (streamId utteranceId : Uuid) (text : String) (isFinal : Bool)
  | translationDelta (streamId utteranceId : Uuid) (text : String) (stablePrefix isFinal : Bool)
  | latency (streamId utteranceId : Uuid) (ttsFirstAudioMs providerTotalMs : Nat)
  | error (streamId utteranceId : Uuid) (code : SafeErrorCode) (retryable : Bool)
  | utteranceFinal (streamId utteranceId : Uuid) (finalAudioSequence : Option Nat)
      (outcome : UtteranceOutcome)
  | sessionClosed (reason : CloseRequestReason)
  deriving DecidableEq

structure ProviderEngineEvent where
  sessionId : Uuid
  directionId : Core.AudioDirection
  eventSequence : Nat
  body : EventBody
  deriving DecidableEq

structure Session where
  request : OpenProviderSession
  debugTextEnabled : Bool
  eventSequence : Nat
  lastFrameSequence : Option Nat
  streamId : Option Uuid
  inputQueue : List QueuedInput
  outputQueue : List QueuedOutput
  inputBufferedMs : Int
  outputBufferedMs : Int
  processedFrames : Nat
  terminalUtterances : Finset Uuid
  utteranceEndReceived : Finset Uuid
  utteranceStreams : Table Uuid Uuid
  nextAudioSequence : Table Uuid Nat
  lastEmittedAudioSequence : Table Uuid Nat
  closed : Bool

/-- `mock_transform_pcm`: the samples the other way round. -/
def reverseSamples : List UInt8 → List UInt8
  | low :: high :: rest => reverseSamples rest ++ [low, high]
  | rest => rest

def mockTransformPcm (pcm : List UInt8) : Option (List UInt8) :=
  if pcm.length % 2 = 1 then none else some (reverseSamples pcm)

abbrev SessionCall (α : Type) : Type := Call Session Raised α

namespace Session

def opened (request : OpenProviderSession) : Session where
  request := request
  debugTextEnabled := request.debugTextEnabled
  eventSequence := 0
  lastFrameSequence := none
  streamId := none
  inputQueue := []
  outputQueue := []
  inputBufferedMs := 0
  outputBufferedMs := 0
  processedFrames := 0
  terminalUtterances := ∅
  utteranceEndReceived := ∅
  utteranceStreams := ∅
  nextAudioSequence := ∅
  lastEmittedAudioSequence := ∅
  closed := false

variable (s : Session)

/-- `_validate_frame`. -/
def validateFrame (frame : ProviderInputFrame) : Option ProviderProtocolError :=
  let format := s.request.requestedInputFormat
  if frame.utteranceId ∈ s.terminalUtterances then some .utteranceTerminal
  else if frame.directionId ≠ s.request.directionId then some .directionIdentityMismatch
  else if s.streamId.any (· ≠ frame.streamId) then some .streamIdentityMismatch
  else if s.lastFrameSequence.any (frame.sequence = ·) then some .duplicateFrameSequence
  else if s.lastFrameSequence.any (frame.sequence < ·) then some .staleFrameSequence
  else if frame.utteranceId ∈ s.utteranceEndReceived then some .utteranceTerminal
  else if frame.sampleRateHz ≠ format.sampleRateHz ∨ frame.channels ≠ format.channels
      ∨ frame.frameDurationMs ≠ format.frameDurationMs then some .negotiatedFormatMismatch
  else if frame.sourceLanguage ≠ s.request.sourceLanguage
      ∨ frame.targetLanguage ≠ s.request.targetLanguage ∨ frame.mode ≠ s.request.mode then
    some .sessionContractMismatch
  else if frame.pcm.length ≠ frame.sampleRateHz * frame.channels * 2 * frame.frameDurationMs / 1000 then
    some .pcmLengthMismatch
  else none

/-- `_expired`. -/
def expired (captureMonotonicNs : Nat) (nowNs : Int) : Bool :=
  (maxAgeMs s.request.mode * nanosecondsPerMillisecond : Int) < max 0 (nowNs - captureMonotonicNs)

/-- `_remove_utterance_input`. -/
def removeUtteranceInput (utteranceId : Uuid) : Session :=
  let removed := s.inputQueue.filter (·.frame.utteranceId = utteranceId)
  { s with
    inputQueue := s.inputQueue.filter (·.frame.utteranceId ≠ utteranceId)
    inputBufferedMs := s.inputBufferedMs - ((removed.map (·.frame.frameDurationMs)).sum : Nat) }

/-- `_remove_utterance_output`. -/
def removeUtteranceOutput (utteranceId : Uuid) : Session :=
  let removed := s.outputQueue.filter (·.frame.utteranceId = utteranceId)
  { s with
    outputQueue := s.outputQueue.filter (·.frame.utteranceId ≠ utteranceId)
    outputBufferedMs := s.outputBufferedMs - ((removed.map (·.frame.frameDurationMs)).sum : Nat) }

/-- Everything the session knows of an utterance is dropped, and its identity is kept as terminal. -/
def bury (utteranceId : Uuid) : Session :=
  let s := (s.removeUtteranceInput utteranceId).removeUtteranceOutput utteranceId
  { s with
    utteranceEndReceived := s.utteranceEndReceived.erase utteranceId
    utteranceStreams := s.utteranceStreams.erase utteranceId
    nextAudioSequence := s.nextAudioSequence.erase utteranceId
    lastEmittedAudioSequence := s.lastEmittedAudioSequence.erase utteranceId
    terminalUtterances := insert utteranceId s.terminalUtterances }

/-- An admitted frame is noted before anything becomes of it. -/
def note (frame : ProviderInputFrame) : Session :=
  { s with
    lastFrameSequence := some frame.sequence
    streamId := some frame.streamId
    utteranceStreams := s.utteranceStreams.insert frame.utteranceId frame.streamId }

def queueInput (frame : ProviderInputFrame) (nowNs : Int) : Session :=
  { s with
    inputQueue := s.inputQueue ++ [⟨frame, nowNs⟩]
    inputBufferedMs := s.inputBufferedMs + frame.frameDurationMs
    utteranceEndReceived := if frame.endOfUtterance then insert frame.utteranceId s.utteranceEndReceived
      else s.utteranceEndReceived }

/-- `_pop_input`, where the queue begins with this entry. -/
def popInput (queued : QueuedInput) (rest : List QueuedInput) : Session :=
  { s with inputQueue := rest, inputBufferedMs := s.inputBufferedMs - queued.frame.frameDurationMs }

def popOutput (queued : QueuedOutput) (rest : List QueuedOutput) : Session :=
  { s with outputQueue := rest, outputBufferedMs := s.outputBufferedMs - queued.frame.frameDurationMs }

def queueOutput (frame : ProviderInputFrame) (pcm : List UInt8) : Session :=
  { s with
    outputQueue := s.outputQueue ++ [⟨frame, pcm⟩]
    outputBufferedMs := s.outputBufferedMs + frame.frameDurationMs }

/-- An audio delta with this number was made for the utterance. -/
def noteAudio (utteranceId : Uuid) (sequence : Nat) : Session :=
  { s with
    nextAudioSequence := s.nextAudioSequence.insert utteranceId (sequence + 1)
    lastEmittedAudioSequence := s.lastEmittedAudioSequence.insert utteranceId sequence }

def cleared : Session :=
  { s with
    inputQueue := []
    outputQueue := []
    inputBufferedMs := 0
    outputBufferedMs := 0
    utteranceEndReceived := ∅
    utteranceStreams := ∅
    nextAudioSequence := ∅
    lastEmittedAudioSequence := ∅
    closed := true }

end Session

/-! ### Events -/

/-- An event takes the session's next number; one that fails its checks has taken it too. -/
def emit (directionId : Core.AudioDirection) (body : EventBody) : SessionCall ProviderEngineEvent := fun s =>
  (.ok ⟨s.request.sessionId, directionId, s.eventSequence + 1, body⟩,
    { s with eventSequence := s.eventSequence + 1 })

/-- `_terminal_for_identity`. -/
def terminalForIdentity (streamId utteranceId : Uuid) (finalAudioSequence : Option Nat)
    (outcome : UtteranceOutcome) : SessionCall ProviderEngineEvent := do
  let s ← Call.get
  if utteranceId ∈ s.terminalUtterances then Call.fail (.protocol .utteranceTerminal)
  else if maxTerminalUtterances ≤ s.terminalUtterances.card then
    Call.fail (.protocol .terminalTombstoneCapacity)
  else
    Call.modify (Session.bury · utteranceId)
    emit s.request.directionId (.utteranceFinal streamId utteranceId finalAudioSequence outcome)

/-- `_terminal`. -/
def terminal (frame : ProviderInputFrame) (outcome : UtteranceOutcome) :
    SessionCall ProviderEngineEvent := do
  let s ← Call.get
  terminalForIdentity frame.streamId frame.utteranceId (s.lastEmittedAudioSequence.lookup frame.utteranceId)
    outcome

/-- `_error`, and the utterance is dropped. -/
def dropWithError (frame : ProviderInputFrame) (code : SafeErrorCode) :
    SessionCall (List ProviderEngineEvent) := do
  let s ← Call.get
  let error ← emit s.request.directionId (.error frame.streamId frame.utteranceId code true)
  let final ← terminal frame .dropped
  pure [error, final]

/-! ### The calls -/

/-- A frame that passed the checks is dropped or queued. -/
def takeFrame (frame : ProviderInputFrame) (nowNs : Int) : SessionCall (List ProviderEngineEvent) := do
  Call.modify (Session.note · frame)
  let s ← Call.get
  if s.expired frame.captureMonotonicNs nowNs then
    let final ← terminal frame .dropped
    pure [final]
  else if inputLimitMs < s.inputBufferedMs + frame.frameDurationMs then
    dropWithError frame .queueOverflow
  else
    Call.modify (Session.queueInput · frame nowNs)
    pure []

def enqueueFrame (frame : ProviderInputFrame) (nowNs : Int) : SessionCall (List ProviderEngineEvent) := do
  let s ← Call.get
  match s.validateFrame frame with
  | some error => Call.fail (.protocol error)
  | none =>
    if frame.utteranceId ∉ s.utteranceStreams ∧ maxActiveUtterances ≤ s.utteranceStreams.keys.length then
      Call.fail (.protocol .activeUtteranceCapacity)
    else takeFrame frame nowNs

/-- The texts that go with a processed frame. -/
def describe (injection : MockInjection) (frame : ProviderInputFrame) :
    SessionCall (List ProviderEngineEvent) := do
  let s ← Call.get
  if !s.debugTextEnabled then pure []
  else
    let transcript ← emit frame.directionId
      (.transcriptDelta frame.streamId frame.utteranceId injection.transcript frame.endOfUtterance)
    let translation ← emit frame.directionId
      (.translationDelta frame.streamId frame.utteranceId injection.translation true frame.endOfUtterance)
    pure [transcript, translation]

/-- A frame that left the input queue is turned into one for the output queue. -/
def transform (injection : MockInjection) (frame : ProviderInputFrame) :
    SessionCall (List ProviderEngineEvent) := do
  let s ← Call.get
  Call.modify fun s => { s with processedFrames := s.processedFrames + 1 }
  if injection.failAfterFrames.any (· ≤ s.processedFrames) then dropWithError frame .providerUnavailable
  else if outputLimitMs < s.outputBufferedMs + frame.frameDurationMs then
    dropWithError frame .queueOverflow
  else
    match mockTransformPcm frame.pcm with
    | none => Call.fail .valueError
    | some pcm =>
      Call.modify (Session.queueOutput · frame pcm)
      describe injection frame

def processNext (injection : MockInjection) (nowNs : Int) : SessionCall (List ProviderEngineEvent) := do
  let s ← Call.get
  match s.inputQueue with
  | [] => pure []
  | queued :: rest =>
    if s.expired queued.frame.captureMonotonicNs nowNs then
      Call.modify (Session.popInput · queued rest)
      let final ← terminal queued.frame .dropped
      pure [final]
    else if nowNs < queued.enqueuedNs + injection.processDelayMs * nanosecondsPerMillisecond then pure []
    else
      Call.modify (Session.popInput · queued rest)
      transform injection queued.frame

/-- The audio of a frame and its latency; a time before zero does not pass the event's checks. -/
def speak (queued : QueuedOutput) (nowNs : Int) : SessionCall (List ProviderEngineEvent) := do
  let frame := queued.frame
  let s ← Call.get
  let sequence := (s.nextAudioSequence.lookup frame.utteranceId).getD 0
  let audio ← emit frame.directionId (.audioDelta frame.streamId frame.utteranceId sequence nowNs.toNat
    frame.sampleRateHz frame.channels frame.frameDurationMs queued.pcm)
  if nowNs < 0 then Call.fail .valueError
  else
    Call.modify (Session.noteAudio · frame.utteranceId sequence)
    let totalMs := (max 0 ((nowNs - frame.captureMonotonicNs) / nanosecondsPerMillisecond)).toNat
    let latency ← emit frame.directionId (.latency frame.streamId frame.utteranceId totalMs totalMs)
    pure [audio, latency]

/-- What `drain_output` makes of a frame it has taken from the queue. -/
def drainFrame (queued : QueuedOutput) (nowNs : Int) : SessionCall (List ProviderEngineEvent) := do
  let s ← Call.get
  if s.expired queued.frame.captureMonotonicNs nowNs then
    let final ← terminal queued.frame .dropped
    pure [final]
  else
    let spoken ← speak queued nowNs
    if queued.frame.endOfUtterance then
      let final ← terminal queued.frame .completed
      pure (spoken ++ [final])
    else pure spoken

/-- The loop of `drain_output`; the fuel is the length the queue has at first. -/
def drainLoop (nowNs : Int) : Nat → SessionCall (List ProviderEngineEvent)
  | 0 => pure []
  | fuel + 1 => do
    let s ← Call.get
    match s.outputQueue with
    | [] => pure []
    | queued :: rest =>
      Call.modify (Session.popOutput · queued rest)
      let events ← drainFrame queued nowNs
      let more ← drainLoop nowNs fuel
      pure (events ++ more)

def drainOutput (nowNs : Int) : SessionCall (List ProviderEngineEvent) := do
  let s ← Call.get
  drainLoop nowNs s.outputQueue.length

def cancelUtterance (request : CancelUtterance) : SessionCall (List ProviderEngineEvent) := do
  let s ← Call.get
  if request.directionId ≠ s.request.directionId then Call.fail (.protocol .directionIdentityMismatch)
  else if request.utteranceId ∈ s.terminalUtterances then Call.fail (.protocol .utteranceTerminal)
  else match s.utteranceStreams.lookup request.utteranceId with
  | none => Call.fail (.protocol .unknownUtterance)
  | some streamId =>
    Call.modify fun s =>
      (s.removeUtteranceInput request.utteranceId).removeUtteranceOutput request.utteranceId
    let final ← terminalForIdentity streamId request.utteranceId
      (s.lastEmittedAudioSequence.lookup request.utteranceId) .cancelled
    pure [final]

def closeSession (request : CloseProviderSession) : SessionCall (List ProviderEngineEvent) := do
  Call.modify Session.cleared
  let s ← Call.get
  let closed ← emit s.request.directionId (.sessionClosed request.reason)
  pure [closed]

def updateDebugText (request : UpdateDebugText) : SessionCall (List ProviderEngineEvent) := do
  Call.modify ({ · with debugTextEnabled := request.enabled })
  pure []

/-! ### The engine -/

structure ProviderEngine where
  injection : MockInjection
  sessions : Table Uuid Session

namespace ProviderEngine

def openSession (request : OpenProviderSession) : Call ProviderEngine Raised ProviderEngineEvent := fun engine =>
  if request.sessionId ∈ engine.sessions then (.err (.protocol .duplicateSession), engine)
  else if request.providerId ≠ .local then (.err (.protocol .unsupportedProvider), engine)
  else if request.requestedInputFormat ≠ request.requestedOutputFormat then
    (.err (.protocol .negotiatedFormatMismatch), engine)
  else
    let (result, session) := emit request.directionId
      (.sessionOpened request.requestedInputFormat request.requestedOutputFormat) (Session.opened request)
    (result, { engine with sessions := engine.sessions.insert request.sessionId session })

/-- `_active_session`, and the call on it. -/
def onSession (sessionId : Uuid) (c : SessionCall (List ProviderEngineEvent)) :
    Call ProviderEngine Raised (List ProviderEngineEvent) := fun engine =>
  match engine.sessions.lookup sessionId with
  | none => (.err (.protocol .unknownSession), engine)
  | some session =>
    if session.closed then (.err (.protocol .sessionTerminal), engine)
    else
      let (result, session) := c session
      (result, { engine with sessions := engine.sessions.insert sessionId session })

end ProviderEngine

/-- A call on a session. -/
inductive Op where
  | enqueueFrame (frame : ProviderInputFrame) (nowNs : Int)
  | processNext (sessionId : Uuid) (nowNs : Int)
  | drainOutput (sessionId : Uuid) (nowNs : Int)
  | cancelUtterance (request : CancelUtterance)
  | updateDebugText (request : UpdateDebugText)
  | closeSession (request : CloseProviderSession)

def Op.sessionId : Op → Uuid
  | .enqueueFrame frame _ => frame.sessionId
  | .processNext sessionId _ => sessionId
  | .drainOutput sessionId _ => sessionId
  | .cancelUtterance request => request.sessionId
  | .updateDebugText request => request.sessionId
  | .closeSession request => request.sessionId

/-- What the call does to its session. -/
def Op.call (injection : MockInjection) : Op → SessionCall (List ProviderEngineEvent)
  | .enqueueFrame frame nowNs => Engine.enqueueFrame frame nowNs
  | .processNext _ nowNs => Engine.processNext injection nowNs
  | .drainOutput _ nowNs => Engine.drainOutput nowNs
  | .cancelUtterance request => Engine.cancelUtterance request
  | .updateDebugText request => Engine.updateDebugText request
  | .closeSession request => Engine.closeSession request

def ProviderEngine.apply (engine : ProviderEngine) (op : Op) :
    Outcome Raised (List ProviderEngineEvent) × ProviderEngine :=
  engine.onSession op.sessionId (op.call engine.injection)

end Translator.Engine
