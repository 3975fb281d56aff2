import Translator.Realtime.Adapter

/-! The state of a session of `OpenAIRealtimeProvider`, and what its methods do to it between two
    `await`s.

    Next to the fields of `_OpenAISession` stand the tables the provider keeps for it, the final tasks it
    has created, and three histories: what was published, what was handed to the websocket, and the
    frames that passed their checks. Identities of the session and the direction are fixed by the
    request. -/

namespace Translator.Realtime
open Schemes
open Wire (Uuid)
open Sidecar (OpenProviderSession ProviderInputFrame SafeErrorCode UtteranceOutcome)

def finalIdleMs : Nat := 225
def noSpeechFinalMs : Nat := 5500

/-- `_UtteranceState`. A final task is known by its number. -/
structure UtteranceState where
  streamId : Uuid
  utteranceId : Uuid
  inputComplete : Bool
  dropPending : Bool
  finalSent : Bool
  lastAudioSequence : Option Nat
  pendingAudio : List AudioDelta
  finalTask : Option Nat
  deriving DecidableEq

def UtteranceState.new (streamId utteranceId : Uuid) (dropPending : Bool) : UtteranceState :=
  ⟨streamId, utteranceId, false, dropPending, false, none, [], none⟩

/-- What a final task was created with. -/
structure FinalTask where
  utteranceId : Uuid
  delayMs : Nat
  outcome : UtteranceOutcome
  deriving DecidableEq

/-- A frame as it goes to the websocket. -/
structure Forwarded where
  frame : ProviderInputFrame
  pcm : List UInt8

structure OpenAISession where
  request : OpenProviderSession
  debugTextEnabled : Bool
  closeRequested : Bool
  requestedCloseReason : Option SessionCloseReason
  closed : Bool
  closedPublished : Bool
  closedEvent : Bool
  currentStreamId : Option Uuid
  currentUtteranceId : Option Uuid
  utterances : Table Uuid UtteranceState
  adapter : OpenAIRealtimeAdapter
  eventSequence : Nat
  /-- The final tasks in the order of their creation, and those that were cancelled. -/
  finalTasks : List FinalTask
  cancelledTasks : List Nat
  wire : List (List ProviderEvent)
  forwarded : List Forwarded
  heard : List ProviderInputFrame

namespace OpenAISession

/-- After `open_session`, which numbers the opening and the health report. -/
def opened (request : OpenProviderSession) : OpenAISession where
  request := request
  debugTextEnabled := request.debugTextEnabled
  closeRequested := false
  requestedCloseReason := none
  closed := false
  closedPublished := false
  closedEvent := false
  currentStreamId := none
  currentUtteranceId := none
  utterances := ∅
  adapter := .new
  eventSequence := 2
  finalTasks := []
  cancelledTasks := []
  wire := []
  forwarded := []
  heard := []

variable (s : OpenAISession)

/-- Everything published, in order. -/
def published : List Body := s.wire.flatten.map ProviderEvent.body

/-! ### Utterances -/

def utterance (utteranceId : Uuid) : Option UtteranceState := s.utterances.lookup utteranceId

/-- `utterances.setdefault`. -/
def setDefault (state : UtteranceState) : OpenAISession :=
  { s with
    utterances := s.utterances.insert state.utteranceId ((s.utterance state.utteranceId).getD state) }

/-- Change the state of an utterance that is there. -/
def update (utteranceId : Uuid) (f : UtteranceState → UtteranceState) : OpenAISession :=
  { s with
    utterances :=
      match s.utterance utteranceId with
      | some u => s.utterances.insert utteranceId (f u)
      | none => s.utterances }

theorem utterance_setDefault (state : UtteranceState) (utteranceId : Uuid) :
    (s.setDefault state).utterance utteranceId
      = if utteranceId = state.utteranceId then some ((s.utterance utteranceId).getD state)
        else s.utterance utteranceId := by
  unfold setDefault utterance
  dsimp only
  rw [Table.lookup_insert_if]
  split
  next h => rw [h]
  next => rfl

theorem utterance_update (utteranceId other : Uuid) (f : UtteranceState → UtteranceState) :
    (s.update utteranceId f).utterance other
      = if other = utteranceId then (s.utterance other).map f else s.utterance other := by
  unfold update utterance
  dsimp only
  split
  next u hu =>
    rw [Table.lookup_insert_if]
    split
    next h =>
      rw [h, show s.utterances.lookup utteranceId = some u from hu]
      rfl
    next => rfl
  next hnone =>
    split
    next h =>
      rw [h, show s.utterances.lookup utteranceId = none from hnone]
      rfl
    next => rfl

/-- `_active_output_utterance`. -/
def activeOutputUtterance : Option UtteranceState :=
  match s.currentUtteranceId with
  | none => none
  | some current =>
    match s.utterance current with
    | none => none
    | some state => if state.finalSent || state.dropPending then none else some state

/-- Another utterance than this one is active. -/
def blocks (utteranceId : Uuid) : Bool :=
  match s.activeOutputUtterance with
  | some active => utteranceId ≠ active.utteranceId
  | none => false

/-! ### Frames -/

inductive ProtocolError where
  | openSessionRequired | sessionIdentityMismatch | directionIdentityMismatch | unsupportedPcmFormat
  | pcmLengthMismatch
  deriving DecidableEq, Repr

/-- `_validate_frame`. -/
def validateFrame (frame : ProviderInputFrame) : Option ProtocolError :=
  if frame.sessionId ≠ s.request.sessionId then some .sessionIdentityMismatch
  else if frame.directionId ≠ s.request.directionId then some .directionIdentityMismatch
  else if frame.channels ≠ 1 then some .unsupportedPcmFormat
  else if frame.pcm.length ≠ frame.sampleRateHz * frame.channels * 2 * frame.frameDurationMs / 1000 then
    some .pcmLengthMismatch
  else none

def hear (frame : ProviderInputFrame) : OpenAISession := { s with heard := s.heard ++ [frame] }

/-- A frame of an utterance that is to be dropped. -/
def noteDropped (frame : ProviderInputFrame) : OpenAISession :=
  (s.setDefault (.new frame.streamId frame.utteranceId true)).update frame.utteranceId fun u =>
    { u with dropPending := true, inputComplete := u.inputComplete || frame.endOfUtterance }

/-- A frame of the utterance that is, or now becomes, the current one. -/
def takeFrame (frame : ProviderInputFrame) : OpenAISession :=
  { s.setDefault (.new frame.streamId frame.utteranceId false) with
    currentStreamId := some frame.streamId
    currentUtteranceId := some frame.utteranceId }

/-- `_resample_pcm`. -/
def resamplePcm (codec : Codec) (pcm : List UInt8) (sourceRate targetRate : Nat) : List UInt8 :=
  if sourceRate = targetRate then pcm else codec.resample sourceRate targetRate pcm

def forward (codec : Codec) (frame : ProviderInputFrame) : OpenAISession :=
  { s with forwarded := s.forwarded ++
      [⟨frame, resamplePcm codec frame.pcm frame.sampleRateHz openaiSampleRateHz⟩] }

def completeInput (utteranceId : Uuid) : OpenAISession :=
  s.update utteranceId fun u => { u with inputComplete := true }

/-! ### Publication -/

/-- The events with the numbers they take. -/
def number (bodies : List Body) : List ProviderEvent :=
  bodies.zipIdx.map fun (body, i) => ⟨s.eventSequence + i + 1, body⟩

def takeNumbers (count : Nat) : OpenAISession := { s with eventSequence := s.eventSequence + count }

def commit (batch : List ProviderEvent) : OpenAISession := { s with wire := s.wire ++ [batch] }

def closedEventSet : OpenAISession := { s with closedEvent := true }

/-- The last of some audio, or what was the last before. -/
def lastSequence (audio : List AudioDelta) (before : Option Nat) : Option Nat :=
  match audio.getLast? with
  | some last => some last.sequence
  | none => before

/-- The pending audio of an utterance is taken to be published. -/
def takePending (utteranceId : Uuid) : OpenAISession :=
  s.update utteranceId fun u =>
    { u with pendingAudio := [], lastAudioSequence := lastSequence u.pendingAudio u.lastAudioSequence }

/-! ### Finals -/

def cancelTask (task : Option Nat) : OpenAISession :=
  { s with cancelledTasks := s.cancelledTasks ++ task.toList }

/-- The final task of an utterance, if any, is cancelled and forgotten. -/
def cancelFinalTask (utteranceId : Uuid) : OpenAISession :=
  (s.cancelTask ((s.utterance utteranceId).bind UtteranceState.finalTask)).update utteranceId fun u =>
    { u with finalTask := none }

def markFinal (utteranceId : Uuid) : OpenAISession :=
  s.update utteranceId fun u => { u with finalSent := true }

/-- The utterance is not the current one any more. -/
def retire (utteranceId : Uuid) : OpenAISession :=
  { s with
    currentStreamId := if s.currentUtteranceId = some utteranceId then none else s.currentStreamId
    currentUtteranceId :=
      if s.currentUtteranceId = some utteranceId then none else s.currentUtteranceId }

/-- `_schedule_final_locked`. -/
def scheduleFinal (utteranceId : Uuid) (delayMs : Nat) (outcome : UtteranceOutcome) : OpenAISession :=
  match s.utterance utteranceId with
  | none => s
  | some u =>
    if u.finalSent then s
    else
      OpenAISession.update
        { s.cancelTask u.finalTask with
          finalTasks := s.finalTasks ++ [⟨utteranceId, delayMs, outcome⟩] }
        utteranceId fun u => { u with finalTask := some s.finalTasks.length }

/-- The final that follows the last frame of an utterance. -/
def scheduleAfterInput (utteranceId : Uuid) : OpenAISession :=
  match s.utterance utteranceId with
  | none => s
  | some u =>
    if u.lastAudioSequence.isNone then s.scheduleFinal utteranceId noSpeechFinalMs .dropped
    else s.scheduleFinal utteranceId finalIdleMs .completed

/-! ### Realtime events -/

/-- `_convert_output_audio`. -/
def convertOutputAudio (codec : Codec) (audio : AudioDelta) : AudioDelta :=
  { audio with
    sampleRateHz := s.request.requestedOutputFormat.sampleRateHz
    channels := s.request.requestedOutputFormat.channels
    frameDurationMs := s.request.requestedOutputFormat.frameDurationMs
    pcm := resamplePcm codec audio.pcm audio.sampleRateHz s.request.requestedOutputFormat.sampleRateHz }

/-- One of the mapped events: audio is kept until the input is complete, everything else is to be
    published. -/
def takeItem (codec : Codec) (utteranceId : Uuid) (item : ProviderEvent) :
    Option Body × OpenAISession :=
  match item.body, s.utterance utteranceId with
  | .audioDelta audio, some u =>
    if u.inputComplete then
      (some (.audioDelta (s.convertOutputAudio codec audio)),
        s.update utteranceId fun u => { u with lastAudioSequence := some audio.sequence })
    else
      (none, s.update utteranceId fun u =>
        { u with pendingAudio := u.pendingAudio ++ [s.convertOutputAudio codec audio] })
  | .transcriptDelta .., _ | .translationDelta .., _ => (some item.body, s)
  | _, _ => (none, s)

def takeItems (codec : Codec) (utteranceId : Uuid) :
    List ProviderEvent → OpenAISession → List Body × OpenAISession
  | [], s => ([], s)
  | item :: rest, s =>
    let (body, s) := s.takeItem codec utteranceId item
    let (bodies, s) := takeItems codec utteranceId rest s
    (body.toList ++ bodies, s)

/-! ### Closing -/

def closeRequest (reason : SessionCloseReason) : OpenAISession :=
  { s with requestedCloseReason := some reason, closeRequested := true }

/-- All final tasks are cancelled, and nothing is to follow. -/
def markClosed : OpenAISession :=
  { s with
    closedPublished := true
    cancelledTasks := s.cancelledTasks ++ s.utterances.entries.filterMap fun entry => entry.2.finalTask
    utterances := Table.mapVals (fun _ u => { u with finalTask := none }) s.utterances }

end OpenAISession

inductive CloseRequestReason where
  | userStop | routeRemoved | deviceUnavailable | providerSwitch | daemonShutdown
  deriving DecidableEq, Repr

/-- `_close_reason`. -/
def closeReason : CloseRequestReason → SessionCloseReason
  | .userStop => .userStop
  | .routeRemoved => .routeRemoved
  | .deviceUnavailable => .deviceUnavailable
  | .providerSwitch => .providerSwitch
  | .daemonShutdown => .daemonShutdown

end Translator.Realtime
