import Translator.Schemes.Run
import Translator.Sidecar.PublicationQueue

/-! One session of `LocalProvider`: frames are collected into utterances, every finished utterance
    runs through a pipeline, and what is to be told goes through a queue of publications that one
    task, the publication loop, builds and hands to a task of their own, which runs `publish_local`.

    The steps are what happens under the session lock, or between two `await`s. A call of the contract is
    let in while the session is open, and takes the lock later. What the models make of an utterance,
    what the scheduler answers and whether the transport takes a batch are part of the step. The captured
    samples, the texts' budgets and the shared model states are left out: their effect is the outcome the
    step names. So are the events that wake a task: one that finds nothing to do changes nothing. -/

namespace Translator.Sidecar
open Schemes
open Wire (Uuid)

def maxSourceUtteranceMs : Nat := 30000
def maxTerminalIds : Nat := 4096

/-- `LocalProviderProtocolError`, by its text. -/
inductive ProtocolError where
  | unsupportedProvider | inputFormatUnsupported | languagePairUnsupported | voiceLanguageMismatch
  | sessionUnavailable | frameContractMismatch | frameFormatMismatch | frameLengthMismatch
  | streamMismatch | sequenceNotContiguous | utteranceTerminal | utteranceReachedEou
  | terminalCapacityReached | utteranceChanged | utteranceDirectionMismatch | utteranceUnavailable
  deriving DecidableEq, Repr

def ProtocolError.message : ProtocolError → String
  | .unsupportedProvider => "unsupported provider"
  | .inputFormatUnsupported => "local ASR input format is unsupported"
  | .languagePairUnsupported => "language pair is unsupported"
  | .voiceLanguageMismatch => "voice language does not match target"
  | .sessionUnavailable => "provider session is unavailable"
  | .frameContractMismatch => "frame session contract mismatch"
  | .frameFormatMismatch => "frame PCM format mismatch"
  | .frameLengthMismatch => "frame PCM length mismatch"
  | .streamMismatch => "stream identity mismatch"
  | .sequenceNotContiguous => "frame sequence is not contiguous"
  | .utteranceTerminal => "utterance is already terminal"
  | .utteranceReachedEou => "utterance already reached EOU"
  | .terminalCapacityReached => "terminal identity capacity reached"
  | .utteranceChanged => "utterance identity changed before EOU"
  | .utteranceDirectionMismatch => "utterance direction mismatch"
  | .utteranceUnavailable => "utterance is unavailable"

/-- Where the pipeline of an utterance is, with what it has measured so far. -/
inductive Stage where
  /-- Frames are still coming in. -/
  | collecting
  | transcribing
  | translating (asrMs : Nat) (source : String)
  /-- The texts wait for room in the queue. -/
  | describing (asrMs mtMs : Nat) (source translation : String)
  /-- Speech is being synthesised; `frames` of it are queued or published. -/
  | speaking (asrMs mtMs : Nat) (ttsMs : Option Nat) (frames : Nat)
  /-- A frame waits for room in the queue. -/
  | offering (asrMs mtMs ttsMs frames : Nat) (pcm : List UInt8)
  /-- The job was taken away; the utterance gets no terminal. -/
  | abandoned
  deriving DecidableEq

structure Utterance where
  streamId : Uuid
  captureOnsetNs : Nat
  /-- `OVERFLOW_DISCARDING`. -/
  discarding : Bool
  bufferedMs : Nat
  stage : Stage
  deriving DecidableEq

def Utterance.ref (utterance : Utterance) (id : Uuid) : UtteranceRef :=
  ⟨id, utterance.streamId, utterance.captureOnsetNs⟩

/-- `LocalProviderPublicationError`, by its text. -/
inductive PublicationError where
  | capacityReached | shapeChanged | notCommitted | failed
  deriving DecidableEq, Repr

def PublicationError.message : PublicationError → String
  | .capacityReached => "provider event publication capacity reached"
  | .shapeChanged => "provider event publication shape changed"
  | .notCommitted => "provider event publication was not committed"
  | .failed => "provider event publication failed"

/-- A call that was let in and waits for the session lock. -/
inductive Call where
  | submitFrame (frame : ProviderInputFrame)
  | cancelUtterance (request : CancelUtterance)
  | updateDebugText (enabled : Bool)
  | closeSession

structure Session extends PublicationQueue where
  request : OpenProviderSession
  debugTextEnabled : Bool
  eventSequence : Nat
  lastInputSequence : Option Nat
  streamId : Option Uuid
  collectingId : Option Uuid
  utterances : Table Uuid Utterance
  terminalIds : Finset Uuid
  publicationError : Option PublicationError
  closed : Bool
  /-- The publication loop has returned. -/
  retired : Bool
  calls : List Call
  /-- Everything put into the event channel. -/
  wire : List Wire.Event

/-- What a request is answered with. -/
abbrev Reply := Except ProtocolError Unit

namespace Session

/-! ### Opening -/

def validateOpen (request : OpenProviderSession) : Reply :=
  if request.requestedInputFormat.sampleRateHz ≠ 16000 ∨ request.requestedInputFormat.channels ≠ 1
  then .error .inputFormatUnsupported
  else if request.sourceLanguage = request.targetLanguage then .error .languagePairUnsupported
  else if request.voiceProfile.language ≠ request.targetLanguage then .error .voiceLanguageMismatch
  else .ok ()

/-- The session as `open_session` leaves it: the opening and the first health report have their
    numbers and are written out first. `failed` says that some model of the session has failed. -/
def opened (request : OpenProviderSession) (failed : Bool) : Session where
  toPublicationQueue := .empty
  request := request
  debugTextEnabled := request.debugTextEnabled
  eventSequence := 2
  lastInputSequence := none
  streamId := none
  collectingId := none
  utterances := ∅
  terminalIds := ∅
  publicationError := none
  closed := false
  retired := false
  calls := []
  wire := (numbered 0 [.sessionOpened,
    .health ⟨0, 0, 0⟩ (if failed then some .modelNotLoaded else none)]).filterMap
      request.eventToProto

def openSession (request : OpenProviderSession) (failed : Bool) : Except ProtocolError Session :=
  if request.providerId ≠ .local then .error .unsupportedProvider
  else
    match validateOpen request with
    | .error error => .error error
    | .ok () => .ok (opened request failed)

variable (s : Session)

/-! ### The queue of publications -/

/-- The session with its queue changed. -/
def onQueue (f : PublicationQueue → PublicationQueue) : Session :=
  { s with toPublicationQueue := f s.toPublicationQueue }

/-- The audio of a publication of this session. -/
def audioMs (publication : Publication) : Nat := publication.audioMs s.request.requestedOutputFormat

/-- `_fail_session_locked`. -/
def failSession (error : Option PublicationError) : Session :=
  { s with
    publicationError := s.publicationError.or error
    closed := true
    debugTextEnabled := false
    utterances := ∅
    collectingId := none
    toPublicationQueue := { s.purge (fun _ => true) with pendingEventCount := 0 } }

/-- `_append_publication_locked`. -/
def append (publication : Publication) : Session :=
  if s.pendingEvents + publication.eventCount > maxPendingEvents then s.failSession (some .capacityReached)
  else s.onQueue fun q => q.push publication (s.audioMs publication)

/-- `nonterminal_limit`. -/
def nonterminalLimit : Nat := maxPendingEvents - terminalReservedEvents

/-- The queue has no room for a publication that is not a terminal. -/
def isFull (publication : Publication) : Bool :=
  s.pendingEvents + publication.eventCount > nonterminalLimit
    || (0 < s.audioMs publication
      && s.pendingAudioMs + s.inFlightMs + s.audioMs publication > maxQueuedAudioMs)

/-- A turn of `_enqueue_publication` for a current utterance; `none` when it is to wait for room. -/
def enqueue (publication : Publication) : Option Session :=
  if publication.eventCount > nonterminalLimit then some (s.failSession (some .capacityReached))
  else if s.isFull publication then none
  else some (s.append publication)

/-! ### Terminals -/

/-- `_terminalize_local` when there is room. -/
def retire (id : Uuid) : Session :=
  { s with
    utterances := s.utterances.erase id
    terminalIds := insert id s.terminalIds }

/-- `_terminalize_local`, then the terminal publication. -/
def terminalize (id : Uuid) (publication : Publication) : Reply × Session :=
  if id ∉ s.terminalIds ∧ maxTerminalIds ≤ s.terminalIds.card then
    (.error .terminalCapacityReached, s.failSession none)
  else (.ok (), (s.retire id).append publication)

def dropLocked (id : Uuid) (utterance : Utterance) (code : SafeErrorCode)
    (asrMs mtMs ttsMs : Option Nat) : Reply × Session :=
  (s.onQueue (·.purge (Publication.isOf id))).terminalize id
    (.dropped (utterance.ref id) code asrMs mtMs ttsMs)

/-! ### Requests -/

def expectedBytes (format : PcmFormat) : Nat :=
  format.sampleRateHz * format.channels * format.frameDurationMs / 1000 * 2

/-- `_validate_frame`: the first frame fixes the stream, also when it is refused afterwards. -/
def validateFrame (frame : ProviderInputFrame) : Reply × Session :=
  let input := s.request.requestedInputFormat
  if frame.directionId ≠ s.request.directionId ∨ frame.sourceLanguage ≠ s.request.sourceLanguage
      ∨ frame.targetLanguage ≠ s.request.targetLanguage ∨ frame.mode ≠ s.request.mode then
    (.error .frameContractMismatch, s)
  else if frame.sampleRateHz ≠ input.sampleRateHz ∨ frame.channels ≠ input.channels
      ∨ frame.frameDurationMs ≠ input.frameDurationMs then
    (.error .frameFormatMismatch, s)
  else if frame.pcm.length ≠ expectedBytes input then (.error .frameLengthMismatch, s)
  else if s.streamId.isSome ∧ s.streamId ≠ some frame.streamId then (.error .streamMismatch, s)
  else
    let s := { s with streamId := some frame.streamId }
    if frame.sequence ≠ (s.lastInputSequence.map (· + 1)).getD 0 then
      (.error .sequenceNotContiguous, s)
    else (.ok (), s)

/-- `_collecting_utterance`. -/
def collectingUtterance (frame : ProviderInputFrame) : Except ProtocolError Utterance × Session :=
  if frame.utteranceId ∈ s.terminalIds then (.error .utteranceTerminal, s)
  else
    match s.collectingId with
    | none =>
      if frame.utteranceId ∈ s.utterances then (.error .utteranceReachedEou, s)
      else if maxTerminalIds ≤ s.terminalIds.card + s.utterances.keys.length then
        (.error .terminalCapacityReached, s.failSession none)
      else
        let utterance : Utterance :=
          ⟨frame.streamId, frame.captureMonotonicNs, false, 0, .collecting⟩
        (.ok utterance,
          { s with
            utterances := s.utterances.insert frame.utteranceId utterance
            collectingId := some frame.utteranceId
            toPublicationQueue :=
              { s.toPublicationQueue with
                lastAudioSequence := s.lastAudioSequence.erase frame.utteranceId } })
    | some id =>
      if id ≠ frame.utteranceId then (.error .utteranceChanged, s)
      else
        match s.utterances.lookup id with
        | some utterance => (.ok utterance, s)
        | none => (.error .utteranceUnavailable, s)

/-- What the scheduler answers when the utterance is handed to it. -/
inductive Admission where
  | accepted | overflow | unavailable
  deriving DecidableEq, Repr

/-- The end of an utterance that was collected in full. -/
def finishCollecting (id : Uuid) (utterance : Utterance) (modelsAvailable : Bool)
    (admission : Admission) : Reply × Session :=
  let s := { s with collectingId := none }
  if !modelsAvailable then s.dropLocked id utterance .modelNotLoaded none none none
  else
    match admission with
    | .accepted =>
      (.ok (),
        { s with
          utterances := s.utterances.insert id { utterance with bufferedMs := 0, stage := .transcribing } })
    | .overflow => s.dropLocked id utterance .queueOverflow none none none
    | .unavailable => s.dropLocked id utterance .providerUnavailable none none none

/-- An utterance that is too long is discarded up to its last frame. -/
def discard (id : Uuid) (utterance : Utterance) (endOfUtterance : Bool) : Reply × Session :=
  let utterance := { utterance with discarding := true, bufferedMs := 0 }
  let s := { s with utterances := s.utterances.insert id utterance }
  if endOfUtterance then
    { s with collectingId := none }.dropLocked id utterance .queueOverflow none none none
  else (.ok (), s)

def submitFrame (frame : ProviderInputFrame) (modelsAvailable : Bool) (admission : Admission) :
    Reply × Session :=
  match s.validateFrame frame with
  | (.error error, s) => (.error error, s)
  | (.ok (), s) =>
    match s.collectingUtterance frame with
    | (.error error, s) => (.error error, s)
    | (.ok utterance, s) =>
      let s := { s with lastInputSequence := some frame.sequence }
      let bufferedMs := utterance.bufferedMs + frame.frameDurationMs
      if utterance.discarding || maxSourceUtteranceMs < bufferedMs then
        s.discard frame.utteranceId utterance frame.endOfUtterance
      else
        let utterance := { utterance with bufferedMs := bufferedMs }
        let s := { s with utterances := s.utterances.insert frame.utteranceId utterance }
        if !frame.endOfUtterance then (.ok (), s)
        else s.finishCollecting frame.utteranceId utterance modelsAvailable admission

def cancelUtterance (request : CancelUtterance) : Reply × Session :=
  if request.directionId ≠ s.request.directionId then (.error .utteranceDirectionMismatch, s)
  else
    match s.utterances.lookup request.utteranceId with
    | none => (.error .utteranceUnavailable, s)
    | some utterance =>
      let s :=
        { s with
          collectingId := if s.collectingId = some request.utteranceId then none else s.collectingId }
      (s.onQueue (·.purge (Publication.isOf request.utteranceId))).terminalize request.utteranceId
        (.cancelled (utterance.ref request.utteranceId))

def updateDebugText (enabled : Bool) : Session :=
  let s := { s with debugTextEnabled := enabled }
  if enabled then s else s.onQueue (·.purge Publication.isDebug)

def closeSession : Session :=
  append
    { s with
      closed := true
      debugTextEnabled := false
      utterances := ∅
      collectingId := none
      toPublicationQueue := s.purge fun _ => true }
    .session

/-- What a call does once it has the lock. -/
def underLock (modelsAvailable : Bool) (admission : Admission) : Call → Reply × Session
  | .submitFrame frame => s.submitFrame frame modelsAvailable admission
  | .cancelUtterance request => s.cancelUtterance request
  | .updateDebugText enabled => (.ok (), s.updateDebugText enabled)
  | .closeSession => (.ok (), s.closeSession)

/-! ### The pipeline -/

/-- The pipeline of a current utterance moves on. -/
def setStage (id : Uuid) (utterance : Utterance) (stage : Stage) : Session :=
  { s with utterances := s.utterances.insert id { utterance with stage := stage } }

/-- `asr_ms`, `mt_ms` and `tts_ms` as far as the pipeline has got. -/
def Stage.measured : Stage → Option Nat × Option Nat × Option Nat
  | .translating asrMs _ => (some asrMs, none, none)
  | .describing asrMs mtMs _ _ => (some asrMs, some mtMs, none)
  | .speaking asrMs mtMs ttsMs _ => (some asrMs, some mtMs, ttsMs)
  | .offering asrMs mtMs ttsMs _ _ => (some asrMs, some mtMs, some ttsMs)
  | _ => (none, none, none)

/-- What happens in the pipeline of an utterance. -/
inductive Inference where
  /-- The recogniser answers; a blank text is no speech. -/
  | noSpeech (nowNs : Nat)
  | transcribed (source : String) (nowNs : Nat)
  | translated (translation : String) (overBudget : Bool) (nowNs : Nat)
  /-- The next frame of speech. -/
  | synthesized (pcm : List UInt8) (overLimit : Bool) (nowNs : Nat)
  /-- There is no more speech. -/
  | spoken
  /-- What waits for room is offered again. -/
  | offer
  | overflow
  | failure
  | stale

/-- What the pipeline wants of the session next. -/
inductive Demand where
  | nothing
  | stage (stage : Stage)
  | drop (code : SafeErrorCode) (asrMs mtMs ttsMs : Option Nat)
  | complete (asrMs mtMs : Nat) (ttsMs : Option Nat)
  /-- A publication is to be queued, and the stage follows. -/
  | enqueue (publication : Publication) (stage : Stage)

/-- `_run_pipeline`, from one thing that happens to the next. -/
def pipeline (id : Uuid) (utterance : Utterance) (inference : Inference) : Demand :=
  let elapsed (nowNs : Nat) := Publication.elapsedMs nowNs utterance.captureOnsetNs
  let drop (code : SafeErrorCode) :=
    let (asrMs, mtMs, ttsMs) := Stage.measured utterance.stage
    Demand.drop code asrMs mtMs ttsMs
  match utterance.stage, inference with
  | .collecting, _ | .abandoned, _ => .nothing
  | _, .overflow => drop .queueOverflow
  | _, .failure => drop .providerUnavailable
  | _, .stale => .stage .abandoned
  | .transcribing, .noSpeech nowNs => .drop .noSpeech (some (elapsed nowNs)) none none
  | .transcribing, .transcribed source nowNs => .stage (.translating (elapsed nowNs) source)
  | .translating asrMs source, .translated translation overBudget nowNs =>
    if overBudget then .drop .queueOverflow (some asrMs) (some (elapsed nowNs)) none
    else .stage (.describing asrMs (elapsed nowNs) source translation)
  | .describing asrMs mtMs source translation, .offer =>
    if !s.debugTextEnabled then .stage (.speaking asrMs mtMs none 0)
    else .enqueue (.debug (utterance.ref id) source translation) (.speaking asrMs mtMs none 0)
  | .speaking asrMs mtMs ttsMs frames, .synthesized pcm overLimit nowNs =>
    if overLimit then drop .queueOverflow
    else if pcm.length ≠ expectedBytes s.request.requestedOutputFormat then drop .providerUnavailable
    else .stage (.offering asrMs mtMs (ttsMs.getD (elapsed nowNs)) frames pcm)
  | .offering asrMs mtMs ttsMs frames pcm, .offer =>
    .enqueue (.audio (utterance.ref id) frames pcm) (.speaking asrMs mtMs (some ttsMs) (frames + 1))
  | .speaking asrMs mtMs ttsMs frames, .spoken =>
    if frames = 0 then drop .providerUnavailable else .complete asrMs mtMs ttsMs
  | _, _ => .nothing

/-- `_drop`, `_complete`, `_publish_debug` and `_publish_audio` for a current utterance. -/
def perform (id : Uuid) (utterance : Utterance) : Demand → Session
  | .nothing => s
  | .stage stage => s.setStage id utterance stage
  | .drop code asrMs mtMs ttsMs => (s.dropLocked id utterance code asrMs mtMs ttsMs).2
  | .complete asrMs mtMs ttsMs =>
    (s.terminalize id (.completed (utterance.ref id) asrMs mtMs ttsMs)).2
  | .enqueue publication stage => ((s.setStage id utterance stage).enqueue publication).getD s

/-- `_is_current`. -/
def current (id : Uuid) : Option Utterance :=
  if s.closed || id ∈ s.terminalIds then none else s.utterances.lookup id

/-- Something happens in the pipeline of an utterance. -/
def infer (id : Uuid) (inference : Inference) : Session :=
  match s.current id with
  | none => s
  | some utterance => s.perform id utterance (s.pipeline id utterance inference)

/-! ### The publication loop -/

/-- The events of a publication are built, and a task is to publish them. -/
def build (queued : Queued) (nowNs : Nat) : Session :=
  let bodies := queued.publication.bodies s.lastAudioSequence.lookup nowNs
  let batch := numbered s.eventSequence bodies
  let s := { s with eventSequence := s.eventSequence + bodies.length }
  if batch.length ≠ queued.publication.eventCount then
    { s.failSession (some .shapeChanged) with retired := true }
  else s.onQueue (·.launch queued batch)

/-- The loop, waiting for a publication, takes the next one. Building it may raise, which ends the loop. -/
def take (nowNs : Nat) (built : Bool) : Session :=
  if s.retired || s.inFlight.isSome then s
  else
    match s.pendingPublications with
    | [] => if s.closed then { s with retired := true } else s
    | head :: rest =>
      let s := s.onQueue (·.popLeft head rest)
      if built then s.build head nowNs else { s with retired := true }

/-- `_publication_failed`, and the loop returns. -/
def publicationFailed : Session :=
  { (s.failSession (some .failed)).onQueue (·.land) with retired := true }

/-- The loop after a publication that was not refused. -/
def settle (callbackCancelled : Bool) : Session :=
  if !callbackCancelled && !s.inFlightCommitted then
    { s.failSession (some .notCommitted) with retired := true }
  else { s.onQueue (·.land) with retired := s.pendingPublications.isEmpty && s.closed }

/-- The loop, waiting for the task of its publication, goes on when that is done. -/
def resume : Session :=
  if s.retired then s
  else
    match s.inFlightTask.map PublishTask.state with
    | some .committed => s.settle false
    | some .cancelled => if s.inFlightCancelled then s.settle true else { s with retired := true }
    | some .failed => s.publicationFailed
    | some .waiting | some .cancelling | none => s

/-! ### Publishing -/

/-- A step of the task of `publish_local`: it is cancelled, the transport refuses the batch, or the batch
    is put into the channel as a whole and committed. -/
def publish (taken : Bool) : Session :=
  match s.inFlightTask with
  | none => s
  | some task =>
    match task.state with
    | .cancelling => s.onQueue (·.setState task .cancelled)
    | .waiting =>
      match task.batch.mapM s.request.eventToProto with
      | none => s.onQueue (·.setState task .failed)
      | some encoded =>
        if taken then
          { s with
            wire := s.wire ++ encoded
            toPublicationQueue := ((s.send task.queued task.batch).commitPublication
              task.queued).setState task .committed }
        else s.onQueue (·.setState task .failed)
    | .committed | .failed | .cancelled => s

/-! ### Steps -/

inductive Op where
  | call (sessionId : Uuid) (call : Call)
  /-- A call that was let in has the lock. -/
  | enter (index : Nat) (modelsAvailable : Bool) (admission : Admission)
  | infer (utteranceId : Uuid) (inference : Inference)
  | take (nowNs : Nat) (built : Bool)
  | publish (taken : Bool)
  | resume

/-- `_active_session`, before a call waits for the lock. -/
def letIn (sessionId : Uuid) (call : Call) : Reply × Session :=
  if sessionId ≠ s.request.sessionId ∨ s.closed ∨ s.retired then (.error .sessionUnavailable, s)
  else (.ok (), { s with calls := s.calls ++ [call] })

def apply (s : Session) : Op → Reply × Session
  | .call sessionId call => s.letIn sessionId call
  | .enter index modelsAvailable admission =>
    match s.calls[index]? with
    | none => (.ok (), s)
    | some call => { s with calls := s.calls.eraseIdx index }.underLock modelsAvailable admission call
  | .infer id inference => (.ok (), s.infer id inference)
  | .take nowNs built => (.ok (), s.take nowNs built)
  | .publish taken => (.ok (), s.publish taken)
  | .resume => (.ok (), s.resume)

/-- The session after some steps. -/
def after (request : OpenProviderSession) (failed : Bool) (ops : List Op) : Session :=
  (exec apply (opened request failed) ops).2

end Session

end Translator.Sidecar
