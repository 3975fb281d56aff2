import Translator.Audio.Segmenter
import Translator.Stream.Coordinator
import Translator.Wire.Requests

/-! `DirectionSession`: one direction of the daemon. Captured speech goes in, requests for the
    provider come out; provider events go in, playback and bookkeeping effects come out. The
    functions follow `direction_session.rs`; the fresh identifiers of `new` are its arguments. -/

namespace Translator.Stream
open Schemes Wire
open Audio (CaptureEvent)
open Core (PcmFrame StreamPcmFormat)

structure DirectionRuntimeConfig where
  providerId : Core.ProviderId
  direction : Core.AudioDirection
  sourceLanguage : Core.Language
  targetLanguage : Core.Language
  mode : Core.TranslationMode
  voiceGender : Core.VoiceGender
  voiceEngine : Core.VoiceEngine
  debugTextEnabled : Bool
  deriving DecidableEq, Repr

inductive SafeProviderErrorCode where
  | providerUnavailable | modelNotLoaded | unsupportedLanguagePair | queueOverflow | cancelled
  | cloudNotEnabled | providerAuthFailed | noSpeech
  deriving DecidableEq, Repr

inductive TerminalOutcome where | completed | cancelled | dropped
  deriving DecidableEq, Repr

inductive DirectionEffect where
  | playback (streamId utteranceId : Uuid) (frame : PcmFrame)
  | transcriptFinal (utteranceId : Uuid)
  | translationFinal (utteranceId : Uuid)
  | latency (utteranceId : Option Uuid) (ttsFirstAudioMs providerTotalMs : Option Nat)
  | providerError (utteranceId : Option Uuid) (code : SafeProviderErrorCode) (retryable : Bool)
  | utteranceTerminalOutcome (utteranceId : Uuid) (outcome : TerminalOutcome)
  | utteranceTerminal (utteranceId : Uuid)
  | expiredAudio (utteranceId : Uuid) (request : ProviderRequest)
  | sessionClosed
  deriving DecidableEq, Repr

/-- Nothing produces a plain `send`. -/
inductive DirectionWatchdogEffect where
  | send (request : ProviderRequest)
  | purgeAndSend (request : ProviderRequest)
  | restartSidecar
  deriving DecidableEq, Repr

inductive DirectionSessionError where
  | streamMismatch | invalidCaptureState | invalidProviderAudio | invalidProviderMetadata
  | coordinator (error : ProviderStreamCoordinatorError)
  deriving DecidableEq, Repr

/-- `parse_utterance`. -/
def parseUtterance : IdText → Except DirectionSessionError Uuid
  | some id => .ok id
  | none => .error .invalidProviderAudio

/-- `.as_deref().map(parse_utterance).transpose()`. -/
def parseUtterance? : Option IdText → Except DirectionSessionError (Option Uuid)
  | none => .ok none
  | some value => (parseUtterance value).map some

def safeProviderErrorCode (value : Int) : Except DirectionSessionError SafeProviderErrorCode :=
  match SafeErrorCode.tryFrom value with
  | none => .error .invalidProviderMetadata
  | some .providerUnavailable => .ok .providerUnavailable
  | some .modelNotLoaded => .ok .modelNotLoaded
  | some .unsupportedLanguagePair => .ok .unsupportedLanguagePair
  | some .queueOverflow => .ok .queueOverflow
  | some .cancelled => .ok .cancelled
  | some .cloudNotEnabled => .ok .cloudNotEnabled
  | some .providerAuthFailed => .ok .providerAuthFailed
  | some .noSpeech => .ok .noSpeech
  | some .unspecified => .error .invalidProviderMetadata

def terminalOutcome (value : Int) : Except DirectionSessionError TerminalOutcome :=
  match UtteranceOutcome.tryFrom value with
  | none => .error .invalidProviderMetadata
  | some .completed => .ok .completed
  | some .cancelled => .ok .cancelled
  | some .dropped => .ok .dropped
  | some .unspecified => .error .invalidProviderMetadata

structure DirectionSession where
  config : DirectionRuntimeConfig
  contract : ProviderSessionContract
  coordinator : ProviderStreamCoordinator
  nextInputSequence : UInt64
  collectingUtterance : Option Uuid
  activeUtterances : Finset Uuid

/-- What a call on the session returns. -/
abbrev Turned (α : Type) := Outcome DirectionSessionError α × DirectionSession

namespace DirectionSession

def contractOf (config : DirectionRuntimeConfig) (sessionId streamId : Uuid) :
    ProviderSessionContract where
  sessionId := sessionId
  streamId := streamId
  providerId := providerId config.providerId
  directionId := providerDirection config.direction
  sourceLanguage := providerLanguage config.sourceLanguage
  targetLanguage := providerLanguage config.targetLanguage
  mode := providerMode config.mode
  inputFormat := providerPcmFormat
  outputFormat := providerPcmFormat
  debugTextEnabled := config.debugTextEnabled

def new (config : DirectionRuntimeConfig) (sessionId streamId : Uuid) : DirectionSession where
  config := config
  contract := contractOf config sessionId streamId
  coordinator := .new (contractOf config sessionId streamId)
  nextInputSequence := 0
  collectingUtterance := none
  activeUtterances := ∅

variable (d : DirectionSession)

def openRequest : ProviderRequest :=
  .openSession
    { schemaVersion := "translator.provider.open_session.v1"
      sessionId := some d.contract.sessionId
      providerId := d.contract.providerId.code
      directionId := d.contract.directionId.code
      sourceLanguage := d.contract.sourceLanguage.code
      targetLanguage := d.contract.targetLanguage.code
      mode := d.contract.mode.code
      requestedInputFormat := some d.contract.inputFormat
      requestedOutputFormat := some d.contract.outputFormat
      voiceProfile := some
        { language := d.contract.targetLanguage.code
          gender := (providerVoiceGender d.config.voiceGender).code
          engine := (providerVoiceEngine d.config.voiceEngine).code
          modelPath := none
          providerVoiceId := none }
      debugTextEnabled := d.config.debugTextEnabled }

def requireStream (streamId : Uuid) : Except DirectionSessionError Unit :=
  if streamId = d.contract.streamId then .ok () else .error .streamMismatch

/-- The input frame sent for one captured frame. -/
def inputRequest (streamId utteranceId : Uuid) (frame : PcmFrame) (endOfUtterance : Bool) :
    ProviderRequest :=
  .inputFrame
    { schemaVersion := "translator.provider.input.v1"
      sessionId := some d.contract.sessionId
      directionId := d.contract.directionId.code
      streamId := some streamId
      utteranceId := some utteranceId
      sequence := d.nextInputSequence
      captureMonotonicNs := frame.captureMonotonicNs
      sampleRateHz := frame.format.sampleRateHz
      channels := frame.format.channels
      sampleFormat := SampleFormat.s16le.code
      frameDurationMs := frame.format.frameDurationMs
      sourceLanguage := d.contract.sourceLanguage.code
      targetLanguage := d.contract.targetLanguage.code
      mode := d.contract.mode.code
      pcm := frame.pcm
      endOfUtterance := endOfUtterance }

/-- `u64::saturating_add(1)`. -/
def nextInput : UInt64 :=
  if d.nextInputSequence.toNat + 1 < 2 ^ 64 then d.nextInputSequence + 1 else d.nextInputSequence

def cancelRequest (utteranceId : Uuid) : ProviderRequest :=
  .cancelUtterance
    { schemaVersion := "translator.provider.cancel_utterance.v1"
      sessionId := some d.contract.sessionId
      directionId := d.contract.directionId.code
      utteranceId := some utteranceId
      reason := CancelReason.latencyPolicy.code }

def closeRequest (reason : CloseRequestReason) : ProviderRequest :=
  .closeSession
    { schemaVersion := "translator.provider.close_session.v1"
      sessionId := some d.contract.sessionId
      reason := reason.code }

/-- The utterance enters `active_utterances` before the coordinator is asked, and stays there when
    the coordinator refuses. -/
def speechStarted (streamId utteranceId : Uuid) (captureMonotonicNs : Nat) :
    Turned (Option ProviderRequest) :=
  match d.requireStream streamId with
  | .error error => (.err error, d)
  | .ok () =>
    if d.collectingUtterance.isSome ∨ utteranceId ∈ d.activeUtterances then
      (.err .invalidCaptureState, d)
    else
      let d := { d with activeUtterances := insert utteranceId d.activeUtterances }
      match d.coordinator.startUtterance streamId utteranceId captureMonotonicNs with
      | (.ok (), coordinator) =>
        (.ok none, { d with coordinator := coordinator, collectingUtterance := some utteranceId })
      | (.err error, coordinator) => (.err (.coordinator error), { d with coordinator := coordinator })
      | (.panic, coordinator) => (.panic, { d with coordinator := coordinator })

def captured (streamId utteranceId : Uuid) (frame : PcmFrame) (endOfUtterance : Bool) :
    Turned (Option ProviderRequest) :=
  match d.requireStream streamId with
  | .error error => (.err error, d)
  | .ok () =>
    if d.collectingUtterance ≠ some utteranceId then (.err .invalidCaptureState, d)
    else
      let request := d.inputRequest streamId utteranceId frame endOfUtterance
      if endOfUtterance then
        match d.coordinator.recordEndOfUtterance streamId utteranceId frame.captureMonotonicNs with
        | (.ok (), coordinator) =>
          (.ok (some request),
            { d with
              coordinator := coordinator
              collectingUtterance := none
              nextInputSequence := d.nextInput })
        | (.err error, coordinator) =>
          (.err (.coordinator error), { d with coordinator := coordinator })
        | (.panic, coordinator) => (.panic, { d with coordinator := coordinator })
      else (.ok (some request), { d with nextInputSequence := d.nextInput })

def handleCapture : CaptureEvent → Turned (Option ProviderRequest)
  | .speechStarted streamId utteranceId captureMonotonicNs =>
    d.speechStarted streamId utteranceId captureMonotonicNs
  | .frame streamId utteranceId frame endOfUtterance =>
    d.captured streamId utteranceId frame endOfUtterance

/-- The branch taken when the validator finds the audio too old. -/
def cancelExpired (value : ProviderAudioDelta) (nowNs : Nat) : Turned (List DirectionEffect) :=
  match value.streamId, value.utteranceId with
  | some streamId, some utteranceId =>
    match d.coordinator.cancelExpiredUtterance streamId utteranceId nowNs with
    | (.ok _, coordinator) =>
      (.ok [.expiredAudio utteranceId (d.cancelRequest utteranceId)],
        { d with coordinator := coordinator })
    | (.err error, coordinator) => (.err (.coordinator error), { d with coordinator := coordinator })
    | (.panic, coordinator) => (.panic, { d with coordinator := coordinator })
  | _, _ => (.err .invalidProviderAudio, d)

/-- The branch taken when `validate_event` refuses. -/
def refuse (event : ProviderEvent) (error : ProviderStreamCoordinatorError) (nowNs : Nat) :
    Turned (List DirectionEffect) :=
  if error = .validation .cancelledAudio then (.ok [], d)
  else
    match event with
    | some (.audioDelta value) =>
      if error = .validation .expiredAudio then d.cancelExpired value nowNs
      else (.err (.coordinator error), d)
    | _ => (.err (.coordinator error), d)

/-- The accepted frame is taken out of the receive buffer and handed to playback. -/
def playAudio (value : ProviderAudioDelta) : Turned (List DirectionEffect) :=
  match value.streamId, value.utteranceId with
  | some streamId, some utteranceId =>
    match d.coordinator.consumeReceiveAudio streamId utteranceId with
    | (.ok pcm, coordinator) =>
      let d := { d with coordinator := coordinator }
      match PcmFrame.tryNew value.sequence value.providerMonotonicNs .providerDefault pcm with
      | .ok frame => (.ok [.playback streamId utteranceId frame], d)
      | .error _ => (.err .invalidProviderAudio, d)
    | (.err error, coordinator) => (.err (.coordinator error), { d with coordinator := coordinator })
    | (.panic, coordinator) => (.panic, { d with coordinator := coordinator })
  | _, _ => (.err .invalidProviderAudio, d)

def endUtterance (value : ProviderUtteranceFinal) : Turned (List DirectionEffect) :=
  match parseUtterance value.utteranceId with
  | .error error => (.err error, d)
  | .ok utteranceId =>
    match terminalOutcome value.outcome with
    | .error error => (.err error, d)
    | .ok outcome =>
      (.ok [.utteranceTerminalOutcome utteranceId outcome, .utteranceTerminal utteranceId],
        { d with activeUtterances := d.activeUtterances.erase utteranceId })

/-- The effects of an accepted event that is neither audio, nor a final, nor the end of the
    session. -/
def report : Event → Except DirectionSessionError (List DirectionEffect)
  | .transcriptDelta value =>
    if value.isFinal then (parseUtterance value.utteranceId).map fun u => [.transcriptFinal u]
    else .ok []
  | .translationDelta value =>
    if value.isFinal then (parseUtterance value.utteranceId).map fun u => [.translationFinal u]
    else .ok []
  | .latency value =>
    (parseUtterance? value.utteranceId).map fun u =>
      [.latency u value.ttsFirstAudioMs value.providerTotalMs]
  | .error value =>
    match parseUtterance? value.utteranceId with
    | .error error => .error error
    | .ok u =>
      (safeProviderErrorCode value.code).map fun code => [.providerError u code value.retryable]
  | _ => .ok []

/-- The `match kind` over an accepted event. -/
def translate (kind : Event) : Turned (List DirectionEffect) :=
  match kind with
  | .audioDelta value => d.playAudio value
  | .utteranceFinal value => d.endUtterance value
  | .sessionClosed _ =>
    (.ok [.sessionClosed], { d with activeUtterances := ∅, collectingUtterance := none })
  | kind => (Outcome.ofExcept (report kind), d)

def handleProviderEvent (event : ProviderEvent) (nowNs : Nat) : Turned (List DirectionEffect) :=
  match d.coordinator.validateEvent event nowNs with
  | (.err error, coordinator) => { d with coordinator := coordinator }.refuse event error nowNs
  | (.panic, coordinator) => (.panic, { d with coordinator := coordinator })
  | (.ok (), coordinator) =>
    match event with
    | none => (.ok [], { d with coordinator := coordinator })
    | some kind => { d with coordinator := coordinator }.translate kind

/-- A cancelled utterance is no longer collected. -/
def stopCollecting (collecting : Option Uuid) : WatchdogAction → Option Uuid
  | .cancelUtterance _ _ utteranceId _ =>
    if collecting = some utteranceId then none else collecting
  | _ => collecting

def watchdogEffect : WatchdogAction → DirectionWatchdogEffect
  | .cancelUtterance _ _ utteranceId _ => .purgeAndSend (d.cancelRequest utteranceId)
  | .closeProviderSession _ => .purgeAndSend (d.closeRequest .providerSwitch)
  | .restartSidecar _ => .restartSidecar

def poll (nowNs : Nat) : Turned (List DirectionWatchdogEffect) :=
  match d.coordinator.poll nowNs with
  | (.ok actions, coordinator) =>
    (.ok (actions.map d.watchdogEffect),
      { d with
        coordinator := coordinator
        collectingUtterance := actions.foldl stopCollecting d.collectingUtterance })
  | (.err error, coordinator) => (.err (.coordinator error), { d with coordinator := coordinator })
  | (.panic, coordinator) => (.panic, { d with coordinator := coordinator })

/-! ### Calls as operations -/

/-- One call on the session. -/
inductive Op where
  | capture (event : CaptureEvent)
  | providerEvent (event : ProviderEvent) (nowNs : Nat)
  | poll (nowNs : Nat)
  deriving DecidableEq, Repr

inductive Answer where
  | request (request : Option ProviderRequest)
  | effects (effects : List DirectionEffect)
  | watchdog (effects : List DirectionWatchdogEffect)
  deriving DecidableEq, Repr

abbrev Result := Outcome DirectionSessionError Answer

def apply (d : DirectionSession) : Op → Result × DirectionSession
  | .capture event => ((d.handleCapture event).1.map .request, (d.handleCapture event).2)
  | .providerEvent event nowNs =>
    ((d.handleProviderEvent event nowNs).1.map .effects, (d.handleProviderEvent event nowNs).2)
  | .poll nowNs => ((d.poll nowNs).1.map .watchdog, (d.poll nowNs).2)

end DirectionSession

end Translator.Stream
