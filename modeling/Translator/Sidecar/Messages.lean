import Translator.Wire.Requests
import Translator.Wire.Validator

/-! The sidecar's side of the provider contract: the checked messages of `provider_contract.py`, the
    events a local session produces and `_event_to_proto`, which writes them to the wire.

    A number of the sidecar is unbounded; writing one that does not fit its field raises, and the
    event does not reach the wire. -/

namespace Translator.Sidecar
open Wire (Uuid IdText)

/-- `PcmFormat`: only these values pass its checks. The sample format is always S16LE. -/
structure PcmFormat where
  sampleRateHz : Nat
  channels : Nat
  frameDurationMs : Nat
  rate_ok : sampleRateHz = 16000 ∨ sampleRateHz = 24000 ∨ sampleRateHz = 48000
  channels_ok : channels = 1 ∨ channels = 2
  duration_ok : frameDurationMs = 20 ∨ frameDurationMs = 40 ∨ frameDurationMs = 60
    ∨ frameDurationMs = 80 ∨ frameDurationMs = 100
  deriving DecidableEq

structure OpenProviderSession where
  sessionId : Uuid
  providerId : Core.ProviderId
  directionId : Core.AudioDirection
  sourceLanguage : Core.Language
  targetLanguage : Core.Language
  mode : Core.TranslationMode
  requestedInputFormat : PcmFormat
  requestedOutputFormat : PcmFormat
  voiceProfile : Core.VoiceProfile
  debugTextEnabled : Bool

structure ProviderInputFrame where
  sessionId : Uuid
  directionId : Core.AudioDirection
  streamId : Uuid
  utteranceId : Uuid
  sequence : Nat
  captureMonotonicNs : Nat
  sampleRateHz : Nat
  channels : Nat
  frameDurationMs : Nat
  sourceLanguage : Core.Language
  targetLanguage : Core.Language
  mode : Core.TranslationMode
  pcm : List UInt8
  endOfUtterance : Bool

structure CancelUtterance where
  sessionId : Uuid
  directionId : Core.AudioDirection
  utteranceId : Uuid

inductive SafeErrorCode where
  | providerUnavailable | modelNotLoaded | unsupportedLanguagePair | queueOverflow | cancelled
  | noSpeech | cloudNotEnabled | providerAuthFailed
  deriving DecidableEq, Repr

/-- `SAFE_ERROR_MESSAGES`. -/
def safeErrorMessages : SafeErrorCode → String
  | .providerUnavailable => "Provider is unavailable"
  | .modelNotLoaded => "Required model is not loaded"
  | .unsupportedLanguagePair => "Language pair is not supported"
  | .queueOverflow => "Provider queue limit was reached"
  | .cancelled => "Provider operation was cancelled"
  | .noSpeech => "No speech was detected"
  | .cloudNotEnabled => "Cloud provider is not enabled"
  | .providerAuthFailed => "Provider authentication failed"

/-- The text of the enum, as the health report carries it. -/
def SafeErrorCode.value : SafeErrorCode → String
  | .providerUnavailable => "provider_unavailable"
  | .modelNotLoaded => "model_not_loaded"
  | .unsupportedLanguagePair => "unsupported_language_pair"
  | .queueOverflow => "queue_overflow"
  | .cancelled => "cancelled"
  | .noSpeech => "no_speech"
  | .cloudNotEnabled => "cloud_not_enabled"
  | .providerAuthFailed => "provider_auth_failed"

inductive UtteranceOutcome where | completed | cancelled | dropped
  deriving DecidableEq, Repr

/-- What the events of an utterance say about it. -/
structure UtteranceRef where
  utteranceId : Uuid
  streamId : Uuid
  captureOnsetNs : Nat
  deriving DecidableEq, Repr

/-- The events of a session, without the fields all of them share. The close reason, the model list
    and the state of the health report are left out: the daemon's validator reads none of them. -/
inductive Body where
  | sessionOpened
  | health (queues : Wire.ProviderQueues) (safeError : Option SafeErrorCode)
  | audioDelta (utterance : UtteranceRef) (sequence providerMonotonicNs : Nat) (pcm : List UInt8)
  | transcriptDelta (utterance : UtteranceRef) (text : String)
  | translationDelta (utterance : UtteranceRef) (text : String)
  | latency (utterance : UtteranceRef) (asrMs mtMs ttsMs : Option Nat) (providerTotalMs : Nat)
  | error (utterance : UtteranceRef) (code : SafeErrorCode)
  | utteranceFinal (utterance : UtteranceRef) (finalAudioSequence : Option Nat)
      (outcome : UtteranceOutcome)
  | sessionClosed
  deriving DecidableEq

structure LocalProviderEvent where
  eventSequence : Nat
  body : Body
  deriving DecidableEq

/-! ### Writing to the wire -/

/-- A `uint64` field. -/
def toUInt64 (n : Nat) : Option UInt64 := if n < 2 ^ 64 then some (UInt64.ofNat n) else none

/-- A `uint32` field. -/
def toUInt32 (n : Nat) : Option Nat := if n < 2 ^ 32 then some n else none

/-- An optional field: what is not set is not written. -/
def setOptional {α : Type} (write : Nat → Option α) : Option Nat → Option (Option α)
  | none => some none
  | some n => (write n).map some

/-- `_DIRECTION_TO_PROTO`. -/
def directionToProto : Core.AudioDirection → Int
  | .microphone => Wire.AudioDirection.microphone.code
  | .speaker => Wire.AudioDirection.speaker.code

def pcmToProto (value : PcmFormat) : Wire.PcmFormat :=
  ⟨value.sampleRateHz, value.channels, Wire.SampleFormat.s16le.code, value.frameDurationMs⟩

def errorToProto : SafeErrorCode → Int
  | .providerUnavailable => Wire.SafeErrorCode.providerUnavailable.code
  | .modelNotLoaded => Wire.SafeErrorCode.modelNotLoaded.code
  | .unsupportedLanguagePair => Wire.SafeErrorCode.unsupportedLanguagePair.code
  | .queueOverflow => Wire.SafeErrorCode.queueOverflow.code
  | .cancelled => Wire.SafeErrorCode.cancelled.code
  | .noSpeech => Wire.SafeErrorCode.noSpeech.code
  | .cloudNotEnabled => Wire.SafeErrorCode.cloudNotEnabled.code
  | .providerAuthFailed => Wire.SafeErrorCode.providerAuthFailed.code

def outcomeToProto : UtteranceOutcome → Int
  | .completed => Wire.UtteranceOutcome.completed.code
  | .cancelled => Wire.UtteranceOutcome.cancelled.code
  | .dropped => Wire.UtteranceOutcome.dropped.code

namespace OpenProviderSession

variable (request : OpenProviderSession)

/-- The fields every event of the session carries. -/
def fields (schemaVersion : String) (eventSequence : UInt64) : Wire.CommonFields :=
  ⟨schemaVersion, some request.sessionId, directionToProto request.directionId, eventSequence⟩

/-- `_event_to_proto` for the parts an event of this session has of its own. -/
def bodyToProto (n : UInt64) : Body → Option Wire.Event
  | .sessionOpened =>
    some (.sessionOpened
      { toCommonFields := request.fields "translator.provider.session_opened.v1" n
        negotiatedInputFormat := some (pcmToProto request.requestedInputFormat)
        negotiatedOutputFormat := some (pcmToProto request.requestedOutputFormat)
        capabilities := some
          { audioOutput := true
            transcriptDelta := true
            translationDelta := true
            cancellation := true
            cloudEgress := false } })
  | .health queues safeError => do
    let input ← toUInt32 queues.providerInputBufferedMs
    let output ← toUInt32 queues.providerOutputBufferedMs
    let lag ← toUInt32 queues.queueLagMs
    some (.health
      { toCommonFields := request.fields "translator.provider.health.v1" n
        providerId := Wire.ProviderId.local.code
        queues := some ⟨input, output, lag⟩
        safeError := safeError.map fun code => ⟨code.value, safeErrorMessages code⟩ })
  | .audioDelta utterance sequence providerMonotonicNs pcm => do
    let sequence ← toUInt64 sequence
    let _ ← toUInt64 providerMonotonicNs
    some (.audioDelta
      { toCommonFields := request.fields "translator.provider.audio_delta.v1" n
        streamId := some utterance.streamId
        utteranceId := some utterance.utteranceId
        sequence := sequence
        providerMonotonicNs := providerMonotonicNs
        sampleRateHz := request.requestedOutputFormat.sampleRateHz
        channels := request.requestedOutputFormat.channels
        sampleFormat := Wire.SampleFormat.s16le.code
        frameDurationMs := request.requestedOutputFormat.frameDurationMs
        pcm := pcm })
  | .transcriptDelta utterance text =>
    some (.transcriptDelta
      { toCommonFields := request.fields "translator.provider.transcript_delta.v1" n
        streamId := some utterance.streamId
        utteranceId := some utterance.utteranceId
        text := text
        isFinal := true })
  | .translationDelta utterance text =>
    some (.translationDelta
      { toCommonFields := request.fields "translator.provider.translation_delta.v1" n
        streamId := some utterance.streamId
        utteranceId := some utterance.utteranceId
        text := text
        isFinal := true })
  | .latency utterance asrMs mtMs ttsMs providerTotalMs => do
    let asr ← setOptional toUInt32 asrMs
    let mt ← setOptional toUInt32 mtMs
    let tts ← setOptional toUInt32 ttsMs
    let total ← toUInt32 providerTotalMs
    some (.latency
      { toCommonFields := request.fields "translator.provider.latency.v1" n
        streamId := some utterance.streamId
        utteranceId := some (some utterance.utteranceId)
        asrFirstTextMs := asr
        asrFinalTextMs := asr
        mtFirstTextMs := mt
        ttsFirstAudioMs := tts
        providerTotalMs := some total })
  | .error utterance code =>
    some (.error
      { toCommonFields := request.fields "translator.provider.error.v1" n
        streamId := some (some utterance.streamId)
        code := errorToProto code
        retryable := true
        safeMessage := safeErrorMessages code
        utteranceId := some (some utterance.utteranceId) })
  | .utteranceFinal utterance finalAudioSequence outcome => do
    let last ← setOptional toUInt64 finalAudioSequence
    some (.utteranceFinal
      { toCommonFields := request.fields "translator.provider.utterance_final.v1" n
        streamId := some utterance.streamId
        utteranceId := some utterance.utteranceId
        finalAudioSequence := last
        outcome := outcomeToProto outcome })
  | .sessionClosed =>
    some (.sessionClosed
      { toCommonFields := request.fields "translator.provider.session_closed.v1" n })

/-- `_event_to_proto`. -/
def eventToProto (event : LocalProviderEvent) : Option Wire.Event := do
  let n ← toUInt64 event.eventSequence
  request.bodyToProto n event.body

/-- The contract the daemon holds for the session it asked for with this request. -/
def contract (streamId : Uuid) : Wire.ProviderSessionContract where
  sessionId := request.sessionId
  streamId := streamId
  providerId := Wire.providerId request.providerId
  directionId := Wire.providerDirection request.directionId
  sourceLanguage := Wire.providerLanguage request.sourceLanguage
  targetLanguage := Wire.providerLanguage request.targetLanguage
  mode := Wire.providerMode request.mode
  inputFormat := pcmToProto request.requestedInputFormat
  outputFormat := pcmToProto request.requestedOutputFormat
  debugTextEnabled := request.debugTextEnabled

end OpenProviderSession

end Translator.Sidecar
