import Mathlib.Algebra.Ring.Int.Defs
import Mathlib.Algebra.Ring.Nat
import Mathlib.Data.List.Basic

/-! The provider wire contract: the protobuf messages of `provider.proto` as the Rust daemon sees
    them after decoding, and the negotiated session contract.

    An identifier field is modelled by what `Uuid::parse_str` makes of its text, which is all the
    program ever does with it. Enum fields are the raw `i32` of the generated code; 64-bit counters
    are `UInt64`, because the audio counter is incremented without a check. -/

namespace Translator.Wire

abbrev Uuid := BitVec 128

/-- An identifier as it stands on the wire: `none` is any text that does not parse. -/
abbrev IdText := Option Uuid

inductive AudioDirection where | unspecified | microphone | speaker
  deriving DecidableEq, Repr

inductive TranslationMode where | unspecified | qualityFirst | balanced | streamingFirst
  deriving DecidableEq, Repr

inductive Language where | unspecified | ru | en
  deriving DecidableEq, Repr

inductive ProviderId where | unspecified | local | openai
  deriving DecidableEq, Repr

inductive UtteranceOutcome where | unspecified | completed | cancelled | dropped
  deriving DecidableEq, Repr

inductive SafeErrorCode where
  | unspecified | providerUnavailable | modelNotLoaded | unsupportedLanguagePair | queueOverflow
  | cancelled | cloudNotEnabled | providerAuthFailed | noSpeech
  deriving DecidableEq, Repr

/-- `as i32`. -/
def AudioDirection.code : AudioDirection → Int
  | .unspecified => 0
  | .microphone => 1
  | .speaker => 2

def ProviderId.code : ProviderId → Int
  | .unspecified => 0
  | .local => 1
  | .openai => 2

def UtteranceOutcome.code : UtteranceOutcome → Int
  | .unspecified => 0
  | .completed => 1
  | .cancelled => 2
  | .dropped => 3

def SafeErrorCode.code : SafeErrorCode → Int
  | .unspecified => 0
  | .providerUnavailable => 1
  | .modelNotLoaded => 2
  | .unsupportedLanguagePair => 3
  | .queueOverflow => 4
  | .cancelled => 5
  | .cloudNotEnabled => 6
  | .providerAuthFailed => 7
  | .noSpeech => 8

/-- `UtteranceOutcome::try_from`; an unknown number has no variant. -/
def UtteranceOutcome.tryFrom : Int → Option UtteranceOutcome
  | 0 => some .unspecified
  | 1 => some .completed
  | 2 => some .cancelled
  | 3 => some .dropped
  | _ => none

/-- `SafeErrorCode::try_from`. -/
def SafeErrorCode.tryFrom : Int → Option SafeErrorCode
  | 0 => some .unspecified
  | 1 => some .providerUnavailable
  | 2 => some .modelNotLoaded
  | 3 => some .unsupportedLanguagePair
  | 4 => some .queueOverflow
  | 5 => some .cancelled
  | 6 => some .cloudNotEnabled
  | 7 => some .providerAuthFailed
  | 8 => some .noSpeech
  | _ => none

theorem UtteranceOutcome.tryFrom_code (o : UtteranceOutcome) : tryFrom o.code = some o := by
  cases o <;> rfl

theorem SafeErrorCode.tryFrom_code (c : SafeErrorCode) : tryFrom c.code = some c := by
  cases c <;> rfl

theorem UtteranceOutcome.code_of_tryFrom {n : Int} {o : UtteranceOutcome}
    (h : tryFrom n = some o) : n = o.code := by
  unfold tryFrom at h
  split at h <;> first | (cases h; rfl) | cases h

theorem SafeErrorCode.code_of_tryFrom {n : Int} {c : SafeErrorCode}
    (h : tryFrom n = some c) : n = c.code := by
  unfold tryFrom at h
  split at h <;> first | (cases h; rfl) | cases h

structure PcmFormat where
  sampleRateHz : Nat
  channels : Nat
  sampleFormat : Int
  frameDurationMs : Nat
  deriving DecidableEq, Repr

/-- What both sides agreed on when the session was opened. -/
structure ProviderSessionContract where
  sessionId : Uuid
  streamId : Uuid
  providerId : ProviderId
  directionId : AudioDirection
  sourceLanguage : Language
  targetLanguage : Language
  mode : TranslationMode
  inputFormat : PcmFormat
  outputFormat : PcmFormat
  debugTextEnabled : Bool
  deriving DecidableEq, Repr

/-- The fields every provider event carries. -/
structure CommonFields where
  schemaVersion : String
  sessionId : IdText
  directionId : Int
  eventSequence : UInt64
  deriving DecidableEq, Repr

structure ProviderCapabilities where
  audioOutput : Bool
  transcriptDelta : Bool
  translationDelta : Bool
  cancellation : Bool
  cloudEgress : Bool
  deriving DecidableEq, Repr

structure ProviderSessionOpened extends CommonFields where
  negotiatedInputFormat : Option PcmFormat
  negotiatedOutputFormat : Option PcmFormat
  capabilities : Option ProviderCapabilities
  deriving DecidableEq, Repr

structure ProviderAudioDelta extends CommonFields where
  streamId : IdText
  utteranceId : IdText
  sequence : UInt64
  providerMonotonicNs : Nat
  sampleRateHz : Nat
  channels : Nat
  sampleFormat : Int
  frameDurationMs : Nat
  pcm : List UInt8
  deriving DecidableEq, Repr

/-- `ProviderTranscriptDelta` and `ProviderTranslationDelta`: nothing reads `stable_prefix`. -/
structure ProviderTextDelta extends CommonFields where
  streamId : IdText
  utteranceId : IdText
  text : String
  isFinal : Bool
  deriving DecidableEq, Repr

structure ProviderUtteranceFinal extends CommonFields where
  streamId : IdText
  utteranceId : IdText
  finalAudioSequence : Option UInt64
  outcome : Int
  deriving DecidableEq, Repr

structure ProviderSessionClosed extends CommonFields where
  deriving DecidableEq, Repr

structure ProviderQueues where
  providerInputBufferedMs : Nat
  providerOutputBufferedMs : Nat
  queueLagMs : Nat
  deriving DecidableEq, Repr

structure SafeErrorSummary where
  code : String
  message : String
  deriving DecidableEq, Repr

structure ProviderHealth extends CommonFields where
  providerId : Int
  queues : Option ProviderQueues
  safeError : Option SafeErrorSummary
  deriving DecidableEq, Repr

structure ProviderLatency extends CommonFields where
  streamId : IdText
  utteranceId : Option IdText
  asrFirstTextMs : Option Nat
  asrFinalTextMs : Option Nat
  mtFirstTextMs : Option Nat
  ttsFirstAudioMs : Option Nat
  providerTotalMs : Option Nat
  deriving DecidableEq, Repr

structure ProviderError extends CommonFields where
  streamId : Option IdText
  code : Int
  retryable : Bool
  safeMessage : String
  utteranceId : Option IdText
  deriving DecidableEq, Repr

/-- `provider_event::Event`. -/
inductive Event where
  | sessionOpened (value : ProviderSessionOpened)
  | audioDelta (value : ProviderAudioDelta)
  | transcriptDelta (value : ProviderTextDelta)
  | translationDelta (value : ProviderTextDelta)
  | utteranceFinal (value : ProviderUtteranceFinal)
  | sessionClosed (value : ProviderSessionClosed)
  | health (value : ProviderHealth)
  | latency (value : ProviderLatency)
  | error (value : ProviderError)
  deriving DecidableEq, Repr

/-- `ProviderEvent`: the oneof may be missing. -/
abbrev ProviderEvent := Option Event

namespace Event

def commonFields : Event → CommonFields
  | sessionOpened value => value.toCommonFields
  | audioDelta value => value.toCommonFields
  | transcriptDelta value => value.toCommonFields
  | translationDelta value => value.toCommonFields
  | utteranceFinal value => value.toCommonFields
  | sessionClosed value => value.toCommonFields
  | health value => value.toCommonFields
  | latency value => value.toCommonFields
  | error value => value.toCommonFields

def expectedSchema : Event → String
  | sessionOpened _ => "translator.provider.session_opened.v1"
  | audioDelta _ => "translator.provider.audio_delta.v1"
  | transcriptDelta _ => "translator.provider.transcript_delta.v1"
  | translationDelta _ => "translator.provider.translation_delta.v1"
  | utteranceFinal _ => "translator.provider.utterance_final.v1"
  | sessionClosed _ => "translator.provider.session_closed.v1"
  | health _ => "translator.provider.health.v1"
  | latency _ => "translator.provider.latency.v1"
  | error _ => "translator.provider.error.v1"

/-- The utterance field of an event, when the event has one and it is set. -/
def utteranceField : Event → Option IdText
  | audioDelta value => some value.utteranceId
  | transcriptDelta value => some value.utteranceId
  | translationDelta value => some value.utteranceId
  | utteranceFinal value => some value.utteranceId
  | latency value => value.utteranceId
  | error value => value.utteranceId
  | _ => none

/-- The stream field of an event, when the event has one and it is set. -/
def streamField : Event → Option IdText
  | audioDelta value => some value.streamId
  | transcriptDelta value => some value.streamId
  | translationDelta value => some value.streamId
  | utteranceFinal value => some value.streamId
  | latency value => some value.streamId
  | error value => value.streamId
  | _ => none

def isSessionOpened : Event → Bool
  | sessionOpened _ => true
  | _ => false

def isSessionClosed : Event → Bool
  | sessionClosed _ => true
  | _ => false

/-- A latency report or a no-speech error: the events that keep a pending no-speech latency. -/
def keepsNoSpeechLatency : Event → Bool
  | latency _ => true
  | error value => value.code = SafeErrorCode.noSpeech.code
  | _ => false

abbrev eventSequence (e : Event) : UInt64 := e.commonFields.eventSequence

/-- The event is about utterance `u`. -/
def Names (e : Event) (u : Uuid) : Prop := e.utteranceField = some (some u)

instance (e : Event) (u : Uuid) : Decidable (e.Names u) := inferInstanceAs (Decidable (_ = _))

/-- The event is the final of utterance `u`. -/
def IsFinalOf (e : Event) (u : Uuid) : Prop := ∃ f, e = utteranceFinal f ∧ f.utteranceId = some u

end Event

end Translator.Wire
