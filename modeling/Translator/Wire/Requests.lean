import Translator.Core.Contracts
import Translator.Wire.Contract

/-! The requests of `provider.proto`, as the daemon writes them and the sidecar reads them. -/

namespace Translator.Wire

inductive VoiceGender where | unspecified | male | female
  deriving DecidableEq, Repr

inductive VoiceEngine where | unspecified | piper | silero | openai
  deriving DecidableEq, Repr

inductive SampleFormat where | unspecified | s16le
  deriving DecidableEq, Repr

inductive CloseRequestReason where
  | unspecified | userStop | routeRemoved | deviceUnavailable | providerSwitch | daemonShutdown
  deriving DecidableEq, Repr

inductive CancelReason where
  | unspecified | latencyPolicy | routeRemoved | userInterrupt | queueOverflow
  deriving DecidableEq, Repr

def TranslationMode.code : TranslationMode → Int
  | .unspecified => 0
  | .qualityFirst => 1
  | .balanced => 2
  | .streamingFirst => 3

def Language.code : Language → Int
  | .unspecified => 0
  | .ru => 1
  | .en => 2

def VoiceGender.code : VoiceGender → Int
  | .unspecified => 0
  | .male => 1
  | .female => 2

def VoiceEngine.code : VoiceEngine → Int
  | .unspecified => 0
  | .piper => 1
  | .silero => 2
  | .openai => 3

def SampleFormat.code : SampleFormat → Int
  | .unspecified => 0
  | .s16le => 1

def CloseRequestReason.code : CloseRequestReason → Int
  | .unspecified => 0
  | .userStop => 1
  | .routeRemoved => 2
  | .deviceUnavailable => 3
  | .providerSwitch => 4
  | .daemonShutdown => 5

def CancelReason.code : CancelReason → Int
  | .unspecified => 0
  | .latencyPolicy => 1
  | .routeRemoved => 2
  | .userInterrupt => 3
  | .queueOverflow => 4

structure VoiceProfile where
  language : Int
  gender : Int
  engine : Int
  modelPath : Option String
  providerVoiceId : Option String
  deriving DecidableEq, Repr

structure OpenProviderSession where
  schemaVersion : String
  sessionId : IdText
  providerId : Int
  directionId : Int
  sourceLanguage : Int
  targetLanguage : Int
  mode : Int
  requestedInputFormat : Option PcmFormat
  requestedOutputFormat : Option PcmFormat
  voiceProfile : Option VoiceProfile
  debugTextEnabled : Bool
  deriving DecidableEq, Repr

structure ProviderInputFrame where
  schemaVersion : String
  sessionId : IdText
  directionId : Int
  streamId : IdText
  utteranceId : IdText
  sequence : UInt64
  captureMonotonicNs : Nat
  sampleRateHz : Nat
  channels : Nat
  sampleFormat : Int
  frameDurationMs : Nat
  sourceLanguage : Int
  targetLanguage : Int
  mode : Int
  pcm : List UInt8
  endOfUtterance : Bool
  deriving DecidableEq, Repr

structure CancelUtterance where
  schemaVersion : String
  sessionId : IdText
  directionId : Int
  utteranceId : IdText
  reason : Int
  deriving DecidableEq, Repr

structure CloseProviderSession where
  schemaVersion : String
  sessionId : IdText
  reason : Int
  deriving DecidableEq, Repr

/-- `provider_request::Request`; the daemon always sets the oneof. -/
inductive ProviderRequest where
  | openSession (value : OpenProviderSession)
  | inputFrame (value : ProviderInputFrame)
  | cancelUtterance (value : CancelUtterance)
  | closeSession (value : CloseProviderSession)
  deriving DecidableEq, Repr

/-! ### From the vocabulary of the core to that of the wire -/

def providerDirection : Core.AudioDirection → AudioDirection
  | .microphone => .microphone
  | .speaker => .speaker

def providerId : Core.ProviderId → ProviderId
  | .local => .local
  | .openai => .openai

def providerLanguage : Core.Language → Language
  | .ru => .ru
  | .en => .en

def providerMode : Core.TranslationMode → TranslationMode
  | .qualityFirst => .qualityFirst
  | .balanced => .balanced
  | .streamingFirst => .streamingFirst

def providerVoiceGender : Core.VoiceGender → VoiceGender
  | .male => .male
  | .female => .female

def providerVoiceEngine : Core.VoiceEngine → VoiceEngine
  | .piper => .piper
  | .silero => .silero
  | .openai => .openai

/-- `provider_pcm_format`: what every direction asks for. -/
def providerPcmFormat : PcmFormat := ⟨16000, 1, SampleFormat.s16le.code, 20⟩

end Translator.Wire
