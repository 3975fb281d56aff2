import Mathlib.Algebra.Ring.Int.Defs
import Mathlib.Algebra.Ring.Nat
import Mathlib.Data.List.Basic

/-! The vocabulary of `translator-core` the daemon is configured with, and the PCM frames of
    `translator-audio`. A frame carries the proof that its bytes fit its format, so that a frame of
    another length cannot be built. -/

namespace Translator

def u64Max : Nat := 2 ^ 64 - 1

/-- `u64::saturating_add`. -/
def saturatingAdd (a b : Nat) : Nat := min (a + b) u64Max

namespace Core

inductive AudioDirection where | microphone | speaker
  deriving DecidableEq, Repr

inductive TranslationMode where | qualityFirst | balanced | streamingFirst
  deriving DecidableEq, Repr

inductive Language where | ru | en
  deriving DecidableEq, Repr

inductive VoiceGender where | male | female
  deriving DecidableEq, Repr

inductive VoiceEngine where | piper | silero | openai
  deriving DecidableEq, Repr

inductive ProviderId where | local | openai
  deriving DecidableEq, Repr

structure VoiceProfile where
  language : Language
  gender : VoiceGender
  engine : VoiceEngine
  modelPath : Option String
  providerVoiceId : Option String
  deriving DecidableEq, Repr

structure StreamPcmFormat where
  sampleRateHz : Nat
  channels : Nat
  frameDurationMs : Nat
  deriving DecidableEq, Repr

namespace StreamPcmFormat

def providerDefault : StreamPcmFormat := ⟨16000, 1, 20⟩

def frameBytes (format : StreamPcmFormat) : Nat :=
  format.sampleRateHz * format.channels * 2 * format.frameDurationMs / 1000

end StreamPcmFormat

inductive PcmFrameError where | invalidByteLength
  deriving DecidableEq, Repr

structure PcmFrame where
  sequence : UInt64
  captureMonotonicNs : Nat
  format : StreamPcmFormat
  pcm : List UInt8
  fits : pcm.length = format.frameBytes
  deriving DecidableEq, Repr

/-- `PcmFrame::try_new`. -/
def PcmFrame.tryNew (sequence : UInt64) (captureMonotonicNs : Nat) (format : StreamPcmFormat)
    (pcm : List UInt8) : Except PcmFrameError PcmFrame :=
  if fits : pcm.length = format.frameBytes then
    .ok ⟨sequence, captureMonotonicNs, format, pcm, fits⟩
  else .error .invalidByteLength

end Core

end Translator
