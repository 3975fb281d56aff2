import Translator.Schemes.KeyedMap
import Translator.Sidecar.Messages

/-! `OpenAIRealtimeAdapter.map_realtime_events`: what the events of the remote service say in the terms
    of the provider contract.

    How a message is decoded is a `Codec`: `json.loads`, `base64.b64decode`, the resampler and the text
    check of the contract's models are parameters, which may answer anything. A string is the list of
    its code points, for a JSON string may hold surrogates. -/

namespace Translator.Realtime
open Schemes
open Wire (Uuid)

/-- A Python string. -/
abbrev PyStr : Type := List Nat

def pyStr (text : String) : PyStr := text.toList.map Char.toNat

inductive Json where
  | null
  | bool (value : Bool)
  | number (text : PyStr)
  | string (text : PyStr)
  | array (items : List Json)
  | object (fields : List (PyStr × Json))

/-- `dict.get`: of repeated keys the last one counts. -/
def Json.get (fields : List (PyStr × Json)) (key : PyStr) : Option Json :=
  (fields.reverse.find? fun field => field.1 = key).map Prod.snd

/-- A string value, where the value is one. -/
def Json.string? : Json → Option PyStr
  | .string text => some text
  | _ => none

/-- A websocket message. -/
inductive RawMessage where
  | text (text : PyStr)
  | binary (bytes : List UInt8)

/-- What `json.loads` comes to: a value, a `JSONDecodeError`, or another exception. -/
inductive Loaded where
  | value (json : Json)
  | decodeError
  | raised

structure Codec where
  loads : RawMessage → Loaded
  /-- `base64.b64decode(delta, validate=True)`; `none` when it raises. -/
  b64decode : PyStr → Option (List UInt8)
  /-- `soxr.resample`. -/
  resample : Nat → Nat → List UInt8 → List UInt8
  /-- The text is one the delta models accept. -/
  acceptsText : PyStr → Bool

/-- The audio of an event. -/
structure AudioDelta where
  streamId : Uuid
  utteranceId : Uuid
  sequence : Nat
  providerMonotonicNs : Nat
  sampleRateHz : Nat
  channels : Nat
  frameDurationMs : Nat
  pcm : List UInt8
  deriving DecidableEq

inductive SessionCloseReason where
  | userStop | routeRemoved | deviceUnavailable | providerSwitch | providerFailure | closeTimeout
  | daemonShutdown
  deriving DecidableEq, Repr

/-- The events of a session, without the identity and the direction all of them carry. -/
inductive Body where
  | audioDelta (audio : AudioDelta)
  | transcriptDelta (streamId utteranceId : Uuid) (text : PyStr)
  | translationDelta (streamId utteranceId : Uuid) (text : PyStr)
  | error (streamId utteranceId : Option Uuid) (code : Sidecar.SafeErrorCode) (retryable : Bool)
  | utteranceFinal (streamId utteranceId : Uuid) (finalAudioSequence : Option Nat)
      (outcome : Sidecar.UtteranceOutcome)
  | sessionClosed (reason : SessionCloseReason)
  deriving DecidableEq

/-- The utterance an event names. -/
def Body.utterance? : Body → Option Uuid
  | .audioDelta audio => some audio.utteranceId
  | .transcriptDelta _ utteranceId _ | .translationDelta _ utteranceId _ => some utteranceId
  | .error _ utteranceId _ _ => utteranceId
  | .utteranceFinal _ utteranceId _ _ => some utteranceId
  | .sessionClosed _ => none

structure ProviderEvent where
  eventSequence : Nat
  body : Body
  deriving DecidableEq

/-- `openai_pcm_format`. -/
def openaiSampleRateHz : Nat := 24000

def openaiFrameDurationMs : Nat := 20

/-- A frame of the remote service, in bytes. -/
def openaiFrameBytes : Nat := openaiSampleRateHz * 1 * 2 * openaiFrameDurationMs / 1000

inductive AdapterError where | invalidOpenaiAudioDelta | invalidText
  deriving DecidableEq, Repr

/-- The adapter's tables for one session. -/
structure OpenAIRealtimeAdapter where
  eventSequence : Nat
  audioSequences : Table Uuid Nat
  audioRemainders : Table Uuid (List UInt8)

namespace OpenAIRealtimeAdapter

/-- After the preflight, which numbers the opening and the health report. -/
def new : OpenAIRealtimeAdapter := ⟨2, ∅, ∅⟩

variable (a : OpenAIRealtimeAdapter)

/-- The frames that are complete, numbered from the next sequence on. -/
def audioEvents (streamId utteranceId : Uuid) (nowNs : Nat) (combined : List UInt8) :
    List ProviderEvent :=
  (List.range (combined.length / openaiFrameBytes)).map fun i => {
    eventSequence := a.eventSequence + i + 1
    body := .audioDelta {
      streamId := streamId
      utteranceId := utteranceId
      sequence := (a.audioSequences.lookup utteranceId).getD 0 + i
      providerMonotonicNs := nowNs
      sampleRateHz := openaiSampleRateHz
      channels := 1
      frameDurationMs := openaiFrameDurationMs
      pcm := (combined.drop (i * openaiFrameBytes)).take openaiFrameBytes } }

/-- The audio of the utterance that is not told yet. -/
def combined (utteranceId : Uuid) (pcm : List UInt8) : List UInt8 :=
  (a.audioRemainders.lookup utteranceId).getD [] ++ pcm

/-- The tables after some audio of an utterance. -/
def heardAudio (utteranceId : Uuid) (combined : List UInt8) : OpenAIRealtimeAdapter where
  eventSequence := a.eventSequence + combined.length / openaiFrameBytes
  audioSequences := a.audioSequences.insert utteranceId
    ((a.audioSequences.lookup utteranceId).getD 0 + combined.length / openaiFrameBytes)
  audioRemainders := a.audioRemainders.insert utteranceId
    (combined.drop (combined.length / openaiFrameBytes * openaiFrameBytes))

/-- A text event; its number is taken before the text is checked. -/
def textEvent (codec : Codec) (text : PyStr) (body : Body) :
    Except AdapterError (List ProviderEvent) × OpenAIRealtimeAdapter :=
  (if codec.acceptsText text then .ok [⟨a.eventSequence + 1, body⟩] else .error .invalidText,
    { a with eventSequence := a.eventSequence + 1 })

/-- `map_realtime_events`. -/
def mapRealtimeEvents (codec : Codec) (debugTextEnabled : Bool) (event : List (PyStr × Json))
    (streamId utteranceId : Uuid) (nowNs : Nat) :
    Except AdapterError (List ProviderEvent) × OpenAIRealtimeAdapter :=
  let eventType := (Json.get event (pyStr "type")).bind Json.string?
  let delta := (Json.get event (pyStr "delta")).bind Json.string?
  if eventType = some (pyStr "session.output_audio.delta") then
    match delta with
    | none => (.ok [], a)
    | some delta =>
      match codec.b64decode delta with
      | none => (.error .invalidOpenaiAudioDelta, a)
      | some pcm =>
        let combined := a.combined utteranceId pcm
        (.ok (a.audioEvents streamId utteranceId nowNs combined), a.heardAudio utteranceId combined)
  else if !debugTextEnabled then (.ok [], a)
  else
    match delta with
    | none => (.ok [], a)
    | some delta =>
      if eventType = some (pyStr "session.input_transcript.delta") then
        a.textEvent codec delta (.transcriptDelta streamId utteranceId delta)
      else if eventType = some (pyStr "session.output_transcript.delta") then
        a.textEvent codec delta (.translationDelta streamId utteranceId delta)
      else (.ok [], a)

end OpenAIRealtimeAdapter

end Translator.Realtime
