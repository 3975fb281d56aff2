import Translator.Schemes.KeyedMap
import Translator.Schemes.Outcome
import Translator.Wire.Contract

/-! `ProviderEventValidator`: the daemon's check of every provider event against the session
    contract, the utterances it has recorded and the events it has accepted so far.

    The functions below follow `validation.rs` branch by branch and pass the validator along
    explicitly. The two places where the source can panic, the index `input_complete_ns[&id]` and
    the addition `previous + 1`, answer `Outcome.panic`. -/

namespace Translator.Wire
open Schemes

def nsPerMs : Nat := 1000000
def maxActiveUtterances : Nat := 64
def maxTerminalUtterances : Nat := 4096

inductive ProviderValidationError where
  | missingEvent | openRequired | duplicateOpen | schemaMismatch | sessionMismatch
  | directionMismatch | providerMismatch | streamMismatch | invalidIdentifier | duplicateSequence
  | staleSequence | sequenceGap | duplicateAudioSequence | staleAudioSequence | audioSequenceGap
  | missingSessionContract | negotiatedFormatMismatch | outputFormatMismatch | pcmLengthMismatch
  | unknownUtterance | utteranceTerminal | utteranceCapacityExceeded | terminalCapacityExceeded
  | sessionTerminal | debugTextDisabled | unsafeErrorMessage | expiredAudio | cancelledAudio
  | finalAudioSequenceMismatch | expectedOverflowTerminal | expectedNoSpeechTerminal
  | expectedNoSpeechLatency | expectedCancelledTerminal | invalidOutcome
  deriving DecidableEq, Repr

/-- `Uuid::parse_str` with the validator's error. -/
def parseUuid : IdText → Except ProviderValidationError Uuid
  | some id => .ok id
  | none => .error .invalidIdentifier

def safeErrorMessage : SafeErrorCode → String
  | .providerUnavailable => "Provider is unavailable"
  | .modelNotLoaded => "Required model is not loaded"
  | .unsupportedLanguagePair => "Language pair is not supported"
  | .queueOverflow => "Provider queue limit was reached"
  | .cancelled => "Provider operation was cancelled"
  | .noSpeech => "No speech was detected"
  | .cloudNotEnabled => "Cloud provider is not enabled"
  | .providerAuthFailed => "Provider authentication failed"
  | .unspecified => ""

def safeHealthMessage : String → Option String
  | "provider_unavailable" => some "Provider is unavailable"
  | "model_not_loaded" => some "Required model is not loaded"
  | "unsupported_language_pair" => some "Language pair is not supported"
  | "queue_overflow" => some "Provider queue limit was reached"
  | "cancelled" => some "Provider operation was cancelled"
  | "no_speech" => some "No speech was detected"
  | "cloud_not_enabled" => some "Cloud provider is not enabled"
  | "provider_auth_failed" => some "Provider authentication failed"
  | _ => none

structure ProviderEventValidator where
  contract : ProviderSessionContract
  opened : Bool
  closed : Bool
  lastEventSequence : Option UInt64
  inputCaptureNs : Table Uuid Nat
  inputCompleteNs : Table Uuid Nat
  lastWireAudioSequence : Table Uuid UInt64
  lastPlayableAudioSequence : Table Uuid UInt64
  terminalUtterances : Finset Uuid
  pendingOverflowTerminal : Option Uuid
  pendingNoSpeechTerminal : Option Uuid
  pendingNoSpeechLatency : Option Uuid
  cancelPending : Finset Uuid
  debugTextEnabled : Bool

/-- What a call that may change the validator returns. -/
abbrev Judgement := Outcome ProviderValidationError Unit × ProviderEventValidator

namespace ProviderEventValidator

def new (contract : ProviderSessionContract) : ProviderEventValidator where
  contract := contract
  opened := false
  closed := false
  lastEventSequence := none
  inputCaptureNs := ∅
  inputCompleteNs := ∅
  lastWireAudioSequence := ∅
  lastPlayableAudioSequence := ∅
  terminalUtterances := ∅
  pendingOverflowTerminal := none
  pendingNoSpeechTerminal := none
  pendingNoSpeechLatency := none
  cancelPending := ∅
  debugTextEnabled := contract.debugTextEnabled

/-- `entry(id).or_insert(ns)`. -/
def orInsert (table : Table Uuid Nat) (id : Uuid) (ns : Nat) : Table Uuid Nat :=
  if id ∈ table then table else table.insert id ns

variable (v : ProviderEventValidator)

def recordInput (utteranceId : Uuid) (captureMonotonicNs : Nat) : Judgement :=
  if !v.opened then (.err .openRequired, v)
  else if v.closed then (.err .sessionTerminal, v)
  else if utteranceId ∈ v.terminalUtterances then (.err .utteranceTerminal, v)
  else if utteranceId ∉ v.inputCaptureNs ∧ maxActiveUtterances ≤ v.inputCaptureNs.keys.length then
    (.err .utteranceCapacityExceeded, v)
  else
    (.ok (),
      { v with
        inputCaptureNs := orInsert v.inputCaptureNs utteranceId captureMonotonicNs
        inputCompleteNs := orInsert v.inputCompleteNs utteranceId captureMonotonicNs })

def recordEndOfUtterance (utteranceId : Uuid) (captureMonotonicNs : Nat) : Judgement :=
  if !v.opened then (.err .openRequired, v)
  else if v.closed then (.err .sessionTerminal, v)
  else if utteranceId ∈ v.inputCompleteNs then
    (.ok (),
      { v with inputCompleteNs := v.inputCompleteNs.insert utteranceId captureMonotonicNs })
  else (.err .unknownUtterance, v)

def setDebugTextEnabled (enabled : Bool) : ProviderEventValidator :=
  { v with debugTextEnabled := enabled }

def canRecordCancelRequested (utteranceId : Uuid) : Except ProviderValidationError Unit :=
  if !v.opened then .error .openRequired
  else if v.closed then .error .sessionTerminal
  else if utteranceId ∈ v.terminalUtterances then .error .utteranceTerminal
  else if utteranceId ∉ v.inputCaptureNs then .error .unknownUtterance
  else .ok ()

def recordCancelRequested (utteranceId : Uuid) : Judgement :=
  match v.canRecordCancelRequested utteranceId with
  | .error error => (.err error, v)
  | .ok () => (.ok (), { v with cancelPending := insert utteranceId v.cancelPending })

def maxAgeMs : Nat :=
  match v.contract.mode with
  | .qualityFirst => 3000
  | .balanced => 2000
  | .streamingFirst => 1000
  | .unspecified => 0

/-! ### The checks that only read the validator -/

def validateSequence (sequence : UInt64) : Except ProviderValidationError Unit :=
  match v.lastEventSequence with
  | none => if sequence = 1 then .ok () else .error .sequenceGap
  | some previous =>
    if sequence = previous then .error .duplicateSequence
    else if sequence < previous then .error .staleSequence
    else .ok ()

def validateStream (event : Event) : Except ProviderValidationError Unit :=
  match event.streamField with
  | some value =>
    match parseUuid value with
    | .error error => .error error
    | .ok id => if id ≠ v.contract.streamId then .error .streamMismatch else .ok ()
  | none =>
    match event with
    | .error value => if value.utteranceId.isSome then .error .streamMismatch else .ok ()
    | _ => .ok ()

/-- The part of `validate` before `validate_kind`: session state, identity and order. -/
def validateEnvelope (event : Event) : Except ProviderValidationError Unit :=
  if v.closed then .error .sessionTerminal
  else if !v.opened && !event.isSessionOpened then .error .openRequired
  else if v.opened && event.isSessionOpened then .error .duplicateOpen
  else if event.commonFields.schemaVersion ≠ event.expectedSchema then .error .schemaMismatch
  else
    match parseUuid event.commonFields.sessionId with
    | .error error => .error error
    | .ok sessionId =>
      if sessionId ≠ v.contract.sessionId then .error .sessionMismatch
      else if event.commonFields.directionId ≠ v.contract.directionId.code then
        .error .directionMismatch
      else
        match v.validateStream event with
        | .error error => .error error
        | .ok () => v.validateSequence event.eventSequence

def activeUtterance (value : IdText) : Except ProviderValidationError Uuid :=
  match parseUuid value with
  | .error error => .error error
  | .ok utteranceId =>
    if utteranceId ∈ v.terminalUtterances then .error .utteranceTerminal
    else if utteranceId ∉ v.inputCaptureNs then .error .unknownUtterance
    else .ok utteranceId

/-- `.map(active_utterance).transpose()`: an absent field is no error. -/
def activeUtterance? (value : Option IdText) : Except ProviderValidationError (Option Uuid) :=
  match value with
  | none => .ok none
  | some value =>
    match v.activeUtterance value with
    | .error error => .error error
    | .ok utteranceId => .ok (some utteranceId)

def validateTextEvent (utteranceId : IdText) : Except ProviderValidationError Unit :=
  match v.activeUtterance utteranceId with
  | .error error => .error error
  | .ok _ => if !v.debugTextEnabled then .error .debugTextDisabled else .ok ()

/-- The addition `previous + 1` overflows when `previous` is the largest `u64`. -/
def validateAudioSequence (utteranceId : Uuid) (sequence : UInt64) :
    Outcome ProviderValidationError Unit :=
  match v.lastWireAudioSequence.lookup utteranceId with
  | none => if sequence = 0 then .ok () else .err .audioSequenceGap
  | some previous =>
    if sequence = previous then .err .duplicateAudioSequence
    else if sequence < previous then .err .staleAudioSequence
    else if 2 ^ 64 ≤ previous.toNat + 1 then .panic
    else if previous.toNat + 1 < sequence.toNat then .err .audioSequenceGap
    else .ok ()

/-! ### The branches of `validate_kind` -/

/-- Byte length of one frame; `usize` arithmetic. -/
def expectedBytes (value : ProviderAudioDelta) : Nat :=
  value.sampleRateHz * value.channels * 2 * value.frameDurationMs % 2 ^ 64 / 1000

def validateWireAudio (value : ProviderAudioDelta) (utteranceId : Uuid) : Judgement :=
  match v.validateAudioSequence utteranceId value.sequence with
  | .panic => (.panic, v)
  | .err error => (.err error, v)
  | .ok () =>
    if value.sampleRateHz ≠ v.contract.outputFormat.sampleRateHz
        ∨ value.channels ≠ v.contract.outputFormat.channels
        ∨ value.sampleFormat ≠ v.contract.outputFormat.sampleFormat
        ∨ value.frameDurationMs ≠ v.contract.outputFormat.frameDurationMs then
      (.err .outputFormatMismatch, v)
    else if value.pcm.length ≠ expectedBytes value then (.err .pcmLengthMismatch, v)
    else
      (.ok (),
        { v with
          lastWireAudioSequence := v.lastWireAudioSequence.insert utteranceId value.sequence })

/-- The bookkeeping of `terminalize` when there is room: the utterance leaves every table. -/
def retire (utteranceId : Uuid) : ProviderEventValidator :=
  { v with
    terminalUtterances := insert utteranceId v.terminalUtterances
    inputCaptureNs := v.inputCaptureNs.erase utteranceId
    inputCompleteNs := v.inputCompleteNs.erase utteranceId
    lastWireAudioSequence := v.lastWireAudioSequence.erase utteranceId
    lastPlayableAudioSequence := v.lastPlayableAudioSequence.erase utteranceId
    cancelPending := v.cancelPending.erase utteranceId }

def terminalize (utteranceId : Uuid) : Judgement :=
  if maxTerminalUtterances ≤ v.terminalUtterances.card then
    (.err .terminalCapacityExceeded, { v with closed := true })
  else (.ok (), v.retire utteranceId)

def validateOverflowTerminal (event : Event) (expected : Uuid) : Judgement :=
  match event with
  | .utteranceFinal value =>
    match parseUuid value.utteranceId with
    | .error error => (.err error, v)
    | .ok utteranceId =>
      if utteranceId ≠ expected ∨ value.outcome ≠ UtteranceOutcome.dropped.code
          ∨ value.finalAudioSequence ≠ v.lastPlayableAudioSequence.lookup utteranceId then
        (.err .expectedOverflowTerminal, v)
      else { v with pendingOverflowTerminal := none }.terminalize utteranceId
  | _ => (.err .expectedOverflowTerminal, v)

def validateNoSpeechTerminal (event : Event) (expected : Uuid) : Judgement :=
  match event with
  | .utteranceFinal value =>
    match parseUuid value.utteranceId with
    | .error error => (.err error, v)
    | .ok utteranceId =>
      if utteranceId ≠ expected ∨ value.outcome ≠ UtteranceOutcome.dropped.code
          ∨ value.finalAudioSequence.isSome then
        (.err .expectedNoSpeechTerminal, v)
      else { v with pendingNoSpeechTerminal := none }.terminalize utteranceId
  | _ => (.err .expectedNoSpeechTerminal, v)

def validateCancelledTerminal (event : Event) (utteranceId : Uuid) : Judgement :=
  match event with
  | .utteranceFinal value =>
    if value.outcome ≠ UtteranceOutcome.cancelled.code
        ∨ value.finalAudioSequence ≠ v.lastWireAudioSequence.lookup utteranceId then
      (.err .expectedCancelledTerminal, v)
    else { v with cancelPending := v.cancelPending.erase utteranceId }.terminalize utteranceId
  | _ => (.err .expectedCancelledTerminal, v)

def validateSessionOpened (value : ProviderSessionOpened) : Judgement :=
  match value.negotiatedInputFormat, value.negotiatedOutputFormat, value.capabilities with
  | some input, some output, some capabilities =>
    if input ≠ v.contract.inputFormat ∨ output ≠ v.contract.outputFormat then
      (.err .negotiatedFormatMismatch, v)
    else if !capabilities.audioOutput || !capabilities.cancellation then
      (.err .negotiatedFormatMismatch, v)
    else if capabilities.cloudEgress ≠ decide (v.contract.providerId = .openai) then
      (.err .negotiatedFormatMismatch, v)
    else (.ok (), { v with opened := true })
  | _, _, _ => (.err .missingSessionContract, v)

def validateAudioDelta (value : ProviderAudioDelta) (nowNs : Nat) : Judgement :=
  match v.activeUtterance value.utteranceId with
  | .error error => (.err error, v)
  | .ok utteranceId =>
    match v.validateWireAudio value utteranceId with
    | (.ok (), v') =>
      let isFirstPlayable := (v'.lastPlayableAudioSequence.lookup utteranceId).isNone
      match v'.inputCompleteNs.lookup utteranceId with
      | none => (.panic, v')
      | some captureNs =>
        if isFirstPlayable ∧ v'.maxAgeMs * nsPerMs < nowNs - captureNs then (.err .expiredAudio, v')
        else
          (.ok (),
            { v' with
              lastPlayableAudioSequence :=
                v'.lastPlayableAudioSequence.insert utteranceId value.sequence })
    | refused => refused

def validateLatency (value : ProviderLatency) : Judgement :=
  match v.activeUtterance? value.utteranceId with
  | .error error => (.err error, v)
  | .ok utteranceId =>
    (.ok (),
      { v with
        pendingNoSpeechLatency := utteranceId.filter fun _ =>
          value.asrFirstTextMs.isSome && value.asrFinalTextMs.isSome
            && value.mtFirstTextMs.isNone && value.ttsFirstAudioMs.isNone })

def validateHealth (value : ProviderHealth) : Except ProviderValidationError Unit :=
  if value.providerId ≠ v.contract.providerId.code then .error .providerMismatch
  else if value.queues.isNone then .error .missingSessionContract
  else
    match value.safeError with
    | some error =>
      if safeHealthMessage error.code ≠ some error.message then .error .unsafeErrorMessage
      else .ok ()
    | none => .ok ()

def validateError (value : ProviderError) : Judgement :=
  match SafeErrorCode.tryFrom value.code with
  | none => (.err .unsafeErrorMessage, v)
  | some code =>
    if code = .unspecified ∨ value.safeMessage ≠ safeErrorMessage code then
      (.err .unsafeErrorMessage, v)
    else
      match v.activeUtterance? value.utteranceId with
      | .error error => (.err error, v)
      | .ok utteranceId =>
        if code = .queueOverflow then
          match utteranceId with
          | none => (.err .expectedOverflowTerminal, v)
          | some utteranceId => (.ok (), { v with pendingOverflowTerminal := some utteranceId })
        else if code = .noSpeech then
          match utteranceId with
          | none => (.err .expectedNoSpeechTerminal, v)
          | some utteranceId =>
            if v.pendingNoSpeechLatency ≠ some utteranceId then (.err .expectedNoSpeechLatency, v)
            else
              (.ok (),
                { v with
                  pendingNoSpeechLatency := none
                  pendingNoSpeechTerminal := some utteranceId })
        else (.ok (), v)

def validateUtteranceFinal (value : ProviderUtteranceFinal) : Judgement :=
  match v.activeUtterance value.utteranceId with
  | .error error => (.err error, v)
  | .ok utteranceId =>
    match UtteranceOutcome.tryFrom value.outcome with
    | none => (.err .invalidOutcome, v)
    | some .unspecified => (.err .invalidOutcome, v)
    | some .cancelled => (.err .expectedCancelledTerminal, v)
    | some _ =>
      if value.finalAudioSequence ≠ v.lastPlayableAudioSequence.lookup utteranceId then
        (.err .finalAudioSequenceMismatch, v)
      else v.terminalize utteranceId

/-- The `match event` at the end of `validate_kind`. -/
def dispatch (event : Event) (nowNs : Nat) : Judgement :=
  match event with
  | .sessionOpened value => v.validateSessionOpened value
  | .audioDelta value => v.validateAudioDelta value nowNs
  | .transcriptDelta value => (Outcome.ofExcept (v.validateTextEvent value.utteranceId), v)
  | .translationDelta value => (Outcome.ofExcept (v.validateTextEvent value.utteranceId), v)
  | .latency value => v.validateLatency value
  | .health value => (Outcome.ofExcept (v.validateHealth value), v)
  | .error value => v.validateError value
  | .utteranceFinal value => v.validateUtteranceFinal value
  | .sessionClosed _ => (.ok (), { v with closed := true })

/-- Every event but a latency report or a no-speech error drops a pending no-speech latency. -/
def clearNoSpeechLatency (event : Event) : ProviderEventValidator :=
  if event.keepsNoSpeechLatency then v else { v with pendingNoSpeechLatency := none }

/-- `validate_kind` for an event that names no utterance whose cancellation is pending. -/
def validateUncancelled (event : Event) (nowNs : Nat) : Judgement :=
  match v.pendingOverflowTerminal, v.pendingNoSpeechTerminal with
  | some expected, _ => v.validateOverflowTerminal event expected
  | none, some expected => v.validateNoSpeechTerminal event expected
  | none, none => (v.clearNoSpeechLatency event).dispatch event nowNs

/-- `validate_kind` for an event of an utterance whose cancellation is pending. -/
def validateCancelled (event : Event) (utteranceId : Uuid) : Judgement :=
  match event with
  | .audioDelta value =>
    match v.validateWireAudio value utteranceId with
    | (.ok (), v') => (.err .cancelledAudio, v')
    | refused => refused
  | _ => v.validateCancelledTerminal event utteranceId

def validateKind (event : Event) (nowNs : Nat) : Judgement :=
  match event.utteranceField with
  | none => v.validateUncancelled event nowNs
  | some value =>
    match parseUuid value with
    | .error error => (.err error, v)
    | .ok utteranceId =>
      if utteranceId ∈ v.cancelPending then v.validateCancelled event utteranceId
      else v.validateUncancelled event nowNs

/-- The outcomes after which the event counts as seen. -/
def advancesSequence : Outcome ProviderValidationError Unit → Bool
  | .ok _ => true
  | .err .expiredAudio => true
  | .err .cancelledAudio => true
  | _ => false

def validate (event : ProviderEvent) (nowNs : Nat) : Judgement :=
  match event with
  | none => (.err .missingEvent, v)
  | some event =>
    match v.validateEnvelope event with
    | .error error => (.err error, v)
    | .ok () =>
      let (result, v') := v.validateKind event nowNs
      if advancesSequence result then
        (result, { v' with lastEventSequence := some event.eventSequence })
      else (result, v')

end ProviderEventValidator

end Translator.Wire
