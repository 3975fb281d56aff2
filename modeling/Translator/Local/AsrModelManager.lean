import Translator.Schemes.Call
import Translator.Schemes.Run
import Translator.Core.Contracts
import Mathlib.Data.List.Infix

/-! `AsrModelManager`: one speech model at a time, loaded when it is needed, and given up for a smaller
    one or for the CPU when CUDA fails.

    The model library is an `AsrRuntime`: it may answer each request as it likes, whatever has happened
    so far. The history of what was asked and answered is kept next to the manager. -/

namespace Translator.Local
open Schemes
open Core (Language TranslationMode)

inductive Device where | cpu | cuda
  deriving DecidableEq, Repr

def Device.parse : String → Option Device
  | "cpu" => some .cpu
  | "cuda" => some .cuda
  | _ => none

inductive AsrError where
  | unavailable (message : String)
  | unsupported (message : String)
  deriving DecidableEq, Repr

def asrUnavailableMessage : String := "local ASR is unavailable"

inductive FailureKind where | oom | cudaRuntime | other
  deriving DecidableEq, Repr

def oomMarkers : List String := ["out of memory", "cuda_error_out_of_memory"]

def cudaRuntimeMarkers : List String :=
  ["libcublas", "libcudnn", "cuda driver", "cuda runtime", "cuda not found"]

/-- `_failure_kind`, of the case-folded message of an error. -/
def failureKind (message : String) : FailureKind :=
  if ∃ marker ∈ oomMarkers, marker.toList <:+: message.toList then .oom
  else if ∃ marker ∈ cudaRuntimeMarkers, marker.toList <:+: message.toList then .cudaRuntime
  else .other

/-- `Language.value`. -/
def languageValue : Language → String
  | .ru => "ru"
  | .en => "en"

/-- `_BEAM_SIZE`. -/
def beamSize : TranslationMode → Nat
  | .qualityFirst => 5
  | .balanced => 3
  | .streamingFirst => 1

/-- What the factory is asked for. -/
structure Model where
  modelId : String
  device : Device
  computeType : String
  deriving DecidableEq, Repr

/-- What was asked of the model library, and what it answered. An error is its case-folded message. -/
inductive Happening where
  | loaded (model : Model) (result : Except String Unit)
  | inferred (model : Model) (pcm : List UInt8) (language : String) (beamSize : Nat)
      (result : Except String String)
  | unloaded (result : Except String Unit)
  | releasedCuda (result : Except String Unit)
  deriving DecidableEq

/-- The answers, given everything that has happened: whether a model's directory is there, a load, an
    inference (its stripped text), the unloading of the native model and the release of the CUDA memory,
    and whether something still refers to a model that was dropped. -/
structure AsrRuntime where
  isUsable : List Happening → String → Bool
  load : List Happening → Model → Except String Unit
  infer : List Happening → Model → Except String String
  unload : List Happening → Except String Unit
  releaseCuda : List Happening → Except String Unit
  survives : List Happening → Bool

structure AsrModelManager where
  model : Option Model
  residentModelId : Option String
  residencyGeneration : Nat
  activeCallCount : Nat
  unavailable : Bool
  actualDevice : Device
  selectedId : String
  degraded : Bool
  history : List Happening

namespace AsrModelManager

/-- `__init__`. -/
def new (selectedId device : String) (cudaAvailable : Bool) : Except AsrError AsrModelManager :=
  match Device.parse device with
  | none => .error (.unsupported "ASR device is not supported")
  | some device =>
    let fallsBack := device = .cuda ∧ !cudaAvailable
    .ok { model := none
          residentModelId := none
          residencyGeneration := 0
          activeCallCount := 0
          unavailable := false
          actualDevice := if fallsBack then .cpu else device
          selectedId := if fallsBack then "small" else selectedId
          degraded := if fallsBack then true else device = .cpu
          history := [] }

def note (s : AsrModelManager) (happening : Happening) : AsrModelManager :=
  { s with history := s.history ++ [happening] }

/-- The model that `_ensure_loaded` asks for. -/
def wanted (s : AsrModelManager) : Model where
  modelId := s.selectedId
  device := s.actualDevice
  computeType := if s.actualDevice = .cuda then "float16" else "int8"

end AsrModelManager

abbrev AsrCall (α : Type) : Type := Call AsrModelManager AsrError α

/-- A question to the model library and its answer, which both go into the history. -/
def query {R : Type} (answer : List Happening → R) (happened : R → Happening) : AsrCall R :=
  fun s => (.ok (answer s.history), s.note (happened (answer s.history)))

def isOk {ε α : Type} : Except ε α → Bool
  | .ok _ => true
  | .error _ => false

section Calls

variable (rt : AsrRuntime)

/-- The native model is unloaded, where there is one. -/
def unloadNative (hadResident : Bool) : AsrCall (Except String Unit) :=
  if hadResident then query rt.unload .unloaded else pure (.ok ())

/-- `_drop_resident`: whether everything was cleaned up. -/
def dropResident (invalidateWithoutReplacement : Bool) : AsrCall Bool := do
  let s ← Call.get
  let hadResident := s.model.isSome
  let unloaded ← unloadNative rt hadResident
  Call.modify fun s => { s with model := none, residentModelId := none }
  let released ← query rt.releaseCuda .releasedCuda
  Call.modify fun s =>
    if invalidateWithoutReplacement ∧ hadResident then
      { s with residencyGeneration := s.residencyGeneration + 1 }
    else s
  let s ← Call.get
  let cleanupOk := isOk unloaded && isOk released && !(hadResident && rt.survives s.history)
  Call.modify fun s => if cleanupOk then s else { s with unavailable := true }
  pure cleanupOk

/-- `_ensure_loaded`: what a load failed with, or nothing. -/
def ensureLoaded : AsrCall (Option FailureKind) := do
  let s ← Call.get
  if s.model.isSome then pure none
  else if !rt.isUsable s.history s.selectedId then pure (some .other)
  else
    Call.modify fun s => { s with residencyGeneration := s.residencyGeneration + 1 }
    match ← query (rt.load · s.wanted) (.loaded s.wanted) with
    | .error message => pure (some (failureKind message))
    | .ok () =>
      Call.modify fun s' => { s' with model := some s.wanted, residentModelId := some s'.selectedId }
      pure none

/-- `_run_inference`, of the model that is loaded. -/
def runInference (pcm : List UInt8) (language : Language) (mode : TranslationMode) :
    AsrCall (Except FailureKind String) := do
  let s ← Call.get
  match s.model with
  | none => pure (.error .other)
  | some model =>
    Call.modify fun s => { s with activeCallCount := 1 }
    let result ← query (rt.infer · model) (.inferred model pcm (languageValue language) (beamSize mode))
    Call.modify fun s => { s with activeCallCount := 0 }
    match result with
    | .ok text => pure (.ok text)
    | .error message => pure (.error (failureKind message))

/-- The smaller model, or the CPU, takes over once the old model is gone. -/
def giveUp (device : Option Device) : AsrCall Bool := do
  if !(← dropResident rt false) then pure false
  else
    Call.modify fun s =>
      { s with actualDevice := device.getD s.actualDevice, selectedId := "small", degraded := true }
    pure true

/-- `_handle_cuda_failure`: whether another try is worth it. -/
def handleCudaFailure (failure : FailureKind) : AsrCall Bool := do
  let s ← Call.get
  if failure = .oom ∧ s.actualDevice = .cuda ∧ s.selectedId = "large-v3" then giveUp rt none
  else if failure = .cudaRuntime ∧ s.actualDevice = .cuda then giveUp rt (some .cpu)
  else if failure = .oom then
    let _ ← dropResident rt true
    Call.modify fun s => { s with unavailable := true }
    pure false
  else pure false

def failUnavailable {α : Type} : AsrCall α := Call.fail (.unavailable asrUnavailableMessage)

/-- What `prepare` and `transcribe` check first. -/
def requireUsable : AsrCall Unit := do
  let s ← Call.get
  if s.unavailable then failUnavailable
  else if s.actualDevice = .cpu ∧ s.selectedId ≠ "small" then
    Call.fail (.unsupported "large ASR is unsupported on the CPU runtime")
  else pure ()

/-- The loop of `prepare`, of which no more than these turns are taken. -/
def prepareTurns : Nat → AsrCall Unit
  | 0 => fun s => (.panic, s)
  | turns + 1 => do
    match ← ensureLoaded rt with
    | none => pure ()
    | some loadFailure =>
      if ← handleCudaFailure rt loadFailure then prepareTurns turns
      else
        Call.modify fun s => { s with unavailable := true }
        failUnavailable

/-- `_transcribe_locked`, of whose loop no more than these turns are taken. -/
def transcribeTurns (pcm : List UInt8) (language : Language) (mode : TranslationMode) :
    Nat → AsrCall String
  | 0 => fun s => (.panic, s)
  | turns + 1 => do
    match ← ensureLoaded rt with
    | some loadFailure =>
      if ← handleCudaFailure rt loadFailure then transcribeTurns pcm language mode turns
      else
        Call.modify fun s => { s with unavailable := true }
        failUnavailable
    | none =>
      match ← runInference rt pcm language mode with
      | .ok text => pure text
      | .error inferenceFailure =>
        if ← handleCudaFailure rt inferenceFailure then transcribeTurns pcm language mode turns
        else failUnavailable

/-- `release`. -/
def release : AsrCall Bool := dropResident rt false

def prepare (turns : Nat) : AsrCall Unit := do
  requireUsable
  prepareTurns rt turns

/-- `transcribe`. The samples must be a whole number of 16-bit words, and at least one. -/
def transcribe (turns : Nat) (pcm : List UInt8) (language : Language) (mode : TranslationMode) :
    AsrCall String := do
  if pcm.isEmpty ∨ pcm.length % 2 ≠ 0 then Call.fail (.unavailable "ASR PCM input is invalid")
  else
    requireUsable
    transcribeTurns rt pcm language mode turns

/-- A call of the manager's owner; the admission lock takes them one at a time. -/
inductive Operation where
  | prepare
  | transcribe (pcm : List UInt8) (language : Language) (mode : TranslationMode)
  | release
  deriving DecidableEq

inductive Reply where
  | prepared
  | text (text : String)
  | released (cleanupOk : Bool)
  deriving DecidableEq

/-- The call, with no more than these turns of its loop. -/
def Operation.call (turns : Nat) : Operation → AsrCall Reply
  | .prepare => do Local.prepare rt turns; pure .prepared
  | .transcribe pcm language mode => do
    pure (.text (← Local.transcribe rt turns pcm language mode))
  | .release => do pure (.released (← Local.release rt))

def AsrModelManager.step (turns : Nat) (s : AsrModelManager) (op : Operation) :
    Outcome AsrError Reply × AsrModelManager := op.call rt turns s

end Calls

end Translator.Local
