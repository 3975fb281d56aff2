import Translator.Audio.Devices
import Translator.Schemes.Call

/-! `PulseAudioMix`: the volumes of the streams that carry the original sound and its translation.

    A call lists the streams and sets the volume of those it recognises. What `pactl` does is a parameter,
    and so is what `serde_json` makes of a listing; the model keeps the commands. -/

namespace Translator.Audio
open Schemes
open Graph (CommandResult CommandRunError EndpointRole)
open Routing (startsWith)

abbrev Properties := Table String String

structure RawSinkInput where
  index : Nat
  properties : Properties

/-- The streams `pactl` lists. -/
structure Streams where
  sinkInputs : List RawSinkInput
  sourceOutputs : List Properties

/-- A command is answered by what was asked before and the streams there are. -/
structure Pactl where
  run : List (List String) → List String → Streams → Except CommandRunError CommandResult × Streams
  /-- `serde_json` for streams that are known by their properties. -/
  streams : List UInt8 → Option (List Properties)
  inputs : List UInt8 → Option (List RawSinkInput)

structure Pulse where
  streams : Streams
  commands : List (List String)

def micOutSink : String := EndpointRole.micOutSink.name

def remoteInSink : String := EndpointRole.remoteInSink.name

def listSinkInputs : List String := ["--format=json", "list", "sink-inputs"]

def listSourceOutputs : List String := ["--format=json", "list", "source-outputs"]

section Commands

variable (pactl : Pactl) {ε A : Type}

def Pulse.commanded (s : Pulse) (args : List String) : Pulse :=
  ⟨(pactl.run s.commands args s.streams).2, s.commands ++ [args]⟩

def runPactl (args : List String) (failureCode : ε) : Call Pulse ε CommandResult := fun s =>
  match (pactl.run s.commands args s.streams).1 with
  | .error _ => (.err failureCode, s.commanded pactl args)
  | .ok result =>
    if result.success then (.ok result, s.commanded pactl args)
    else (.err failureCode, s.commanded pactl args)

end Commands

/-! ### The mix -/

section Applying

variable (pactl : Pactl)

/-- A listing that is printed shows the streams, and neither it nor a volume changes which there are. -/
structure Pactl.Lists (pactl : Pactl) : Prop where
  looks : ∀ commands args s, args.head? ≠ some "load-module" → args.head? ≠ some "unload-module" →
    (pactl.run commands args s).2 = s
  sinkInputs : ∀ commands s result, (pactl.run commands listSinkInputs s).1 = .ok result →
    result.success = true → pactl.inputs result.stdout = some s.sinkInputs
      ∧ pactl.streams result.stdout = some (s.sinkInputs.map RawSinkInput.properties)
  sourceOutputs : ∀ commands s result, (pactl.run commands listSourceOutputs s).1 = .ok result →
    result.success = true → pactl.streams result.stdout = some s.sourceOutputs

variable {pactl} {ε A : Type} {s s' : Pulse}

variable (hlists : pactl.Lists)

include hlists

end Applying

end Translator.Audio
