import Translator.Audio.Mix
import Translator.Control.Settings
import Translator.Schemes.Keyed

/-! `PulseOriginalLoopbacks`: the modules that carry the original sound past the translation.

    `ensure` reads off two listings which modules there are, unloads those that nothing asks for and
    loads those that are missing. A loopback is known by the streams it shows: one sink input and one
    source output, either of which a listing can lack. -/

namespace Translator.Audio
open Schemes
open Graph (CommandResult CommandRunError)
open Routing (startsWith)

def speakerOriginalLoopback : String := "loopback-speaker-original"

def microphoneOriginalLoopback : String := "loopback-microphone-original"

inductive OriginalLoopbackErrorCode where | discovery | load | cleanup
  deriving DecidableEq, Repr

structure OriginalLoopbackRequest where
  mediaName : String
  source : String
  sourceTargetObject : String
  sink : String
  deriving DecidableEq, Repr

structure DiscoveredOriginalLoopback where
  mediaName : String
  sourceTargetObject : Option String
  sinkTargetObject : Option String
  deriving DecidableEq, Repr

/-- The fields of the snapshot that are read. -/
structure RuntimeSnapshot where
  devices : Option DeviceState
  translationRunning : Bool
  audioMix : Control.AudioMixState

def unloadModuleArgs (moduleId : String) : List String := ["unload-module", moduleId]

/-! ### Discovery -/

def originalMediaName (properties : Properties) : Option String :=
  (properties.lookup "media.name").filter fun name =>
    name = speakerOriginalLoopback ∨ name = microphoneOriginalLoopback

/-- A stream of a translator's loopback, as the two loops see it: with the name of the module and of the
    media, and where it goes. -/
structure LoopbackStream where
  moduleId : String
  mediaName : String
  targetObject : Option String
  deriving DecidableEq, Repr

def loopbackStream (properties : Properties) : Option LoopbackStream := do
  let mediaName ← originalMediaName properties
  let moduleId ← properties.lookup "pulse.module.id"
  some ⟨moduleId, mediaName, properties.lookup "target.object"⟩

/-- `discovered_loopback_entry`, of the module that is there or not. -/
def discoveredLoopbackEntry (there : Option DiscoveredOriginalLoopback) (mediaName : String) :
    DiscoveredOriginalLoopback := there.getD ⟨mediaName, none, none⟩

def discoverSinkInput (there : Option DiscoveredOriginalLoopback) (stream : LoopbackStream) :
    DiscoveredOriginalLoopback :=
  { discoveredLoopbackEntry there stream.mediaName with sinkTargetObject := stream.targetObject }

def discoverSourceOutput (there : Option DiscoveredOriginalLoopback) (stream : LoopbackStream) :
    DiscoveredOriginalLoopback :=
  { discoveredLoopbackEntry there stream.mediaName with sourceTargetObject := stream.targetObject }

def discoverOriginalLoopbacks (sinkInputs sourceOutputs : List Properties) :
    Table String DiscoveredOriginalLoopback :=
  fill LoopbackStream.moduleId discoverSourceOutput (sourceOutputs.filterMap loopbackStream)
    (fill LoopbackStream.moduleId discoverSinkInput (sinkInputs.filterMap loopbackStream) ∅)

def DiscoveredOriginalLoopback.Matches (loopback : DiscoveredOriginalLoopback)
    (request : OriginalLoopbackRequest) : Prop :=
  loopback.mediaName = request.mediaName
    ∧ loopback.sourceTargetObject = some request.sourceTargetObject
    ∧ loopback.sinkTargetObject = some request.sink

instance (loopback : DiscoveredOriginalLoopback) (request : OriginalLoopbackRequest) :
    Decidable (loopback.Matches request) := inferInstanceAs (Decidable (_ ∧ _))

/-- The modules a request finds, sorted as `ensure` sorts them. -/
def matchingOriginalLoopbacks (discovered : Table String DiscoveredOriginalLoopback)
    (request : OriginalLoopbackRequest) : List String :=
  (discovered.keys.filter fun moduleId =>
    (discovered.lookup moduleId).any (·.Matches request)).insertionSort (· ≤ ·)

/-- The modules that stay: the first one of each request. -/
def keepModuleIds (discovered : Table String DiscoveredOriginalLoopback)
    (requests : List OriginalLoopbackRequest) : List String :=
  requests.filterMap fun request => (matchingOriginalLoopbacks discovered request).head?

def staleModuleIds (discovered : Table String DiscoveredOriginalLoopback)
    (requests : List OriginalLoopbackRequest) : List String :=
  (discovered.keys.filter (· ∉ keepModuleIds discovered requests)).insertionSort (· ≤ ·)

section Ensuring

variable (pactl : Pactl)

abbrev LoopbackCall := Call Pulse OriginalLoopbackErrorCode

def unloadModule (moduleId : String) : LoopbackCall Unit := do
  let _ ← runPactl pactl (unloadModuleArgs moduleId) .cleanup
  pure ()

/-- The sink inputs of the translator's loopbacks, with their indices. -/
def loopbackInputs (s : Streams) : List (Nat × LoopbackStream) :=
  s.sinkInputs.filterMap fun input =>
    (loopbackStream input.properties).map fun stream => (input.index, stream)

def loopbackOutputs (s : Streams) : List LoopbackStream := s.sourceOutputs.filterMap loopbackStream

/-- What a listing of loopbacks keeps to: a stream that is named as the translator's names its module and
    is not the daemon's own, a module has one name and not two streams of a kind, and an index is that of
    one sink input. -/
structure Streams.Listed (s : Streams) : Prop where
  inputIdentified : ∀ input ∈ s.sinkInputs, originalMediaName input.properties ≠ none →
    input.properties.lookup "pulse.module.id" ≠ none
  outputIdentified : ∀ output ∈ s.sourceOutputs, originalMediaName output ≠ none →
    output.lookup "pulse.module.id" ≠ none
  inputs : ((loopbackInputs s).map fun input => input.2.moduleId).Nodup
  outputs : ((loopbackOutputs s).map LoopbackStream.moduleId).Nodup
  named : ∀ input ∈ loopbackInputs s, ∀ output ∈ loopbackOutputs s,
    input.2.moduleId = output.moduleId → input.2.mediaName = output.mediaName
  foreign : ∀ input ∈ s.sinkInputs, originalMediaName input.properties ≠ none →
    input.properties.lookup "application.name" ≠ some "translator-daemon"
  indices : (s.sinkInputs.map RawSinkInput.index).Nodup

/-- A module that was loaded for a request. -/
structure Placed where
  request : OriginalLoopbackRequest
  moduleId : String
  index : Nat

def Placed.sinkInput (p : Placed) : Nat × LoopbackStream :=
  (p.index, ⟨p.moduleId, p.request.mediaName, some p.request.sink⟩)

def Placed.sourceOutput (p : Placed) : LoopbackStream :=
  ⟨p.moduleId, p.request.mediaName, some p.request.sourceTargetObject⟩

/-- The streams without those of a module. -/
def Streams.without (s : Streams) (moduleId : String) : Streams where
  sinkInputs := s.sinkInputs.filter fun input =>
    input.properties.lookup "pulse.module.id" ≠ some moduleId
  sourceOutputs := s.sourceOutputs.filter fun output =>
    output.lookup "pulse.module.id" ≠ some moduleId

/-- A stream of the module that was loaded for the request. -/
structure LoadedFor (request : OriginalLoopbackRequest) (moduleId target : String)
    (properties : Properties) : Prop where
  mediaName : properties.lookup "media.name" = some request.mediaName
  moduleId : properties.lookup "pulse.module.id" = some moduleId
  target : properties.lookup "target.object" = some target
  foreign : properties.lookup "application.name" ≠ some "translator-daemon"

/-- A module that is loaded shows its two streams, under an identifier and an index that are new. -/
structure Loaded (request : OriginalLoopbackRequest) (s s' : Streams) (moduleId : String)
    (input : RawSinkInput) (output : Properties) : Prop where
  newInput : ∀ there ∈ s.sinkInputs, there.properties.lookup "pulse.module.id" ≠ some moduleId
  newOutput : ∀ there ∈ s.sourceOutputs, there.lookup "pulse.module.id" ≠ some moduleId
  newIndex : ∀ there ∈ s.sinkInputs, there.index ≠ input.index
  inputLoaded : LoadedFor request moduleId request.sink input.properties
  outputLoaded : LoadedFor request moduleId request.sourceTargetObject output
  sinkInputs : s'.sinkInputs.Perm (input :: s.sinkInputs)
  sourceOutputs : s'.sourceOutputs.Perm (output :: s.sourceOutputs)

variable {s s' : Streams}

/-- What `ensure` finds. -/
def Streams.discovered (s : Streams) : Table String DiscoveredOriginalLoopback :=
  discoverOriginalLoopbacks (s.sinkInputs.map RawSinkInput.properties) s.sourceOutputs

theorem mem_stale {discovered : Table String DiscoveredOriginalLoopback}
    {requests : List OriginalLoopbackRequest} {id : String} :
    id ∈ staleModuleIds discovered requests ↔ id ∈ discovered ∧ id ∉ keepModuleIds discovered requests := by
  rw [staleModuleIds, List.mem_insertionSort, List.mem_filter, decide_eq_true_iff, AList.mem_keys]

section Loading

variable {request : OriginalLoopbackRequest} {id : String} {input : RawSinkInput} {output : Properties}

end Loading

/-! ### Ensuring -/

section Runs

variable {pactl} {t t' : Pulse}

end Runs

end Ensuring

/-! ### A leftover of another sink -/

def loopbackProperties (mediaName moduleId target : String) : Properties :=
  (((∅ : Properties).insert "media.name" mediaName).insert "pulse.module.id" moduleId).insert
    "target.object" target

/-- An identifier longer than those there are. -/
def freshModuleId (s : Streams) : String :=
  let ids := (s.sinkInputs.map RawSinkInput.properties ++ s.sourceOutputs).map fun properties =>
    ((properties.lookup "pulse.module.id").getD "").length
  String.ofList (List.replicate (ids.foldr max 0 + 1) '1')

def freshIndex (s : Streams) : Nat := (s.sinkInputs.map RawSinkInput.index).foldr max 0 + 1

/-- The text after the name of an argument. -/
def argument (args : List String) (n : Nat) (name : String) : String :=
  String.ofList ((args.getD n "").toList.drop name.length)

/-- The streams with those of a module that is loaded. -/
def Streams.with (s : Streams) (args : List String) : Streams :=
  let source := argument args 2 "source="
  let mediaName := if argument args 8 "sink_input_properties=media.name="
      = speakerOriginalLoopback ++ " translator.owner=true" then speakerOriginalLoopback
    else microphoneOriginalLoopback
  let target := if mediaName = speakerOriginalLoopback then remoteInSink else source
  ⟨s.sinkInputs ++ [⟨freshIndex s,
      loopbackProperties mediaName (freshModuleId s) (argument args 3 "sink=")⟩],
    s.sourceOutputs ++ [loopbackProperties mediaName (freshModuleId s) target]⟩

/-- The streams, entry by entry. -/
def Streams.entries (s : Streams) : List (Nat × List (Sigma fun _ : String => String))
    × List (List (Sigma fun _ : String => String)) :=
  (s.sinkInputs.map fun input => (input.index, input.properties.entries),
    s.sourceOutputs.map AList.entries)

end Translator.Audio
