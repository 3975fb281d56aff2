import Translator.Graph.Loaded

/-! `PulseAecGraph` and `initialize_headphone_aec`: the echo canceller is a module that is loaded once, looked
    at three times and kept by the object that loaded it. Where the looking fails that object is dropped, and
    nothing unloads what it had loaded. -/

namespace Translator.Aec

open Schemes
open Graph (CommandResult CommandRunError Modules PactlModule listModules loadedModule parseModules printedId
  splitOnce splitWhitespace collect)

/-! ### Names and errors -/

def aecSource : String := "translator_aec_source"
def aecSink : String := "translator_aec_sink"

inductive AecErrorCode where
  | invalidConfiguration | pactlMissing | moduleLoadFailed | inspectionFailed | ownershipMismatch
  | cleanupRefused | cleanupFailed | notOwned | alreadyOwned | invalidValidationInput
  deriving DecidableEq, Repr

/-- What an error is displayed as. -/
def AecErrorCode.message : AecErrorCode → String
  | .invalidConfiguration => "AEC configuration is invalid"
  | .pactlMissing => "Audio control command is unavailable"
  | .moduleLoadFailed => "AEC module creation failed"
  | .inspectionFailed => "AEC graph inspection failed"
  | .ownershipMismatch => "AEC graph ownership verification failed"
  | .cleanupRefused => "AEC cleanup ownership verification failed"
  | .cleanupFailed => "AEC cleanup failed"
  | .notOwned => "No AEC module is owned by this runtime"
  | .alreadyOwned => "An AEC module is already owned by this runtime"
  | .invalidValidationInput => "AEC validation input is invalid"

structure AecPhysicalPair where
  source : String
  sink : String
  deriving DecidableEq, Repr

structure AecGraphState where
  moduleId : Nat
  sourceId : Nat
  sinkId : Nat
  pair : AecPhysicalPair
  generation : String
  deriving DecidableEq, Repr

structure PactlEndpoint where
  index : Nat
  name : String
  ownerModule : Nat
  properties : Table String String

/-! ### The server -/

/-- What `pactl` does and prints. A module is loaded by `load-module` alone, under an index of its own and
    with its arguments, be the command told to have failed or not. -/
structure AecServer where
  run : List String → Modules → Except CommandRunError CommandResult × Modules
  endpoints : List UInt8 → Option (List PactlEndpoint)
  looks : ∀ args modules, args.head? ≠ some "load-module" → (run args modules).2 = modules
  loads : ∀ args modules, args.head? = some "load-module" → (run args modules).2 = modules
    ∨ ∃ id ∉ modules, (run args modules).2 = modules.insert id (loadedModule args)

/-! ### The graph -/

structure PulseAecGraph where
  pair : AecPhysicalPair
  generation : String
  owned : Option Nat
  deriving DecidableEq, Repr

/-- `is_safe_name`. -/
def isSafeName (value : String) : Bool :=
  !value.isEmpty && value.toList.all (fun c => c.isAlphanum || c = '.' || c = '_' || c = '-')

/-- `str::matches(pattern).count()`: from left to right, and no two that overlap. -/
def countMatches (pattern : List Char) : Nat → List Char → Nat
  | _, [] => 0
  | skip + 1, _ :: rest => countMatches pattern skip rest
  | 0, c :: rest =>
    if pattern.isPrefixOf (c :: rest) then 1 + countMatches pattern (pattern.length - 1) rest
    else countMatches pattern 0 rest

def occurrences (text pattern : String) : Nat := countMatches pattern.toList 0 text.toList

namespace PulseAecGraph

def new (pair : AecPhysicalPair) (generation : String) : Except AecErrorCode PulseAecGraph :=
  if !isSafeName pair.source || !isSafeName pair.sink || !isSafeName generation then
    .error .invalidConfiguration
  else .ok ⟨pair, generation, none⟩

variable (graph : PulseAecGraph)

def sourceProperties : String :=
  "source_properties='device.description=Translator_AEC_Source translator.owner=true translator.generation="
    ++ graph.generation ++ "'"

def sinkProperties : String :=
  "sink_properties='device.description=Translator_AEC_Sink translator.owner=true translator.generation="
    ++ graph.generation ++ "'"

def loadArgs : List String :=
  ["load-module", "module-echo-cancel", "source_master=" ++ graph.pair.source,
    "sink_master=" ++ graph.pair.sink, "source_name=" ++ aecSource, "sink_name=" ++ aecSink, "rate=48000",
    "channels=1", "channel_map=mono", "aec_method=webrtc", graph.sourceProperties, graph.sinkProperties]

def moduleMatches (module : PactlModule) : Bool :=
  let arguments := collect ((splitWhitespace module.argument).filterMap splitOnce)
  module.name = "module-echo-cancel"
  && arguments.lookup "source_master" = some graph.pair.source
  && arguments.lookup "sink_master" = some graph.pair.sink
  && arguments.lookup "source_name" = some aecSource
  && arguments.lookup "sink_name" = some aecSink
  && arguments.lookup "rate" = some "48000"
  && arguments.lookup "channels" = some "1"
  && arguments.lookup "channel_map" = some "mono"
  && arguments.lookup "aec_method" = some "webrtc"
  && occurrences module.argument graph.sourceProperties = 1
  && occurrences module.argument graph.sinkProperties = 1
  && occurrences module.argument "translator.owner=true" = 2
  && occurrences module.argument ("translator.generation=" ++ graph.generation) = 2

def endpointMatches (endpoint : PactlEndpoint) (moduleId : Nat) : Bool :=
  endpoint.ownerModule = moduleId
  && endpoint.properties.lookup "translator.owner" = some "true"
  && endpoint.properties.lookup "translator.generation" = some graph.generation

/-- `exact_endpoint`: the one endpoint of the name, if it is what the module should show. -/
def exactEndpoint (endpoints : List PactlEndpoint) (name : String) (moduleId : Nat) : Option PactlEndpoint :=
  match endpoints.filter (fun endpoint => endpoint.name = name) with
  | [endpoint] => if graph.endpointMatches endpoint moduleId then some endpoint else none
  | _ => none

end PulseAecGraph

/-- The graph that loads, and the modules of the server. -/
structure Station where
  graph : PulseAecGraph
  modules : Modules

abbrev AecCall (α : Type) : Type := Call Station AecErrorCode α

section Loading

variable (server : AecServer)

/-- `run`. -/
def runPactl (args : List String) (failureCode : AecErrorCode) : AecCall CommandResult := fun s =>
  let after := { s with modules := (server.run args s.modules).2 }
  match (server.run args s.modules).1 with
  | .error .notFound => (.err .pactlMissing, after)
  | .error _ => (.err failureCode, after)
  | .ok result => if result.success then (.ok result, after) else (.err failureCode, after)

def inspectModules (failureCode : AecErrorCode) : AecCall Modules := do
  let result ← runPactl server listModules failureCode
  match parseModules result.stdout with
  | some modules => pure modules
  | none => Call.fail failureCode

def endpointArgs (kind : String) : List String := ["--format=json", "list", kind]

def inspectEndpoints (kind : String) : AecCall (List PactlEndpoint) := do
  let result ← runPactl server (endpointArgs kind) .inspectionFailed
  match server.endpoints result.stdout with
  | some endpoints => pure endpoints
  | none => Call.fail .inspectionFailed

/-- An inspection that finds what it looks for, or the graph is not the daemon's own. -/
def expect {α : Type} (found : Option α) : AecCall α :=
  match found with
  | some value => pure value
  | none => Call.fail .ownershipMismatch

/-- The module is listed, and is what was loaded. -/
def inspectModule (moduleId : Nat) : AecCall PactlModule := do
  let s ← Call.get
  let modules ← inspectModules server .inspectionFailed
  expect ((modules.lookup moduleId).filter s.graph.moduleMatches)

/-- The endpoints of a kind are listed, and the one of the name is the module's. -/
def inspectExact (kind name : String) (moduleId : Nat) : AecCall PactlEndpoint := do
  let s ← Call.get
  let endpoints ← inspectEndpoints server kind
  expect (s.graph.exactEndpoint endpoints name moduleId)

def inspectOwned : AecCall AecGraphState := do
  let s ← Call.get
  match s.graph.owned with
  | none => Call.fail .notOwned
  | some moduleId =>
    let _ ← inspectModule server moduleId
    let source ← inspectExact server "sources" aecSource moduleId
    let sink ← inspectExact server "sinks" aecSink moduleId
    pure ⟨moduleId, source.index, sink.index, s.graph.pair, s.graph.generation⟩

def loadOwned : AecCall AecGraphState := do
  let s ← Call.get
  if s.graph.owned.isSome then Call.fail .alreadyOwned
  else
    let result ← runPactl server s.graph.loadArgs .moduleLoadFailed
    match printedId result.stdout with
    | none => Call.fail .moduleLoadFailed
    | some moduleId =>
      Call.modify fun s => { s with graph := { s.graph with owned := some moduleId } }
      inspectOwned server

end Loading

/-! ### The daemon -/

inductive OutputMode where | headphones | openSpeaker | unknownUnsafe
  deriving DecidableEq, Repr

inductive AecCapability where
  | unavailable | availableUnvalidated | validationFailed
  | validatedFor (sourceName sinkName : String)
  deriving DecidableEq, Repr

/-- What the daemon reads of the devices it has probed. -/
structure ProbedDevices where
  mode : OutputMode
  source : Option String
  sink : Option String

/-- `initialize_headphone_aec` up to the load: the graph it loads, if it comes to that. The devices are
    `none` where the probe fails. -/
def configureHeadphoneAec (enable disable : Bool) (probed : Option ProbedDevices) (uuid : String) :
    Option PulseAecGraph :=
  if !enable then none
  else if disable then none
  else match probed with
  | none => none
  | some state =>
    if state.mode ≠ .headphones then none
    else match state.source, state.sink with
    | some source, some sink =>
      (PulseAecGraph.new ⟨source, sink⟩ ("translator-headphone-aec-" ++ uuid)).toOption
    | _, _ => none

def initializeHeadphoneAec (server : AecServer) (enable disable : Bool) (probed : Option ProbedDevices)
    (uuid : String) (modules : Modules) : (AecCapability × Option PulseAecGraph) × Modules :=
  match configureHeadphoneAec enable disable probed uuid with
  | none => ((.unavailable, none), modules)
  | some graph =>
    match loadOwned server ⟨graph, modules⟩ with
    | (.ok _, s) => ((.validatedFor graph.pair.source graph.pair.sink, some s.graph), s.modules)
    | (_, s) => ((.unavailable, none), s.modules)

/-! ### When nothing is left behind -/

section Leaving

variable (server : AecServer)

/-- What a command prints, where it succeeds. -/
def AecServer.stdout (args : List String) (modules : Modules) : Option (List UInt8) :=
  match (server.run args modules).1 with
  | .ok result => if result.success then some result.stdout else none
  | .error _ => none

/-- The module of an index, if it is listed as it was loaded. -/
def AecServer.listed (graph : PulseAecGraph) (modules : Modules) (moduleId : Nat) : Option PactlModule :=
  ((server.stdout listModules modules).bind parseModules).bind
    fun listed => (listed.lookup moduleId).filter graph.moduleMatches

/-- The one endpoint of a name, if it is listed as the module's. -/
def AecServer.exact (graph : PulseAecGraph) (modules : Modules) (kind name : String) (moduleId : Nat) :
    Option PactlEndpoint :=
  ((server.stdout (endpointArgs kind) modules).bind server.endpoints).bind
    fun endpoints => graph.exactEndpoint endpoints name moduleId

/-- The three inspections of a module find it as it was loaded. -/
structure Confirmed (graph : PulseAecGraph) (modules : Modules) (moduleId : Nat) : Prop where
  module : (server.listed graph modules moduleId).isSome
  source : (server.exact graph modules "sources" aecSource moduleId).isSome
  sink : (server.exact graph modules "sinks" aecSink moduleId).isSome

/-- The load prints an index, and the inspections confirm the module of that index. -/
def Confirms (graph : PulseAecGraph) (modules : Modules) : Prop :=
  ∃ moduleId, (server.stdout graph.loadArgs modules).bind printedId = some moduleId
    ∧ Confirmed server graph (server.run graph.loadArgs modules).2 moduleId

/-- No module of an echo canceller is there that was not there before. -/
def LeavesNothing (before after : Modules) : Prop :=
  ∀ id module, after.lookup id = some module → module.name = "module-echo-cancel" → id ∈ before

variable {server} {s : Station}

/-- What a call comes to that looks for something and leaves everything as it is. -/
def finds {α : Type} (s : Station) (found : Option α) : Call.Post Station AecErrorCode α where
  ok value s' := s' = s ∧ found = some value
  err _ s' := s' = s ∧ found = none
  crash _ := False

theorem finds_bind {α β : Type} {c : AecCall α} {f : α → AecCall β} {found : Option α} {next : α → Option β}
    (hc : Call.wp c (finds s found) s) (hf : ∀ a, Call.wp (f a) (finds s (next a)) s) :
    Call.wp (c >>= f) (finds s (found.bind next)) s := by
  rw [Call.wp_bind]
  refine Call.wp_mono hc ?_ ?_ (fun _ h => h)
  · rintro a s' ⟨rfl, hfound⟩
    rw [hfound]
    exact hf a
  · rintro _ s' ⟨rfl, hfound⟩
    exact ⟨rfl, by rw [hfound]; rfl⟩

theorem expect_finds {α : Type} (found : Option α) : Call.wp (expect found) (finds s found) s := by
  cases found <;> exact ⟨rfl, rfl⟩

/-- A command that only looks is told by what it prints. -/
theorem runPactl_looks {args : List String} (hlooks : args.head? ≠ some "load-module") (code : AecErrorCode) :
    Call.wp (runPactl server args code)
      ⟨fun result s' => s' = s ∧ server.stdout args s.modules = some result.stdout,
        fun _ s' => s' = s ∧ server.stdout args s.modules = none, fun _ => False⟩ s := by
  have hsame : ({ s with modules := (server.run args s.modules).2 } : Station) = s := by
    rw [server.looks args s.modules hlooks]
  unfold Call.wp runPactl AecServer.stdout
  dsimp only
  rw [hsame]
  rcases (server.run args s.modules).1 with error | result
  · cases error <;> exact ⟨rfl, rfl⟩
  · dsimp only
    split
    · exact ⟨rfl, rfl⟩
    · exact ⟨rfl, rfl⟩

/-- What is made of the output of such a command. -/
theorem read_finds {α : Type} {args : List String} (hlooks : args.head? ≠ some "load-module")
    (code : AecErrorCode) {read : List UInt8 → Option α} {f : CommandResult → AecCall α}
    (hf : ∀ result, Call.wp (f result) (finds s (read result.stdout)) s) :
    Call.wp (runPactl server args code >>= f) (finds s ((server.stdout args s.modules).bind read)) s := by
  rw [Call.wp_bind]
  refine Call.wp_mono (runPactl_looks hlooks code) ?_ ?_ (fun _ h => h)
  · rintro result s' ⟨rfl, hout⟩
    rw [hout]
    exact hf result
  · rintro _ s' ⟨rfl, hout⟩
    exact ⟨rfl, by rw [hout]; rfl⟩

theorem inspectModule_finds (moduleId : Nat) :
    Call.wp (inspectModule server moduleId) (finds s (server.listed s.graph s.modules moduleId)) s := by
  rw [inspectModule, Call.wp_bind, Call.wp_get]
  refine finds_bind (read_finds (by decide) .inspectionFailed fun result => ?_) fun listed => expect_finds _
  cases parseModules result.stdout <;> exact ⟨rfl, rfl⟩

theorem inspectExact_finds (kind name : String) (moduleId : Nat) :
    Call.wp (inspectExact server kind name moduleId)
      (finds s (server.exact s.graph s.modules kind name moduleId)) s := by
  rw [inspectExact, Call.wp_bind, Call.wp_get]
  refine finds_bind (read_finds (by simp [endpointArgs]) .inspectionFailed fun result => ?_)
    fun endpoints => expect_finds _
  cases server.endpoints result.stdout <;> exact ⟨rfl, rfl⟩

/-- The graph is there exactly if the three inspections confirm it. -/
theorem inspectOwned_wp {moduleId : Nat} (howned : s.graph.owned = some moduleId) :
    Call.wp (inspectOwned server)
      ⟨fun _ s' => s' = s ∧ Confirmed server s.graph s.modules moduleId,
        fun _ s' => s' = s ∧ ¬ Confirmed server s.graph s.modules moduleId, fun _ => False⟩ s := by
  rw [inspectOwned, Call.wp_bind, Call.wp_get]
  dsimp only
  rw [howned]
  dsimp only
  rw [Call.wp_bind]
  refine Call.wp_mono (inspectModule_finds moduleId) ?_ ?_ (fun _ h => h)
  · rintro module s' ⟨rfl, hmodule⟩
    dsimp only
    rw [Call.wp_bind]
    refine Call.wp_mono (inspectExact_finds "sources" aecSource moduleId) ?_ ?_ (fun _ h => h)
    · rintro source s' ⟨rfl, hsource⟩
      dsimp only
      rw [Call.wp_bind]
      refine Call.wp_mono (inspectExact_finds "sinks" aecSink moduleId) ?_ ?_ (fun _ h => h)
      · rintro sink s' ⟨rfl, hsink⟩
        exact ⟨rfl, by rw [hmodule]; rfl, by rw [hsource]; rfl, by rw [hsink]; rfl⟩
      · rintro _ s' ⟨rfl, hsink⟩
        refine ⟨rfl, fun h => ?_⟩
        have hsome := h.sink
        rw [hsink] at hsome
        cases hsome
    · rintro _ s' ⟨rfl, hsource⟩
      refine ⟨rfl, fun h => ?_⟩
      have hsome := h.source
      rw [hsource] at hsome
      cases hsome
  · rintro _ s' ⟨rfl, hmodule⟩
    refine ⟨rfl, fun h => ?_⟩
    have hsome := h.module
    rw [hmodule] at hsome
    cases hsome

/-- The inspections do not read what the graph owns. -/
theorem confirmed_owned {graph : PulseAecGraph} {modules : Modules} {moduleId : Nat} (owned : Option Nat) :
    Confirmed server { graph with owned := owned } modules moduleId ↔ Confirmed server graph modules moduleId := by
  constructor
  · rintro ⟨hmodule, hsource, hsink⟩
    exact ⟨hmodule, hsource, hsink⟩
  · rintro ⟨hmodule, hsource, hsink⟩
    exact ⟨hmodule, hsource, hsink⟩

/-- A graph that owns nothing yet: what the load did stays done, whatever the inspections find. -/
theorem loadOwned_wp (hfree : s.graph.owned = none) :
    Call.wp (loadOwned server)
      ⟨fun _ s' => s'.modules = (server.run s.graph.loadArgs s.modules).2 ∧ Confirms server s.graph s.modules,
        fun _ s' => s'.modules = (server.run s.graph.loadArgs s.modules).2
          ∧ ¬ Confirms server s.graph s.modules, fun _ => False⟩ s := by
  rw [loadOwned, Call.wp_bind, Call.wp_get]
  dsimp only
  rw [hfree, if_neg (by simp), Call.wp_bind]
  have hstdout : Call.wp (runPactl server s.graph.loadArgs .moduleLoadFailed)
      ⟨fun result s' => s' = { s with modules := (server.run s.graph.loadArgs s.modules).2 }
          ∧ server.stdout s.graph.loadArgs s.modules = some result.stdout,
        fun _ s' => s' = { s with modules := (server.run s.graph.loadArgs s.modules).2 }
          ∧ server.stdout s.graph.loadArgs s.modules = none, fun _ => False⟩ s := by
    unfold Call.wp runPactl AecServer.stdout
    dsimp only
    rcases (server.run s.graph.loadArgs s.modules).1 with error | result
    · cases error <;> exact ⟨rfl, rfl⟩
    · dsimp only
      split
      · exact ⟨rfl, rfl⟩
      · exact ⟨rfl, rfl⟩
  refine Call.wp_mono hstdout ?_ ?_ (fun _ h => h)
  · rintro result s' ⟨rfl, hout⟩
    dsimp only
    cases hprinted : printedId result.stdout with
    | none =>
      refine ⟨rfl, ?_⟩
      rintro ⟨moduleId, hid, -⟩
      rw [hout, Option.bind_some, hprinted] at hid
      cases hid
    | some moduleId =>
      have hid : (server.stdout s.graph.loadArgs s.modules).bind printedId = some moduleId := by
        rw [hout, Option.bind_some, hprinted]
      dsimp only
      rw [Call.wp_bind, Call.wp_modify]
      refine Call.wp_mono (inspectOwned_wp rfl) ?_ ?_ (fun _ h => h)
      · rintro _ s' ⟨rfl, hconfirmed⟩
        exact ⟨rfl, moduleId, hid, (confirmed_owned _).mp hconfirmed⟩
      · rintro _ s' ⟨rfl, hconfirmed⟩
        refine ⟨rfl, ?_⟩
        rintro ⟨other, hother, hconfirmed'⟩
        obtain rfl := Option.some.inj (hid.symm.trans hother)
        exact hconfirmed ((confirmed_owned _).mpr hconfirmed')
  · rintro _ s' ⟨rfl, hout⟩
    refine ⟨rfl, ?_⟩
    rintro ⟨moduleId, hid, -⟩
    rw [hout] at hid
    cases hid

/-- A load leaves nothing exactly if it loaded nothing. -/
theorem leavesNothing_load_iff (server : AecServer) (graph : PulseAecGraph) (modules : Modules) :
    LeavesNothing modules (server.run graph.loadArgs modules).2 ↔ (server.run graph.loadArgs modules).2 = modules := by
  constructor
  · intro hnothing
    rcases server.loads graph.loadArgs modules rfl with hsame | ⟨id, hid, hloaded⟩
    · exact hsame
    · refine absurd (hnothing id (loadedModule graph.loadArgs) ?_ rfl) hid
      rw [hloaded]
      exact AList.lookup_insert _
  · intro hsame id module hlookup _
    rw [hsame] at hlookup
    exact Table.mem_iff_isSome.mpr (by rw [hlookup]; rfl)

theorem configured_free {enable disable : Bool} {probed : Option ProbedDevices} {uuid : String}
    {graph : PulseAecGraph} (h : configureHeadphoneAec enable disable probed uuid = some graph) :
    graph.owned = none := by
  unfold configureHeadphoneAec at h
  split at h
  · cases h
  split at h
  · cases h
  split at h
  · cases h
  split at h
  · cases h
  split at h
  · unfold PulseAecGraph.new at h
    split at h
    · cases h
    · cases h
      rfl
  · cases h

/-- Nothing is left behind exactly if the load that was tried, if any, loaded nothing or was confirmed. -/
theorem initializeHeadphoneAec_leavesNothing_iff (server : AecServer) (enable disable : Bool)
    (probed : Option ProbedDevices) (uuid : String) (modules : Modules) :
    ((initializeHeadphoneAec server enable disable probed uuid modules).1.2 = none →
      LeavesNothing modules (initializeHeadphoneAec server enable disable probed uuid modules).2)
    ↔ ∀ graph, configureHeadphoneAec enable disable probed uuid = some graph →
      (server.run graph.loadArgs modules).2 = modules ∨ Confirms server graph modules := by
  unfold initializeHeadphoneAec
  cases hconfigured : configureHeadphoneAec enable disable probed uuid with
  | none =>
    constructor
    · intro _ graph hgraph
      cases hgraph
    · intro _ _ id module hlookup _
      exact Table.mem_iff_isSome.mpr (by rw [hlookup]; rfl)
  | some graph =>
    have hload := @loadOwned_wp server ⟨graph, modules⟩ (configured_free hconfigured)
    have hgraphs : (∀ other, some graph = some other → (server.run other.loadArgs modules).2 = modules
        ∨ Confirms server other modules) ↔ ((server.run graph.loadArgs modules).2 = modules
        ∨ Confirms server graph modules) := by
      constructor
      · intro h
        exact h graph rfl
      · rintro h other ⟨⟩
        exact h
    rw [hgraphs, ← leavesNothing_load_iff]
    dsimp only
    unfold Call.wp at hload
    revert hload
    rcases loadOwned server ⟨graph, modules⟩ with ⟨state | code | _, s'⟩
    · rintro ⟨-, hconfirms⟩
      constructor
      · intro _
        exact .inr hconfirms
      · intro _ hnone
        cases hnone
    · rintro ⟨hmodules, hconfirms⟩
      dsimp only
      rw [hmodules]
      constructor
      · intro h
        exact .inl (h rfl)
      · intro h _
        exact h.resolve_right hconfirms
    · intro hcrash
      cases hcrash

end Leaving

/-! ### A run -/

def asciiBytes (text : String) : List UInt8 := text.toList.map (fun c => c.toNat.toUInt8)

/-- A server that loads the module under the index 73, and then answers no inspection. -/
def deafRun (args : List String) (modules : Modules) : Except CommandRunError CommandResult × Modules :=
  if args.head? = some "load-module" then
    if 73 ∈ modules then (.error .spawnFailed, modules)
    else (.ok ⟨true, asciiBytes "73\n"⟩, modules.insert 73 (loadedModule args))
  else (.error .timedOut, modules)

theorem deafRun_looks (args : List String) (modules : Modules) (h : args.head? ≠ some "load-module") :
    (deafRun args modules).2 = modules := by
  unfold deafRun
  rw [if_neg h]

theorem deafRun_loads (args : List String) (modules : Modules) (h : args.head? = some "load-module") :
    (deafRun args modules).2 = modules
      ∨ ∃ id ∉ modules, (deafRun args modules).2 = modules.insert id (loadedModule args) := by
  unfold deafRun
  rw [if_pos h]
  by_cases hid : 73 ∈ modules
  · rw [if_pos hid]
    exact .inl rfl
  · rw [if_neg hid]
    exact .inr ⟨73, hid, rfl⟩

def deafServer : AecServer := ⟨deafRun, fun _ => none, deafRun_looks, deafRun_loads⟩

def headset : ProbedDevices := ⟨.headphones, some "mic", some "phones"⟩

/-- The module is loaded, the daemon has no graph for it, and it stays. -/
theorem deafServer_leaks :
    ¬ ((initializeHeadphoneAec deafServer true false (some headset) "u" ∅).1.2 = none →
      LeavesNothing ∅ (initializeHeadphoneAec deafServer true false (some headset) "u" ∅).2) := by
  intro h
  have hname : ((initializeHeadphoneAec deafServer true false (some headset) "u" ∅).2.lookup 73).map
      PactlModule.name = some "module-echo-cancel" := by
    decide +kernel
  obtain ⟨module, hlookup, hname⟩ := Option.map_eq_some_iff.mp hname
  exact absurd (h (by decide +kernel) 73 module hlookup hname) (AList.notMem_empty _)

end Translator.Aec
