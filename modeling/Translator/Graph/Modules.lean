import Translator.Routing.Names
import Translator.Schemes.KeyedMap
import Mathlib.Data.List.Infix

/-! The modules `pulse.rs` loads for its three endpoints, how it knows them again in a listing, and the
    journal that names them. A module carries its owner and its generation among its arguments. -/

namespace Translator.Graph

open Schemes
open Routing (isWhitespace parseUnsigned)

/-! ### Rust's string functions -/

/-- `std::str::from_utf8`. -/
def fromUtf8 (bytes : List UInt8) : Option String := String.fromUTF8? ⟨bytes.toArray⟩

/-- A line that ended in a newline, without the carriage return before it. -/
def stripReturn (line : List Char) : List Char :=
  if line.getLast? = some '\r' then line.dropLast else line

/-- `str::lines`. What follows the last newline is a line unless it is empty. -/
def lines (text : String) : List String :=
  let parts := text.toList.splitOn '\n'
  let last := (parts.getLast?.toList).filter (fun part => !part.isEmpty)
  (parts.dropLast.map stripReturn ++ last).map String.ofList

/-- `str::split_whitespace`. -/
def splitWhitespace (text : String) : List String :=
  ((text.toList.splitOnP isWhitespace).filter (fun word => !word.isEmpty)).map String.ofList

/-- `str::split_once('=')`. -/
def splitOnce (text : String) : Option (String × String) :=
  match text.toList.span (· ≠ '=') with
  | (_, []) => none
  | (key, _ :: value) => some (String.ofList key, String.ofList value)

/-- A `HashMap` collected from pairs: the last value of a key stays. -/
def collect {K V : Type} [DecidableEq K] (pairs : List (K × V)) : Table K V :=
  pairs.foldl (fun table pair => table.insert pair.1 pair.2) ∅

/-! ### Endpoints -/

inductive EndpointKind where | sink | source
  deriving DecidableEq, Repr

inductive EndpointRole where | micOutSink | virtualMicSource | remoteInSink
  deriving DecidableEq, Repr

namespace EndpointRole

def order : List EndpointRole := [.micOutSink, .virtualMicSource, .remoteInSink]

def name : EndpointRole → String
  | .micOutSink => "translator_mic_out"
  | .virtualMicSource => "translator_virtual_mic"
  | .remoteInSink => "translator_remote_in"

def kind : EndpointRole → EndpointKind
  | .micOutSink | .remoteInSink => .sink
  | .virtualMicSource => .source

theorem mem_order (role : EndpointRole) : role ∈ order := by cases role <;> decide

end EndpointRole

/-- `role_index`. -/
def roleIndex (role : EndpointRole) : Nat := EndpointRole.order.idxOf role

/-! ### Modules -/

/-- A module, as a listing shows it. -/
structure PactlModule where
  name : String
  argument : String
  deriving DecidableEq, Repr

/-- The listed modules by their index. -/
abbrev Modules := Table Nat PactlModule

/-- `load_args`. -/
def loadArgs (role : EndpointRole) (generation : String) : List String :=
  match role with
  | .micOutSink =>
    ["load-module", "module-null-sink", "sink_name=translator_mic_out", "rate=48000", "channels=1",
      "channel_map=mono",
      "sink_properties=device.description=Translator_Mic_Out translator.owner=true translator.generation="
        ++ generation]
  | .virtualMicSource =>
    ["load-module", "module-remap-source", "master=translator_mic_out.monitor",
      "source_name=translator_virtual_mic", "channels=1", "channel_map=mono", "remix=no",
      "source_properties=device.description=Translator_Virtual_Mic translator.owner=true translator.generation="
        ++ generation]
  | .remoteInSink =>
    ["load-module", "module-null-sink", "sink_name=translator_remote_in", "rate=48000", "channels=2",
      "channel_map=front-left,front-right",
      "sink_properties=device.description=Translator_Remote_In translator.owner=true translator.generation="
        ++ generation]

/-- The module a role expects, and the arguments it requires. -/
def expectedModule (role : EndpointRole) : String × List (String × String) :=
  match role with
  | .micOutSink =>
    ("module-null-sink",
      [("sink_name", "translator_mic_out"), ("rate", "48000"), ("channels", "1"),
        ("channel_map", "mono"), ("sink_properties", "device.description=Translator_Mic_Out")])
  | .virtualMicSource =>
    ("module-remap-source",
      [("master", "translator_mic_out.monitor"), ("source_name", "translator_virtual_mic"),
        ("channels", "1"), ("channel_map", "mono"), ("remix", "no"),
        ("source_properties", "device.description=Translator_Virtual_Mic")])
  | .remoteInSink =>
    ("module-null-sink",
      [("sink_name", "translator_remote_in"), ("rate", "48000"), ("channels", "2"),
        ("channel_map", "front-left,front-right"),
        ("sink_properties", "device.description=Translator_Remote_In")])

/-- The `key=value` words of a module's argument. -/
def PactlModule.arguments (module : PactlModule) : Table String String :=
  collect ((splitWhitespace module.argument).filterMap splitOnce)

/-- `module_matches`. -/
def moduleMatches (role : EndpointRole) (module : PactlModule) (generation : String) : Bool :=
  let (expectedName, requiredArguments) := expectedModule role
  let arguments := module.arguments
  module.name = expectedName
  && requiredArguments.all (fun (key, value) => arguments.lookup key = some value)
  && arguments.lookup "translator.owner" = some "true"
  && arguments.lookup "translator.generation" = some generation

/-- `module_claimed_role`. -/
def moduleClaimedRole (module : PactlModule) (generation : String) : Option EndpointRole :=
  let arguments := module.arguments
  if arguments.lookup "translator.owner" ≠ some "true"
      || arguments.lookup "translator.generation" ≠ some generation then none
  else match arguments.lookup "sink_name", arguments.lookup "source_name" with
  | some "translator_mic_out", none => some .micOutSink
  | some "translator_remote_in", none => some .remoteInSink
  | none, some "translator_virtual_mic" => some .virtualMicSource
  | _, _ => none

/-- One line of `pactl list short modules`: index, name and argument, with tabs between. -/
def parseModule (line : String) : Option (Nat × PactlModule) :=
  match (line.toList.splitOn '\t').map String.ofList with
  | id :: name :: rest =>
    (parseUnsigned (2 ^ 32 - 1) id).map (fun id => (id, ⟨name, rest.headD ""⟩))
  | _ => none

/-- What `inspect_modules` makes of the listing. Lines that are not a module are passed over. -/
def parseModules (stdout : List UInt8) : Option Modules :=
  (fromUtf8 stdout).map (fun text => collect ((lines text).filterMap parseModule))

/-! ### The journal -/

structure OwnedModule where
  role : EndpointRole
  moduleId : Nat
  deriving DecidableEq, Repr

structure OwnershipJournal where
  schemaVersion : Nat
  generation : String
  modules : List OwnedModule
  deriving DecidableEq, Repr

def journalSchemaVersion : Nat := 1

/-- `valid_generation`. -/
def validGeneration (value : String) : Bool :=
  !value.isEmpty && value.utf8ByteSize ≤ 64 && value.toList.all (fun c => c.isAlphanum || c = '-')

/-- The loop of `validate`: roles in order and once each, and no index twice. -/
def validModules (previousRoleIndex : Option Nat) (existing : List OwnedModule) :
    List OwnedModule → Bool
  | [] => true
  | module :: rest =>
    let index := roleIndex module.role
    !previousRoleIndex.any (fun previous => index ≤ previous)
      && !existing.any (fun other => other.moduleId = module.moduleId)
      && validModules (some index) (existing ++ [module]) rest

namespace OwnershipJournal

def empty (generation : String) : OwnershipJournal := ⟨journalSchemaVersion, generation, []⟩

def moduleFor (journal : OwnershipJournal) (role : EndpointRole) : Option Nat :=
  (journal.modules.find? (fun module => module.role = role)).map OwnedModule.moduleId

def moduleIds (journal : OwnershipJournal) : List Nat := journal.modules.map OwnedModule.moduleId

/-- `validate`. Its one error is `OwnershipJournalInvalid`. -/
def validate (journal : OwnershipJournal) : Bool :=
  journal.schemaVersion = journalSchemaVersion && validGeneration journal.generation
    && journal.modules.length ≤ 3 && validModules none [] journal.modules

end OwnershipJournal

end Translator.Graph
