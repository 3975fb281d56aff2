import Translator.Routing.Names
import Translator.Schemes.Call

/-! What the routing watcher acts on: the sound server with its streams, devices and links, and the
    file of the route journal. Everything the watcher does to them is an `Effect`; the host answers
    each one, carried out or refused, and may let the process die instead. A `Ledger` beside them
    notes what the watcher itself has moved and where it came from. -/

namespace Translator.Routing

open Schemes

/-! ### Errors -/

inductive RoutingErrorCode where
  | discoveryFailed | invalidManualOverride | moveFailed | restoreFailed
  deriving DecidableEq, Repr

/-- `RoutingSafeError`, the whole of a `RoutingError`. -/
structure RoutingError where
  code : RoutingErrorCode
  safeMessage : String
  retryable : Bool
  deriving DecidableEq, Repr

def RoutingError.new (code : RoutingErrorCode) : RoutingError :=
  let (safeMessage, retryable) := match code with
    | .discoveryFailed => ("Audio route discovery failed", true)
    | .invalidManualOverride => ("Selected audio route is unavailable", false)
    | .moveFailed => ("Selected audio route could not be activated", true)
    | .restoreFailed => ("Previous audio route could not be restored", true)
  ⟨code, safeMessage, retryable⟩

/-! ### The sound server -/

structure RawSinkInput where
  index : Nat
  sink : Nat
  properties : Properties
  deriving DecidableEq, Repr

structure RawSourceOutput where
  index : Nat
  source : Nat
  properties : Properties
  deriving DecidableEq, Repr

structure ProcessIdentity where
  pid : Nat
  startTimeTicks : Nat
  executableDevice : Nat
  executableInode : Nat
  deriving DecidableEq, Repr

/-- The server's objects and the live processes. An index names one object of its kind, and the name
    of a sink has no blanks around it. -/
structure Server where
  sinkInputs : List RawSinkInput
  sourceOutputs : List RawSourceOutput
  sources : List RawNode
  sinks : List RawNode
  links : List (String × String)
  processes : List ProcessIdentity
  sinkInputs_nodup : (sinkInputs.map RawSinkInput.index).Nodup
  sourceOutputs_nodup : (sourceOutputs.map RawSourceOutput.index).Nodup
  sources_nodup : (sources.map RawNode.index).Nodup
  sinks_nodup : (sinks.map RawNode.index).Nodup
  sinks_trimmed : ∀ node ∈ sinks, trim node.name = node.name

/-- The name of the device with this index. -/
def nodeName (nodes : List RawNode) (index : Nat) : Option String :=
  (nodes.find? (fun node => node.index == index)).map RawNode.name

/-- The device of this name, as the commands look it up. -/
def nodeNamed (nodes : List RawNode) (name : String) : Option RawNode :=
  nodes.find? (fun node => node.name == name)

namespace Server

def sinkInput (server : Server) (index : Nat) : Option RawSinkInput :=
  server.sinkInputs.find? (fun stream => stream.index == index)

def sourceOutput (server : Server) (index : Nat) : Option RawSourceOutput :=
  server.sourceOutputs.find? (fun stream => stream.index == index)

/-- The sink a stream plays to. -/
def sinkOf (server : Server) (index : Nat) : Option String :=
  (server.sinkInput index).bind (fun stream => nodeName server.sinks stream.sink)

/-- The source a stream records from. -/
def sourceOf (server : Server) (index : Nat) : Option String :=
  (server.sourceOutput index).bind (fun stream => nodeName server.sources stream.source)

/-- `pactl move-sink-input`: there has to be such a stream and such a sink. -/
def moveSinkInput (server : Server) (index : Nat) (sink : String) : Option Server :=
  match server.sinkInput index, nodeNamed server.sinks sink with
  | some _, some node =>
    some { server with
      sinkInputs := server.sinkInputs.map (fun stream =>
        if stream.index = index then { stream with sink := node.index } else stream)
      sinkInputs_nodup := by
        have hsame : RawSinkInput.index ∘ (fun stream : RawSinkInput =>
            if stream.index = index then { stream with sink := node.index } else stream)
              = RawSinkInput.index := by
          funext stream
          simp only [Function.comp]
          split <;> rfl
        rw [List.map_map, hsame]
        exact server.sinkInputs_nodup }
  | _, _ => none

/-- `pactl move-source-output`. -/
def moveSourceOutput (server : Server) (index : Nat) (source : String) : Option Server :=
  match server.sourceOutput index, nodeNamed server.sources source with
  | some _, some node =>
    some { server with
      sourceOutputs := server.sourceOutputs.map (fun stream =>
        if stream.index = index then { stream with source := node.index } else stream)
      sourceOutputs_nodup := by
        have hsame : RawSourceOutput.index ∘ (fun stream : RawSourceOutput =>
            if stream.index = index then { stream with source := node.index } else stream)
              = RawSourceOutput.index := by
          funext stream
          simp only [Function.comp]
          split <;> rfl
        rw [List.map_map, hsame]
        exact server.sourceOutputs_nodup }
  | _, _ => none

/-- `pw-link`. -/
def link (server : Server) (output input : String) : Server :=
  { server with links := (output, input) :: server.links }

/-- `pw-link -d`. -/
def unlink (server : Server) (output input : String) : Server :=
  { server with links := server.links.filter (· ≠ (output, input)) }

/-- `ProcessIdentity::inspect`. -/
def inspectProcess (server : Server) (pid : Nat) : Option ProcessIdentity :=
  server.processes.find? (fun process => process.pid == pid)

end Server

/-! ### What the watcher did -/

/-- What the watcher did to the sink-inputs: every one it ever moved, for those it ever routed the
    sink they were first taken from, and those that are on its sink because it put them there. -/
structure SinkLedger where
  moved : List Nat
  homes : List (Nat × String)
  held : List Nat
  deriving DecidableEq, Repr

/-- What the watcher moved, with the source-outputs that are on its microphone because of it. -/
structure Ledger where
  sinkInputs : SinkLedger
  heldOutputs : List Nat
  deriving DecidableEq, Repr

/-- A sink-input was moved from one sink to another. -/
def SinkLedger.move (ledger : SinkLedger) (index : Nat) (source target : String) : SinkLedger where
  moved := index :: ledger.moved
  homes := if target = remoteInSink ∧ ledger.homes.lookup index = none then
    (index, source) :: ledger.homes else ledger.homes
  held := if target = remoteInSink then index :: ledger.held else ledger.held.filter (· ≠ index)

namespace Ledger

def empty : Ledger := ⟨⟨[], [], []⟩, []⟩

def movedSinkInput (ledger : Ledger) (index : Nat) (source target : String) : Ledger :=
  { ledger with sinkInputs := ledger.sinkInputs.move index source target }

/-- A source-output was moved. -/
def movedSourceOutput (ledger : Ledger) (index : Nat) (target : String) : Ledger :=
  { ledger with heldOutputs := if target = virtualMicSource then index :: ledger.heldOutputs
      else ledger.heldOutputs.filter (· ≠ index) }

/-- The streams came and went without the watcher. Only a stream that lives on has a past, and only
    one that still is on the virtual endpoint is held there. -/
def carriedOn (ledger : Ledger) (server : Server) (fresh freshOutputs : List Nat) : Ledger where
  sinkInputs :=
    { moved := ledger.sinkInputs.moved.filter (fun index =>
        index ∉ fresh ∧ (server.sinkInput index).isSome)
      homes := ledger.sinkInputs.homes.filter (fun home =>
        home.1 ∉ fresh ∧ (server.sinkInput home.1).isSome)
      held := ledger.sinkInputs.held.filter (fun index =>
        index ∉ fresh ∧ server.sinkOf index = some remoteInSink) }
  heldOutputs := ledger.heldOutputs.filter (fun index =>
    index ∉ freshOutputs ∧ server.sourceOf index = some virtualMicSource)

end Ledger

/-! ### Effects -/

inductive Listing where | sinkInputs | sourceOutputs | sources | sinks
  deriving DecidableEq, Repr

/-- A command or a journal write. -/
inductive Effect where
  | list (what : Listing)
  | moveSinkInput (index : Nat) (sink : String)
  | moveSourceOutput (index : Nat) (source : String)
  | link (output input : String)
  | unlink (output input : String)
  | saveJournal (bytes : List UInt8)
  | removeJournal
  deriving DecidableEq, Repr

/-- What becomes of an effect. One that is tried is done unless `pw-link` has nothing to do in it, and
    fails. A journal write can also fail after the new file is in place, when the directory cannot be
    synced. -/
inductive Answer where | done | tried | refused | unconfirmed | crash
  deriving DecidableEq, Repr

/-- A link to make that is there, or one to cut that is missing. -/
def Effect.idle (server : Server) : Effect → Bool
  | .link output input => (output, input) ∈ server.links
  | .unlink output input => (output, input) ∉ server.links
  | _ => false

/-- A file, as `symlink_metadata` and `read` show it. -/
structure JournalFile where
  isFile : Bool
  isSymlink : Bool
  nlink : Nat
  bytes : List UInt8
  deriving DecidableEq, Repr

/-- The file `save_active_route` puts in place. -/
def JournalFile.saved (bytes : List UInt8) : JournalFile := ⟨true, false, 1, bytes⟩

/-- Answers to the effects of one call, by their number in the call. -/
abbrev Answers := Nat → Effect → Answer

/-- Everything is carried out. -/
def allDone : Answers := fun _ _ => .done

end Translator.Routing
