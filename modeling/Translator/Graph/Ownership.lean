import Translator.Graph.Modules
import Translator.Routing.Server
import Translator.Schemes.Call
import Mathlib.Data.List.Sort

/-! `PulseAudioGraph`: it makes the three endpoints, names their modules in its journal, and takes them
    away again. Modules outlive the process, so every call starts from what the journal and a listing
    say, and a command that fails may have had its effect all the same. -/

namespace Translator.Graph

open Schemes
open Routing (Answer JournalFile parseUnsigned trim)

/-! ### Errors -/

inductive AudioGraphErrorCode where
  | pactlMissing | graphInspectionFailed | moduleLoadFailed | duplicateEndpoint
  | ownershipJournalInvalid | ownershipJournalIo | cleanupFailed | rollbackFailed
  | endpointVerificationFailed
  deriving DecidableEq, Repr

structure AudioGraphError where
  code : AudioGraphErrorCode
  safeMessage : String
  retryable : Bool
  deriving DecidableEq, Repr

def AudioGraphError.new (code : AudioGraphErrorCode) : AudioGraphError :=
  match code with
  | .pactlMissing => ⟨code, "Audio control command is unavailable", false⟩
  | .graphInspectionFailed => ⟨code, "Audio graph inspection failed", true⟩
  | .moduleLoadFailed => ⟨code, "Virtual audio endpoint creation failed", true⟩
  | .duplicateEndpoint => ⟨code, "Conflicting virtual audio endpoint exists", false⟩
  | .ownershipJournalInvalid => ⟨code, "Audio ownership journal is invalid", false⟩
  | .ownershipJournalIo => ⟨code, "Audio ownership journal is unavailable", true⟩
  | .cleanupFailed => ⟨code, "Virtual audio endpoint cleanup failed", true⟩
  | .rollbackFailed => ⟨code, "Virtual audio endpoint rollback failed", true⟩
  | .endpointVerificationFailed => ⟨code, "Virtual audio endpoint verification failed", true⟩

/-! ### What the graph looks like -/

structure PactlEndpoint where
  index : Nat
  name : String
  ownerModule : Nat
  deriving DecidableEq, Repr

structure RawGraph where
  sinks : List PactlEndpoint
  sources : List PactlEndpoint
  deriving DecidableEq, Repr

namespace RawGraph

def endpointsFor (raw : RawGraph) (role : EndpointRole) : List PactlEndpoint :=
  let endpoints := match role.kind with
    | .sink => raw.sinks
    | .source => raw.sources
  endpoints.filter (fun endpoint => endpoint.name = role.name)

def hasAnyRequiredEndpoint (raw : RawGraph) : Bool :=
  EndpointRole.order.any (fun role => !(raw.endpointsFor role).isEmpty)

def hasDuplicateRequiredEndpoint (raw : RawGraph) : Bool :=
  EndpointRole.order.any (fun role => 1 < (raw.endpointsFor role).length)

end RawGraph

inductive GraphHealth where | ready | degraded | error
  deriving DecidableEq, Repr

structure AudioEndpointState where
  role : EndpointRole
  kind : EndpointKind
  name : String
  endpointId : Option Nat
  ownerModuleId : Option Nat
  available : Bool
  daemonOwned : Bool
  deriving DecidableEq, Repr

structure AudioGraphState where
  health : GraphHealth
  endpoints : List AudioEndpointState
  ownedModuleIds : List Nat
  safeError : Option AudioGraphError
  deriving DecidableEq, Repr

def stateFrom (raw : RawGraph) (journal : Option OwnershipJournal) : AudioGraphState :=
  let endpoints := EndpointRole.order.map fun role =>
    let discovered := raw.endpointsFor role
    let endpoint := discovered.head?
    let journalModule := journal.bind (·.moduleFor role)
    { role := role
      kind := role.kind
      name := role.name
      endpointId := endpoint.map PactlEndpoint.index
      ownerModuleId := endpoint.map PactlEndpoint.ownerModule
      available := discovered.length = 1
      daemonOwned := match endpoint, journalModule with
        | some endpoint, some moduleId => endpoint.ownerModule = moduleId
        | _, _ => false }
  { health := if endpoints.all (fun endpoint => endpoint.available && endpoint.daemonOwned) then
      .ready else .degraded
    endpoints := endpoints
    ownedModuleIds := (journal.map OwnershipJournal.moduleIds).getD []
    safeError := none }

def journalMatchesGraph (raw : RawGraph) (journal : OwnershipJournal) : Bool :=
  journal.modules.length = EndpointRole.order.length
  && EndpointRole.order.all (fun role =>
    match raw.endpointsFor role with
    | [endpoint] => journal.moduleFor role = some endpoint.ownerModule
    | _ => false)

/-! ### The process and what it acts on -/

structure CommandResult where
  success : Bool
  stdout : List UInt8
  deriving DecidableEq, Repr

inductive CommandRunError where | notFound | spawnFailed | timedOut
  deriving DecidableEq, Repr

/-- What a command comes to: nothing where the process dies with it, be it with its effect or without. -/
abbrev RunResult := Option (Except CommandRunError CommandResult)

/-- A command that was issued, what it came to, and the journal there was then. -/
structure Issued where
  args : List String
  result : RunResult
  journal : Option JournalFile

/-- The modules of the server, the journal, and the commands issued, with the number of effects the
    call has had so far. -/
structure Station where
  modules : Modules
  journal : Option JournalFile
  issued : List Issued
  tick : Nat

/-- The JSON forms: of the journal, both ways, and of a list of endpoints. -/
structure GraphCodec where
  toVec : OwnershipJournal → List UInt8
  fromSlice : List UInt8 → Option OwnershipJournal
  fromSlice_toVec : ∀ journal, fromSlice (toVec journal) = some journal
  endpoints : List UInt8 → Option (List PactlEndpoint)

/-- What becomes of each effect of a call, by its number: a `pactl` command and the modules after it,
    an opening of the lock or the journal, and a change of the journal. -/
structure Answers where
  run : Nat → List String → Modules → RunResult × Modules
  opens : Nat → Option (Except AudioGraphErrorCode Unit)
  writes : Nat → Answer

structure Host extends Answers where
  codec : GraphCodec

abbrev GraphCall (α : Type) : Type := Call Station AudioGraphError α

def failWith {α : Type} (code : AudioGraphErrorCode) : GraphCall α := Call.fail (AudioGraphError.new code)

/-- `load` of what is there: a regular file with a valid journal. -/
def decodeJournal (codec : GraphCodec) :
    Option JournalFile → Except AudioGraphErrorCode (Option OwnershipJournal)
  | none => .ok none
  | some file =>
    if file.isSymlink || !file.isFile then .error .ownershipJournalInvalid
    else match codec.fromSlice file.bytes with
    | none => .error .ownershipJournalInvalid
    | some journal =>
      if journal.validate then .ok (some journal) else .error .ownershipJournalInvalid

section Graph

variable (host : Host)

/-- The lock is taken, or the journal is opened and read. -/
def openFile : GraphCall Unit := fun s =>
  match host.opens s.tick with
  | none => (.panic, s)
  | some (.error code) => (.err (AudioGraphError.new code), { s with tick := s.tick + 1 })
  | some (.ok ()) => (.ok (), { s with tick := s.tick + 1 })

def loadJournal : GraphCall (Option OwnershipJournal) := do
  openFile host
  let s ← Call.get
  match decodeJournal host.codec s.journal with
  | .ok journal => pure journal
  | .error code => failWith code

/-- `save`: the file is replaced as a whole. A save can also fail after that, when the directory
    cannot be synced. -/
def saveJournal (journal : OwnershipJournal) : GraphCall Unit := fun s =>
  if !journal.validate then (.err (AudioGraphError.new .ownershipJournalInvalid), s)
  else
    let saved : Station :=
      { s with journal := some (.saved (host.codec.toVec journal)), tick := s.tick + 1 }
    match host.writes s.tick with
    | .crash => (.panic, s)
    | .refused => (.err (AudioGraphError.new .ownershipJournalIo), { s with tick := s.tick + 1 })
    | .unconfirmed => (.err (AudioGraphError.new .ownershipJournalIo), saved)
    | .done | .tried => (.ok (), saved)

/-- `remove`. -/
def removeJournal : GraphCall Unit := fun s =>
  match host.writes s.tick with
  | .crash => (.panic, s)
  | .refused | .unconfirmed =>
    (.err (AudioGraphError.new .ownershipJournalIo), { s with tick := s.tick + 1 })
  | .done | .tried => (.ok (), { s with journal := none, tick := s.tick + 1 })

/-- The command was issued, whatever it came to. -/
def Station.commanded (s : Station) (args : List String) : Station :=
  { s with
    modules := (host.run s.tick args s.modules).2
    issued := s.issued ++ [⟨args, (host.run s.tick args s.modules).1, s.journal⟩]
    tick := s.tick + 1 }

/-- `run_pactl`. -/
def runPactl (args : List String) (failureCode : AudioGraphErrorCode) : GraphCall CommandResult :=
  fun s => match (host.run s.tick args s.modules).1 with
  | none => (.panic, s.commanded host args)
  | some (.error .notFound) => (.err (AudioGraphError.new .pactlMissing), s.commanded host args)
  | some (.error _) => (.err (AudioGraphError.new failureCode), s.commanded host args)
  | some (.ok result) =>
    if result.success then (.ok result, s.commanded host args)
    else (.err (AudioGraphError.new failureCode), s.commanded host args)

/-! ### Looking -/

def inspectEndpointKind (kind : String) : GraphCall (List PactlEndpoint) := do
  let result ← runPactl host ["--format=json", "list", kind] .graphInspectionFailed
  match host.codec.endpoints result.stdout with
  | some endpoints => pure endpoints
  | none => failWith .graphInspectionFailed

def inspectRaw : GraphCall RawGraph := do
  let sinks ← inspectEndpointKind host "sinks"
  let sources ← inspectEndpointKind host "sources"
  pure ⟨sinks, sources⟩

def listModules : List String := ["list", "short", "modules"]

def inspectModules : GraphCall Modules := do
  let result ← runPactl host listModules .cleanupFailed
  match parseModules result.stdout with
  | some modules => pure modules
  | none => failWith .cleanupFailed

/-! ### Loading and unloading -/

/-- The index a load prints. -/
def printedId (stdout : List UInt8) : Option Nat :=
  (fromUtf8 stdout).bind (fun value => parseUnsigned (2 ^ 32 - 1) (trim value))

def loadEndpoint (role : EndpointRole) (generation : String) : GraphCall Nat := do
  let result ← runPactl host (loadArgs role generation) .moduleLoadFailed
  match printedId result.stdout with
  | some moduleId => pure moduleId
  | none => failWith .moduleLoadFailed

def unloadArgs (moduleId : Nat) : List String := ["unload-module", toString moduleId]

def unloadModule (moduleId : Nat) : GraphCall Unit := do
  let _ ← runPactl host (unloadArgs moduleId) .cleanupFailed
  pure ()

/-- The journal of a generation, with its modules given newest first. -/
def ownership (generation : String) (newest : List OwnedModule) : OwnershipJournal :=
  { OwnershipJournal.empty generation with modules := newest.reverse }

/-- One turn of `rollback_new_modules`: the newest module is unloaded if it is there as it was. -/
def rollbackModule (generation : String) (module : OwnedModule) (rest : List OwnedModule) :
    GraphCall Unit := do
  let modules ← Call.mapErr (fun _ => AudioGraphError.new .rollbackFailed) (inspectModules host)
  match modules.lookup module.moduleId with
  | some discovered =>
    if moduleMatches module.role discovered generation then
      match ← Call.attempt (unloadModule host module.moduleId) with
      | .ok () => pure ()
      | .error _ =>
        saveJournal host (ownership generation (module :: rest))
        failWith .rollbackFailed
    else
      saveJournal host (ownership generation (module :: rest))
      failWith .rollbackFailed
  | none => pure ()

def rollbackNewModules (generation : String) : List OwnedModule → GraphCall Unit
  | [] => saveJournal host (ownership generation [])
  | module :: rest => do
    rollbackModule host generation module rest
    saveJournal host (ownership generation rest)
    rollbackNewModules generation rest

/-- Roll back, and end with the error that made it necessary. -/
def rollBack {α : Type} (generation : String) (newest : List OwnedModule) (error : AudioGraphError) :
    GraphCall α := do
  Call.mapErr (fun _ => AudioGraphError.new .rollbackFailed) (rollbackNewModules host generation newest)
  Call.fail error

/-- The loop of `create_endpoints`. -/
def createModules (generation : String) :
    List OwnedModule → List EndpointRole → GraphCall (List OwnedModule)
  | newest, [] => pure newest
  | newest, role :: roles => do
    match ← Call.attempt (loadEndpoint host role generation) with
    | .error loadError => rollBack host generation newest loadError
    | .ok moduleId =>
      match ← Call.attempt (saveJournal host (ownership generation (⟨role, moduleId⟩ :: newest))) with
      | .error _ =>
        rollBack host generation (⟨role, moduleId⟩ :: newest) (AudioGraphError.new .ownershipJournalIo)
      | .ok () => createModules generation (⟨role, moduleId⟩ :: newest) roles

/-- `create_endpoints`, once the generation is in the journal. -/
def createJournaled (generation : String) : GraphCall AudioGraphState := do
  let newest ← createModules host generation [] EndpointRole.order
  match ← Call.attempt (inspectRaw host) with
  | .error inspectionError => rollBack host generation newest inspectionError
  | .ok raw =>
    if !journalMatchesGraph raw (ownership generation newest) then
      rollBack host generation newest (AudioGraphError.new .endpointVerificationFailed)
    else pure (stateFrom raw (some (ownership generation newest)))

def createEndpoints (nextGeneration : String) : GraphCall AudioGraphState := do
  saveJournal host (.empty nextGeneration)
  createJournaled host nextGeneration

/-! ### Reconciling -/

/-- The journal's modules that are there. One that is there as something else is an error. -/
def keepOwned (generation : String) (modules : Modules) :
    List OwnedModule → Option (List OwnedModule)
  | [] => some []
  | owned :: rest =>
    match modules.lookup owned.moduleId with
    | some module =>
      if moduleMatches owned.role module generation then
        (keepOwned generation modules rest).map (owned :: ·)
      else none
    | none => keepOwned generation modules rest

/-- A module claims a role of this generation but is not what the role expects. -/
def imitated (generation : String) (modules : Modules) : Bool :=
  modules.entries.any (fun entry =>
    (moduleClaimedRole entry.2 generation).any (fun role => !moduleMatches role entry.2 generation))

def matchingIds (generation : String) (modules : Modules) (role : EndpointRole) : List Nat :=
  (modules.entries.filter (fun entry => moduleMatches role entry.2 generation)).map Sigma.fst

/-- The module belongs to the role, unless the journal names another. -/
def claimRole (reconciled : OwnershipJournal) (role : EndpointRole) (moduleId : Nat) :
    Option OwnershipJournal :=
  match reconciled.moduleFor role with
  | some journalId => if journalId = moduleId then some reconciled else none
  | none => some { reconciled with modules := reconciled.modules ++ [⟨role, moduleId⟩] }

def adoptMatching (modules : Modules) (reconciled : OwnershipJournal) (role : EndpointRole) :
    Option OwnershipJournal :=
  match matchingIds reconciled.generation modules role with
  | [] => some reconciled
  | [moduleId] => claimRole reconciled role moduleId
  | _ => none

def adoptEndpoint (raw : RawGraph) (modules : Modules) (reconciled : OwnershipJournal)
    (role : EndpointRole) : Option OwnershipJournal :=
  match raw.endpointsFor role with
  | [] => some reconciled
  | endpoint :: _ =>
    match modules.lookup endpoint.ownerModule with
    | none => none
    | some module =>
      if moduleMatches role module reconciled.generation then
        claimRole reconciled role endpoint.ownerModule
      else none

/-- `reconcile_ownership`, up to the order of its modules. -/
def adoptAll (raw : RawGraph) (journal : OwnershipJournal) (modules : Modules) :
    Option OwnershipJournal := do
  let kept ← keepOwned journal.generation modules journal.modules
  if imitated journal.generation modules then none
  else
    let adopted ← EndpointRole.order.foldlM (adoptMatching modules)
      { OwnershipJournal.empty journal.generation with modules := kept }
    EndpointRole.order.foldlM (adoptEndpoint raw modules) adopted

def sortByRole (modules : List OwnedModule) : List OwnedModule :=
  modules.insertionSort (fun a b => roleIndex a.role ≤ roleIndex b.role)

def reconcileOwnership (raw : RawGraph) (journal : OwnershipJournal) (modules : Modules)
    (failureCode : AudioGraphErrorCode) : Except AudioGraphErrorCode OwnershipJournal :=
  match adoptAll raw journal modules with
  | none => .error failureCode
  | some adopted =>
    let reconciled := { adopted with modules := sortByRole adopted.modules }
    if reconciled.validate then .ok reconciled else .error .ownershipJournalInvalid

/-- The reconciled journal, saved where it is another. -/
def saveReconciled (journal reconciled : OwnershipJournal) : GraphCall Unit :=
  if reconciled ≠ journal then saveJournal host reconciled else pure ()

/-! ### Cleaning up -/

/-- One turn of `cleanup_reconciled`: the module is unloaded if it is there as it was. -/
def cleanupModule (generation : String) (module : OwnedModule) : GraphCall (List Nat) := do
  let modules ← inspectModules host
  match modules.lookup module.moduleId with
  | some discovered =>
    if moduleMatches module.role discovered generation then
      Call.mapErr (fun _ => AudioGraphError.new .cleanupFailed) (unloadModule host module.moduleId)
      pure [module.moduleId]
    else failWith .cleanupFailed
  | none => pure []

/-- The loop of `cleanup_reconciled`, with what it has unloaded. -/
def cleanupModules (generation : String) : List Nat → List OwnedModule → GraphCall (List Nat)
  | unloaded, [] => do
    removeJournal host
    pure unloaded
  | unloaded, module :: rest => do
    let more ← cleanupModule host generation module
    if rest.isEmpty then removeJournal host else saveJournal host (ownership generation rest)
    cleanupModules generation (unloaded ++ more) rest

def cleanupReconciled (journal : OwnershipJournal) : GraphCall (List Nat) :=
  cleanupModules host journal.generation [] journal.modules.reverse

/-! ### The calls -/

def reconcile (raw : RawGraph) (journal : OwnershipJournal) (failureCode : AudioGraphErrorCode) :
    GraphCall OwnershipJournal := do
  let modules ← inspectModules host
  match reconcileOwnership raw journal modules failureCode with
  | .ok reconciled => pure reconciled
  | .error code => failWith code

def ensureEndpoints (nextGeneration : String) : GraphCall AudioGraphState := do
  openFile host
  let journal ← loadJournal host
  let raw ← inspectRaw host
  if raw.hasDuplicateRequiredEndpoint then failWith .duplicateEndpoint
  else match journal with
  | none =>
    if raw.hasAnyRequiredEndpoint then failWith .duplicateEndpoint
    else createEndpoints host nextGeneration
  | some journal =>
    let reconciled ← reconcile host raw journal .duplicateEndpoint
    saveReconciled host journal reconciled
    if journalMatchesGraph raw reconciled then pure (stateFrom raw (some reconciled))
    else
      let _ ← cleanupReconciled host reconciled
      let cleaned ← inspectRaw host
      if cleaned.hasAnyRequiredEndpoint then failWith .duplicateEndpoint
      else createEndpoints host nextGeneration

def inspect : GraphCall AudioGraphState := do
  openFile host
  let journal ← loadJournal host
  let raw ← inspectRaw host
  if raw.hasDuplicateRequiredEndpoint then failWith .duplicateEndpoint
  else match journal with
  | none => pure (stateFrom raw none)
  | some journal =>
    let reconciled ← reconcile host raw journal .graphInspectionFailed
    pure (stateFrom raw (some reconciled))

def cleanupOwned : GraphCall (List Nat) := do
  openFile host
  match ← loadJournal host with
  | none => pure []
  | some journal =>
    let raw ← inspectRaw host
    if raw.hasDuplicateRequiredEndpoint then failWith .cleanupFailed
    else
      let reconciled ← reconcile host raw journal .cleanupFailed
      saveReconciled host journal reconciled
      cleanupReconciled host reconciled

/-! ### Runs -/

inductive Request where | ensureEndpoints | inspect | cleanupOwned
  deriving DecidableEq, Repr

/-- What a call returns. -/
inductive Response where
  | state (state : AudioGraphState)
  | unloaded (moduleIds : List Nat)
  deriving DecidableEq, Repr

def Request.run (nextGeneration : String) : Request → GraphCall Response
  | .ensureEndpoints => do
    let state ← Graph.ensureEndpoints host nextGeneration
    pure (.state state)
  | .inspect => do
    let state ← Graph.inspect host
    pure (.state state)
  | .cleanupOwned => do
    let moduleIds ← Graph.cleanupOwned host
    pure (.unloaded moduleIds)

end Graph

/-- A call, of any process with its own next generation, or a change by others between two calls. -/
inductive Operation where
  | call (request : Request) (nextGeneration : String) (answers : Answers)
  | change (modules : Modules) (journal : Option JournalFile)

def Station.step (codec : GraphCodec) (s : Station) :
    Operation → Option (Outcome AudioGraphError Response) × Station
  | .call request nextGeneration answers =>
    let (outcome, s') := request.run ⟨answers, codec⟩ nextGeneration { s with tick := 0 }
    (some outcome, s')
  | .change modules journal => (none, { s with modules := modules, journal := journal })

end Translator.Graph
