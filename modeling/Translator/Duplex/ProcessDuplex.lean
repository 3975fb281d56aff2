import Translator.Duplex.Generation
import Translator.Supervisor.Readiness

/-! The loop of `run_process_duplex`: every pass prepares the directions, registers their sessions with
    the supervisor, waits until the generation is over, and opens it again or restarts the sidecar.

    What a pass finds around it is a `Pass`: the answers of the sidecar's runtime, whether the
    directions could be prepared, how they ended and whether a stop is pending. The audio of the
    directions and the modes a policy reopen picks up are left out. -/

namespace Translator.Duplex
open Schemes Core
open Control (DuplexRuntimeError)
open Supervisor (SidecarRuntime SidecarSupervisor SupervisorCall)
open Wire (Uuid)

def maxRuntimeRestarts : Nat := 3

inductive GenerationRestart where | policy | fault
  deriving DecidableEq, Repr

/-- How a loop of `run_direction` ends that does not panic. -/
abbrev DirectionResult := Except DuplexRuntimeError DirectionExit

/-- `classify_generation_restart`. -/
def classifyGenerationRestart (finished peer : DirectionResult) : GenerationRestart :=
  match finished, peer with
  | .ok .modeChanged, .ok .restartRequired | .ok .modeChanged, .ok .modeChanged => .policy
  | _, _ => .fault

/-- What ends the wait for a generation: a stop, or the direction that was over first. What became of
    its peer is meaningless where there is none. -/
inductive GenerationEnd where
  | stop
  | ended (first : AudioDirection) (result peerResult : DirectionResult)

structure Pass where
  rt : SidecarRuntime
  /-- A stop is pending at the start of the pass, and when the generation is over. -/
  stopBefore : Bool
  stopAfter : Bool
  /-- `prepare_direction`, by the session it opens. -/
  prepare : AudioDirection → Except DuplexRuntimeError Uuid
  generation : GenerationEnd
  /-- `wait_provider_ready` after a restart. -/
  providerReady : Bool

/-- How the loop returns. -/
inductive Ending where
  | stopped
  | failed (error : DuplexRuntimeError)
  deriving DecidableEq, Repr

/-- The sessions a pass registered, and how many generations had become ready by then. -/
structure OpenedGeneration where
  ready : Nat
  sessions : List Uuid
  deriving DecidableEq, Repr

structure ProcessDuplex where
  supervisor : SidecarSupervisor
  /-- The directions that are launched. -/
  launched : AudioDirection → Bool
  restartCount : Nat
  /-- The attempts of the `GenerationRestart` events the observer was told of. -/
  observed : List Nat
  opened : List OpenedGeneration
  ended : Option Ending

/-- How many generations have become ready. -/
def readyCount (history : List Supervisor.Happening) : Nat :=
  history.countP fun h => match h with | .becameReady _ => true | _ => false

abbrev LoopCall (α : Type) : Type := Call ProcessDuplex Ending α

/-- A call of the supervisor, looked at. -/
def supervised {α : Type} (call : SupervisorCall α) :
    LoopCall (Except Supervisor.SupervisorError α) := fun w =>
  match call w.supervisor with
  | (.ok a, s) => (.ok (.ok a), { w with supervisor := s })
  | (.err e, s) => (.ok (.error e), { w with supervisor := s })
  | (.panic, s) => (.panic, { w with supervisor := s })

/-- `map_err(|_| DuplexRuntimeError::StartFailed)?`. -/
def orStartFailed {ε α : Type} : Except ε α → LoopCall α
  | .ok a => pure a
  | .error _ => Call.fail (.failed .startFailed)

namespace Pass

variable (p : Pass)

/-- The sidecar is shut down, whatever comes of it, and the loop returns. -/
def leave {α : Type} (ending : Ending) : LoopCall α := do
  let _ ← supervised (Supervisor.shutdown p.rt)
  Call.fail ending

/-- `prepare_optional_direction`. -/
def prepareOptional (launched : AudioDirection → Bool) (direction : AudioDirection) :
    Except DuplexRuntimeError (Option Uuid) :=
  if launched direction then (p.prepare direction).map some else .ok none

def registerSessions : List Uuid → LoopCall Unit
  | [] => pure ()
  | session :: rest => do
    orStartFailed (← supervised (Supervisor.registerSession p.rt session))
    registerSessions rest

/-- The sessions are closed for a policy reopen: the acknowledgement is at hand. -/
def closeSessions : List Uuid → LoopCall Unit
  | [] => pure ()
  | session :: rest => do
    let _ ← orStartFailed (← supervised (Supervisor.closeSession p.rt session true))
    closeSessions rest

/-- The sessions of a pass, the microphone's first. -/
def sessionsOf (microphone speaker : Option Uuid) : List Uuid := microphone.toList ++ speaker.toList

/-- How the generation is to go on, and the session its restart is about; `none` when a stop ended
    it. There is a session in every generation that is waited for. -/
def restart (microphone speaker : Option Uuid) : Option (GenerationRestart × Uuid) :=
  match p.generation with
  | .stop => none
  | .ended first result peerResult =>
    if result = .ok .stopped ∧ p.stopAfter then none
    else
      match microphone, speaker with
      | some microphone, some speaker =>
        some (classifyGenerationRestart result peerResult,
          match first with | .microphone => microphone | .speaker => speaker)
      | microphone, speaker =>
        (microphone.or speaker).map fun session =>
          (if result = .ok .modeChanged then .policy else .fault, session)

/-- `register_generation_restart`. -/
def registerGenerationRestart (restart : GenerationRestart) : LoopCall Unit := do
  if restart = .fault then
    Call.modify fun w => { w with restartCount := saturatingAdd w.restartCount 1 }
    let w ← Call.get
    if maxRuntimeRestarts < w.restartCount then Call.fail (.failed .startFailed)
    else Call.modify fun w => { w with observed := w.observed ++ [w.restartCount] }

/-- The sidecar is restarted by closing a session that is never acknowledged. -/
def restartSidecar (session : Uuid) : LoopCall Unit := do
  let _ ← orStartFailed (← supervised (Supervisor.closeSession p.rt session false))
  let w ← Call.get
  if w.supervisor.launch.isNone then Call.fail (.failed .startFailed)
  else if !p.providerReady then Call.fail (.failed .startFailed)

/-- The generation is over. -/
def reopen (microphone speaker : Option Uuid) : LoopCall Unit := do
  match p.restart microphone speaker with
  | none => p.leave .stopped
  | some (restart, session) =>
    if p.stopAfter then p.leave .stopped
    else
      registerGenerationRestart restart
      match restart with
      | .policy => p.closeSessions (sessionsOf microphone speaker)
      | .fault => p.restartSidecar session

/-- One turn of the loop. -/
def run : LoopCall Unit := do
  if p.stopBefore then p.leave .stopped
  else
    let w ← Call.get
    if w.supervisor.launch.isNone then Call.fail (.failed .startFailed)
    else
      match p.prepareOptional w.launched .microphone, p.prepareOptional w.launched .speaker with
      | .ok microphone, .ok speaker =>
        if (sessionsOf microphone speaker).isEmpty then p.leave (.failed .startFailed)
        else
          p.registerSessions (sessionsOf microphone speaker)
          Call.modify fun w =>
            { w with opened := w.opened ++
                [⟨readyCount w.supervisor.history, sessionsOf microphone speaker⟩] }
          p.reopen microphone speaker
      | _, _ => p.leave (.failed .startFailed)

end Pass

namespace ProcessDuplex

/-- The sidecar is started and its provider waited for, before the first pass. -/
def boot (rt : SidecarRuntime) (launched : AudioDirection → Bool) (providerReady : Bool) :
    ProcessDuplex :=
  match Supervisor.start rt .new with
  | (.ok (), supervisor) =>
    if providerReady then ⟨supervisor, launched, 0, [], [], none⟩
    else
      ⟨(Supervisor.shutdown rt supervisor).2, launched, 0, [], [], some (.failed .startFailed)⟩
  | (_, supervisor) => ⟨supervisor, launched, 0, [], [], some (.failed .startFailed)⟩

/-- A pass of a loop that has not returned. The calls of the supervisor never panic. -/
def step (w : ProcessDuplex) (p : Pass) : Unit × ProcessDuplex :=
  match w.ended with
  | some _ => ((), w)
  | none =>
    match p.run w with
    | (.err ending, w) => ((), { w with ended := some ending })
    | (_, w) => ((), w)

end ProcessDuplex

end Translator.Duplex
