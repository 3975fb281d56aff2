import Translator.Schemes.Call
import Translator.Schemes.Run
import Translator.Wire.Contract

/-! `SidecarSupervisor`: it starts the sidecar under a fresh launch, probes it, keeps the sessions
    that are registered with it, and kills it when one of them is not closed in time.

    The child process, the clock and the source of randomness are a `SidecarRuntime`: it may answer
    each call as it likes, whatever has happened so far, so a child can die between any two calls. The
    history of what was asked and answered is kept next to the supervisor. -/

namespace Translator.Supervisor
open Schemes
open Wire (Uuid)

def maxStartAttempts : Nat := 3

inductive ChildState where | running | reaped
  deriving DecidableEq, Repr

structure SidecarLaunch where
  generationId : Uuid
  token : String
  deriving DecidableEq, Repr

inductive CloseOutcome where | acknowledged | generationRestarted
  deriving DecidableEq, Repr

inductive SupervisorError where
  | notReady | unknownSession | startFailed | readinessTimeout | readinessFailed
  | generationMismatch | killAndReapFailed | cleanupFailed | randomnessUnavailable
  deriving DecidableEq, Repr

/-- What a probe comes to within `PROBE_TIMEOUT`. -/
inductive Probe where
  | timedOut
  | failed (error : SupervisorError)
  | observed (generationId : Uuid)
  deriving DecidableEq, Repr

/-- What a supervisor asked of its runtime and was told, and what it then published. -/
inductive Happening where
  | launched (launch : Option SidecarLaunch)
  | started (launch : SidecarLaunch) (result : Except SupervisorError Unit)
  | probed (launch : SidecarLaunch) (result : Probe)
  | killed (result : Except SupervisorError ChildState)
  | shutDown (result : Except SupervisorError ChildState)
  | socketRemoved (childState : ChildState) (result : Except SupervisorError Unit)
  | waited (attempt : Nat) (result : Except SupervisorError Unit)
  | polled (result : Except SupervisorError ChildState)
  | becameReady (generationId : Uuid)
  | registered (session : Uuid)

/-- The answers of the runtime and of `new_launch`, given everything that has happened. -/
structure SidecarRuntime where
  start : List Happening → SidecarLaunch → Except SupervisorError Unit
  probe : List Happening → SidecarLaunch → Probe
  killAndReap : List Happening → Except SupervisorError ChildState
  shutdownAndReap : List Happening → Except SupervisorError ChildState
  removeStaleSocket : List Happening → ChildState → Except SupervisorError Unit
  waitBeforeRetry : List Happening → Nat → Except SupervisorError Unit
  pollChildState : List Happening → Except SupervisorError ChildState
  newLaunch : List Happening → Option SidecarLaunch

structure SidecarSupervisor where
  launch : Option SidecarLaunch
  activeSessions : List Uuid
  /-- `SidecarStatus`, as its handles read it. -/
  ready : Bool
  activeSessionCount : Nat
  closeWaitArmed : Bool
  history : List Happening

namespace SidecarSupervisor

def new : SidecarSupervisor where
  launch := none
  activeSessions := []
  ready := false
  activeSessionCount := 0
  closeWaitArmed := false
  history := []

def note (s : SidecarSupervisor) (happening : Happening) : SidecarSupervisor :=
  { s with history := s.history ++ [happening] }

def syncActiveCount (s : SidecarSupervisor) : SidecarSupervisor :=
  { s with activeSessionCount := s.activeSessions.length }

def setUnready (s : SidecarSupervisor) : SidecarSupervisor :=
  { s with ready := false, activeSessions := [] }.syncActiveCount

end SidecarSupervisor

abbrev SupervisorCall (α : Type) : Type := Call SidecarSupervisor SupervisorError α

/-- A question to the runtime and its answer, which both go into the history. -/
def ask {R : Type} (answer : List Happening → R) (happened : R → Happening) : SupervisorCall R :=
  fun s => (.ok (answer s.history), s.note (happened (answer s.history)))

section Calls

variable (rt : SidecarRuntime)

/-- `new_launch`, and the supervisor's launch is the new one. -/
def renewLaunch : SupervisorCall Unit := do
  match ← ask rt.newLaunch .launched with
  | some launch => Call.modify fun s => { s with launch := some launch }
  | none => Call.fail .randomnessUnavailable

/-- `self.launch.clone().expect(..)`. -/
def expectLaunch : SupervisorCall SidecarLaunch := fun s =>
  match s.launch with
  | some launch => (.ok launch, s)
  | none => (.panic, s)

def cleanupReaped (childState : ChildState) : SupervisorCall Unit := do
  if childState ≠ .reaped then Call.fail .killAndReapFailed
  else
    match ← ask (rt.removeStaleSocket · childState) (.socketRemoved childState) with
    | .ok () => pure ()
    | .error _ => Call.fail .cleanupFailed

def reapAndCleanup : SupervisorCall Unit := do
  match ← ask rt.killAndReap .killed with
  | .ok childState => cleanupReaped rt childState
  | .error _ => Call.fail .killAndReapFailed

/-- What is wrong with a probe of a launch. -/
def Probe.fault (launch : SidecarLaunch) : Probe → Option SupervisorError
  | .timedOut => some .readinessTimeout
  | .failed _ => some .readinessFailed
  | .observed generationId => if generationId ≠ launch.generationId then some .generationMismatch else none

def setReady (launch : SidecarLaunch) : SupervisorCall Unit :=
  Call.modify fun s => { s with ready := true }.note (.becameReady launch.generationId)

/-- One turn of the loop of `start`, up to the retry: what it failed with, or nothing. -/
def tryStart (launch : SidecarLaunch) : SupervisorCall (Option SupervisorError) := do
  match ← ask (rt.start · launch) (.started launch) with
  | .error _ => pure (some .startFailed)
  | .ok () =>
    let probe ← ask (rt.probe · launch) (.probed launch)
    match probe.fault launch with
    | none => do
      setReady launch
      pure none
    | some error => do
      reapAndCleanup rt
      pure (some error)

/-- What comes between two attempts. -/
def prepareRetry (attempt : Nat) : SupervisorCall Unit := do
  renewLaunch rt
  match ← ask (rt.waitBeforeRetry · attempt) (.waited attempt) with
  | .ok () => pure ()
  | .error error => Call.fail error

/-- The loop of `start`, by the attempts that are left. -/
def startAttempts : Nat → SupervisorError → SupervisorCall Unit
  | 0, lastError => Call.fail lastError
  | left + 1, _ => do
    let launch ← expectLaunch
    match ← tryStart rt launch with
    | none => pure ()
    | some error => do
      if 0 < left then prepareRetry rt (maxStartAttempts - left)
      startAttempts left error

def start : SupervisorCall Unit := do
  Call.modify SidecarSupervisor.setUnready
  let s ← Call.get
  if s.launch.isNone then renewLaunch rt
  startAttempts rt maxStartAttempts .startFailed

def refreshLiveness : SupervisorCall Unit := do
  let s ← Call.get
  if s.ready then
    match ← ask rt.pollChildState .polled with
    | .ok .running => pure ()
    | _ => Call.modify SidecarSupervisor.setUnready

def isReady : SupervisorCall Bool := do
  refreshLiveness rt
  let s ← Call.get
  pure s.ready

/-- A session joins the active ones, unless it is one of them. -/
def addSession (session : Uuid) (s : SidecarSupervisor) : SidecarSupervisor :=
  if session ∈ s.activeSessions then s
  else ({ s with activeSessions := s.activeSessions ++ [session] }.syncActiveCount).note
    (.registered session)

def registerSession (session : Uuid) : SupervisorCall Unit := do
  if !(← isReady rt) then Call.fail .notReady
  else Call.modify (addSession session)

def removeSession (session : Uuid) (s : SidecarSupervisor) : SidecarSupervisor :=
  { s with activeSessions := s.activeSessions.filter (· ≠ session) }.syncActiveCount

/-- `close_session`; the acknowledgement comes within `CLOSE_ACK_TIMEOUT` or not. -/
def closeSession (session : Uuid) (acknowledged : Bool) : SupervisorCall CloseOutcome := do
  if !(← isReady rt) then Call.fail .notReady
  else
    let s ← Call.get
    if session ∉ s.activeSessions then Call.fail .unknownSession
    else
      Call.modify fun s => { s with closeWaitArmed := true }
      Call.modify fun s => { s with closeWaitArmed := false }
      if acknowledged then
        Call.modify (removeSession session)
        pure .acknowledged
      else
        Call.modify SidecarSupervisor.setUnready
        reapAndCleanup rt
        renewLaunch rt
        start rt
        pure .generationRestarted

def shutdown : SupervisorCall Unit := do
  Call.modify fun s => { s.setUnready with closeWaitArmed := false }
  match ← ask rt.shutdownAndReap .shutDown with
  | .ok childState => cleanupReaped rt childState
  | .error _ => Call.fail .killAndReapFailed

/-- A call of a supervisor's owner. -/
inductive Operation where
  | start
  | isReady
  | registerSession (session : Uuid)
  | closeSession (session : Uuid) (acknowledged : Bool)
  | shutdown
  deriving DecidableEq

inductive Reply where
  | done
  | ready (ready : Bool)
  | closed (outcome : CloseOutcome)
  deriving DecidableEq, Repr

def Operation.call : Operation → SupervisorCall Reply
  | .start => do Supervisor.start rt; pure .done
  | .isReady => do pure (.ready (← Supervisor.isReady rt))
  | .registerSession session => do Supervisor.registerSession rt session; pure .done
  | .closeSession session acknowledged => do
    pure (.closed (← Supervisor.closeSession rt session acknowledged))
  | .shutdown => do Supervisor.shutdown rt; pure .done

def SidecarSupervisor.step (s : SidecarSupervisor) (op : Operation) :
    Outcome SupervisorError Reply × SidecarSupervisor := op.call rt s

end Calls

end Translator.Supervisor
