import Translator.Schemes.KeyedMap
import Translator.Schemes.Run
import Translator.Core.Contracts
import Translator.Wire.Contract

/-! `InferenceScheduler`: every direction has a queue of jobs and one active job, and a dispatcher starts
    the next one when a signal wakes it.

    The code between two `await`s is one step. What the work of a job comes to is part of the step that
    ends it; the executors the work runs on, and the bridge its speech goes over, are left out. Of
    `shutdown` there is the flag it sets and the first step of its task, which closes the sessions: what
    it waits for afterwards changes nothing here. -/

namespace Translator.Scheduler
open Schemes
open Wire (Uuid)
open Core (AudioDirection)

/-- `_QUEUED_PER_DIRECTION`. -/
def queuedPerDirection : Nat := 2

/-- `tuple(AudioDirection)`. -/
def directions : List AudioDirection := [.microphone, .speaker]

def directionAt (index : Nat) : AudioDirection := directions.getD index .microphone

inductive SchedulerError where
  | unavailable | sessionUnavailable | utteranceUnavailable | workUnavailable | stale | overflow
  deriving DecidableEq, Repr

def SchedulerError.message : SchedulerError → String
  | .unavailable => "scheduler is unavailable"
  | .sessionUnavailable => "scheduler session is unavailable"
  | .utteranceUnavailable => "scheduler utterance is unavailable"
  | .workUnavailable => "scheduler work is unavailable"
  | .stale => "scheduler result is stale"
  | .overflow => "inference queue limit was reached"

structure JobIdentity where
  sessionId : Uuid
  utteranceId : Uuid
  direction : AudioDirection
  sessionGeneration : Nat
  utteranceGeneration : Nat
  deriving DecidableEq, Repr

/-- `_Session`: the utterances with their generations. -/
structure Session where
  direction : AudioDirection
  generation : Nat
  utterances : Table Uuid Nat

/-- `_Job`, known by the number of its submission. -/
structure Job where
  number : Nat
  identity : JobIdentity
  deriving DecidableEq, Repr

/-- What `await job.work(context)` comes to. -/
inductive Outcome (V : Type) where
  | returned (value : V)
  /-- `SchedulerStale`. -/
  | stale
  /-- `SchedulerUnavailable`, `SchedulerOverflow`, or another exception. -/
  | failed
  deriving DecidableEq, Repr

/-- What a future is resolved with. -/
inductive Resolution (V : Type) where
  | result (value : V)
  | error (error : SchedulerError)
  deriving DecidableEq, Repr

/-- A call of `submit` that was admitted, with its future. -/
structure Submission (V : Type) where
  identity : JobIdentity
  future : Option (Resolution V)
  deriving DecidableEq, Repr

inductive TaskStage where
  /-- The task has not run yet. -/
  | created
  | working
  /-- `_run_job` has returned, and its done callback has not been called. -/
  | finished
  deriving DecidableEq, Repr

/-- A task of `_run_job`. -/
structure RunTask where
  job : Job
  stage : TaskStage
  deriving DecidableEq, Repr

inductive Dispatcher where
  | absent
  /-- Its task is about to run. -/
  | ready
  /-- At `_dispatch_signal.wait()`. -/
  | waiting
  | returned
  deriving DecidableEq, Repr

structure InferenceScheduler (V : Type) where
  queues : AudioDirection → List Job
  active : AudioDirection → Option Job
  sessions : Table Uuid Session
  nextGeneration : Nat
  dispatchSignal : Option Bool
  dispatcher : Dispatcher
  runningTasks : List RunTask
  roundRobinIndex : Nat
  closed : Bool
  /-- The jobs whose `cancelled` is set. -/
  cancelledJobs : List Nat
  /-- Every job there has been, and the jobs whose work was begun, in order. -/
  submissions : List (Submission V)
  started : List Job

/-- What an operation is answered with. -/
inductive Answer where
  | generation (generation : Nat)
  | identity (identity : JobIdentity)
  /-- The future of a job. -/
  | future (number : Nat)
  | nothing
  deriving DecidableEq, Repr

abbrev Reply := Except SchedulerError Answer

namespace InferenceScheduler

variable {V : Type}

def new : InferenceScheduler V where
  queues _ := []
  active _ := none
  sessions := ∅
  nextGeneration := 1
  dispatchSignal := none
  dispatcher := .absent
  runningTasks := []
  roundRobinIndex := 0
  closed := false
  cancelledJobs := []
  submissions := []
  started := []

variable (s : InferenceScheduler V)

/-- `_is_current`. -/
def isCurrent (identity : JobIdentity) : Bool :=
  match s.sessions.lookup identity.sessionId with
  | none => false
  | some session =>
    session.direction = identity.direction && session.generation = identity.sessionGeneration
      && session.utterances.lookup identity.utteranceId = some identity.utteranceGeneration

/-- `_dispatch_signal.set()`, when there is one. -/
def setSignal : InferenceScheduler V := { s with dispatchSignal := s.dispatchSignal.map fun _ => true }

/-- Resolve the futures of some jobs that are not done. -/
def resolve (numbers : List Nat) (resolution : Resolution V) : InferenceScheduler V :=
  { s with
    submissions := s.submissions.mapIdx fun number submission =>
      if number ∈ numbers ∧ submission.future.isNone then { submission with future := some resolution }
      else submission }

/-! ### Sessions and utterances -/

def openSession (sessionId : Uuid) (direction : AudioDirection) : Reply × InferenceScheduler V :=
  if s.closed then (.error .unavailable, s)
  else if sessionId ∈ s.sessions then (.error .sessionUnavailable, s)
  else
    (.ok (.generation s.nextGeneration),
      { s with
        nextGeneration := s.nextGeneration + 1
        sessions := s.sessions.insert sessionId ⟨direction, s.nextGeneration, ∅⟩ })

def openUtterance (sessionId utteranceId : Uuid) : Reply × InferenceScheduler V :=
  match s.sessions.lookup sessionId with
  | none => (.error .sessionUnavailable, s)
  | some session =>
    if utteranceId ∈ session.utterances then (.error .utteranceUnavailable, s)
    else
      (.ok (.identity ⟨sessionId, utteranceId, session.direction, session.generation, s.nextGeneration⟩),
        { s with
          nextGeneration := s.nextGeneration + 1
          sessions := s.sessions.insert sessionId
            { session with utterances := session.utterances.insert utteranceId s.nextGeneration } })

/-- An utterance of a session is forgotten. -/
def forget (sessionId : Uuid) (session : Session) (utteranceId : Uuid) : InferenceScheduler V :=
  { s with
    sessions := s.sessions.insert sessionId
      { session with utterances := session.utterances.erase utteranceId } }

/-- `_terminalize`. -/
def terminalize (identity : JobIdentity) : InferenceScheduler V :=
  match s.sessions.lookup identity.sessionId with
  | none => s
  | some session =>
    if session.generation = identity.sessionGeneration
        ∧ session.utterances.lookup identity.utteranceId = some identity.utteranceGeneration then
      s.forget identity.sessionId session identity.utteranceId
    else s

/-! ### Submission -/

/-- `_ensure_dispatcher`. -/
def ensureDispatcher : InferenceScheduler V :=
  if s.dispatcher ≠ .absent then s else { s with dispatchSignal := some false, dispatcher := .ready }

/-- A job joins the queue of its direction. -/
def enqueue (identity : JobIdentity) : InferenceScheduler V :=
  { s with
    queues := Function.update s.queues identity.direction
      (s.queues identity.direction ++ [⟨s.submissions.length, identity⟩])
    submissions := s.submissions ++ [⟨identity, none⟩] }

def admissionCapacity (direction : AudioDirection) : Nat :=
  queuedPerDirection + if (s.active direction).isNone then 1 else 0

def submit (identity : JobIdentity) : Reply × InferenceScheduler V :=
  if s.closed || !s.isCurrent identity then (.error .stale, s)
  else if s.admissionCapacity identity.direction ≤ (s.queues identity.direction).length then
    (.error .overflow, s)
  else (.ok (.future s.submissions.length), (s.enqueue identity).ensureDispatcher.setSignal)

/-! ### Cancellation -/

/-- The active and the queued jobs. -/
def activeJobs : List Job := directions.filterMap s.active

def queuedJobs : List Job := directions.flatMap s.queues

/-- `_cancel_matching`. -/
def cancelMatching (predicate : JobIdentity → Bool) : InferenceScheduler V :=
  let hit := (s.activeJobs ++ s.queuedJobs).filter fun job => predicate job.identity
  let dropped := s.queuedJobs.filter fun job => predicate job.identity
  setSignal <| resolve
    { s with
      cancelledJobs := s.cancelledJobs ++ hit.map Job.number
      queues := fun direction => (s.queues direction).filter fun job => !predicate job.identity }
    (dropped.map Job.number) (.error .stale)

def cancelUtterance (sessionId utteranceId : Uuid) : Reply × InferenceScheduler V :=
  match s.sessions.lookup sessionId with
  | none => (.error .stale, s)
  | some session =>
    if utteranceId ∉ session.utterances then (.error .stale, s)
    else
      (.ok .nothing, (s.forget sessionId session utteranceId).cancelMatching fun identity =>
        identity.sessionId = sessionId && identity.utteranceId = utteranceId)

def closeSession (sessionId : Uuid) : Reply × InferenceScheduler V :=
  if sessionId ∉ s.sessions then (.error .stale, s)
  else
    (.ok .nothing, cancelMatching { s with sessions := s.sessions.erase sessionId } fun identity =>
      identity.sessionId = sessionId)

/-- The synchronous part of `shutdown`. -/
def shutdown : InferenceScheduler V := { s with closed := true }

/-- The first step of `_shutdown_impl`. -/
def shutdownImpl : InferenceScheduler V :=
  if s.closed then
    (s.sessions.keys.foldl (fun s sessionId => (s.closeSession sessionId).2) s).setSignal
  else s

/-! ### The dispatcher -/

/-- The head of a queue leaves it. -/
def popLeft (direction : AudioDirection) (rest : List Job) : InferenceScheduler V :=
  { s with queues := Function.update s.queues direction rest }

/-- A job gets its task. -/
def start (index : Nat) (job : Job) : InferenceScheduler V :=
  { s with
    active := Function.update s.active (directionAt index) (some job)
    runningTasks := s.runningTasks ++ [⟨job, .created⟩]
    roundRobinIndex := (index + 1) % directions.length }

/-- The loop over a queue, up to the first job that is current. -/
def dispatchQueue (index : Nat) : List Job → InferenceScheduler V → InferenceScheduler V
  | [], s => s
  | job :: rest, s =>
    let s := s.popLeft (directionAt index) rest
    if s.isCurrent job.identity then s.start index job
    else dispatchQueue index rest (s.resolve [job.number] (.error .stale))

def dispatchDirection (index : Nat) : InferenceScheduler V :=
  if (s.active (directionAt index)).isSome then s
  else s.dispatchQueue index (s.queues (directionAt index))

/-- `_dispatch_available`. The index a direction is taken by moves when a job is started, also within
    one pass. -/
def dispatchAvailable : InferenceScheduler V :=
  (List.range directions.length).foldl
    (fun s offset => s.dispatchDirection ((s.roundRobinIndex + offset) % directions.length)) s

/-- `_has_dispatchable`. -/
def hasDispatchable : Bool := directions.any fun d => (s.active d).isNone && !(s.queues d).isEmpty

/-- The dispatcher is about to run, or its signal is set. -/
def dispatcherRuns : Bool :=
  match s.dispatcher with
  | .ready => true
  | .waiting => s.dispatchSignal = some true
  | .absent | .returned => false

/-- `_dispatch_loop`, up to its `await`. -/
def dispatchLoop : InferenceScheduler V :=
  let s := s.dispatchAvailable
  if s.closed && s.runningTasks.isEmpty then { s with dispatcher := .returned }
  else { s with dispatchSignal := some s.hasDispatchable, dispatcher := .waiting }

/-! ### Jobs -/

def task (number : Nat) (stage : TaskStage) : Option RunTask :=
  s.runningTasks.find? fun task => task.job.number = number && task.stage = stage

def setStage (number : Nat) (stage : TaskStage) : InferenceScheduler V :=
  { s with
    runningTasks := s.runningTasks.map fun task =>
      if task.job.number = number then { task with stage := stage } else task }

/-- The work of a job begins. -/
def begin (job : Job) : InferenceScheduler V :=
  { s.setStage job.number .working with started := s.started ++ [job] }

/-- `SchedulerContext.cancelled`. -/
def isCancelled (job : Job) : Bool := s.cancelledJobs.contains job.number || !s.isCurrent job.identity

/-- What the future of a job is resolved with. -/
def resolution (job : Job) : Outcome V → Resolution V
  | .returned value => if s.isCancelled job then .error .stale else .result value
  | .stale => .error .stale
  | .failed => .error .workUnavailable

/-- The `finally` of `_run_job`. -/
def release (job : Job) : InferenceScheduler V :=
  { s with
    active := if s.active job.identity.direction = some job then
        Function.update s.active job.identity.direction none
      else s.active }

/-- `_run_job`, once the work of its job has come to an end. -/
def complete (job : Job) (outcome : Outcome V) : InferenceScheduler V :=
  ((((s.terminalize job.identity).resolve [job.number] (s.resolution job outcome)).release job).setStage
    job.number .finished).setSignal

/-- `_task_done`. -/
def taskDone (job : Job) : InferenceScheduler V :=
  { s with runningTasks := s.runningTasks.filter fun task => task.job.number ≠ job.number }.setSignal

end InferenceScheduler

/-! ### Steps -/

inductive Op (V : Type) where
  | openSession (sessionId : Uuid) (direction : AudioDirection)
  | openUtterance (sessionId utteranceId : Uuid)
  | submit (identity : JobIdentity)
  | cancelUtterance (sessionId utteranceId : Uuid)
  | closeSession (sessionId : Uuid)
  | shutdown
  | shutdownImpl
  /-- The dispatcher goes on, if it can. -/
  | dispatch
  /-- The task of a job is run for the first time, its work ends, its done callback is called. -/
  | begin (number : Nat)
  | complete (number : Nat) (outcome : Outcome V)
  | taskDone (number : Nat)

namespace InferenceScheduler

variable {V : Type}

/-- A task goes on, if it is there. -/
def run (s : InferenceScheduler V) (number : Nat) (stage : TaskStage)
    (f : Job → InferenceScheduler V) : InferenceScheduler V :=
  match s.task number stage with
  | some task => f task.job
  | none => s

def apply (s : InferenceScheduler V) : Op V → Reply × InferenceScheduler V
  | .openSession sessionId direction => s.openSession sessionId direction
  | .openUtterance sessionId utteranceId => s.openUtterance sessionId utteranceId
  | .submit identity => s.submit identity
  | .cancelUtterance sessionId utteranceId => s.cancelUtterance sessionId utteranceId
  | .closeSession sessionId => s.closeSession sessionId
  | .shutdown => (.ok .nothing, s.shutdown)
  | .shutdownImpl => (.ok .nothing, s.shutdownImpl)
  | .dispatch => (.ok .nothing, if s.dispatcherRuns then s.dispatchLoop else s)
  | .begin number => (.ok .nothing, s.run number .created s.begin)
  | .complete number outcome => (.ok .nothing, s.run number .working fun job => s.complete job outcome)
  | .taskDone number => (.ok .nothing, s.run number .finished s.taskDone)

/-- The scheduler after some operations. -/
def after (ops : List (Op V)) : InferenceScheduler V := (exec apply new ops).2

end InferenceScheduler

end Translator.Scheduler
