import Translator.Control.AudioGate
import Translator.Control.RoundTrip

/-! `RoundTripRuntimeHandle` with the process runner: the self test, the worker that carries it out, and
    what a caller of `start` and `stop` is told. The worker gives its lease back and leaves its result
    however it ends; a `stop` waits for that result, with the lock on `active`, but only so long.

    What the worker does to the self test until it ends are calls on its progress; how it ends, and
    whether its teardown went well, is part of the step. A worker whose thread panics is left out. -/

namespace Translator.Control
open Schemes
open Wire (Uuid)

inductive RoundTripRuntimeError where
  | startFailed | stopFailed
  deriving DecidableEq, Repr

/-- `map_precondition_error`. -/
def mapPreconditionError : RoundTripErrorCode → ControlFailure
  | .headphonesRequired => ⟨409, "self_test_headphones_required"⟩
  | .providerUnavailable => ⟨409, "self_test_provider_unavailable"⟩
  | .virtualGraphUnavailable => ⟨409, "self_test_graph_unavailable"⟩
  | .incomingRouteConflict => ⟨409, "self_test_route_conflict"⟩
  | .alreadyRunning => ⟨409, "self_test_already_running"⟩
  | _ => ⟨409, "self_test_precondition_failed"⟩

/-- `ProcessActiveRoundTrip` with its worker. -/
structure ProcessActiveRoundTrip where
  sessionId : Uuid
  lease : AudioOperationLease
  stopSent : Bool
  /-- What the worker has left; it has finished. -/
  done : Option (Except RoundTripRuntimeError Unit)
  terminalResult : Option (Except RoundTripRuntimeError Unit)
  deriving DecidableEq

namespace ProcessActiveRoundTrip

variable (runtime : ProcessActiveRoundTrip)

def isFinished : Bool := runtime.done.isSome

/-- `stop` up to its answer, or up to where it waits for the worker. -/
def stop : Option (Except RoundTripRuntimeError Unit) × ProcessActiveRoundTrip :=
  match runtime.terminalResult with
  | some result => (some result, runtime)
  | none =>
    match runtime.done with
    | some result => (some result, { runtime with stopSent := true, terminalResult := some result })
    | none => (none, { runtime with stopSent := true })

variable {runtime}

theorem stop_running (hterminal : runtime.terminalResult = none) (hdone : runtime.done = none) :
    runtime.stop = (none, { runtime with stopSent := true }) := by
  simp only [stop, hterminal, hdone]

theorem stop_finished {result : Except RoundTripRuntimeError Unit}
    (hterminal : runtime.terminalResult = none) (hdone : runtime.done = some result) :
    runtime.stop = (some result, { runtime with stopSent := true, terminalResult := some result }) := by
  simp only [stop, hterminal, hdone]

/-- The worker has left an error; the first call that asks for it keeps it. -/
def Failed (runtime : ProcessActiveRoundTrip) : Prop :=
  (∃ error, runtime.done = some (.error error))
    ∧ ∀ result, runtime.terminalResult = some result → ∃ error, result = .error error

theorem failed_stop (h : Failed runtime) :
    ∃ error runtime', runtime.stop = (some (.error error), runtime') ∧ Failed runtime' := by
  obtain ⟨⟨error, hdone⟩, hterminal⟩ := h
  cases hresult : runtime.terminalResult with
  | some result =>
    obtain ⟨cached, rfl⟩ := hterminal result hresult
    exact ⟨cached, runtime, by simp only [stop, hresult], ⟨error, hdone⟩, hterminal⟩
  | none =>
    refine ⟨error, _, stop_finished hresult hdone, ⟨error, hdone⟩, ?_⟩
    rintro _ ⟨⟩
    exact ⟨error, rfl⟩

theorem failed_isFinished (h : Failed runtime) : runtime.isFinished = true := by
  obtain ⟨⟨error, hdone⟩, -⟩ := h
  rw [isFinished, hdone]
  rfl

end ProcessActiveRoundTrip

/-- How the active lifecycle of a round trip comes out. -/
inductive Lifecycle where
  /-- `mark_completed` is reached. -/
  | drained
  | failed
  /-- It was told to stop. -/
  | stopped
  | timedOut
  deriving DecidableEq, Repr

inductive WorkerEnd where
  /-- No tokio runtime to run in. -/
  | notBuilt
  | ran (lifecycle : Lifecycle) (teardown : Bool)
  deriving DecidableEq, Repr

/-- It ends because it was told to stop. -/
def WorkerEnd.toldToStop : WorkerEnd → Bool
  | .ran .stopped _ => true
  | _ => false

/-- The calls of `RoundTripProgress`. -/
inductive ProgressCall where
  | advance (sessionId : Uuid) (checkpoint : RoundTripCheckpoint) (latency : RoundTripLatency)
  | setExactPcmProof (sessionId : Uuid) (proof : ExactPcmProof)
  | recordRecursionTrigger (sessionId : Uuid)
  | fail (sessionId : Uuid) (error : RoundTripErrorCode)
  deriving DecidableEq

def ProgressCall.op : ProgressCall → RoundTripSelfTest.Op
  | .advance sessionId checkpoint latency => .advance sessionId checkpoint latency
  | .setExactPcmProof sessionId proof => .setExactPcmProof sessionId proof
  | .recordRecursionTrigger sessionId => .recordRecursionTrigger sessionId
  | .fail sessionId error => .fail sessionId error

structure RoundTripRuntimeHandle where
  session : RoundTripSelfTest
  preconditions : Option RoundTripPreconditions
  gate : AudioOperationGate
  /-- `active` of the process runner. -/
  runnerActive : Bool
  active : Option ProcessActiveRoundTrip
  /-- A `stop` waits for the worker; whoever else calls waits for the lock. -/
  stopping : Bool
  /-- The lease of the production runtime, which shares the gate. -/
  production : Option AudioOperationLease
  deriving DecidableEq

namespace RoundTripRuntimeHandle

abbrev Result := Except ControlFailure RoundTripStatus

def new (gate : AudioOperationGate) : RoundTripRuntimeHandle :=
  ⟨.default, none, gate, false, none, false, none⟩

variable (s : RoundTripRuntimeHandle)

def failSession (sessionId : Uuid) (error : RoundTripErrorCode) : RoundTripRuntimeHandle :=
  { s with session := (s.session.fail sessionId error).2 }

/-- A worker that has finished is dropped when it is stopped well. -/
def reapFinished : RoundTripRuntimeHandle :=
  match s.active with
  | none => s
  | some runtime =>
    if runtime.isFinished then
      match runtime.stop with
      | (some (.ok ()), _) => { s with active := none }
      | (_, runtime) => { s with active := some runtime }
    else s

/-- `RoundTripProcessRunner::start`; `spawned` says that the thread could be spawned. -/
def runnerStart (sessionId : Uuid) (lease : AudioOperationLease) (spawned : Bool) :
    Except RoundTripRuntimeError Unit × RoundTripRuntimeHandle :=
  if s.runnerActive || !spawned then (.error .startFailed, { s with gate := s.gate.release lease })
  else
    (.ok (), { s with runnerActive := true, active := some ⟨sessionId, lease, false, none, none⟩ })

/-- `start` with no worker there. The self test has no debug text of its own, so the status is the same
    whether it is asked for. -/
def startSession (preconditions : RoundTripPreconditions) (nowMs : Nat) (freshId : Uuid)
    (spawned : Bool) : Result × RoundTripRuntimeHandle :=
  let s := { s with preconditions := some preconditions }
  match s.session.start preconditions nowMs freshId with
  | (.error error, _) => (.error (mapPreconditionError error), s)
  | (.ok sessionId, session) =>
    let s := { s with session := session }
    match s.gate.acquire (.humanRoundTrip sessionId) with
    | (.error _, _) =>
      (.error ⟨409, "audio_operation_busy"⟩, s.failSession sessionId .runtimeFailed)
    | (.ok lease, gate) =>
      match { s with gate := gate }.runnerStart sessionId lease spawned with
      | (.error _, s) =>
        (.error ⟨503, "self_test_start_failed"⟩, s.failSession sessionId .runtimeFailed)
      | (.ok (), s) => (.ok (s.session.status false), s)

def start (preconditions : RoundTripPreconditions) (nowMs : Nat) (freshId : Uuid) (spawned : Bool) :
    Result × RoundTripRuntimeHandle :=
  let s := s.reapFinished
  if s.active.isSome then (.error ⟨409, "self_test_already_running"⟩, s)
  else s.startSession preconditions nowMs freshId spawned

/-- The rest of `stop`, when the runtime has answered. -/
def stopped (result : Except RoundTripRuntimeError Unit) (runtime : ProcessActiveRoundTrip) :
    Result × RoundTripRuntimeHandle :=
  match result with
  | .error _ => (.error ⟨500, "self_test_stop_failed"⟩, { s with active := some runtime })
  | .ok () =>
    let s := { s with active := none }
    match (s.session.status false).sessionId with
    | none => (.error ⟨409, "self_test_not_running"⟩, s)
    | some sessionId =>
      let s := { s with session := (s.session.stop sessionId).2 }
      (.ok (s.session.status false), s)

/-- `stop`, which may come to wait. -/
def stop : Option Result × RoundTripRuntimeHandle :=
  match s.active with
  | none => (some (.error ⟨409, "self_test_not_running"⟩), s)
  | some runtime =>
    match runtime.stop with
    | (none, runtime) => (none, { s with active := some runtime, stopping := true })
    | (some result, runtime) =>
      let (answer, s) := s.stopped result runtime
      (some answer, s)

/-- The wait is over: the worker has left its result, or the time is up. -/
def stopReturns : Option Result × RoundTripRuntimeHandle :=
  let s := { s with stopping := false }
  match s.active with
  | none => (none, s)
  | some runtime =>
    let (answer, s) := match runtime.stop with
      | (none, runtime) => s.stopped (.error .stopFailed) runtime
      | (some result, runtime) => s.stopped result runtime
    (some answer, s)

/-- The end of `run_round_trip`, and what it leaves as its result. -/
def runRoundTrip (sessionId : Uuid) :
    WorkerEnd → Except RoundTripRuntimeError Unit × RoundTripRuntimeHandle
  | .notBuilt => (.error .startFailed, s)
  | .ran lifecycle teardown =>
    let (succeeded, s) := match lifecycle with
      | .drained =>
        match s.session.advance sessionId .completed .default with
        | (.ok (), session) => (true, { s with session := session })
        | (.error _, _) => (false, s.failSession sessionId .runtimeFailed)
      | .failed => (false, s.failSession sessionId .runtimeFailed)
      | .timedOut => (false, s.failSession sessionId .timeout)
      | .stopped => (false, s)
    if teardown then (.ok (), s)
    else (.error .stopFailed, if succeeded then s.failSession sessionId .runtimeFailed else s)

/-- The worker thread ends; it cannot have been told to stop when nobody told it. -/
def workerEnds (finish : WorkerEnd) : RoundTripRuntimeHandle :=
  match s.active with
  | none => s
  | some runtime =>
    if runtime.isFinished || (finish.toldToStop && !runtime.stopSent) then s
    else
      let (result, s) := s.runRoundTrip runtime.sessionId finish
      { s with
        gate := s.gate.release runtime.lease
        runnerActive := false
        active := some { runtime with done := some result } }

inductive Op where
  | start (preconditions : RoundTripPreconditions) (nowMs : Nat) (freshId : Uuid) (spawned : Bool)
  | stop
  | stopReturns
  | progress (call : ProgressCall)
  | workerEnds (finish : WorkerEnd)
  | acquireProduction
  | releaseProduction
  | beginStopping
  deriving DecidableEq

/-- A `start` or a `stop` that finds the lock taken has not begun. -/
def apply : Op → Option Result × RoundTripRuntimeHandle
  | .start preconditions nowMs freshId spawned =>
    if s.stopping then (none, s)
    else
      let (answer, s) := s.start preconditions nowMs freshId spawned
      (some answer, s)
  | .stop => if s.stopping then (none, s) else s.stop
  | .stopReturns => if s.stopping then s.stopReturns else (none, s)
  | .progress call => (none, { s with session := (s.session.apply call.op).2 })
  | .workerEnds finish => (none, s.workerEnds finish)
  | .acquireProduction =>
    match s.gate.acquire .production with
    | (.ok lease, gate) => (none, { s with gate := gate, production := some lease })
    | (.error _, _) => (none, s)
  | .releaseProduction =>
    match s.production with
    | some lease => (none, { s with gate := s.gate.release lease, production := none })
    | none => (none, s)
  | .beginStopping => (none, { s with gate := s.gate.beginStopping })

/-! ### A worker that leaves the handle usable -/

/-- No worker runs, and no `stop` waits. -/
def Settled : Prop :=
  s.stopping = false ∧ ∀ runtime, s.active = some runtime → runtime.isFinished = true

/-- A `start` is admitted when its preconditions hold and the gate is idle, and neither call answers that
    a worker is still there. -/
structure Usable : Prop where
  admitted : ∀ preconditions nowMs freshId, validatePreconditions preconditions = .ok () →
    s.gate.state = .idle → s.gate.generation + 1 < 2 ^ 64 →
    ∃ status, (s.start preconditions nowMs freshId true).1 = .ok status
  start_answer : ∀ preconditions nowMs freshId spawned,
    (s.start preconditions nowMs freshId spawned).1 ≠ .error ⟨409, "self_test_already_running"⟩
  stop_answer : s.stop.1 ≠ some (.error ⟨500, "self_test_stop_failed"⟩)

/-- The worker leaves a good result, and one that was told to stop leaves it to the `stop` that told it. -/
def clean : WorkerEnd → Bool
  | .notBuilt => false
  | .ran lifecycle teardown => teardown && (lifecycle != .stopped || s.stopping)

def orderly : Op → Bool
  | .workerEnds finish => s.clean finish
  | _ => true

/-- The worker's result is good and nobody has taken it; the worker works on the session of the self test,
    and with no worker running and nobody waiting for one the session is over. -/
structure Healthy : Prop where
  runner : s.runnerActive = true → ∃ runtime, s.active = some runtime ∧ runtime.done = none
  session : ∀ runtime, s.active = some runtime →
    ∃ session, s.session.session = some session ∧ session.id = runtime.sessionId
  result : ∀ runtime, s.active = some runtime →
    runtime.terminalResult = none ∧ ∀ result, runtime.done = some result → result = .ok ()
  waiting : s.stopping = true → ∃ runtime, s.active = some runtime
  ended : s.Settled → ∀ session, s.session.session = some session → session.checkpoint.isTerminal = true

section Session

variable {test : RoundTripSelfTest} {session : RoundTripSelfTest.Session}

theorem fail_session (hs : test.session = some session) (error : RoundTripErrorCode) :
    ∃ session', (test.fail session.id error).2.session = some session' ∧ session'.id = session.id
      ∧ session'.checkpoint.isTerminal = true := by
  unfold RoundTripSelfTest.fail RoundTripSelfTest.activeSession
  rw [hs]
  simp only [ne_eq, not_true_eq_false, if_false]
  cases hover : session.checkpoint.isTerminal with
  | true => exact ⟨session, hs, rfl, hover⟩
  | false => exact ⟨_, rfl, rfl, rfl⟩

theorem stop_session (hs : test.session = some session) :
    ∃ session', (test.stop session.id).2.session = some session' ∧ session'.id = session.id
      ∧ session'.checkpoint.isTerminal = true := by
  unfold RoundTripSelfTest.stop
  rw [hs]
  simp only [ne_eq, not_true_eq_false, false_or]
  cases hover : session.checkpoint.isTerminal with
  | true => exact ⟨session, hs, rfl, hover⟩
  | false => exact ⟨_, rfl, rfl, rfl⟩

/-- A session that completes is over. -/
theorem advance_session {id : Uuid} {u : Unit} {test' : RoundTripSelfTest}
    (h : test.advance id .completed .default = (.ok u, test')) :
    ∃ session', test'.session = some session' ∧ session'.id = id
      ∧ session'.checkpoint.isTerminal = true := by
  rcases test.onActive_cases id fun s => s.advance .completed .default with
    ⟨error, hrefused⟩ | ⟨before, session', hs, hid, hactive, hcall, hdone⟩
  · cases hrefused.symm.trans h
  · cases hdone.symm.trans h
    unfold RoundTripSelfTest.Session.advance at hcall
    split at hcall
    · cases hcall
    · cases hcall
      exact ⟨_, rfl, hid, rfl⟩

/-- A progress call leaves the session where it is, and leaves it over when it was over. -/
theorem progress_session (hs : test.session = some session) (call : ProgressCall) :
    ∃ session', (test.apply call.op).2.session = some session' ∧ session'.id = session.id
      ∧ (session.checkpoint.isTerminal = true → session'.checkpoint.isTerminal = true) := by
  have hstart : ∀ id, (test.apply call.op).1 ≠ .started (.ok id) := by
    intro id
    cases call <;> intro h <;> cases h
  cases hover : session.checkpoint.isTerminal with
  | true =>
    obtain ⟨session', hs', hid, hcheckpoint⟩ :=
      RoundTripSelfTest.terminal_turn (RoundTripSelfTest.apply_turn test call.op) hs hover hstart
    exact ⟨session', hs', hid, fun _ => by rw [hcheckpoint, hover]⟩
  | false =>
    have hturn := RoundTripSelfTest.apply_turn test call.op
    generalize (test.apply call.op).1 = answer at hturn hstart
    generalize (test.apply call.op).2 = test' at hturn
    generalize call.op = op at hturn
    cases hturn with
    | refused => exact ⟨session, hs, rfl, by intro h; cases h⟩
    | started _ _ id => exact absurd rfl (hstart id)
    | advanced before _ _ hbefore =>
      cases hbefore.symm.trans hs
      exact ⟨_, rfl, rfl, by intro h; cases h⟩
    | counted before _ hbefore =>
      cases hbefore.symm.trans hs
      exact ⟨_, rfl, rfl, by intro h; cases h⟩
    | proved before _ hbefore =>
      cases hbefore.symm.trans hs
      exact ⟨_, rfl, rfl, by intro h; cases h⟩
    | noted before _ _ hbefore =>
      cases hbefore.symm.trans hs
      exact ⟨_, rfl, rfl, by intro h; cases h⟩
    | ended _ before _ _ hbefore =>
      cases hbefore.symm.trans hs
      exact ⟨_, rfl, rfl, by intro h; cases h⟩

theorem progress_none (hs : test.session = none) (call : ProgressCall) :
    (test.apply call.op).2.session = none := by
  cases call <;> simp [ProgressCall.op, RoundTripSelfTest.apply, RoundTripSelfTest.advance,
    RoundTripSelfTest.setExactPcmProof, RoundTripSelfTest.recordRecursionTrigger,
    RoundTripSelfTest.fail, RoundTripSelfTest.onActive, RoundTripSelfTest.activeSession, hs]

end Session

/-! ### Starting -/

section Start

variable {s : RoundTripRuntimeHandle}

theorem healthy_new (gate : AudioOperationGate) : Healthy (new gate) where
  runner h := by cases h
  session _ h := by cases h
  result _ h := by cases h
  waiting h := by cases h
  ended _ _ h := by cases h

/-- No worker is known and the session is over. -/
structure Free (s : RoundTripRuntimeHandle) : Prop where
  runner : s.runnerActive = false
  active : s.active = none
  stopping : s.stopping = false
  ended : ∀ session, s.session.session = some session → session.checkpoint.isTerminal = true

theorem healthy_free (h : Free s) : Healthy s where
  runner hrunner := absurd (h.runner.symm.trans hrunner) Bool.false_ne_true
  session runtime hr := by cases h.active.symm.trans hr
  result runtime hr := by cases h.active.symm.trans hr
  waiting hstop := absurd (h.stopping.symm.trans hstop) Bool.false_ne_true
  ended _ := h.ended

theorem validatePreconditions_ne (preconditions : RoundTripPreconditions) :
    validatePreconditions preconditions ≠ .error .alreadyRunning := by
  unfold validatePreconditions
  split
  · simp
  · split
    · simp
    · split
      · simp
      · split <;> simp

theorem mapPreconditionError_ne {error : RoundTripErrorCode} (h : error ≠ .alreadyRunning) :
    mapPreconditionError error ≠ ⟨409, "self_test_already_running"⟩ := by
  cases error <;> first | exact absurd rfl h | decide

theorem session_start (h : Free s) (preconditions : RoundTripPreconditions) (nowMs : Nat)
    (freshId : Uuid) :
    s.session.start preconditions nowMs freshId
      = match validatePreconditions preconditions with
        | .error error => (.error error, s.session)
        | .ok () =>
          (.ok freshId, ⟨some ⟨freshId, nowMs, .waitingForSpeech, 0, .default, none, none, none⟩⟩) := by
  have hover : (s.session.session.any fun session => !session.checkpoint.isTerminal) = false := by
    cases hs : s.session.session with
    | none => rfl
    | some session => simp [h.ended session hs]
  rw [RoundTripSelfTest.start, hover]
  cases validatePreconditions preconditions <;> rfl

/-- A session that was started and fails at once. -/
theorem free_started (h : Free s) (preconditions : RoundTripPreconditions) (nowMs : Nat)
    (freshId : Uuid) (gate : AudioOperationGate) :
    Free ({ s with
      session := ⟨some ⟨freshId, nowMs, .waitingForSpeech, 0, .default, none, none, none⟩⟩
      preconditions := some preconditions
      gate := gate }.failSession freshId .runtimeFailed) := by
  refine ⟨h.runner, h.active, h.stopping, fun session hs => ?_⟩
  obtain ⟨session', hs', -, hover⟩ :=
    @fail_session ⟨some ⟨freshId, nowMs, .waitingForSpeech, 0, .default, none, none, none⟩⟩ _ rfl
      .runtimeFailed
  cases hs'.symm.trans hs
  exact hover

/-- What a `start` can come to when no worker is known. -/
theorem startSession_free (h : Free s) (preconditions : RoundTripPreconditions) (nowMs : Nat)
    (freshId : Uuid) (spawned : Bool) :
    Healthy (s.startSession preconditions nowMs freshId spawned).2
      ∧ (s.startSession preconditions nowMs freshId spawned).2.stopping = false
      ∧ (s.startSession preconditions nowMs freshId spawned).1
          ≠ .error ⟨409, "self_test_already_running"⟩
      ∧ (validatePreconditions preconditions = .ok () → s.gate.state = .idle →
          s.gate.generation + 1 < 2 ^ 64 → spawned = true →
          ∃ status, (s.startSession preconditions nowMs freshId spawned).1 = .ok status) := by
  unfold startSession
  simp only [session_start h]
  cases hvalid : validatePreconditions preconditions with
  | error error =>
    refine ⟨healthy_free ⟨h.runner, h.active, h.stopping, h.ended⟩, h.stopping, fun heq => ?_, nofun⟩
    have hne : error ≠ .alreadyRunning := by
      rintro rfl
      exact validatePreconditions_ne preconditions hvalid
    exact mapPreconditionError_ne hne (Except.error.inj heq)
  | ok u =>
    dsimp only
    rcases hacquire : s.gate.acquire (.humanRoundTrip freshId) with ⟨result, gate⟩
    cases result with
    | error error =>
      dsimp only
      refine ⟨healthy_free (free_started h preconditions nowMs freshId s.gate), h.stopping,
        by simp, ?_⟩
      intro _ hidle hgen
      rw [AudioOperationGate.acquire, hidle] at hacquire
      dsimp only at hacquire
      rw [if_pos hgen] at hacquire
      cases hacquire
    | ok lease =>
      unfold runnerStart
      cases spawned with
      | false =>
        simp only [h.runner, Bool.not_false, Bool.or_true, if_true]
        exact ⟨healthy_free (h.runner ▸ free_started h preconditions nowMs freshId (gate.release lease)),
          h.stopping, by simp, nofun⟩
      | true =>
        simp only [h.runner, Bool.not_true, Bool.or_self, Bool.false_eq_true, if_false]
        refine ⟨⟨fun _ => ⟨_, rfl, rfl⟩, ?_, ?_, ?_, ?_⟩, h.stopping, by simp, fun _ _ _ _ => ⟨_, rfl⟩⟩
        · rintro _ ⟨⟩
          exact ⟨_, rfl, rfl⟩
        · rintro _ ⟨⟩
          exact ⟨rfl, nofun⟩
        · exact fun _ => ⟨_, rfl⟩
        · intro hsettled
          cases hsettled.2 _ rfl

/-- Reaping lets a worker go that has finished, and leaves one that has not. -/
theorem reapFinished_cases (h : Healthy s) (hstop : s.stopping = false) :
    (Free s.reapFinished ∧ s.reapFinished.gate = s.gate)
      ∨ (s.reapFinished = s ∧ ∃ runtime, s.active = some runtime ∧ runtime.isFinished = false) := by
  unfold reapFinished
  cases hactive : s.active with
  | none =>
    left
    refine ⟨⟨?_, hactive, hstop, h.ended ⟨hstop, fun _ hr => by cases hactive.symm.trans hr⟩⟩, rfl⟩
    rw [← Bool.not_eq_true]
    intro hrunner
    obtain ⟨runtime, hr, -⟩ := h.runner hrunner
    cases hactive.symm.trans hr
  | some runtime =>
    obtain ⟨hterminal, hgood⟩ := h.result runtime hactive
    cases hdone : runtime.done with
    | none =>
      right
      simp [ProcessActiveRoundTrip.isFinished, hdone]
    | some result =>
      left
      obtain rfl := hgood result hdone
      simp only [ProcessActiveRoundTrip.isFinished, hdone, Option.isSome_some, if_true,
        ProcessActiveRoundTrip.stop, hterminal, and_true]
      refine ⟨?_, rfl, hstop, h.ended ⟨hstop, fun other hr => ?_⟩⟩
      · rw [← Bool.not_eq_true]
        intro hrunner
        obtain ⟨other, hr, hrunning⟩ := h.runner hrunner
        cases hactive.symm.trans hr
        cases hdone.symm.trans hrunning
      · cases hactive.symm.trans hr
        simp [ProcessActiveRoundTrip.isFinished, hdone]

theorem healthy_start (h : Healthy s) (hstop : s.stopping = false)
    (preconditions : RoundTripPreconditions) (nowMs : Nat) (freshId : Uuid) (spawned : Bool) :
    Healthy (s.start preconditions nowMs freshId spawned).2 := by
  unfold start
  rcases reapFinished_cases h hstop with ⟨hfree, -⟩ | ⟨hsame, runtime, hactive, -⟩
  · simp only [hfree.active, Option.isSome_none, Bool.false_eq_true, if_false]
    exact (startSession_free hfree preconditions nowMs freshId spawned).1
  · simp only [hsame, hactive, Option.isSome_some, if_true]
    exact h

end Start

/-! ### Stopping -/

section Stop

variable {s : RoundTripRuntimeHandle} {runtime : ProcessActiveRoundTrip}

/-- A `stop` that gets a good result lets the worker go, and its session is over. -/
theorem stopped_ok (h : Healthy s) (hactive : s.active = some runtime) {r : Except _ Unit}
    (hdone : runtime.done = some r) (other : ProcessActiveRoundTrip) :
    Free ({ s with stopping := false }.stopped (.ok ()) other).2
      ∧ ∃ status, ({ s with stopping := false }.stopped (.ok ()) other).1 = .ok status := by
  have hrunner : s.runnerActive = false := by
    rw [← Bool.not_eq_true]
    intro hrunner
    obtain ⟨running, hr, hnone⟩ := h.runner hrunner
    cases hactive.symm.trans hr
    cases hdone.symm.trans hnone
  obtain ⟨session, hs, -⟩ := h.session runtime hactive
  obtain ⟨session', hs', -, hover⟩ := stop_session hs
  simp only [stopped, RoundTripSelfTest.status, hs]
  refine ⟨⟨hrunner, rfl, rfl, fun live hlive => ?_⟩, _, rfl⟩
  cases hs'.symm.trans hlive
  exact hover

/-- Waiting for the worker, or having waited in vain. -/
theorem healthy_waiting (h : Healthy s) (hactive : s.active = some runtime)
    (hrunning : runtime.done = none) (stopping : Bool) :
    Healthy { s with active := some { runtime with stopSent := true }, stopping := stopping } where
  runner _ := ⟨_, rfl, hrunning⟩
  session := by
    rintro _ ⟨⟩
    exact h.session runtime hactive
  result := by
    rintro _ ⟨⟩
    exact h.result runtime hactive
  waiting _ := ⟨_, rfl⟩
  ended hsettled := by
    have hfinished := hsettled.2 _ rfl
    simp [ProcessActiveRoundTrip.isFinished, hrunning] at hfinished

theorem healthy_stop (h : Healthy s) (hstop : s.stopping = false) :
    Healthy s.stop.2 ∧ s.stop.1 ≠ some (.error ⟨500, "self_test_stop_failed"⟩) := by
  unfold stop
  cases hactive : s.active with
  | none => exact ⟨h, by simp⟩
  | some runtime =>
    obtain ⟨hterminal, hgood⟩ := h.result runtime hactive
    cases hdone : runtime.done with
    | none =>
      simp only [ProcessActiveRoundTrip.stop_running hterminal hdone]
      exact ⟨healthy_waiting h hactive hdone true, by simp⟩
    | some result =>
      obtain rfl := hgood result hdone
      simp only [ProcessActiveRoundTrip.stop_finished hterminal hdone]
      obtain ⟨hfree, status, hstatus⟩ := stopped_ok h hactive hdone
        { runtime with stopSent := true, terminalResult := some (.ok ()) }
      rw [← hstop] at hfree hstatus
      exact ⟨healthy_free hfree, by simp [hstatus]⟩

theorem healthy_stopReturns (h : Healthy s) (hstop : s.stopping = true) : Healthy s.stopReturns.2 := by
  obtain ⟨runtime, hactive⟩ := h.waiting hstop
  obtain ⟨hterminal, hgood⟩ := h.result runtime hactive
  unfold stopReturns
  simp only [hactive]
  cases hdone : runtime.done with
  | none =>
    simp only [ProcessActiveRoundTrip.stop_running hterminal hdone]
    exact healthy_waiting h hactive hdone false
  | some result =>
    obtain rfl := hgood result hdone
    simp only [ProcessActiveRoundTrip.stop_finished hterminal hdone]
    have hfree := (stopped_ok h hactive hdone
      { runtime with stopSent := true, terminalResult := some (.ok ()) }).1
    rw [hactive] at hfree
    exact healthy_free hfree

/-- A worker that ends well has ended its session, unless it was told to stop. -/
theorem runRoundTrip_clean {session : RoundTripSelfTest.Session} {finish : WorkerEnd}
    (hs : s.session.session = some session) (hclean : s.clean finish = true) :
    ∃ session' test, s.runRoundTrip session.id finish = (.ok (), { s with session := test })
      ∧ test.session = some session' ∧ session'.id = session.id
      ∧ (s.stopping = false → session'.checkpoint.isTerminal = true) := by
  cases finish with
  | notBuilt => cases hclean
  | ran lifecycle teardown =>
    simp only [clean, Bool.and_eq_true, Bool.or_eq_true, bne_iff_ne] at hclean
    obtain ⟨rfl, hstop⟩ := hclean
    unfold runRoundTrip
    cases lifecycle with
    | drained =>
      rcases hadvance : s.session.advance session.id .completed .default with ⟨result, test⟩
      cases result with
      | error error =>
        obtain ⟨session', hs', hid, hover⟩ := fail_session hs .runtimeFailed
        exact ⟨session', _, rfl, hs', hid, fun _ => hover⟩
      | ok u =>
        obtain ⟨session', hs', hid, hover⟩ := advance_session hadvance
        exact ⟨session', _, rfl, hs', hid, fun _ => hover⟩
    | failed =>
      obtain ⟨session', hs', hid, hover⟩ := fail_session hs .runtimeFailed
      exact ⟨session', _, rfl, hs', hid, fun _ => hover⟩
    | timedOut =>
      obtain ⟨session', hs', hid, hover⟩ := fail_session hs .timeout
      exact ⟨session', _, rfl, hs', hid, fun _ => hover⟩
    | stopped =>
      refine ⟨session, s.session, rfl, hs, rfl, fun hnot => ?_⟩
      rw [hnot] at hstop
      exact absurd rfl (hstop.resolve_right Bool.false_ne_true)

theorem healthy_workerEnds (h : Healthy s) {finish : WorkerEnd} (hclean : s.clean finish = true) :
    Healthy (s.workerEnds finish) := by
  unfold workerEnds
  cases hactive : s.active with
  | none => exact h
  | some runtime =>
    dsimp only
    split
    · exact h
    · obtain ⟨session, hs, hid⟩ := h.session runtime hactive
      obtain ⟨session', test, hrun, hs', hid', hover⟩ := runRoundTrip_clean hs hclean
      rw [← hid, hrun]
      refine ⟨nofun, ?_, ?_, fun _ => ⟨_, rfl⟩, fun hsettled other hother => ?_⟩
      · rintro _ ⟨⟩
        exact ⟨session', hs', hid'⟩
      · rintro _ ⟨⟩
        refine ⟨(h.result runtime hactive).1, ?_⟩
        rintro _ ⟨⟩
        rfl
      · cases hs'.symm.trans hother
        exact hover hsettled.1

end Stop

/-! ### Runs -/

section Runs

variable {s : RoundTripRuntimeHandle}

theorem healthy_progress (h : Healthy s) (call : ProgressCall) :
    Healthy { s with session := (s.session.apply call.op).2 } where
  runner := h.runner
  session runtime hactive := by
    obtain ⟨session, hs, hid⟩ := h.session runtime hactive
    obtain ⟨session', hs', hid', -⟩ := progress_session hs call
    exact ⟨session', hs', hid'.trans hid⟩
  result := h.result
  waiting := h.waiting
  ended hsettled session' hs' := by
    cases hs : s.session.session with
    | none => cases (progress_none hs call).symm.trans hs'
    | some session =>
      obtain ⟨after, hafter, -, hover⟩ := progress_session hs call
      cases hafter.symm.trans hs'
      exact hover (h.ended hsettled session hs)

theorem healthy_gate (h : Healthy s) (gate : AudioOperationGate)
    (production : Option AudioOperationLease) :
    Healthy { s with gate := gate, production := production } :=
  ⟨h.runner, h.session, h.result, h.waiting, h.ended⟩

theorem healthy_apply (h : Healthy s) (op : Op) (hok : s.orderly op = true) :
    Healthy (s.apply op).2 := by
  cases op with
  | start preconditions nowMs freshId spawned =>
    simp only [apply]
    split
    · exact h
    · next hfree => exact healthy_start h (Bool.not_eq_true _ ▸ hfree) preconditions nowMs freshId spawned
  | stop =>
    simp only [apply]
    split
    · exact h
    · next hfree => exact (healthy_stop h (Bool.not_eq_true _ ▸ hfree)).1
  | stopReturns =>
    simp only [apply]
    split
    · next hstop => exact healthy_stopReturns h hstop
    · exact h
  | progress call => exact healthy_progress h call
  | workerEnds finish => exact healthy_workerEnds h hok
  | acquireProduction =>
    simp only [apply]
    split
    · exact healthy_gate h _ _
    · exact h
  | releaseProduction =>
    simp only [apply]
    split
    · exact healthy_gate h _ _
    · exact h
  | beginStopping => exact healthy_gate h _ s.production

theorem usable_of_healthy (h : Healthy s) (hsettled : s.Settled) : Usable s := by
  have hfree : Free s.reapFinished ∧ s.reapFinished.gate = s.gate := by
    rcases reapFinished_cases h hsettled.1 with hfree | ⟨-, runtime, hactive, hrunning⟩
    · exact hfree
    · exact absurd ((hsettled.2 runtime hactive).symm.trans hrunning) Bool.false_ne_true.symm
  have hstart : ∀ preconditions nowMs freshId spawned,
      s.start preconditions nowMs freshId spawned
        = s.reapFinished.startSession preconditions nowMs freshId spawned := by
    intro preconditions nowMs freshId spawned
    simp only [start, hfree.1.active, Option.isSome_none, Bool.false_eq_true, if_false]
  refine ⟨?_, ?_, (healthy_stop h hsettled.1).2⟩
  · intro preconditions nowMs freshId hvalid hidle hgen
    rw [hstart]
    rw [← hfree.2] at hidle hgen
    exact (startSession_free hfree.1 preconditions nowMs freshId true).2.2.2 hvalid hidle hgen rfl
  · intro preconditions nowMs freshId spawned
    rw [hstart]
    exact (startSession_free hfree.1 preconditions nowMs freshId spawned).2.2.1

/-- A handle whose workers all leave a good result, and leave being told to stop to a `stop` that still
    waits, is usable again whenever no worker runs. -/
theorem run_usable (gate : AudioOperationGate) (ops : List Op)
    (hadm : Adm apply (fun s op => s.orderly op = true) (new gate) ops)
    (hsettled : (exec apply (new gate) ops).2.Settled) : (exec apply (new gate) ops).2.Usable := by
  refine usable_of_healthy ?_ hsettled
  exact exec_invariant (I := fun _ (s : RoundTripRuntimeHandle) => Healthy s) (healthy_new gate)
    (fun _ s op h hok => healthy_apply h op hok) ops hadm

def ready : RoundTripPreconditions := ⟨true, true, true, true, true⟩

/-- A round trip that ends by itself, one that is stopped, and one that fails when a stop has given up on
    it. -/
def usedThreeTimes : List Op :=
  [.start ready 0 1 true, .workerEnds (.ran .drained true),
    .start ready 1 2 true, .stop, .workerEnds (.ran .stopped true), .stopReturns,
    .start ready 2 3 true, .stop, .stopReturns, .workerEnds (.ran .failed true)]

theorem run_usable_usedThreeTimes :
    (exec apply (new .new) usedThreeTimes).2.Settled
      ∧ (exec apply (new .new) usedThreeTimes).2.Usable := by
  have hsettled : (exec apply (new .new) usedThreeTimes).2.Settled := by
    refine ⟨by decide, ?_⟩
    intro runtime hactive
    have hall : (exec apply (new .new) usedThreeTimes).2.active.all
        ProcessActiveRoundTrip.isFinished = true := by decide
    rw [hactive] at hall
    exact hall
  exact ⟨hsettled, run_usable .new usedThreeTimes (adm_of_walk (by decide)) hsettled⟩

end Runs

/-! ### Handles that are lost -/

section Lost

variable {s : RoundTripRuntimeHandle}

/-- The worker has left an error. -/
def Failed (s : RoundTripRuntimeHandle) : Prop :=
  s.stopping = false ∧ ∃ runtime, s.active = some runtime ∧ runtime.Failed

/-- The two answers a handle gives that believes its worker to be there. -/
def StillThere (answer : Option Result) : Prop :=
  answer = none ∨ answer = some (.error ⟨409, "self_test_already_running"⟩)
    ∨ answer = some (.error ⟨500, "self_test_stop_failed"⟩)

/-- An error is never got rid of. -/
theorem failed_apply (h : Failed s) (op : Op) :
    Failed (s.apply op).2 ∧ StillThere (s.apply op).1 := by
  have hsame : Failed s := h
  obtain ⟨hstop, runtime, hactive, hfailed⟩ := h
  obtain ⟨error, runtime', hanswer, hfailed'⟩ := ProcessActiveRoundTrip.failed_stop hfailed
  have hfinished : runtime.isFinished = true := ProcessActiveRoundTrip.failed_isFinished hfailed
  cases op with
  | start preconditions nowMs freshId spawned =>
    simp only [apply, hstop, Bool.false_eq_true, if_false, start, reapFinished, hactive, hfinished,
      if_true, hanswer, Option.isSome_some]
    exact ⟨⟨rfl, runtime', rfl, hfailed'⟩, .inr (.inl rfl)⟩
  | stop =>
    simp only [apply, hstop, Bool.false_eq_true, if_false, stop, hactive, hanswer, stopped]
    exact ⟨⟨rfl, runtime', rfl, hfailed'⟩, .inr (.inr rfl)⟩
  | stopReturns =>
    simp only [apply, hstop, Bool.false_eq_true, if_false]
    exact ⟨hsame, .inl rfl⟩
  | progress call => exact ⟨⟨hstop, runtime, hactive, hfailed⟩, .inl rfl⟩
  | workerEnds finish =>
    simp only [apply, workerEnds, hactive, hfinished, Bool.true_or, if_true]
    exact ⟨hsame, .inl rfl⟩
  | acquireProduction =>
    simp only [apply]
    split <;> exact ⟨⟨hstop, runtime, hactive, hfailed⟩, .inl rfl⟩
  | releaseProduction =>
    simp only [apply]
    split <;> exact ⟨⟨hstop, runtime, hactive, hfailed⟩, .inl rfl⟩
  | beginStopping => exact ⟨⟨hstop, runtime, hactive, hfailed⟩, .inl rfl⟩

/-- Once a worker has left an error, the handle answers that it is still there, whatever is called and
    whatever the gate is. -/
theorem failed_run (h : Failed s) (ops : List Op) :
    Failed (exec apply s ops).2 ∧ ∀ entry ∈ (exec apply s ops).1, StillThere entry.2 := by
  refine exec_invariant (I := fun log (s : RoundTripRuntimeHandle) =>
    Failed s ∧ ∀ entry ∈ log, StillThere entry.2) ⟨h, by simp⟩ ?_ ops (adm_true apply s ops)
  rintro log s op ⟨hfailed, hlog⟩ -
  obtain ⟨hafter, hanswer⟩ := failed_apply hfailed op
  refine ⟨hafter, fun entry hentry => ?_⟩
  rcases List.mem_append.mp hentry with hold | hnew
  · exact hlog entry hold
  · rw [List.mem_singleton.mp hnew]
    exact hanswer

/-- The worker is gone and its session is not over. -/
def Abandoned (s : RoundTripRuntimeHandle) : Prop :=
  s.stopping = false ∧ s.active = none
    ∧ ∃ session, s.session.session = some session ∧ session.checkpoint.isTerminal = false

def NotAdmitted (answer : Option Result) : Prop := ∀ status, answer ≠ some (.ok status)

/-- Nobody is left to end the session. -/
theorem abandoned_apply (h : Abandoned s) (op : Op) (hop : ∀ call, op ≠ .progress call) :
    Abandoned (s.apply op).2 ∧ NotAdmitted (s.apply op).1 := by
  unfold NotAdmitted
  have hsame : Abandoned s := h
  obtain ⟨hstop, hactive, session, hs, hlive⟩ := h
  cases op with
  | start preconditions nowMs freshId spawned =>
    have hrefused : s.session.start preconditions nowMs freshId = (.error .alreadyRunning, s.session) := by
      simp [RoundTripSelfTest.start, hs, hlive]
    simp only [apply, hstop, Bool.false_eq_true, if_false, start, reapFinished, hactive,
      Option.isSome_none, startSession, hrefused]
    exact ⟨⟨rfl, rfl, session, hs, hlive⟩, by simp⟩
  | stop =>
    simp only [apply, hstop, Bool.false_eq_true, if_false, stop, hactive]
    exact ⟨hsame, by simp⟩
  | stopReturns =>
    simp only [apply, hstop, Bool.false_eq_true, if_false]
    exact ⟨hsame, by simp⟩
  | progress call => exact absurd rfl (hop call)
  | workerEnds finish =>
    simp only [apply, workerEnds, hactive]
    exact ⟨hsame, by simp⟩
  | acquireProduction =>
    simp only [apply]
    split <;> exact ⟨⟨hstop, hactive, session, hs, hlive⟩, by simp⟩
  | releaseProduction =>
    simp only [apply]
    split <;> exact ⟨⟨hstop, hactive, session, hs, hlive⟩, by simp⟩
  | beginStopping => exact ⟨⟨hstop, hactive, session, hs, hlive⟩, by simp [apply]⟩

theorem abandoned_run (h : Abandoned s) (ops : List Op) (hops : ∀ op ∈ ops, ∀ call, op ≠ .progress call) :
    Abandoned (exec apply s ops).2
      ∧ ∀ entry ∈ (exec apply s ops).1, NotAdmitted entry.2 := by
  refine exec_invariant (I := fun log (s : RoundTripRuntimeHandle) =>
    Abandoned s ∧ ∀ entry ∈ log, NotAdmitted entry.2) ⟨h, by simp⟩ ?_ ops
    (show Adm apply (fun _ op => ∀ call, op ≠ .progress call) s ops from
      adm_of_forall fun op hop _ => hops op hop)
  rintro log s op ⟨habandoned, hlog⟩ hop
  obtain ⟨hafter, hanswer⟩ := abandoned_apply habandoned op hop
  refine ⟨hafter, fun entry hentry => ?_⟩
  rcases List.mem_append.mp hentry with hold | hnew
  · exact hlog entry hold
  · rw [List.mem_singleton.mp hnew]
    exact hanswer

/-- The teardown of a worker fails. -/
def teardownFails : List Op := [.start ready 0 1 true, .workerEnds (.ran .failed false)]

/-- The gate is idle and no worker runs, but from now on nothing is admitted and nothing can be stopped. -/
theorem teardownFails_lost :
    ¬ (∀ ops, (exec apply (new .new) ops).2.Settled → (exec apply (new .new) ops).2.Usable)
      ∧ (exec apply (new .new) teardownFails).2.gate.state = .idle
      ∧ ∀ ops, ∀ entry ∈ (exec apply (exec apply (new .new) teardownFails).2 ops).1,
          StillThere entry.2 := by
  have hstate : (exec apply (new .new) teardownFails).2
      = (((new .new).apply (.start ready 0 1 true)).2.apply (.workerEnds (.ran .failed false))).2 := rfl
  have hfailed : Failed (exec apply (new .new) teardownFails).2 :=
    ⟨by decide, _, by rw [hstate]; rfl, ⟨_, rfl⟩, by rintro _ ⟨⟩⟩
  refine ⟨fun h => ?_, by decide, fun ops => (failed_run hfailed ops).2⟩
  have husable := h teardownFails ⟨by decide, ?_⟩
  · exact husable.stop_answer (by decide)
  · rintro _ ⟨⟩
    rfl

/-- A stop gives up, and the worker then ends as it was told to. The next start lets the worker go. -/
def stopGivesUp : List Op :=
  [.start ready 0 1 true, .stop, .stopReturns, .workerEnds (.ran .stopped true),
    .start ready 1 2 true]

/-- Nothing runs, and nothing is admitted any more. -/
theorem stopGivesUp_lost :
    (exec apply (new .new) stopGivesUp).2.Settled
      ∧ (exec apply (new .new) stopGivesUp).2.gate.state = .idle
      ∧ ∀ ops, (∀ op ∈ ops, ∀ call, op ≠ .progress call) →
          ∀ entry ∈ (exec apply (exec apply (new .new) stopGivesUp).2 ops).1, NotAdmitted entry.2 := by
  have hactive : (exec apply (new .new) stopGivesUp).2.active = none := by decide
  have habandoned : Abandoned (exec apply (new .new) stopGivesUp).2 :=
    ⟨by decide, hactive, _, rfl, by decide⟩
  refine ⟨⟨by decide, fun runtime hr => ?_⟩, by decide, fun ops hops => ?_⟩
  · cases hactive.symm.trans hr
  · exact (abandoned_run habandoned ops hops).2

end Lost


end RoundTripRuntimeHandle

end Translator.Control
