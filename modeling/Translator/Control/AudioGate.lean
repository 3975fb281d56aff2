import Translator.Control.Api

/-! One audio operation at a time: `AudioOperationGate` and its two clients, the handle of the
    production runtime and the handle of the human round trip.

    A runtime is a handle on worker threads, and `stop` waits for them only so long. The production
    handle drops its lease when a stop fails; the round-trip handle keeps its runtime, and the lease
    goes when the worker tears down, whether or not the duplex runtime inside it has stopped. So the
    model keeps the workers apart from the handles: `orphans` and `strays` count those that run on
    with nobody left to wait for them. What the self test makes of its preconditions, whether a
    runner starts and what comes of a stop are part of the operation. -/

namespace Translator.Control
open Schemes Core
open Wire (Uuid)

inductive AudioOperationState where
  | idle
  | production
  | humanRoundTrip (sessionId : Uuid)
  | stopping
  deriving DecidableEq, Repr

inductive AudioOperationAdmissionError where
  | busy (state : AudioOperationState)
  | stopping
  | generationExhausted
  deriving DecidableEq, Repr

structure AudioOperationGate where
  state : AudioOperationState
  generation : Nat
  deriving DecidableEq, Repr

structure AudioOperationLease where
  expectedState : AudioOperationState
  generation : Nat
  active : Bool
  deriving DecidableEq, Repr

namespace AudioOperationGate

def new : AudioOperationGate := ⟨.idle, 0⟩

variable (gate : AudioOperationGate)

/-- `acquire`: `checked_add` on a `u64`. -/
def acquire (requestedState : AudioOperationState) :
    Except AudioOperationAdmissionError AudioOperationLease × AudioOperationGate :=
  match gate.state with
  | .idle =>
    if gate.generation + 1 < 2 ^ 64 then
      (.ok ⟨requestedState, gate.generation + 1, true⟩, ⟨requestedState, gate.generation + 1⟩)
    else (.error .generationExhausted, gate)
  | .stopping => (.error .stopping, gate)
  | state => (.error (.busy state), gate)

def beginStopping : AudioOperationGate :=
  if gate.state ≠ .stopping then ⟨.stopping, min (gate.generation + 1) (2 ^ 64 - 1)⟩ else gate

/-- `release`, also what dropping a lease does. -/
def release (lease : AudioOperationLease) : AudioOperationGate :=
  if lease.active ∧ gate.generation = lease.generation ∧ gate.state = lease.expectedState then
    { gate with state := .idle }
  else gate

/-- The lease is the one the gate was last acquired with. -/
def Holds (lease : AudioOperationLease) : Prop :=
  lease.active = true ∧ (gate.state = .stopping
    ∨ gate.state = lease.expectedState ∧ gate.generation = lease.generation)

variable {gate} {lease other : AudioOperationLease} {requested : AudioOperationState}

theorem acquire_ok {gate' : AudioOperationGate} (h : gate.acquire requested = (.ok lease, gate')) :
    gate.state = .idle ∧ gate'.state = requested ∧ lease.expectedState = requested
      ∧ gate'.Holds lease := by
  unfold acquire at h
  split at h
  · next hidle =>
    split at h
    · cases h; exact ⟨hidle, rfl, rfl, rfl, .inr ⟨rfl, rfl⟩⟩
    · cases h
  · cases h
  · cases h

theorem acquire_error {gate' : AudioOperationGate} {error : AudioOperationAdmissionError}
    (h : gate.acquire requested = (.error error, gate')) : gate' = gate := by
  unfold acquire at h
  split at h
  · split at h <;> cases h
    rfl
  · cases h; rfl
  · cases h; rfl

end AudioOperationGate

/-- What comes of stopping a runtime. -/
inductive StopOutcome where
  | stopped
  /-- The worker has ended, with an error. -/
  | failed
  /-- The worker did not end in time and runs on. -/
  | timedOut
  deriving DecidableEq, Repr

/-- What a round trip leaves when it tears down: whether that went well, and whether the duplex runtime
    inside it runs on. -/
structure Teardown where
  clean : Bool
  duplexRunsOn : Bool
  /-- A duplex runtime that runs on has failed to stop. -/
  runs_on : duplexRunsOn = true → clean = false
  deriving DecidableEq

/-- What comes of stopping a round trip. -/
inductive RoundTripStop where
  | tornDown (teardown : Teardown)
  | timedOut
  deriving DecidableEq

/-- `ActiveProductionRuntime`, as far as the gate is concerned; a bypass has no worker. -/
structure ProductionOperation where
  running : Bool
  lease : AudioOperationLease

/-- `ProcessActiveRoundTrip` with its worker; the lease is in the worker's hands. -/
structure RoundTripOperation where
  running : Bool
  lease : AudioOperationLease
  terminalResult : Bool

structure AudioOperations where
  gate : AudioOperationGate
  /-- `active` of the `DuplexRuntimeHandle`. -/
  production : Option ProductionOperation
  /-- `active` of the `RoundTripRuntimeHandle`. -/
  roundTrip : Option RoundTripOperation
  /-- Production workers that run on after their handle let go of them. -/
  orphans : Nat
  /-- Duplex workers of round trips that are over. -/
  strays : Nat

/-- The runner an operation called: the operation was admitted. -/
inductive Admitted where | production | roundTrip
  deriving DecidableEq, Repr

/-- What a call comes to: whom it admitted, and its answer. -/
structure Call where
  admitted : Option Admitted
  result : Except ControlFailure Unit
  deriving DecidableEq

namespace AudioOperations

def idle : AudioOperations := ⟨.new, none, none, 0, 0⟩

variable (s : AudioOperations)

/-- The call is refused before any runner is reached. -/
def refuse (status : Nat) (code : String) : Call × AudioOperations :=
  (⟨none, .error ⟨status, code⟩⟩, s)

/-! ### The production handle -/

/-- `DuplexRuntimeHandle::start`; `spawn` is what the runner comes to and whether it has a worker. -/
def startProduction (spawn : Except DuplexRuntimeError Bool) : Call × AudioOperations :=
  if s.production.isSome then s.refuse 409 "translation_already_running"
  else
    match s.gate.acquire .production with
    | (.error _, _) => s.refuse 409 "audio_operation_busy"
    | (.ok lease, gate) =>
      match spawn with
      | .error error =>
        (⟨some .production, .error (startFailure error)⟩, { s with gate := gate.release lease })
      | .ok running =>
        (⟨some .production, .ok ()⟩,
          { s with gate := gate, production := some ⟨running, lease⟩ })

/-- `DuplexRuntimeHandle::stop`: the runtime is taken out and goes, with its lease, whatever comes of
    the stop. A worker that has ended has left its result. -/
def stopProduction (outcome : StopOutcome) : Call × AudioOperations :=
  match s.production with
  | none => s.refuse 409 "translation_not_running"
  | some runtime =>
    let s := { s with production := none, gate := s.gate.release runtime.lease }
    if runtime.running then
      match outcome with
      | .stopped => (⟨none, .ok ()⟩, s)
      | .failed => s.refuse 409 "translation_not_running"
      | .timedOut => { s with orphans := s.orphans + 1 }.refuse 409 "translation_not_running"
    else if outcome = .failed then s.refuse 409 "translation_not_running"
    else (⟨none, .ok ()⟩, s)

/-! ### The round-trip handle -/

/-- `RoundTripResources::teardown` at the end of the worker: the lease is given back in any case. -/
def tearDown (runtime : RoundTripOperation) (teardown : Teardown) : AudioOperations :=
  { s with
    gate := s.gate.release runtime.lease
    roundTrip := some ⟨false, { runtime.lease with active := false }, teardown.clean⟩
    strays := s.strays + if teardown.duplexRunsOn then 1 else 0 }

/-- `reap_finished`: a worker that has ended is dropped when it ended well. -/
def reapFinished : AudioOperations :=
  match s.roundTrip with
  | some ⟨false, _, true⟩ => { s with roundTrip := none }
  | _ => s

/-- `RoundTripRuntimeHandle::start`; `session` is what the self test says to the preconditions. -/
def startRoundTrip (session : Except String Uuid) (spawn : Bool) : Call × AudioOperations :=
  let s := s.reapFinished
  if s.roundTrip.isSome then s.refuse 409 "self_test_already_running"
  else
    match session with
    | .error code => s.refuse 409 code
    | .ok sessionId =>
      match s.gate.acquire (.humanRoundTrip sessionId) with
      | (.error _, _) => s.refuse 409 "audio_operation_busy"
      | (.ok lease, gate) =>
        if spawn then
          (⟨some .roundTrip, .ok ()⟩,
            { s with gate := gate, roundTrip := some ⟨true, lease, false⟩ })
        else
          (⟨some .roundTrip, .error ⟨503, "self_test_start_failed"⟩⟩,
            { s with gate := gate.release lease })

/-- `RoundTripRuntimeHandle::stop`: the runtime is let go only when it has stopped well. -/
def stopRoundTrip (outcome : RoundTripStop) : Call × AudioOperations :=
  match s.roundTrip with
  | none => s.refuse 409 "self_test_not_running"
  | some runtime =>
    if runtime.running then
      match outcome with
      | .timedOut => s.refuse 500 "self_test_stop_failed"
      | .tornDown teardown =>
        let s := s.tearDown runtime teardown
        if teardown.clean then (⟨none, .ok ()⟩, { s with roundTrip := none })
        else s.refuse 500 "self_test_stop_failed"
    else if runtime.terminalResult then (⟨none, .ok ()⟩, { s with roundTrip := none })
    else s.refuse 500 "self_test_stop_failed"

/-! ### Steps -/

inductive Op where
  | startProduction (spawn : Except DuplexRuntimeError Bool)
  | stopProduction (outcome : StopOutcome)
  | startRoundTrip (session : Except String Uuid) (spawn : Bool)
  | stopRoundTrip (outcome : RoundTripStop)
  /-- Workers end by themselves. -/
  | productionEnds
  | roundTripEnds (teardown : Teardown)
  | orphanEnds
  | strayEnds
  /-- The daemon begins to shut down. -/
  | beginStopping

/-- What is not a call is answered with nothing. -/
def silent : Call := ⟨none, .ok ()⟩

def apply : Op → Call × AudioOperations
  | .startProduction spawn => s.startProduction spawn
  | .stopProduction outcome => s.stopProduction outcome
  | .startRoundTrip session spawn => s.startRoundTrip session spawn
  | .stopRoundTrip outcome => s.stopRoundTrip outcome
  | .productionEnds =>
    (silent, { s with production := s.production.map fun runtime => { runtime with running := false } })
  | .roundTripEnds teardown =>
    match s.roundTrip with
    | some runtime => (silent, if runtime.running then s.tearDown runtime teardown else s)
    | none => (silent, s)
  | .orphanEnds => (silent, { s with orphans := s.orphans - 1 })
  | .strayEnds => (silent, { s with strays := s.strays - 1 })
  | .beginStopping => (silent, { s with gate := s.gate.beginStopping })

/-! ### One operation at a time -/

/-- A production runtime that has not stopped is still there. -/
def ProductionLives : Prop := (∃ runtime, s.production = some runtime ∧ runtime.running) ∨ 0 < s.orphans

/-- A round trip that has not stopped is still there. -/
def RoundTripLives : Prop := (∃ runtime, s.roundTrip = some runtime ∧ runtime.running) ∨ 0 < s.strays

/-- The step admits nothing that another living operation excludes. -/
def Exclusive (op : Op) : Prop :=
  ((s.apply op).1.admitted = some .roundTrip → ¬ s.ProductionLives)
    ∧ ((s.apply op).1.admitted = some .production → ¬ s.RoundTripLives)

variable {s} {op : Op} {lease : AudioOperationLease}

end AudioOperations

end Translator.Control
