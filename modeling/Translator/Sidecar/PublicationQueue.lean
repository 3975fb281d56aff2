import Translator.Schemes.KeyedMap
import Translator.Sidecar.Messages

/-! The queue of publications of a session: what waits to be published, and the one publication in flight
    with the task that publishes it.

    The counters stand beside the queue as the code keeps them, and next to the fields of `_Session` what
    has become of every publication that was appended. -/

namespace Translator.Sidecar
open Schemes
open Wire (Uuid)

def maxPendingEvents : Nat := 64
def terminalReservedEvents : Nat := 3
def maxQueuedAudioMs : Nat := 1200

/-- `_Publication`, with what its `build` closes over. -/
inductive Publication where
  | debug (utterance : UtteranceRef) (source translation : String)
  | audio (utterance : UtteranceRef) (sequence : Nat) (pcm : List UInt8)
  | completed (utterance : UtteranceRef) (asrMs mtMs : Nat) (ttsMs : Option Nat)
  | dropped (utterance : UtteranceRef) (code : SafeErrorCode) (asrMs mtMs ttsMs : Option Nat)
  | cancelled (utterance : UtteranceRef)
  | session
  deriving DecidableEq

namespace Publication

def eventCount : Publication → Nat
  | debug .. => 2
  | audio .. => 1
  | completed .. => 2
  | dropped .. => 3
  | cancelled .. => 1
  | session => 1

def utterance? : Publication → Option UtteranceRef
  | debug u .. | audio u .. | completed u .. | dropped u .. | cancelled u => some u
  | session => none

/-- The publication is about `id`. -/
def isOf (id : Uuid) (p : Publication) : Bool := (p.utterance?.map (·.utteranceId)) = some id

def audioMs (format : PcmFormat) : Publication → Nat
  | audio .. => format.frameDurationMs
  | _ => 0

def isDebug : Publication → Bool
  | debug .. => true
  | _ => false

/-- `_elapsed_ms`. -/
def elapsedMs (nowNs captureOnsetNs : Nat) : Nat := (nowNs - captureOnsetNs) / 1000000

/-- `_latency`. -/
def latency (u : UtteranceRef) (asrMs mtMs ttsMs : Option Nat) (nowNs : Nat) : Body :=
  .latency u asrMs mtMs ttsMs (elapsedMs nowNs u.captureOnsetNs)

/-- `build`: the events, in the order in which they take their sequence numbers. The last audio of
    the utterance is read when the publication is built. -/
def bodies (lastAudio : Uuid → Option Nat) (nowNs : Nat) : Publication → List Body
  | debug u source translation => [.transcriptDelta u source, .translationDelta u translation]
  | audio u sequence pcm => [.audioDelta u sequence nowNs pcm]
  | completed u asrMs mtMs ttsMs =>
    [latency u (some asrMs) (some mtMs) ttsMs nowNs,
      .utteranceFinal u (lastAudio u.utteranceId) .completed]
  | dropped u code asrMs mtMs ttsMs =>
    [latency u asrMs mtMs ttsMs nowNs, .error u code,
      .utteranceFinal u (lastAudio u.utteranceId) .dropped]
  | cancelled u => [.utteranceFinal u (lastAudio u.utteranceId) .cancelled]
  | session => [.sessionClosed]

end Publication

/-- Number the events after the last one. -/
def numbered (last : Nat) : List Body → List LocalProviderEvent
  | [] => []
  | body :: rest => ⟨last + 1, body⟩ :: numbered (last + 1) rest

/-- A publication that was appended to the queue, known by its number. -/
structure Queued where
  number : Nat
  publication : Publication
  audioMs : Nat
  deriving DecidableEq

inductive PublishState where
  /-- Not run yet, or at `event_drained.wait()`. -/
  | waiting
  /-- `cancel` was called: its next step is the last one. -/
  | cancelling
  | committed
  | failed
  | cancelled
  deriving DecidableEq, Repr

/-- `Task.done`. -/
def PublishState.done : PublishState → Bool
  | .waiting | .cancelling => false
  | .committed | .failed | .cancelled => true

/-- A task of `publish_local`. -/
structure PublishTask where
  queued : Queued
  batch : List LocalProviderEvent
  state : PublishState
  deriving DecidableEq

/-- The fields of `_Session` about its publications. -/
structure PublicationQueue where
  pendingPublications : List Queued
  pendingAudioMs : Int
  pendingEventCount : Int
  inFlight : Option Queued
  inFlightBatchSize : Nat
  inFlightTask : Option PublishTask
  inFlightCancelled : Bool
  inFlightCommitted : Bool
  /-- `last_audio_sequence` of every utterance there has been. -/
  lastAudioSequence : Table Uuid Nat
  /-- How many publications were appended, those purged before they were published, those put on the
      wire with the events they came to, and those whose commit went through. -/
  appended : Nat
  purged : List Nat
  sent : List (Queued × List LocalProviderEvent)
  succeeded : List Nat

namespace PublicationQueue

def empty : PublicationQueue where
  pendingPublications := []
  pendingAudioMs := 0
  pendingEventCount := 0
  inFlight := none
  inFlightBatchSize := 0
  inFlightTask := none
  inFlightCancelled := false
  inFlightCommitted := false
  lastAudioSequence := ∅
  appended := 0
  purged := []
  sent := []
  succeeded := []

variable (q : PublicationQueue)

/-- The events that wait or are in flight. -/
def pendingEvents : Int := q.pendingEventCount + q.inFlightBatchSize

/-- `in_flight_ms`. -/
def inFlightMs : Nat := (q.inFlight.map Queued.audioMs).getD 0

/-! ### The queue -/

/-- A publication joins the queue. -/
def push (publication : Publication) (audioMs : Nat) : PublicationQueue :=
  { q with
    pendingPublications := q.pendingPublications ++ [⟨q.appended, publication, audioMs⟩]
    pendingAudioMs := q.pendingAudioMs + audioMs
    pendingEventCount := q.pendingEventCount + publication.eventCount
    appended := q.appended + 1 }

/-- The head of the queue leaves it. -/
def popLeft (head : Queued) (rest : List Queued) : PublicationQueue :=
  { q with
    pendingPublications := rest
    pendingAudioMs := q.pendingAudioMs - head.audioMs
    pendingEventCount := q.pendingEventCount - head.publication.eventCount }

/-- Some publications stay, and are counted anew; the others are dropped. -/
def retain (retained dropped : List Queued) : PublicationQueue :=
  { q with
    pendingPublications := retained
    pendingAudioMs := (retained.map Queued.audioMs).sum
    pendingEventCount := (retained.map fun queued => queued.publication.eventCount).sum
    purged := q.purged ++ dropped.map Queued.number }

/-- The task of the publication in flight is cancelled, if it is not done and its publication is one
    of these. -/
def cancelInFlight (hit : Publication → Bool) : PublicationQueue :=
  match q.inFlight, q.inFlightTask with
  | some queued, some task =>
    if hit queued.publication && !task.state.done then
      { q with
        inFlightCancelled := true
        inFlightBatchSize := 0
        inFlightTask := some { task with state := .cancelling }
        purged := q.purged ++ [queued.number] }
    else q
  | _, _ => q

/-- `_purge_publications_locked` and `_purge_debug_locked`. -/
def purge (hit : Publication → Bool) : PublicationQueue :=
  (q.retain (q.pendingPublications.filter fun queued => !hit queued.publication)
    (q.pendingPublications.filter fun queued => hit queued.publication)).cancelInFlight hit

/-! ### The publication in flight -/

/-- A task is to publish the events of a publication. -/
def launch (queued : Queued) (batch : List LocalProviderEvent) : PublicationQueue :=
  { q with
    inFlight := some queued
    inFlightBatchSize := batch.length
    inFlightTask := some ⟨queued, batch, .waiting⟩
    inFlightCancelled := false
    inFlightCommitted := false }

/-- Nothing is in flight. -/
def land : PublicationQueue :=
  { q with
    inFlight := none
    inFlightBatchSize := 0
    inFlightTask := none
    inFlightCancelled := false
    inFlightCommitted := false }

/-- The task has come to a state. -/
def setState (task : PublishTask) (state : PublishState) : PublicationQueue :=
  { q with inFlightTask := some { task with state := state } }

/-- `on_success`: a frame that was published is the last one of its utterance. -/
def onSuccess : Publication → PublicationQueue
  | .audio u sequence _ =>
    { q with lastAudioSequence := q.lastAudioSequence.insert u.utteranceId sequence }
  | _ => q

/-- `commit_publication`. -/
def commitPublication (queued : Queued) : PublicationQueue :=
  if q.inFlight.map Queued.number ≠ some queued.number ∨ q.inFlightCommitted then q
  else
    { q with
      inFlightCommitted := true
      succeeded := q.succeeded ++ [queued.number] }.onSuccess queued.publication

/-- A batch is put on the wire. -/
def send (queued : Queued) (batch : List LocalProviderEvent) : PublicationQueue :=
  { q with sent := q.sent ++ [(queued, batch)] }

end PublicationQueue

end Translator.Sidecar
