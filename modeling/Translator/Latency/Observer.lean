import Translator.Control.Store
import Translator.Schemes.KeyedMap
import Translator.Schemes.Run
import Translator.Wire.Contract

/-! Who feeds the latency policy, and with which clock. `RuntimeLatencyObserver` stamps samples and
    queue observations with the monotonic clock of the machine, which the capture and playback path
    reads; the watcher of `main.rs` and the manual policy change read the store's own clock, which
    starts with the daemon.

    Instants are nanoseconds since the daemon started. The machine's clock shows an instant `boot`
    nanoseconds later. -/

namespace Translator.Latency
open Schemes Core
open Control (RuntimeStore LatencyPolicyPatch)
open Wire (Uuid)

/-- The events the runtime reports, without the fields the observer ignores. -/
inductive DuplexRuntimeEvent where
  | speechStarted (direction : AudioDirection) (utteranceId : Uuid) (captureMonotonicNs : Nat)
  | transcriptFinal (direction : AudioDirection) (utteranceId : Uuid)
  | translationFinal (direction : AudioDirection) (utteranceId : Uuid)
  | audioFrame (direction : AudioDirection) (utteranceId : Uuid) (observedMonotonicNs : Nat)
      (queueLagMs : Nat)
  | firstAudioExpired (direction : AudioDirection) (utteranceId : Uuid) (observedMonotonicNs : Nat)
  | providerLatency (direction : AudioDirection) (utteranceId : Option Uuid)
  | providerError (direction : AudioDirection) (utteranceId : Option Uuid)
  | utteranceTerminalOutcome (direction : AudioDirection) (utteranceId : Uuid)
  | utteranceTerminal (direction : AudioDirection) (utteranceId : Uuid)
  | generationRestart

structure ObservedUtterance where
  captureMonotonicNs : Nat
  firstAudioMonotonicNs : Option Nat
  lastAudioMonotonicNs : Option Nat
  maxQueueLagMs : Nat
  deriving DecidableEq, Repr

/-- `duration_ms`: whole milliseconds, capped to a `u32`. -/
def durationMs (startNs endNs : Nat) : Nat := min ((endNs - startNs) / 1000000) (2 ^ 32 - 1)

/-- The store, the observer's utterances and the watcher's `last_latency_epoch`. -/
structure LatencyDaemon where
  store : RuntimeStore
  utterances : Table (AudioDirection × Uuid) ObservedUtterance
  lastLatencyEpoch : Nat

namespace LatencyDaemon

def new : LatencyDaemon := ⟨.default, ∅, 0⟩

variable (d : LatencyDaemon)

/-- The mode changes a call made, and the state it left. -/
abbrev Stepped := List LatencyTransition × LatencyDaemon

/-- The sample a finished utterance contributes, when it was heard at all. -/
def ObservedUtterance.sample (utterance : ObservedUtterance) : Option TimedSample :=
  match utterance.firstAudioMonotonicNs, utterance.lastAudioMonotonicNs with
  | some first, some last =>
    some
      { atMs := last / 1000000
        value :=
          { firstAudioMs := durationMs utterance.captureMonotonicNs first
            lastAudioMs := durationMs utterance.captureMonotonicNs last
            queueLagMs := utterance.maxQueueLagMs } }
  | _, _ => none

/-- `get_or_insert` on the first audio, the new last audio and the worst lag. -/
def ObservedUtterance.heard (utterance : ObservedUtterance) (observedMonotonicNs queueLagMs : Nat) :
    ObservedUtterance :=
  { utterance with
    firstAudioMonotonicNs := some (utterance.firstAudioMonotonicNs.getD observedMonotonicNs)
    lastAudioMonotonicNs := some observedMonotonicNs
    maxQueueLagMs := max utterance.maxQueueLagMs queueLagMs }

def observe (event : DuplexRuntimeEvent) : Stepped :=
  match event with
  | .speechStarted direction utteranceId captureMonotonicNs =>
    ([], { d with
      utterances := d.utterances.insert (direction, utteranceId) ⟨captureMonotonicNs, none, none, 0⟩ })
  | .audioFrame direction utteranceId observedMonotonicNs queueLagMs =>
    match d.utterances.lookup (direction, utteranceId) with
    | none => ([], d)
    | some utterance =>
      let (transition, store) :=
        d.store.observeLatencyQueue direction (observedMonotonicNs / 1000000) (some queueLagMs)
      (transition.toList,
        { d with
          store := store
          utterances := d.utterances.insert (direction, utteranceId)
            (ObservedUtterance.heard utterance observedMonotonicNs queueLagMs) })
  | .firstAudioExpired direction utteranceId observedMonotonicNs =>
    match d.utterances.lookup (direction, utteranceId) with
    | none => ([], d)
    | some utterance =>
      ([], { d with
        utterances := d.utterances.insert (direction, utteranceId)
          { utterance with
            firstAudioMonotonicNs := some observedMonotonicNs
            lastAudioMonotonicNs := some observedMonotonicNs } })
  | .utteranceTerminal direction utteranceId =>
    match d.utterances.lookup (direction, utteranceId) with
    | none => ([], d)
    | some utterance =>
      let d := { d with utterances := d.utterances.erase (direction, utteranceId) }
      match ObservedUtterance.sample utterance with
      | none => ([], d)
      | some sample =>
        let (transition, store) := d.store.recordLatencyUtterance direction sample.atMs sample.value
        (transition.toList, { d with store := store })
  | .generationRestart => ([], { d with utterances := ∅ })
  | _ => ([], d)

/-- The end of the last whole minute, on the store's clock. -/
def epochEnd (nowMs : Nat) : Nat := nowMs / epochMs * epochMs

/-- One round of the watcher, from the reading of the store's clock on. -/
def watch (nowMs : Nat) : Stepped :=
  let end_ := epochEnd nowMs
  if d.lastLatencyEpoch < end_ then
    let (first, store) := d.store.evaluateLatencyEpoch .microphone end_
    let (second, store) := store.evaluateLatencyEpoch .speaker end_
    (first.toList ++ second.toList, { d with store := store, lastLatencyEpoch := end_ })
  else ([], d)

/-- `PATCH /v1/latency-policy`. -/
def patchLatencyPolicy (patch : LatencyPolicyPatch) (nowMs : Nat) : Stepped :=
  ((d.store.latency.forceMode patch.directionId nowMs patch.currentMode).1.toList,
    { d with store := d.store.setLatencyPolicy patch nowMs })

/-! ### The daemon over time -/

/-- What `clock_gettime(CLOCK_MONOTONIC)` shows at an instant; the reading saturates. -/
def bootNs (boot : Nat) (t : UInt64) : Nat := saturatingAdd t.toNat boot

/-- `RuntimeStore::monotonic_ms` at an instant. -/
def monotonicMs (t : UInt64) : Nat := t.toNat / 1000000

/-- Something that happens to the latency policy, at an instant. -/
inductive Op where
  | speechStarted (direction : AudioDirection) (utteranceId : Uuid) (t : UInt64)
  | audioFrame (direction : AudioDirection) (utteranceId : Uuid) (t : UInt64) (queueLagMs : Nat)
  | firstAudioExpired (direction : AudioDirection) (utteranceId : Uuid) (t : UInt64)
  | utteranceTerminal (direction : AudioDirection) (utteranceId : Uuid)
  | generationRestart
  | watch (t : UInt64)
  | patchLatencyPolicy (patch : LatencyPolicyPatch) (t : UInt64)

def apply (boot : Nat) (d : LatencyDaemon) : Op → Stepped
  | .speechStarted direction u t => d.observe (.speechStarted direction u (bootNs boot t))
  | .audioFrame direction u t lag => d.observe (.audioFrame direction u (bootNs boot t) lag)
  | .firstAudioExpired direction u t => d.observe (.firstAudioExpired direction u (bootNs boot t))
  | .utteranceTerminal direction u => d.observe (.utteranceTerminal direction u)
  | .generationRestart => d.observe .generationRestart
  | .watch t => d.watch (monotonicMs t)
  | .patchLatencyPolicy patch t => d.patchLatencyPolicy patch (monotonicMs t)

end LatencyDaemon

end Translator.Latency
