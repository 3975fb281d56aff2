import Translator.Core.Contracts
import Translator.Schemes.KeyedMap
import Translator.Wire.Validator

/-! `ProviderAudioWatchdog`: the deadlines of the utterances of one provider session.

    Times are nanoseconds of the monotonic clock and deadlines saturate at the largest `u64`. Every
    call that fails leaves the watchdog as it was, so a call returns either an error or the next
    watchdog. `poll` goes over the table in the table's own order. -/

namespace Translator.Stream
open Schemes Wire

def maxReceiveBufferedMs : Nat := 400
def interAudioDeltaTimeout : Nat := 250 * nsPerMs
def cancelFinalTimeout : Nat := 250 * nsPerMs
def collectingInputTimeout : Nat := 12000 * nsPerMs
def firstAudioAfterEouTimeout : Nat := 6000 * nsPerMs
def closeAckTimeout : Nat := 2000 * nsPerMs

inductive WatchdogAction where
  | cancelUtterance (sessionId streamId utteranceId : Uuid) (purgeReceiveBuffer : Bool)
  | closeProviderSession (sessionId : Uuid)
  | restartSidecar (sessionId : Uuid)
  deriving DecidableEq, Repr

inductive WatchdogError where
  | unknownUtterance | duplicateUtterance | streamMismatch | cancelPending | inputNotComplete
  | inputAlreadyComplete | expectedCancelledFinal | sessionTerminal | deadlineExpired
  deriving DecidableEq, Repr

inductive UtterancePhase where
  | collectingInput (deadlineNs : Nat)
  | awaitingFirstAudio (deadlineNs : Nat)
  | streamingAudio (deadlineNs : Nat)
  | cancelPending (deadlineNs : Nat)
  deriving DecidableEq, Repr

structure WatchedUtterance where
  streamId : Uuid
  phase : UtterancePhase
  deriving DecidableEq, Repr

inductive SessionPhase where
  | active
  | closePending (deadlineNs : Nat)
  | restartIssued
  | terminal
  deriving DecidableEq, Repr

structure ProviderAudioWatchdog where
  sessionId : Uuid
  utterances : Table Uuid WatchedUtterance
  sessionPhase : SessionPhase

def UtterancePhase.isCancelPending : UtterancePhase → Bool
  | cancelPending _ => true
  | _ => false

/-- The phases an audio frame or a completed final is expected in. -/
def UtterancePhase.awaitsProvider : UtterancePhase → Bool
  | awaitingFirstAudio _ => true
  | streamingAudio _ => true
  | _ => false

def UtterancePhase.deadlineNs : UtterancePhase → Nat
  | collectingInput deadlineNs => deadlineNs
  | awaitingFirstAudio deadlineNs => deadlineNs
  | streamingAudio deadlineNs => deadlineNs
  | cancelPending deadlineNs => deadlineNs

namespace ProviderAudioWatchdog

def new (sessionId : Uuid) : ProviderAudioWatchdog := ⟨sessionId, ∅, .active⟩

variable (w : ProviderAudioWatchdog)

def requireActiveSession : Except WatchdogError Unit :=
  if w.sessionPhase = .active then .ok () else .error .sessionTerminal

/-- `insert`, and assignment through `get_mut`. -/
def put (utteranceId : Uuid) (watched : WatchedUtterance) : ProviderAudioWatchdog :=
  { w with utterances := w.utterances.insert utteranceId watched }

/-- `remove`. -/
def remove (utteranceId : Uuid) : ProviderAudioWatchdog :=
  { w with utterances := w.utterances.erase utteranceId }

def startUtterance (streamId utteranceId : Uuid) (captureNs : Nat) :
    Except WatchdogError ProviderAudioWatchdog := do
  w.requireActiveSession
  if utteranceId ∈ w.utterances then .error .duplicateUtterance
  else
    let deadlineNs := saturatingAdd captureNs collectingInputTimeout
    .ok (w.put utteranceId ⟨streamId, .collectingInput deadlineNs⟩)

/-- `get`, `ok_or(UnknownUtterance)` and the stream check that follows it everywhere. -/
def watched (streamId utteranceId : Uuid) : Except WatchdogError WatchedUtterance :=
  match w.utterances.lookup utteranceId with
  | none => .error .unknownUtterance
  | some watched => if watched.streamId ≠ streamId then .error .streamMismatch else .ok watched


def recordEndOfUtterance (streamId utteranceId : Uuid) (nowNs : Nat) :
    Except WatchdogError ProviderAudioWatchdog := do
  w.requireActiveSession
  let watched ← w.watched streamId utteranceId
  match watched.phase with
  | .collectingInput deadlineNs =>
    if nowNs ≤ deadlineNs then
      let deadlineNs := saturatingAdd nowNs firstAudioAfterEouTimeout
      .ok (w.put utteranceId { watched with phase := .awaitingFirstAudio deadlineNs })
    else .error .deadlineExpired
  | .awaitingFirstAudio _ => .error .inputAlreadyComplete
  | .streamingAudio _ => .error .inputAlreadyComplete
  | .cancelPending _ => .error .cancelPending

/-- The part `check_audio_delta` and `record_audio_delta` share. -/
def audioDeadline (streamId utteranceId : Uuid) (nowNs : Nat) :
    Except WatchdogError WatchedUtterance := do
  w.requireActiveSession
  let watched ← w.watched streamId utteranceId
  match watched.phase with
  | .collectingInput _ => .error .inputNotComplete
  | .cancelPending _ => .error .cancelPending
  | .awaitingFirstAudio deadlineNs =>
    if deadlineNs < nowNs then .error .deadlineExpired else .ok watched
  | .streamingAudio deadlineNs =>
    if deadlineNs < nowNs then .error .deadlineExpired else .ok watched

def checkAudioDelta (streamId utteranceId : Uuid) (nowNs : Nat) : Except WatchdogError Unit := do
  let _ ← w.audioDeadline streamId utteranceId nowNs
  .ok ()

def recordAudioDelta (streamId utteranceId : Uuid) (nowNs : Nat) :
    Except WatchdogError ProviderAudioWatchdog := do
  let watched ← w.audioDeadline streamId utteranceId nowNs
  let deadlineNs := saturatingAdd nowNs interAudioDeltaTimeout
  .ok (w.put utteranceId { watched with phase := .streamingAudio deadlineNs })

def finishUtterance (streamId utteranceId : Uuid) (cancelled : Bool) :
    Except WatchdogError ProviderAudioWatchdog := do
  w.requireActiveSession
  let watched ← w.watched streamId utteranceId
  match watched.phase with
  | .collectingInput _ => .error .inputNotComplete
  | phase =>
    if phase.isCancelPending ≠ cancelled then .error .expectedCancelledFinal
    else .ok (w.remove utteranceId)

def recordCompletedFinal (streamId utteranceId : Uuid) :
    Except WatchdogError ProviderAudioWatchdog := w.finishUtterance streamId utteranceId false

def recordCancelledFinal (streamId utteranceId : Uuid) :
    Except WatchdogError ProviderAudioWatchdog := w.finishUtterance streamId utteranceId true

def disarmUtterance (streamId utteranceId : Uuid) : Except WatchdogError ProviderAudioWatchdog := do
  let _ ← w.watched streamId utteranceId
  .ok (w.remove utteranceId)

def disarmSession : ProviderAudioWatchdog := { w with utterances := ∅, sessionPhase := .terminal }

def recordSessionClosed (sessionId : Uuid) : Except WatchdogError ProviderAudioWatchdog :=
  if sessionId ≠ w.sessionId then .error .streamMismatch else .ok w.disarmSession

def cancelPending (streamId utteranceId : Uuid) : Bool :=
  match w.utterances.lookup utteranceId with
  | none => false
  | some watched => watched.streamId = streamId && watched.phase.isCancelPending

def checkFinal (streamId utteranceId : Uuid) (outcome : UtteranceOutcome) (nowNs : Nat) :
    Except WatchdogError Unit := do
  w.requireActiveSession
  let watched ← w.watched streamId utteranceId
  match watched.phase, outcome with
  | .collectingInput _, _ => .error .inputNotComplete
  | .cancelPending deadlineNs, .cancelled =>
    if nowNs ≤ deadlineNs then .ok () else .error .expectedCancelledFinal
  | .cancelPending _, _ => .error .expectedCancelledFinal
  | .awaitingFirstAudio _, .cancelled => .error .expectedCancelledFinal
  | .streamingAudio _, .cancelled => .error .expectedCancelledFinal
  | .awaitingFirstAudio _, .unspecified => .error .deadlineExpired
  | .streamingAudio _, .unspecified => .error .deadlineExpired
  | .awaitingFirstAudio deadlineNs, _ =>
    if nowNs ≤ deadlineNs then .ok () else .error .deadlineExpired
  | .streamingAudio deadlineNs, _ =>
    if nowNs ≤ deadlineNs then .ok () else .error .deadlineExpired

def sessionAcceptsEvents : Bool := w.sessionPhase = .active

/-- The deadline of a phase has passed. -/
def overdue (nowNs : Nat) (watched : WatchedUtterance) : Bool := watched.phase.deadlineNs < nowNs

/-- What the loop of `poll` makes of one entry: an overdue utterance becomes cancel-pending. -/
def polled (nowNs : Nat) (watched : WatchedUtterance) : WatchedUtterance :=
  if overdue nowNs watched && !watched.phase.isCancelPending then
    { watched with phase := .cancelPending (saturatingAdd nowNs cancelFinalTimeout) }
  else watched

/-- The table after the loop of `poll`. -/
def swept (nowNs : Nat) : ProviderAudioWatchdog :=
  { w with utterances := Table.mapVals (fun _ => polled nowNs) w.utterances }

/-- The `cancel` list of the loop. -/
def cancelActions (nowNs : Nat) : List WatchdogAction :=
  w.utterances.entries.filterMap fun entry =>
    if overdue nowNs entry.2 && !entry.2.phase.isCancelPending then
      some (.cancelUtterance w.sessionId entry.2.streamId entry.1 true)
    else none

/-- `close_required`: the final of a cancellation did not come in time. -/
def closeRequired (nowNs : Nat) : Bool :=
  w.utterances.entries.any fun entry => entry.2.phase.isCancelPending && overdue nowNs entry.2

def poll (nowNs : Nat) : List WatchdogAction × ProviderAudioWatchdog :=
  match w.sessionPhase with
  | .closePending deadlineNs =>
    if deadlineNs ≤ nowNs then
      ([.restartSidecar w.sessionId], { w with sessionPhase := .restartIssued })
    else ([], w)
  | .active =>
    if w.closeRequired nowNs then
      ([.closeProviderSession w.sessionId],
        { w.swept nowNs with sessionPhase := .closePending (saturatingAdd nowNs closeAckTimeout) })
    else (w.cancelActions nowNs, w.swept nowNs)
  | _ => ([], w)

def cancelUtterance (streamId utteranceId : Uuid) (nowNs : Nat) :
    Except WatchdogError (WatchdogAction × ProviderAudioWatchdog) := do
  w.requireActiveSession
  let watched ← w.watched streamId utteranceId
  match watched.phase with
  | .collectingInput _ => .error .inputNotComplete
  | .cancelPending _ => .error .cancelPending
  | _ =>
    let deadlineNs := saturatingAdd nowNs cancelFinalTimeout
    .ok (.cancelUtterance w.sessionId streamId utteranceId true,
      w.put utteranceId { watched with phase := .cancelPending deadlineNs })

/-! ### When a call succeeds, and with what -/

variable {w w' : ProviderAudioWatchdog} {s u : Uuid} {now : Nat}

theorem requireActiveSession_ok {x : Unit} :
    w.requireActiveSession = .ok x ↔ w.sessionPhase = .active := by
  unfold requireActiveSession; split <;> simp_all

theorem watched_ok {x : WatchedUtterance} :
    w.watched s u = .ok x ↔ w.utterances.lookup u = some x ∧ x.streamId = s := by
  unfold watched
  cases w.utterances.lookup u with
  | none => simp
  | some y =>
    by_cases h : y.streamId = s
    · simp only [ne_eq, h, not_true_eq_false, if_false, Except.ok.injEq, Option.some.injEq]
      exact ⟨fun e => ⟨e, e ▸ h⟩, And.left⟩
    · simp only [ne_eq, h, not_false_eq_true, if_true, Option.some.injEq]
      exact ⟨fun e => (nomatch e), fun ⟨e, h'⟩ => absurd (e ▸ h') h⟩

theorem startUtterance_ok {captureNs : Nat} : w.startUtterance s u captureNs = .ok w' ↔
    w.sessionPhase = .active ∧ u ∉ w.utterances
      ∧ w' = w.put u ⟨s, .collectingInput (saturatingAdd captureNs collectingInputTimeout)⟩ := by
  simp only [startUtterance, except_bind_ok, requireActiveSession_ok, exists_const]
  refine and_congr_right fun _ => ?_
  split
  · next h => simp [h]
  · next h => simp [h, eq_comm]

theorem recordEndOfUtterance_ok : w.recordEndOfUtterance s u now = .ok w' ↔
    w.sessionPhase = .active ∧ ∃ d, w.utterances.lookup u = some ⟨s, .collectingInput d⟩ ∧ now ≤ d
      ∧ w' = w.put u ⟨s, .awaitingFirstAudio (saturatingAdd now firstAudioAfterEouTimeout)⟩ := by
  simp only [recordEndOfUtterance, except_bind_ok, requireActiveSession_ok, exists_const, watched_ok]
  refine and_congr_right fun _ => ⟨?_, ?_⟩
  · rintro ⟨⟨t, p⟩, ⟨hl, rfl⟩, h⟩
    cases p with
    | collectingInput d =>
      dsimp only at h
      split at h
      · next hd => exact ⟨d, hl, hd, (Except.ok.inj h).symm⟩
      · cases h
    | _ => cases h
  · rintro ⟨d, hl, hd, rfl⟩
    refine ⟨_, ⟨hl, rfl⟩, ?_⟩
    dsimp only
    rw [if_pos hd]

theorem audioDeadline_ok {x : WatchedUtterance} : w.audioDeadline s u now = .ok x ↔
    w.sessionPhase = .active ∧ w.utterances.lookup u = some x ∧ x.streamId = s
      ∧ x.phase.awaitsProvider = true ∧ now ≤ x.phase.deadlineNs := by
  simp only [audioDeadline, except_bind_ok, requireActiveSession_ok, exists_const, watched_ok]
  refine and_congr_right fun _ => ⟨?_, ?_⟩
  · rintro ⟨⟨t, p⟩, ⟨hl, rfl⟩, h⟩
    cases p with
    | awaitingFirstAudio d =>
      dsimp only at h
      split at h
      · cases h
      · next hd => cases h; exact ⟨hl, rfl, rfl, Nat.le_of_not_lt hd⟩
    | streamingAudio d =>
      dsimp only at h
      split at h
      · cases h
      · next hd => cases h; exact ⟨hl, rfl, rfl, Nat.le_of_not_lt hd⟩
    | _ => cases h
  · rintro ⟨hl, hs, ha, hd⟩
    refine ⟨x, ⟨hl, hs⟩, ?_⟩
    obtain ⟨t, p⟩ := x
    cases p with
    | awaitingFirstAudio d => exact if_neg (Nat.not_lt.mpr hd)
    | streamingAudio d => exact if_neg (Nat.not_lt.mpr hd)
    | _ => cases ha

theorem checkAudioDelta_ok : w.checkAudioDelta s u now = .ok () ↔
    w.sessionPhase = .active ∧ ∃ x, w.utterances.lookup u = some x ∧ x.streamId = s
      ∧ x.phase.awaitsProvider = true ∧ now ≤ x.phase.deadlineNs := by
  simp only [checkAudioDelta, except_bind_ok, audioDeadline_ok]
  exact ⟨fun ⟨x, ⟨h, hx⟩, _⟩ => ⟨h, x, hx⟩, fun ⟨h, x, hx⟩ => ⟨x, ⟨h, hx⟩, trivial⟩⟩

theorem recordAudioDelta_ok : w.recordAudioDelta s u now = .ok w' ↔
    w.sessionPhase = .active ∧ ∃ x, w.utterances.lookup u = some x ∧ x.streamId = s
      ∧ x.phase.awaitsProvider = true ∧ now ≤ x.phase.deadlineNs
      ∧ w' = w.put u ⟨s, .streamingAudio (saturatingAdd now interAudioDeltaTimeout)⟩ := by
  simp only [recordAudioDelta, except_bind_ok, audioDeadline_ok]
  constructor
  · rintro ⟨x, ⟨h, hl, rfl, ha, hd⟩, he⟩
    exact ⟨h, x, hl, rfl, ha, hd, (Except.ok.inj he).symm⟩
  · rintro ⟨h, x, hl, rfl, ha, hd, rfl⟩
    exact ⟨x, ⟨h, hl, rfl, ha, hd⟩, rfl⟩

theorem finishUtterance_ok {cancelled : Bool} : w.finishUtterance s u cancelled = .ok w' ↔
    w.sessionPhase = .active ∧ ∃ x, w.utterances.lookup u = some x ∧ x.streamId = s
      ∧ (x.phase.awaitsProvider = true ∧ cancelled = false
        ∨ x.phase.isCancelPending = true ∧ cancelled = true)
      ∧ w' = w.remove u := by
  simp only [finishUtterance, except_bind_ok, requireActiveSession_ok, exists_const, watched_ok]
  refine and_congr_right fun _ => exists_congr fun x => ?_
  rw [and_assoc]
  refine and_congr_right fun _ => and_congr_right fun _ => ?_
  obtain ⟨t, p⟩ := x
  cases p <;> cases cancelled <;>
    simp [UtterancePhase.awaitsProvider, UtterancePhase.isCancelPending, eq_comm]

theorem checkFinal_ok {outcome : UtteranceOutcome} : w.checkFinal s u outcome now = .ok () ↔
    w.sessionPhase = .active ∧ ∃ x, w.utterances.lookup u = some x ∧ x.streamId = s
      ∧ (x.phase.awaitsProvider = true ∧ (outcome = .completed ∨ outcome = .dropped)
        ∨ x.phase.isCancelPending = true ∧ outcome = .cancelled)
      ∧ now ≤ x.phase.deadlineNs := by
  simp only [checkFinal, except_bind_ok, requireActiveSession_ok, exists_const, watched_ok]
  refine and_congr_right fun _ => exists_congr fun x => ?_
  rw [and_assoc]
  refine and_congr_right fun _ => and_congr_right fun _ => ?_
  obtain ⟨t, p⟩ := x
  cases p <;> cases outcome <;>
    simp [UtterancePhase.awaitsProvider, UtterancePhase.isCancelPending, UtterancePhase.deadlineNs]

theorem cancelUtterance_ok {a : WatchdogAction} : w.cancelUtterance s u now = .ok (a, w') ↔
    w.sessionPhase = .active ∧ ∃ x, w.utterances.lookup u = some x ∧ x.streamId = s
      ∧ x.phase.awaitsProvider = true ∧ a = .cancelUtterance w.sessionId s u true
      ∧ w' = w.put u ⟨s, .cancelPending (saturatingAdd now cancelFinalTimeout)⟩ := by
  simp only [cancelUtterance, except_bind_ok, requireActiveSession_ok, exists_const, watched_ok]
  refine and_congr_right fun _ => exists_congr fun x => ?_
  rw [and_assoc]
  refine and_congr_right fun _ => ?_
  obtain ⟨t, p⟩ := x
  refine and_congr_right fun ht => ?_
  obtain rfl : t = s := ht
  cases p <;> simp [UtterancePhase.awaitsProvider, eq_comm]

theorem cancelPending_iff : w.cancelPending s u = true ↔
    ∃ x, w.utterances.lookup u = some x ∧ x.streamId = s ∧ x.phase.isCancelPending = true := by
  unfold cancelPending
  cases w.utterances.lookup u <;> simp

/-! ### `poll` -/

theorem polled_streamId (x : WatchedUtterance) : (polled now x).streamId = x.streamId := by
  unfold polled; split <;> rfl

theorem polled_isCancelPending (x : WatchedUtterance) :
    (polled now x).phase.isCancelPending = (overdue now x || x.phase.isCancelPending) := by
  unfold polled
  cases h : x.phase.isCancelPending <;> cases ho : overdue now x <;> first | exact h | rfl

theorem swept_lookup : (w.swept now).utterances.lookup u
    = (w.utterances.lookup u).map (polled now) := Table.lookup_mapVals _ _ _

/-- The utterances a poll cancels: those overdue and not yet cancelled. -/
theorem mem_cancelActions {a : WatchdogAction} : a ∈ w.cancelActions now ↔
    ∃ u x, w.utterances.lookup u = some x ∧ overdue now x = true ∧ x.phase.isCancelPending = false
      ∧ a = .cancelUtterance w.sessionId x.streamId u true := by
  simp only [cancelActions, List.mem_filterMap]
  constructor
  · rintro ⟨⟨u, x⟩, hmem, h⟩
    dsimp only at h
    split at h
    · next hx =>
      obtain ⟨ho, hc⟩ := Bool.and_eq_true_iff.mp hx
      exact ⟨u, x, AList.mem_lookup_iff.mpr hmem, ho, by simpa using hc, (Option.some.inj h).symm⟩
    · cases h
  · rintro ⟨u, x, hl, ho, hc, rfl⟩
    exact ⟨⟨u, x⟩, AList.mem_lookup_iff.mp hl, by simp [ho, hc]⟩

end ProviderAudioWatchdog

end Translator.Stream
