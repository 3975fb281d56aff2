import Translator.Core.Contracts
import Translator.Schemes.Interleave

/-! The debug capture: a session that is started and stopped by its switch, and stopped by its own limits
    or its deadline. The session, the deadline of the watchdog and the flag of the snapshot are three
    places; the switch writes them under the mutex of the capture, but a session that stops by itself
    is released before the other two are written. -/

namespace Translator.Control
open Schemes

inductive DebugCaptureStopReason where
  | timeLimit | byteLimit | lowFreeSpace | io
  deriving DecidableEq, Repr

structure DebugCaptureLimits where
  maxDurationMs : Nat
  maxBytes : Nat
  minimumFreeBytes : Nat
  deriving DecidableEq, Repr

structure DebugCaptureSession where
  limits : DebugCaptureLimits
  startedAtMs : Nat
  bytesWritten : Nat
  stopReason : Option DebugCaptureStopReason
  deriving DecidableEq, Repr

/-- What the file system answers to an append: the free space, and whether the bytes were written. -/
structure CaptureWrite where
  available : Option Nat
  written : Bool
  deriving DecidableEq, Repr

namespace DebugCaptureSession

variable (session : DebugCaptureSession)

def deadlineMs : Nat := saturatingAdd session.startedAtMs session.limits.maxDurationMs

def stop (reason : DebugCaptureStopReason) : Except DebugCaptureStopReason Unit × DebugCaptureSession :=
  (.error reason, { session with stopReason := some reason })

def expire (atMs : Nat) : Except DebugCaptureStopReason Unit × DebugCaptureSession :=
  match session.stopReason with
  | some reason => (.error reason, session)
  | none => if session.deadlineMs ≤ atMs then session.stop .timeLimit else (.ok (), session)

def append (writeLen atMs : Nat) (write : CaptureWrite) :
    Except DebugCaptureStopReason Unit × DebugCaptureSession :=
  match session.expire atMs with
  | (.error reason, session) => (.error reason, session)
  | (.ok (), session) =>
    if session.limits.maxBytes < saturatingAdd session.bytesWritten writeLen then
      session.stop .byteLimit
    else
      match write.available with
      | none => session.stop .io
      | some available =>
        if available < saturatingAdd session.limits.minimumFreeBytes writeLen then
          session.stop .lowFreeSpace
        else if !write.written then session.stop .io
        else (.ok (), { session with bytesWritten := session.bytesWritten + writeLen })

variable {session}

theorem expire_ok {atMs : Nat} {session' : DebugCaptureSession}
    (h : session.expire atMs = (.ok (), session')) : session' = session := by
  unfold expire at h
  split at h
  · cases h
  · split at h
    · cases h
    · cases h
      rfl

/-- An append that is taken leaves the deadline. -/
theorem append_ok {writeLen atMs : Nat} {write : CaptureWrite} {session' : DebugCaptureSession}
    (h : session.append writeLen atMs write = (.ok (), session')) :
    session'.deadlineMs = session.deadlineMs := by
  unfold append at h
  split at h
  · cases h
  · next live hexpire =>
    obtain rfl := expire_ok hexpire
    split at h
    · cases h
    · split at h
      · cases h
      · split at h
        · cases h
        · split at h
          · cases h
          · cases h
            rfl

end DebugCaptureSession

/-- A store has at most one session at a time; `active` says that it has one. -/
structure DebugCaptureStore where
  limits : DebugCaptureLimits
  active : Bool
  deriving DecidableEq, Repr

/-- What the file system answers to a start: the free space, and whether the file was created. -/
structure CaptureOpen where
  available : Option Nat
  opened : Bool
  deriving DecidableEq, Repr

def DebugCaptureStore.start (store : DebugCaptureStore) (startedAtMs : Nat) (file : CaptureOpen) :
    Option DebugCaptureSession :=
  if store.active then none
  else
    match file.available with
    | none => none
    | some available =>
      if available < store.limits.minimumFreeBytes then none
      else if !file.opened then none
      else some ⟨store.limits, startedAtMs, 0, none⟩

inductive DebugCaptureError where
  | debugCaptureUnavailable
  | debugCaptureStopped (reason : DebugCaptureStopReason)
  deriving DecidableEq, Repr

/-- The capture with the deadline channel and the flag of the snapshot. -/
structure DebugCaptureState where
  store : Option DebugCaptureStore
  session : Option DebugCaptureSession
  deadline : Option Nat
  debugCaptureEnabled : Bool
  deriving DecidableEq, Repr

namespace DebugCaptureState

variable (s : DebugCaptureState)

/-- The session is dropped, and its store has none any more. -/
def release : DebugCaptureState :=
  { s with store := s.store.map fun store => { store with active := false }, session := none }

/-- The session that a switch to on would start. -/
def starts (monotonicMs : Nat) (file : CaptureOpen) : Option DebugCaptureSession :=
  match s.session with
  | some _ => none
  | none => s.store.bind fun store => store.start monotonicMs file

/-- One section: the mutex of the capture is held until the flag is written. -/
def setDebugCaptureEnabled (enabled : Bool) (monotonicMs : Nat) (file : CaptureOpen) :
    Except DebugCaptureError Unit × DebugCaptureState :=
  if enabled && s.session.isNone then
    match s.store with
    | none => (.error .debugCaptureUnavailable, s)
    | some store =>
      match store.start monotonicMs file with
      | none => (.error .debugCaptureUnavailable, s)
      | some session =>
        (.ok (),
          { s with
            store := some { store with active := true }
            session := some session
            deadline := some session.deadlineMs
            debugCaptureEnabled := enabled })
  else if !enabled then
    (.ok (), { s.release with deadline := none, debugCaptureEnabled := enabled })
  else (.ok (), { s with debugCaptureEnabled := enabled })

end DebugCaptureState

/-- What is left of `finishDebugCapture`, which runs after the session was released: the deadline is
    cleared, and then the flag. -/
inductive FinishDebugCapture where
  | finish (reason : DebugCaptureStopReason)
  | report (reason : DebugCaptureStopReason)
  deriving DecidableEq, Repr

namespace DebugCaptureState

variable (s : DebugCaptureState)

/-- The first section of `appendDebugCapture`. -/
def appendDebugCapture (writeLen atMs : Nat) (write : CaptureWrite) :
    Except DebugCaptureError Unit × Option FinishDebugCapture × DebugCaptureState :=
  match s.session with
  | none => (.error .debugCaptureUnavailable, none, s)
  | some session =>
    match session.append writeLen atMs write with
    | (.error reason, _) => (.error (.debugCaptureStopped reason), some (.finish reason), s.release)
    | (.ok (), session) => (.ok (), none, { s with session := some session })

/-- The first section of `expireDebugCapture`, which the watchdog calls. -/
def expireDebugCapture (atMs : Nat) : Option FinishDebugCapture × DebugCaptureState :=
  match s.session with
  | none => (none, s)
  | some session =>
    match session.expire atMs with
    | (.ok (), session) => (none, { s with session := some session })
    | (.error reason, _) => (some (.finish reason), s.release)

def finishDebugCapture : FinishDebugCapture → Option FinishDebugCapture × DebugCaptureState
  | .finish reason => (some (.report reason), { s with deadline := none })
  | .report _ => (none, { s with debugCaptureEnabled := false })

/-- The flag is on exactly when there is a session, and the watchdog has its deadline. -/
structure CaptureReported : Prop where
  enabled : s.debugCaptureEnabled = true ↔ s.session.isSome = true
  deadline : s.deadline = s.session.map DebugCaptureSession.deadlineMs

end DebugCaptureState

inductive DebugCaptureCall where
  | setDebugCaptureEnabled (enabled : Bool) (monotonicMs : Nat) (file : CaptureOpen)
  | appendDebugCapture (writeLen atMs : Nat) (write : CaptureWrite)
  | expireDebugCapture (atMs : Nat)
  deriving DecidableEq

namespace DebugCaptureCall

def first : DebugCaptureCall → DebugCaptureState → Option FinishDebugCapture × DebugCaptureState
  | .setDebugCaptureEnabled enabled monotonicMs file, s =>
    (none, (s.setDebugCaptureEnabled enabled monotonicMs file).2)
  | .appendDebugCapture writeLen atMs write, s => (s.appendDebugCapture writeLen atMs write).2
  | .expireDebugCapture atMs, s => s.expireDebugCapture atMs

def next (rest : FinishDebugCapture) (s : DebugCaptureState) :
    Option FinishDebugCapture × DebugCaptureState :=
  s.finishDebugCapture rest

/-- Calls on the debug capture, interleaved. -/
def run (s : DebugCaptureState) (turns : List (Interleave.Turn DebugCaptureCall)) :
    Interleave DebugCaptureState FinishDebugCapture :=
  (exec (Interleave.turn first next) ⟨s, []⟩ turns).2

/-- A session is not started while a stop has its deadline or its flag still to write. -/
def inOrder (s : DebugCaptureState) (finishes : List FinishDebugCapture) : DebugCaptureCall → Bool
  | .setDebugCaptureEnabled true monotonicMs file =>
    finishes.isEmpty || (s.starts monotonicMs file).isNone
  | _ => true

def InOrder (s : DebugCaptureState) (turns : List (Interleave.Turn DebugCaptureCall)) : Prop :=
  Adm (Interleave.turn first next) (fun w turn => w.meets inOrder turn = true) ⟨s, []⟩ turns

/-- A session is known to the watchdog and reported; what still says so after its end, a stop in progress
    will clear; and while a stop is in progress there is no session for it to hit. -/
structure Tracked (s : DebugCaptureState) (finishes : List FinishDebugCapture) : Prop where
  stopping : finishes ≠ [] → s.session = none
  running : ∀ session, s.session = some session →
    s.deadline = some session.deadlineMs ∧ s.debugCaptureEnabled = true
  deadline : s.session = none → s.deadline = none ∨ ∃ reason, .finish reason ∈ finishes
  flag : s.session = none → s.debugCaptureEnabled = false ∨ finishes ≠ []

variable {s : DebugCaptureState} {finishes before after : List FinishDebugCapture}

theorem tracked_of_reported (h : s.CaptureReported) : Tracked s [] where
  stopping hne := absurd rfl hne
  running session hsession := by
    refine ⟨?_, h.enabled.mpr (by rw [hsession]; rfl)⟩
    rw [h.deadline, hsession]
    rfl
  deadline hnone := by
    left
    rw [h.deadline, hnone]
    rfl
  flag hnone := by
    left
    rw [← Bool.not_eq_true, h.enabled, hnone]
    exact Bool.false_ne_true

theorem reported_of_tracked (h : Tracked s []) : s.CaptureReported := by
  cases hsession : s.session with
  | none =>
    have hdeadline : s.deadline = none := (h.deadline hsession).resolve_right (by simp)
    have hflag : s.debugCaptureEnabled = false := (h.flag hsession).resolve_right (by simp)
    exact ⟨by simp [hsession, hflag], by simp [hsession, hdeadline]⟩
  | some session =>
    obtain ⟨hdeadline, hflag⟩ := h.running session hsession
    exact ⟨by simp [hsession, hflag], by simp [hsession, hdeadline]⟩

/-- A session that stops by itself. -/
theorem tracked_release (finishes : List FinishDebugCapture) (reason : DebugCaptureStopReason) :
    Tracked s.release (finishes ++ [.finish reason]) where
  stopping _ := rfl
  running _ hsession := by cases hsession
  deadline _ := .inr ⟨reason, by simp⟩
  flag _ := .inr (by simp)

/-- An append or an expiry that leaves the session running. -/
theorem tracked_session {session session' : DebugCaptureSession} (h : Tracked s finishes)
    (hsession : s.session = some session) (hsame : session'.deadlineMs = session.deadlineMs) :
    Tracked { s with session := some session' } finishes where
  stopping hne := absurd (h.stopping hne) (by simp [hsession])
  running live hlive := by
    cases hlive
    rw [hsame]
    exact h.running session hsession
  deadline hnone := by cases hnone
  flag hnone := by cases hnone

theorem tracked_off (finishes : List FinishDebugCapture) :
    Tracked { s.release with deadline := none, debugCaptureEnabled := false } finishes where
  stopping _ := rfl
  running _ hsession := by cases hsession
  deadline _ := .inl rfl
  flag _ := .inl rfl

theorem tracked_switch (h : Tracked s finishes) (enabled : Bool) (monotonicMs : Nat)
    (file : CaptureOpen)
    (hok : inOrder s finishes (.setDebugCaptureEnabled enabled monotonicMs file) = true) :
    Tracked (s.setDebugCaptureEnabled enabled monotonicMs file).2 finishes := by
  cases enabled with
  | false => exact tracked_off finishes
  | true =>
    simp only [inOrder, Bool.or_eq_true, List.isEmpty_iff, Option.isNone_iff_eq_none,
      DebugCaptureState.starts] at hok
    unfold DebugCaptureState.setDebugCaptureEnabled
    cases hsession : s.session with
    | some session =>
      -- already on: only the flag is written
      have hflag : s.debugCaptureEnabled = true := (h.running session hsession).2
      have hsame : Tracked { s with debugCaptureEnabled := true } finishes := by
        rw [← hflag]
        exact h
      rwa [hsession] at hsame
    | none =>
      simp only [hsession, Option.isNone_none, Bool.and_self, if_true] at hok ⊢
      cases hstore : s.store with
      | none => exact h
      | some store =>
        rw [hstore] at hok
        dsimp only [Option.bind_some] at hok ⊢
        cases hstart : store.start monotonicMs file with
        | none => exact h
        | some session =>
          -- a session starts, so nothing is left of an earlier one
          obtain rfl : finishes = [] := hok.resolve_right (by simp [hstart])
          refine ⟨fun hne => absurd rfl hne, ?_, nofun, nofun⟩
          rintro _ ⟨⟩
          exact ⟨rfl, rfl⟩

theorem tracked_append (h : Tracked s finishes) (writeLen atMs : Nat) (write : CaptureWrite) :
    Tracked (s.appendDebugCapture writeLen atMs write).2.2
      (finishes ++ (s.appendDebugCapture writeLen atMs write).2.1.toList) := by
  unfold DebugCaptureState.appendDebugCapture
  split
  · simpa using h
  · next session hsession =>
    split
    · exact tracked_release finishes _
    · next session' happend =>
      simpa using tracked_session h hsession (DebugCaptureSession.append_ok happend)

theorem tracked_expire (h : Tracked s finishes) (atMs : Nat) :
    Tracked (s.expireDebugCapture atMs).2
      (finishes ++ (s.expireDebugCapture atMs).1.toList) := by
  unfold DebugCaptureState.expireDebugCapture
  split
  · simpa using h
  · next session hsession =>
    split
    · next session' hexpire =>
      obtain rfl := DebugCaptureSession.expire_ok hexpire
      simpa using tracked_session h hsession rfl
    · exact tracked_release finishes _

theorem tracked_first (h : Tracked s finishes) (call : DebugCaptureCall)
    (hok : inOrder s finishes call = true) :
    Tracked (first call s).2 (finishes ++ (first call s).1.toList) := by
  cases call with
  | setDebugCaptureEnabled enabled monotonicMs file =>
    simpa [first] using tracked_switch h enabled monotonicMs file hok
  | appendDebugCapture writeLen atMs write => exact tracked_append h writeLen atMs write
  | expireDebugCapture atMs => exact tracked_expire h atMs

/-- Finishing a stop: there is no session whose deadline or flag it could clear. -/
theorem tracked_next {rest : FinishDebugCapture} (h : Tracked s (before ++ rest :: after)) :
    Tracked (next rest s).2 (before ++ (next rest s).1.toList ++ after) := by
  have hnone : s.session = none := h.stopping (by simp)
  cases rest with
  | finish reason =>
    refine ⟨fun _ => hnone, ?_, fun _ => .inl rfl, fun _ => .inr (by simp [next,
      DebugCaptureState.finishDebugCapture])⟩
    intro session hsession
    cases hnone.symm.trans hsession
  | report reason =>
    refine ⟨fun _ => hnone, ?_, fun _ => ?_, fun _ => .inl rfl⟩
    · intro session hsession
      cases hnone.symm.trans hsession
    · rcases h.deadline hnone with hclear | ⟨other, hmem⟩
      · exact .inl hclear
      · refine .inr ⟨other, ?_⟩
        simpa [next, DebugCaptureState.finishDebugCapture] using hmem

/-- When no session is started into a stop that is still being finished, the capture is as reported
    whenever no call is in progress. -/
theorem run_captureReported (h : s.CaptureReported) (turns : List (Interleave.Turn DebugCaptureCall))
    (horder : InOrder s turns) (hquiet : (run s turns).Quiescent) :
    (run s turns).shared.CaptureReported := by
  have htracked : Tracked (run s turns).shared (run s turns).calls :=
    Interleave.exec_invariant (I := Tracked) (tracked_of_reported h)
      (fun _ _ call ht hok => tracked_first ht call hok) (fun _ _ _ _ ht => tracked_next ht)
      turns horder
  rw [hquiet] at htracked
  exact reported_of_tracked htracked

/-- A store that is configured and off. -/
def configured : DebugCaptureState := ⟨some ⟨⟨1000, 4, 0⟩, false⟩, none, none, false⟩

theorem configured_reported : configured.CaptureReported := ⟨by decide, rfl⟩

def roomy : CaptureOpen := ⟨some 1024, true⟩

/-- A capture runs into its limit of bytes while the watchdog and the switch are at work, and another one
    is started when the stop is finished. -/
def restarted : List (Interleave.Turn DebugCaptureCall) :=
  [.begin (.setDebugCaptureEnabled true 0 roomy),
    .begin (.appendDebugCapture 4 1 ⟨some 1024, true⟩),
    .begin (.appendDebugCapture 1 2 ⟨some 1024, true⟩),
    .begin (.expireDebugCapture 1000), .resume 0, .begin (.setDebugCaptureEnabled false 3 roomy),
    .resume 0, .begin (.setDebugCaptureEnabled true 4 roomy)]

theorem run_captureReported_restarted :
    (run configured restarted).Quiescent ∧ (run configured restarted).shared.CaptureReported := by
  have hquiet : (run configured restarted).Quiescent := by
    unfold Interleave.Quiescent
    decide
  exact ⟨hquiet, run_captureReported configured_reported restarted (adm_of_walk (by decide)) hquiet⟩

/-- Another session is started between the two halves of a stop. -/
def restartedTooSoon : List (Interleave.Turn DebugCaptureCall) :=
  [.begin (.setDebugCaptureEnabled true 0 roomy),
    .begin (.appendDebugCapture 5 1 ⟨some 1024, true⟩),
    .begin (.setDebugCaptureEnabled true 2 roomy), .resume 0, .resume 0]

/-- That session runs on, reported off and without a deadline. -/
theorem capture_restartedTooSoon :
    ¬ ∀ turns, (run configured turns).Quiescent → (run configured turns).shared.CaptureReported := by
  intro h
  have hquiet : (run configured restartedTooSoon).Quiescent := by
    unfold Interleave.Quiescent
    decide
  have hsession : (run configured restartedTooSoon).shared.session.isSome = true := by decide
  have hflag : (run configured restartedTooSoon).shared.debugCaptureEnabled = false := by decide
  have hon := (h restartedTooSoon hquiet).enabled.mpr hsession
  rw [hflag] at hon
  cases hon

end DebugCaptureCall

end Translator.Control
