import Translator.Stream.Playback

/-! What a refused capture event leaves behind. `speech_started` enters the utterance into
    `active_utterances` before the coordinator is asked, and the last frame of an utterance moves the
    watchdog before the validator is asked; neither is taken back when the answer is no. Everything
    else that is refused is refused before anything changes. -/

namespace Translator.Wire

namespace ProviderEventValidator

/-- The validator does not take input of `u`. -/
def NoInput (v : ProviderEventValidator) (u : Uuid) : Prop :=
  v.opened = false ∨ v.closed = true ∨ u ∈ v.terminalUtterances
    ∨ u ∉ v.inputCaptureNs ∧ maxActiveUtterances ≤ v.inputCaptureNs.keys.length

theorem recordInput_refuses (v : ProviderEventValidator) (u : Uuid) (ns : Nat) :
    (NoInput v u ∧ ∃ e, v.recordInput u ns = (.err e, v))
      ∨ ¬ NoInput v u ∧ ∃ w, v.recordInput u ns = (.ok (), w) := by
  unfold recordInput
  split
  · next h => exact .inl ⟨.inl (by simpa using h), _, rfl⟩
  split
  · next h => exact .inl ⟨.inr (.inl h), _, rfl⟩
  split
  · next h => exact .inl ⟨.inr (.inr (.inl h)), _, rfl⟩
  split
  · next h => exact .inl ⟨.inr (.inr (.inr h)), _, rfl⟩
  · next hopen hcl hterm hroom =>
    refine .inr ⟨?_, _, rfl⟩
    rintro (h | h | h | h)
    · simp [h] at hopen
    · exact hcl h
    · exact hterm h
    · exact hroom h

end ProviderEventValidator

end Translator.Wire

namespace Translator.Stream
open Schemes Wire
open Audio (CaptureEvent)
open Core (PcmFrame)

namespace ProviderStreamCoordinator
open ProviderEventValidator (NoInput recordInput_refuses)

variable (c : ProviderStreamCoordinator)

/-- The coordinator has no place for a new utterance `u`. -/
def NoPlace (u : Uuid) : Prop :=
  c.watchdog.sessionPhase ≠ .active ∨ u ∈ c.watchdog.utterances ∨ NoInput c.validator u

/-- The watchdog still collects `u`, and `now` is within its deadline. -/
def Collects (s u : Uuid) (now : Nat) : Prop :=
  c.watchdog.sessionPhase = .active
    ∧ ∃ deadline, c.watchdog.utterances.lookup u = some ⟨s, .collectingInput deadline⟩
      ∧ now ≤ deadline

/-- The validator does not take the end of `u`. -/
def NoEnd (u : Uuid) : Prop :=
  c.validator.opened = false ∨ c.validator.closed = true ∨ u ∉ c.validator.inputCompleteNs

variable {c : ProviderStreamCoordinator} {s u : Uuid} {now : Nat}

/-- A start is taken, or refused with the coordinator as it was. -/
theorem startUtterance_refuses (c : ProviderStreamCoordinator) (s u : Uuid) (ns : Nat) :
    (c.NoPlace u ∧ ∃ e, c.startUtterance s u ns = (.err e, c))
      ∨ ¬ c.NoPlace u ∧ ∃ c', c.startUtterance s u ns = (.ok (), c') := by
  unfold startUtterance
  cases hw : c.watchdog.startUtterance s u ns with
  | error e =>
    refine .inl ⟨?_, _, rfl⟩
    by_contra hplace
    simp only [NoPlace, not_or, ne_eq, not_not] at hplace
    have hok : ∃ w, c.watchdog.startUtterance s u ns = .ok w :=
      ⟨_, ProviderAudioWatchdog.startUtterance_ok.mpr ⟨hplace.1, hplace.2.1, rfl⟩⟩
    simp [hw] at hok
  | ok w =>
    obtain ⟨hact, hnew, rfl⟩ := ProviderAudioWatchdog.startUtterance_ok.mp hw
    rcases recordInput_refuses c.validator u ns with ⟨hno, e, hv⟩ | ⟨hin, v, hv⟩
    · -- the watchdog entry is taken back
      have hback : (c.watchdog.put u
          ⟨s, .collectingInput (saturatingAdd ns collectingInputTimeout)⟩).disarmUtterance s u
            = .ok c.watchdog := by
        simp [ProviderAudioWatchdog.disarmUtterance, ProviderAudioWatchdog.watched,
          ProviderAudioWatchdog.put, ProviderAudioWatchdog.remove,
          Table.erase_insert_of_not_mem _ hnew]
        rfl
      simp only [hv, hback]
      exact .inl ⟨.inr (.inr hno), _, rfl⟩
    · simp only [hv]
      refine .inr ⟨?_, _, rfl⟩
      rintro (h | h | h)
      · exact h hact
      · exact hnew h
      · exact hin h

/-- The end of an utterance is taken, refused with the coordinator as it was, or refused by the
    validator after the watchdog has moved on. -/
theorem recordEndOfUtterance_refuses (c : ProviderStreamCoordinator) (s u : Uuid) (now : Nat) :
    (¬ c.Collects s u now ∧ ∃ e, c.recordEndOfUtterance s u now = (.err e, c))
      ∨ (c.Collects s u now ∧ c.NoEnd u
        ∧ ∃ e c', c.recordEndOfUtterance s u now = (.err e, c') ∧ c'.watchdog ≠ c.watchdog)
      ∨ ¬ c.NoEnd u ∧ ∃ c', c.recordEndOfUtterance s u now = (.ok (), c') := by
  unfold recordEndOfUtterance
  cases hw : c.watchdog.recordEndOfUtterance s u now with
  | error e =>
    refine .inl ⟨?_, _, rfl⟩
    rintro ⟨hact, deadline, hl, hd⟩
    have hok : ∃ w, c.watchdog.recordEndOfUtterance s u now = .ok w :=
      ⟨_, ProviderAudioWatchdog.recordEndOfUtterance_ok.mpr ⟨hact, deadline, hl, hd, rfl⟩⟩
    simp [hw] at hok
  | ok w =>
    obtain ⟨hact, deadline, hl, hd, rfl⟩ := ProviderAudioWatchdog.recordEndOfUtterance_ok.mp hw
    refine .inr ?_
    rcases ProviderEventValidator.recordEndOfUtterance_cases c.validator u now with
      ⟨e, -, hv⟩ | ⟨hopen, hcl, hin, hv⟩
    · refine .inl ⟨⟨hact, deadline, hl, hd⟩, ?_, ?_⟩
      · by_contra hend
        simp only [NoEnd, not_or, Bool.not_eq_false, Bool.not_eq_true, not_not] at hend
        simp [ProviderEventValidator.recordEndOfUtterance, hend] at hv
      · simp only [hv, Outcome.mapErr]
        refine ⟨_, _, rfl, fun hsame => ?_⟩
        have := congrArg (fun w => w.utterances.lookup u) hsame
        simp [ProviderAudioWatchdog.put, hl] at this
    · simp only [hv, Outcome.mapErr]
      refine .inr ⟨?_, _, rfl⟩
      simp [NoEnd, hopen, hcl, hin]

end ProviderStreamCoordinator

namespace DirectionSession

/-- Where a refusal is not taken back: the first event of a new utterance that the coordinator has no
    place for, and the last frame of the collected utterance when the watchdog takes it and the
    validator does not. -/
def LeavesTrace (d : DirectionSession) : CaptureEvent → Prop
  | .speechStarted s u _ =>
    s = d.contract.streamId ∧ d.collectingUtterance = none ∧ u ∉ d.activeUtterances
      ∧ d.coordinator.NoPlace u
  | .frame s u frame endOfUtterance =>
    s = d.contract.streamId ∧ d.collectingUtterance = some u ∧ endOfUtterance = true
      ∧ d.coordinator.Collects s u frame.captureMonotonicNs ∧ d.coordinator.NoEnd u

/-- An error leaves the session exactly as it was. -/
def RefusesCleanly (d : DirectionSession) (event : CaptureEvent) : Prop :=
  ∀ e d', d.handleCapture event = (.err e, d') → d' = d

variable {d : DirectionSession} {s u : Uuid} {event : CaptureEvent}

theorem requireStream_ok (h : s = d.contract.streamId) : d.requireStream s = .ok () := if_pos h

theorem requireStream_error (h : s ≠ d.contract.streamId) :
    d.requireStream s = .error .streamMismatch := if_neg h

/-- The first event of an utterance. -/
theorem speechStarted_refuses (ns : Nat) : d.RefusesCleanly (.speechStarted s u ns) ↔
    ¬ d.LeavesTrace (.speechStarted s u ns) := by
  simp only [RefusesCleanly, handleCapture, speechStarted, LeavesTrace]
  by_cases hs : s = d.contract.streamId
  case neg =>
    rw [requireStream_error hs]
    refine ⟨fun _ h => hs h.1, fun _ e d' h => ?_⟩
    cases h; rfl
  rw [requireStream_ok hs]
  dsimp only
  split
  · next hbusy =>
    refine ⟨fun _ h => ?_, fun _ e d' h => ?_⟩
    · rw [h.2.1] at hbusy
      exact hbusy.elim (by simp) h.2.2.1
    · cases h; rfl
  · next hfree =>
    simp only [not_or, Bool.not_eq_true, Option.isSome_eq_false_iff,
      Option.isNone_iff_eq_none] at hfree
    rcases d.coordinator.startUtterance_refuses s u ns with ⟨hno, e, heq⟩ | ⟨hplace, c', heq⟩
    · rw [heq]
      refine ⟨fun h => ?_, fun h => absurd ⟨hs, hfree.1, hfree.2, hno⟩ h⟩
      -- the utterance has stayed in the set
      have hsame := congrArg activeUtterances (h _ _ rfl)
      exact absurd (hsame ▸ Finset.mem_insert_self u d.activeUtterances) hfree.2
    · rw [heq]
      refine ⟨fun _ h => hplace h.2.2.2, fun _ e d' h => ?_⟩
      cases h

/-- A captured frame. -/
theorem captured_refuses (frame : PcmFrame) (endOfUtterance : Bool) :
    d.RefusesCleanly (.frame s u frame endOfUtterance) ↔
      ¬ d.LeavesTrace (.frame s u frame endOfUtterance) := by
  simp only [RefusesCleanly, handleCapture, captured, LeavesTrace]
  by_cases hs : s = d.contract.streamId
  case neg =>
    rw [requireStream_error hs]
    refine ⟨fun _ h => hs h.1, fun _ e d' h => ?_⟩
    cases h; rfl
  rw [requireStream_ok hs]
  dsimp only
  split
  · next hother =>
    refine ⟨fun _ h => hother h.2.1, fun _ e d' h => ?_⟩
    cases h; rfl
  next hcurrent =>
  rw [ne_eq, not_not] at hcurrent
  split
  case isFalse hmore =>
    refine ⟨fun _ h => hmore h.2.2.1, fun _ e d' h => ?_⟩
    cases h
  next hlast =>
  rcases d.coordinator.recordEndOfUtterance_refuses s u frame.captureMonotonicNs with
    ⟨hno, e, heq⟩ | ⟨htakes, hend, e, c', heq, hmoved⟩ | ⟨hend, c', heq⟩
  · rw [heq]
    refine ⟨fun _ h => hno h.2.2.2.1, fun _ e d' h => ?_⟩
    cases h; rfl
  · rw [heq]
    refine ⟨fun h => ?_, fun h => absurd ⟨hs, hcurrent, hlast, htakes, hend⟩ h⟩
    -- the watchdog has moved on
    have hsame := congrArg (fun d => d.coordinator.watchdog) (h _ _ rfl)
    exact absurd hsame hmoved
  · rw [heq]
    refine ⟨fun _ h => hend h.2.2.2.2, fun _ e d' h => ?_⟩
    cases h

/-- A refused capture event leaves no trace exactly when it is not one of the two kinds above. -/
theorem refusesCleanly_iff (d : DirectionSession) (event : CaptureEvent) :
    d.RefusesCleanly event ↔ ¬ d.LeavesTrace event := by
  cases event with
  | speechStarted s u ns => exact speechStarted_refuses ns
  | frame s u frame endOfUtterance => exact captured_refuses frame endOfUtterance

/-- In every reachable state, an error leaves the session as it was exactly when the refusal is not
    one that is not taken back. -/
theorem reachable_refusesCleanly_iff (config : DirectionRuntimeConfig) (sessionId streamId : Uuid)
    (ops : List Op) (event : CaptureEvent) :
    (exec apply (new config sessionId streamId) ops).2.RefusesCleanly event
      ↔ ¬ (exec apply (new config sessionId streamId) ops).2.LeavesTrace event :=
  refusesCleanly_iff _ event

/-- Utterance 7 is offered before the session is opened, and again after it. -/
def earlyRun : List Op :=
  [.capture (.speechStarted 2 7 0), .providerEvent (some ProviderEventValidator.sampleOpened) 0]

/-- The first offer is refused and stays in `active_utterances`: the second one is refused for it,
    though the same event is accepted by a session to which it was not offered before. -/
theorem early_speech_leaves_trace :
    ¬ (new sampleConfig 1 2).RefusesCleanly (.speechStarted 2 7 0)
      ∧ ((exec apply (new sampleConfig 1 2) earlyRun).2.handleCapture (.speechStarted 2 7 0)).1
        = .err .invalidCaptureState
      ∧ ((exec apply (new sampleConfig 1 2) earlyRun.tail).2.handleCapture
        (.speechStarted 2 7 0)).1 = .ok none := by
  refine ⟨fun h => ?_, by decide, by decide⟩
  have hsame := congrArg activeUtterances
    (h (.coordinator (.validation .openRequired)) _ (Prod.ext (by decide) rfl))
  revert hsame
  decide

end DirectionSession

end Translator.Stream
