import Translator.Schemes.Run
import Translator.Stream.Coordinator
import Translator.Wire.Coherence

/-! What one call on the coordinator can do. `Admits` is everything `validate_event` asks before it
    hands an event to the validator; `Move` lists the outcomes of all six operations with their
    guards, and `apply_move` is the inversion lemma the invariants of the coordinator start from. -/

namespace Translator.Stream
open Schemes Wire
namespace ProviderStreamCoordinator

/-- One call on the coordinator. -/
inductive Op where
  | startUtterance (streamId utteranceId : Uuid) (captureNs : Nat)
  | recordEndOfUtterance (streamId utteranceId : Uuid) (nowNs : Nat)
  | validateEvent (event : ProviderEvent) (nowNs : Nat)
  | consumeReceiveAudio (streamId utteranceId : Uuid)
  | poll (nowNs : Nat)
  | cancelExpiredUtterance (streamId utteranceId : Uuid) (nowNs : Nat)

/-- The value a call returns. -/
inductive Answer where
  | done
  | frame (pcm : List UInt8)
  | actions (actions : List WatchdogAction)
  deriving DecidableEq, Repr

abbrev Result := Outcome ProviderStreamCoordinatorError Answer

/-- A reply with its value read as an answer. -/
def answer {α : Type} (f : α → Answer) (reply : Reply α) : Result × ProviderStreamCoordinator :=
  (reply.1.map f, reply.2)

def apply (c : ProviderStreamCoordinator) : Op → Result × ProviderStreamCoordinator
  | .startUtterance s u ns => answer (fun _ => .done) (c.startUtterance s u ns)
  | .recordEndOfUtterance s u now => answer (fun _ => .done) (c.recordEndOfUtterance s u now)
  | .validateEvent event now => answer (fun _ => .done) (c.validateEvent event now)
  | .consumeReceiveAudio s u => answer .frame (c.consumeReceiveAudio s u)
  | .poll now => answer .actions (c.poll now)
  | .cancelExpiredUtterance s u now =>
    answer (fun action => .actions [action]) (c.cancelExpiredUtterance s u now)

/-- The frame passes the watchdog and the buffer, or is left to the validator because the
    cancellation of its utterance is pending. -/
def AdmitsAudio (c : ProviderStreamCoordinator) (a : ProviderAudioDelta) (now : Nat) (s u : Uuid) :
    Prop :=
  a.streamId = some s ∧ a.utteranceId = some u
    ∧ (c.watchdog.cancelPending s u = true
      ∨ c.watchdog.checkAudioDelta s u now = .ok ()
        ∧ overflowsBuffer (c.bufferedMs s u) a.frameDurationMs = false)

/-- The final has known identifiers and outcome and passes the watchdog. -/
def AdmitsFinal (c : ProviderStreamCoordinator) (f : ProviderUtteranceFinal) (now : Nat)
    (s u : Uuid) (o : UtteranceOutcome) : Prop :=
  f.streamId = some s ∧ f.utteranceId = some u ∧ UtteranceOutcome.tryFrom f.outcome = some o
    ∧ c.watchdog.checkFinal s u o now = .ok ()

/-- `validate_event` hands the event to the validator. -/
def Admits (c : ProviderStreamCoordinator) (event : Event) (now : Nat) : Prop :=
  (c.watchdog.sessionPhase = .active ∨ event.isSessionClosed = true)
    ∧ (∀ a, event = .audioDelta a → ∃ s u, c.AdmitsAudio a now s u)
    ∧ (∀ f, event = .utteranceFinal f → ∃ s u o, c.AdmitsFinal f now s u o)

/-- The coordinator after the validator has moved to `v`. -/
def withValidator (c : ProviderStreamCoordinator) (v : ProviderEventValidator) :
    ProviderStreamCoordinator := { c with validator := v }

/-- The buffer of `(s, u)` once the frame has been appended. -/
def bufferWith (c : ProviderStreamCoordinator) (s u : Uuid) (frame : BufferedFrame) :
    ReceiveBuffer :=
  match c.receiveBuffers.lookup (s, u) with
  | none => ⟨[frame], frame.durationMs⟩
  | some buffer => ⟨buffer.frames ++ [frame], buffer.bufferedMs + frame.durationMs⟩

/-- An accepted frame: the deadline moves and the frame is buffered. -/
def hear (c : ProviderStreamCoordinator) (s u : Uuid) (a : ProviderAudioDelta) (now : Nat) :
    ProviderStreamCoordinator :=
  { c with
    watchdog := c.watchdog.put u ⟨s, .streamingAudio (saturatingAdd now interAudioDeltaTimeout)⟩
    receiveBuffers :=
      c.receiveBuffers.insert (s, u) (c.bufferWith s u ⟨a.pcm, a.frameDurationMs⟩) }

/-- An accepted final: the utterance leaves the watchdog, and its buffer goes unless it completed. -/
def finish (c : ProviderStreamCoordinator) (s u : Uuid) (o : UtteranceOutcome) :
    ProviderStreamCoordinator :=
  { c with
    watchdog := c.watchdog.remove u
    receiveBuffers :=
      if o ≠ .completed then c.receiveBuffers.erase (s, u) else c.receiveBuffers }

/-- An accepted `SessionClosed`. -/
def shut (c : ProviderStreamCoordinator) : ProviderStreamCoordinator :=
  { c with watchdog := c.watchdog.disarmSession, receiveBuffers := ∅ }

variable {c : ProviderStreamCoordinator} {event : Event} {now : Nat}
  {v : ProviderEventValidator} {s u : Uuid}

theorem canBufferReceiveAudio_ok {d : Nat} : c.canBufferReceiveAudio s u d = .ok () ↔
    overflowsBuffer (c.bufferedMs s u) d = false := by
  unfold canBufferReceiveAudio; split <;> simp_all

theorem bufferReceiveAudio_fits {pcm : List UInt8} {d : Nat}
    (h : overflowsBuffer (c.bufferedMs s u) d = false) :
    c.bufferReceiveAudio s u pcm d
      = (.ok (), { c with
          receiveBuffers := c.receiveBuffers.insert (s, u) (c.bufferWith s u ⟨pcm, d⟩) }) := by
  unfold bufferedMs at h
  unfold bufferReceiveAudio bufferWith
  cases hl : c.receiveBuffers.lookup (s, u) <;> simp_all

theorem validated_ok (hv : c.validator.validate (some event) now = (.ok (), v)) :
    c.validated (some event) now = (.ok (), c.withValidator v) := by
  simp only [validated, hv]; rfl

/-! ### `validate_event` -/

/-- Events the coordinator turns away itself leave no trace. -/
theorem validateEvent_turnedAway (h : ¬ c.Admits event now) :
    ∃ e, (∀ d, e = .validation d → d.documented = false)
      ∧ c.validateEvent (some event) now = (.err e, c) := by
  have hmiss : ∀ d, ProviderStreamCoordinatorError.invalidIdentifier = .validation d →
      d.documented = false := by rintro _ ⟨⟩
  unfold validateEvent
  by_cases hs : c.watchdog.sessionPhase = .active ∨ event.isSessionClosed = true
  case neg =>
    push Not at hs
    have hphase : c.watchdog.sessionAcceptsEvents = false := by
      simp [ProviderAudioWatchdog.sessionAcceptsEvents, hs.1]
    have hkind : event.isSessionClosed = false := by simpa using hs.2
    exact ⟨.watchdog .sessionTerminal, by rintro _ ⟨⟩, by simp only [hphase, hkind]; rfl⟩
  have hgate : (!c.watchdog.sessionAcceptsEvents && !event.isSessionClosed) = false := by
    rcases hs with hs | hs
    · simp [ProviderAudioWatchdog.sessionAcceptsEvents, hs]
    · simp [hs]
  simp only [hgate]
  cases event with
  | audioDelta a =>
    simp only [validateAudioDelta]
    have hno : ∀ s u, ¬ c.AdmitsAudio a now s u := fun s u hau =>
      h ⟨hs, fun a' ha => by cases ha; exact ⟨s, u, hau⟩, fun f hf => (nomatch hf)⟩
    cases hst : a.streamId with
    | none => exact ⟨_, hmiss, rfl⟩
    | some s =>
      cases hut : a.utteranceId with
      | none => exact ⟨_, hmiss, rfl⟩
      | some u =>
        have hcp : c.watchdog.cancelPending s u = false := by
          by_contra hc
          exact hno s u ⟨hst, hut, .inl (by simpa using hc)⟩
        simp only [hcp]
        cases hca : c.watchdog.checkAudioDelta s u now with
        | error e => exact ⟨_, by rintro _ ⟨⟩, rfl⟩
        | ok x =>
          have hfull : c.canBufferReceiveAudio s u a.frameDurationMs = .error .receiveBufferFull := by
            unfold canBufferReceiveAudio
            rw [if_pos]
            by_contra hb
            exact hno s u ⟨hst, hut, .inr ⟨hca, by simpa using hb⟩⟩
          simp only [hfull]
          exact ⟨_, by rintro _ ⟨⟩, rfl⟩
  | utteranceFinal f =>
    simp only [validateUtteranceFinal]
    have hno : ∀ s u o, ¬ c.AdmitsFinal f now s u o := fun s u o hau =>
      h ⟨hs, fun a ha => (nomatch ha), fun f' hf => by cases hf; exact ⟨s, u, o, hau⟩⟩
    cases hst : f.streamId with
    | none => exact ⟨_, hmiss, rfl⟩
    | some s =>
      cases hut : f.utteranceId with
      | none => exact ⟨_, hmiss, rfl⟩
      | some u =>
        cases hout : UtteranceOutcome.tryFrom f.outcome with
        | none => exact ⟨_, by rintro _ ⟨⟩; rfl, rfl⟩
        | some o =>
          cases hcf : c.watchdog.checkFinal s u o now with
          | error e => exact ⟨.watchdog e, by rintro _ ⟨⟩, by simp only [hcf]; rfl⟩
          | ok x => exact absurd ⟨hst, hut, hout, hcf⟩ (hno s u o)
  | _ => exact absurd ⟨hs, fun _ h => (nomatch h), fun _ h => (nomatch h)⟩ h

/-- The gate at the head of `validate_event`. -/
theorem admits_gate (h : c.Admits event now) :
    (!c.watchdog.sessionAcceptsEvents && !event.isSessionClosed) = false := by
  rcases h.1 with hs | hs
  · simp [ProviderAudioWatchdog.sessionAcceptsEvents, hs]
  · simp [hs]

/-- An event the validator refuses changes the validator at most. -/
theorem validateEvent_refused {r : Outcome ProviderValidationError Unit} (h : c.Admits event now)
    (hv : c.validator.validate (some event) now = (r, v)) (hr : r ≠ .ok ()) :
    c.validateEvent (some event) now = (r.mapErr .validation, c.withValidator v) := by
  have hval : c.validated (some event) now = (r.mapErr .validation, c.withValidator v) := by
    simp only [validated, hv]; rfl
  have hgate := admits_gate h
  cases event with
  | audioDelta a =>
    obtain ⟨s, u, hst, hut, hok⟩ := h.2.1 a rfl
    rcases hok with hc | ⟨hc, hb⟩
    · simp [validateEvent, hgate, validateAudioDelta, hst, hut, hval, hc]
    · cases r <;> first | exact absurd rfl hr | simp [validateEvent, hgate, validateAudioDelta, hst,
        hut, hval, hc, canBufferReceiveAudio_ok.mpr hb, Outcome.mapErr]
  | utteranceFinal f =>
    obtain ⟨s, u, o, hst, hut, hout, hcf⟩ := h.2.2 f rfl
    cases r <;> first | exact absurd rfl hr | simp [validateEvent, hgate, validateUtteranceFinal,
      hst, hut, hout, hcf, hval, Outcome.mapErr]
  | sessionClosed z =>
    cases r <;> first | exact absurd rfl hr | simp [validateEvent, Event.isSessionClosed,
      validateSessionClosed, hval, Outcome.mapErr]
  | _ => simpa [validateEvent, hgate] using hval

/-- An accepted frame of an utterance that is not being cancelled is timed and buffered. -/
theorem validateEvent_heard {a : ProviderAudioDelta} (hst : a.streamId = some s)
    (hut : a.utteranceId = some u) (hc : c.watchdog.checkAudioDelta s u now = .ok ())
    (hb : overflowsBuffer (c.bufferedMs s u) a.frameDurationMs = false)
    (hv : c.validator.validate (some (.audioDelta a)) now = (.ok (), v)) :
    c.validateEvent (some (.audioDelta a)) now = (.ok (), (c.withValidator v).hear s u a now) := by
  obtain ⟨hact, x, hl, hx, haw, hd⟩ := ProviderAudioWatchdog.checkAudioDelta_ok.mp hc
  have hnc : c.watchdog.cancelPending s u = false := by
    by_contra hcp
    obtain ⟨y, hy, -, hp⟩ := ProviderAudioWatchdog.cancelPending_iff.mp (by simpa using hcp)
    obtain rfl : x = y := Option.some.inj (hl.symm.trans hy)
    revert haw hp
    cases x.phase <;> simp [UtterancePhase.awaitsProvider, UtterancePhase.isCancelPending]
  have hrec := ProviderAudioWatchdog.recordAudioDelta_ok.mpr ⟨hact, x, hl, hx, haw, hd, rfl⟩
  have hgate : c.watchdog.sessionAcceptsEvents = true := by
    simp [ProviderAudioWatchdog.sessionAcceptsEvents, hact]
  simp only [validateEvent, hgate, validateAudioDelta, hst, hut, hnc, hc,
    canBufferReceiveAudio_ok.mpr hb, validated_ok hv, withValidator, hrec]
  exact bufferReceiveAudio_fits hb

/-- An accepted final takes the utterance out of the watchdog. -/
theorem validateEvent_finished {f : ProviderUtteranceFinal} {o : UtteranceOutcome}
    (h : c.AdmitsFinal f now s u o)
    (hv : c.validator.validate (some (.utteranceFinal f)) now = (.ok (), v)) :
    c.validateEvent (some (.utteranceFinal f)) now = (.ok (), (c.withValidator v).finish s u o) := by
  obtain ⟨hst, hut, hout, hcf⟩ := h
  obtain ⟨hact, x, hl, hx, hph, hd⟩ := ProviderAudioWatchdog.checkFinal_ok.mp hcf
  have hgate : c.watchdog.sessionAcceptsEvents = true := by
    simp [ProviderAudioWatchdog.sessionAcceptsEvents, hact]
  have hrec : (c.withValidator v).recordFinal s u o = .ok (c.watchdog.remove u) := by
    rcases hph with ⟨haw, rfl | rfl⟩ | ⟨hcp, rfl⟩
    · exact ProviderAudioWatchdog.finishUtterance_ok.mpr ⟨hact, x, hl, hx, .inl ⟨haw, rfl⟩, rfl⟩
    · exact ProviderAudioWatchdog.finishUtterance_ok.mpr ⟨hact, x, hl, hx, .inl ⟨haw, rfl⟩, rfl⟩
    · exact ProviderAudioWatchdog.finishUtterance_ok.mpr ⟨hact, x, hl, hx, .inr ⟨hcp, rfl⟩, rfl⟩
  simp only [validateEvent, hgate, validateUtteranceFinal, hst, hut, hout, hcf, validated_ok hv,
    hrec, finish]
  by_cases ho : o = .completed <;> simp [ho, withValidator]

/-- An accepted `SessionClosed` carries the session of the contract, so the watchdog takes it. -/
theorem validateEvent_shut {z : ProviderSessionClosed}
    (hsid : c.watchdog.sessionId = c.validator.contract.sessionId)
    (hv : c.validator.validate (some (.sessionClosed z)) now = (.ok (), v)) :
    c.validateEvent (some (.sessionClosed z)) now = (.ok (), (c.withValidator v).shut) := by
  have hid : z.sessionId = some c.validator.contract.sessionId := by
    cases hen : c.validator.validateEnvelope (.sessionClosed z) with
    | error e => rw [ProviderEventValidator.validate_of_envelope_err hen] at hv; cases hv
    | ok x => exact (ProviderEventValidator.validateEnvelope_ok.mp hen).2.2.1
  have hrec : c.watchdog.recordSessionClosed c.validator.contract.sessionId
      = .ok c.watchdog.disarmSession := by
    simp [ProviderAudioWatchdog.recordSessionClosed, hsid]
  simp [validateEvent, Event.isSessionClosed, validateSessionClosed, validated_ok hv, hid,
    withValidator, hrec, shut]

/-- Any other accepted event changes the validator only. -/
theorem validateEvent_noted (h : c.Admits event now) (hau : ∀ a, event = .audioDelta a →
      ∃ s u, a.streamId = some s ∧ a.utteranceId = some u ∧ c.watchdog.cancelPending s u = true)
    (hf : ∀ f, event ≠ .utteranceFinal f) (hcl : event.isSessionClosed = false)
    (hv : c.validator.validate (some event) now = (.ok (), v)) :
    c.validateEvent (some event) now = (.ok (), c.withValidator v) := by
  have hgate := admits_gate h
  cases event with
  | audioDelta a =>
    obtain ⟨s, u, hst, hut, hc⟩ := hau a rfl
    simp [validateEvent, hgate, validateAudioDelta, hst, hut, hc, validated_ok hv]
  | utteranceFinal f => exact absurd rfl (hf f)
  | sessionClosed z => cases hcl
  | _ => simpa [validateEvent, hgate] using validated_ok hv

/-- An admitted event that the validator accepts is accepted. -/
theorem validateEvent_accepts (hsid : c.watchdog.sessionId = c.validator.contract.sessionId)
    (hadm : c.Admits event now) (hv : c.validator.validate (some event) now = (.ok (), v)) :
    (c.validateEvent (some event) now).1 = .ok () := by
  cases event with
  | audioDelta a =>
    obtain ⟨s, u, hst, hut, hok⟩ := hadm.2.1 a rfl
    rcases hok with hc | ⟨hc, hb⟩
    · rw [validateEvent_noted hadm (by rintro _ ⟨⟩; exact ⟨s, u, hst, hut, hc⟩) (by simp) rfl hv]
    · rw [validateEvent_heard hst hut hc hb hv]
  | utteranceFinal f =>
    obtain ⟨s, u, o, hadmf⟩ := hadm.2.2 f rfl
    rw [validateEvent_finished hadmf hv]
  | sessionClosed z => rw [validateEvent_shut hsid hv]
  | _ => rw [validateEvent_noted hadm (by simp) (by simp) rfl hv]

/-! ### `poll` -/

/-- The utterances a list of actions cancels. -/
def cancelled (actions : List WatchdogAction) (u : Uuid) : Prop :=
  ∃ session s purge, WatchdogAction.cancelUtterance session s u purge ∈ actions

/-- The coordinator with every action of a poll carried out. -/
structure Performed (c : ProviderStreamCoordinator) (actions : List WatchdogAction)
    (c' : ProviderStreamCoordinator) : Prop where
  watchdog : c'.watchdog = c.watchdog
  validator : ∃ marked : Finset Uuid, c'.validator = { c.validator with cancelPending := marked }
    ∧ ∀ u, u ∈ marked ↔ u ∈ c.validator.cancelPending ∨ cancelled actions u
  kept : ∀ k b, c'.receiveBuffers.lookup k = some b → c.receiveBuffers.lookup k = some b
  purged : ∀ session s u, .cancelUtterance session s u true ∈ actions → (s, u) ∉ c'.receiveBuffers
  cleared : (∃ session, .closeProviderSession session ∈ actions ∨ .restartSidecar session ∈ actions)
    → c'.receiveBuffers = ∅

theorem cancelled_cons {a : WatchdogAction} {actions : List WatchdogAction} :
    cancelled (a :: actions) u ↔
      (∃ session s purge, a = .cancelUtterance session s u purge) ∨ cancelled actions u := by
  simp [cancelled, exists_or, eq_comm]

/-- The first loop asks nothing of the buffers and of the cancellations already pending. -/
theorem checkCancels_congr {c' : ProviderStreamCoordinator}
    (h : ∀ u, c'.validator.canRecordCancelRequested u = c.validator.canRecordCancelRequested u) :
    ∀ actions, c'.checkCancels actions = c.checkCancels actions
  | [] => rfl
  | .cancelUtterance _ _ u _ :: actions => by
    simp only [checkCancels, h, checkCancels_congr h actions]
  | .closeProviderSession _ :: actions => by
    simp only [checkCancels, checkCancels_congr h actions]
  | .restartSidecar _ :: actions => by simp only [checkCancels, checkCancels_congr h actions]

theorem canRecordCancelRequested_err {e : ProviderValidationError}
    (h : v.canRecordCancelRequested u = .error e) : e.documented = false := by
  unfold ProviderEventValidator.canRecordCancelRequested at h
  split at h
  · cases h; rfl
  split at h
  · cases h; rfl
  split at h
  · cases h; rfl
  split at h <;> cases h
  rfl

theorem checkCancels_err {e : ProviderValidationError} :
    ∀ actions, c.checkCancels actions = .error e → e.documented = false
  | [], h => by cases h
  | .cancelUtterance _ _ u _ :: actions, h => by
    simp only [checkCancels] at h
    split at h
    · next hc => cases h; exact canRecordCancelRequested_err hc
    · exact checkCancels_err actions h
  | .closeProviderSession _ :: actions, h => checkCancels_err actions h
  | .restartSidecar _ :: actions, h => checkCancels_err actions h

/-- A cancellation carried out. -/
def mark (c : ProviderStreamCoordinator) (s u : Uuid) (purge : Bool) : ProviderStreamCoordinator :=
  { c with
    validator := { c.validator with cancelPending := insert u c.validator.cancelPending }
    receiveBuffers := if purge then c.receiveBuffers.erase (s, u) else c.receiveBuffers }

theorem perform_cancel {session : Uuid} {purge : Bool}
    (hcan : c.validator.canRecordCancelRequested u = .ok ()) :
    c.perform (.cancelUtterance session s u purge) = (.ok (), c.mark s u purge) := by
  simp only [perform, ProviderEventValidator.recordCancelRequested, hcan]
  cases purge <;> rfl

theorem mark_kept {purge : Bool} {k : Uuid × Uuid} {b : ReceiveBuffer}
    (hb : (c.mark s u purge).receiveBuffers.lookup k = some b) :
    c.receiveBuffers.lookup k = some b := by
  cases purge with
  | false => exact hb
  | true =>
    rw [mark, if_pos rfl, Table.lookup_erase_if] at hb
    split at hb
    · cases hb
    · exact hb

/-- A step that clears the buffers, followed by the rest of the list. -/
theorem performed_clear {actions : List WatchdogAction} {a : WatchdogAction}
    {c' : ProviderStreamCoordinator} (ha : ∀ session s u purge, a ≠ .cancelUtterance session s u purge)
    (h : Performed { c with receiveBuffers := ∅ } actions c') : Performed c (a :: actions) c' := by
  have hempty : c'.receiveBuffers = ∅ := by
    apply AList.ext
    rw [AList.empty_entries, List.eq_nil_iff_forall_not_mem]
    rintro ⟨k, b⟩ hmem
    have hb := h.kept k b (AList.mem_lookup_iff.mpr hmem)
    rw [AList.lookup_empty] at hb
    cases hb
  obtain ⟨marked, hval, hmem⟩ := h.validator
  refine ⟨h.watchdog, ⟨marked, hval, fun u => ?_⟩, ?_, ?_, fun _ => hempty⟩
  · rw [hmem, cancelled_cons]
    refine or_congr_right ⟨.inr, Or.rec ?_ id⟩
    rintro ⟨session, s, purge, rfl⟩
    exact absurd rfl (ha session s u purge)
  · intro k b hb; rw [hempty, AList.lookup_empty] at hb; cases hb
  · intro _ _ _ _; rw [hempty]; exact AList.notMem_empty _

/-- A list of actions that passed the first loop goes through the second. -/
theorem performAll_ok : ∀ {actions : List WatchdogAction} {c : ProviderStreamCoordinator},
    c.checkCancels actions = .ok () →
      ∃ c', c.performAll actions = (.ok (), c') ∧ Performed c actions c'
  | [], c, _ => ⟨c, rfl, rfl, ⟨c.validator.cancelPending, rfl, by simp [cancelled]⟩,
      fun _ _ h => h, by simp, by simp⟩
  | .cancelUtterance session s u purge :: actions, c, h => by
    simp only [checkCancels] at h
    split at h
    · cases h
    next hcan =>
    have hcheck : (c.mark s u purge).checkCancels actions = .ok () :=
      (checkCancels_congr (by intro; rfl) actions).trans h
    obtain ⟨c', hc', hp⟩ := performAll_ok hcheck
    obtain ⟨marked, hval, hmem⟩ := hp.validator
    refine ⟨c', by simp only [performAll, perform_cancel hcan, hc'], hp.watchdog,
      ⟨marked, hval, fun x => ?_⟩, fun k b hb => mark_kept (hp.kept k b hb), ?_, ?_⟩
    · rw [hmem, cancelled_cons, mark, Finset.mem_insert, or_assoc, or_left_comm]
      simp [eq_comm]
    · intro session' s' u' hm hin
      rcases List.mem_cons.mp hm with heq | hm
      · cases heq
        obtain ⟨b, hb⟩ := Option.isSome_iff_exists.mp (AList.lookup_isSome.mpr hin)
        have := hp.kept _ b hb
        rw [mark, if_pos rfl, AList.lookup_erase] at this
        cases this
      · exact hp.purged session' s' u' hm hin
    · rintro ⟨session', hm⟩
      exact hp.cleared ⟨session', by simpa using hm⟩
  | .closeProviderSession session :: actions, c, h => by
    have hcheck : ({ c with receiveBuffers := ∅ } : ProviderStreamCoordinator).checkCancels actions
        = .ok () := (checkCancels_congr (by intro; rfl) actions).trans h
    obtain ⟨c', hc', hp⟩ := performAll_ok hcheck
    exact ⟨c', hc', performed_clear (by simp) hp⟩
  | .restartSidecar session :: actions, c, h => by
    have hcheck : ({ c with receiveBuffers := ∅ } : ProviderStreamCoordinator).checkCancels actions
        = .ok () := (checkCancels_congr (by intro; rfl) actions).trans h
    obtain ⟨c', hc', hp⟩ := performAll_ok hcheck
    exact ⟨c', hc', performed_clear (by simp) hp⟩

/-- `poll` is refused as a whole, or all its actions are carried out. -/
theorem poll_cases (c : ProviderStreamCoordinator) (now : Nat) :
    (∃ e, e.documented = false ∧ c.poll now = (.err (.validation e), c))
      ∨ ∃ c', c.checkCancels (c.watchdog.poll now).1 = .ok ()
        ∧ c.poll now = (.ok (c.watchdog.poll now).1, c')
        ∧ Performed { c with watchdog := (c.watchdog.poll now).2 } (c.watchdog.poll now).1 c' := by
  simp only [poll]
  cases hcheck : c.checkCancels (c.watchdog.poll now).1 with
  | error e => exact .inl ⟨e, checkCancels_err _ hcheck, rfl⟩
  | ok x =>
    right
    have hcheck' : ({ c with watchdog := (c.watchdog.poll now).2 } :
        ProviderStreamCoordinator).checkCancels (c.watchdog.poll now).1 = .ok () :=
      (checkCancels_congr (by intro; rfl) _).trans hcheck
    obtain ⟨c', hc', hp⟩ := performAll_ok hcheck'
    exact ⟨c', rfl, by simp only [hc'], hp⟩

/-! ### Every operation -/

/-- The outcomes of a call, with their guards and the state they leave. -/
inductive Move (c : ProviderStreamCoordinator) : Op → Result → ProviderStreamCoordinator → Prop
  /-- Refused before anything changed. -/
  | refused (op : Op) (e : ProviderStreamCoordinatorError)
      (he : ∀ d, e = .validation d → d.documented = false) : Move c op (.err e) c
  | started (s u : Uuid) (ns : Nat) (v : ProviderEventValidator)
      (hact : c.watchdog.sessionPhase = .active) (hnew : u ∉ c.watchdog.utterances)
      (hv : c.validator.recordInput u ns = (.ok (), v)) :
      Move c (.startUtterance s u ns) (.ok .done)
        { c with
          watchdog :=
            c.watchdog.put u ⟨s, .collectingInput (saturatingAdd ns collectingInputTimeout)⟩
          validator := v }
  /-- The watchdog moves on even when the validator then refuses. -/
  | inputEnded (s u : Uuid) (now d : Nat) (hact : c.watchdog.sessionPhase = .active)
      (hl : c.watchdog.utterances.lookup u = some ⟨s, .collectingInput d⟩) (hd : now ≤ d) :
      Move c (.recordEndOfUtterance s u now)
        (((c.validator.recordEndOfUtterance u now).1.mapErr .validation).map fun _ => .done)
        { c with
          watchdog :=
            c.watchdog.put u ⟨s, .awaitingFirstAudio (saturatingAdd now firstAudioAfterEouTimeout)⟩
          validator := (c.validator.recordEndOfUtterance u now).2 }
  | judged (event : Event) (now : Nat) (r : Outcome ProviderValidationError Unit)
      (v : ProviderEventValidator) (hadm : c.Admits event now)
      (hv : c.validator.validate (some event) now = (r, v)) (hr : r ≠ .ok ()) :
      Move c (.validateEvent (some event) now) ((r.mapErr .validation).map fun _ => .done)
        (c.withValidator v)
  | heard (a : ProviderAudioDelta) (s u : Uuid) (now : Nat) (v : ProviderEventValidator)
      (hst : a.streamId = some s) (hut : a.utteranceId = some u)
      (hc : c.watchdog.checkAudioDelta s u now = .ok ())
      (hb : overflowsBuffer (c.bufferedMs s u) a.frameDurationMs = false)
      (hv : c.validator.validate (some (.audioDelta a)) now = (.ok (), v)) :
      Move c (.validateEvent (some (.audioDelta a)) now) (.ok .done)
        ((c.withValidator v).hear s u a now)
  | finished (f : ProviderUtteranceFinal) (s u : Uuid) (o : UtteranceOutcome) (now : Nat)
      (v : ProviderEventValidator) (hadm : c.AdmitsFinal f now s u o)
      (hv : c.validator.validate (some (.utteranceFinal f)) now = (.ok (), v)) :
      Move c (.validateEvent (some (.utteranceFinal f)) now) (.ok .done)
        ((c.withValidator v).finish s u o)
  | shut (z : ProviderSessionClosed) (now : Nat) (v : ProviderEventValidator)
      (hv : c.validator.validate (some (.sessionClosed z)) now = (.ok (), v)) :
      Move c (.validateEvent (some (.sessionClosed z)) now) (.ok .done) (c.withValidator v).shut
  /-- An accepted event of another kind, or an accepted frame of a utterance under cancellation. -/
  | noted (event : Event) (now : Nat) (v : ProviderEventValidator) (hadm : c.Admits event now)
      (hau : ∀ a, event = .audioDelta a → ∃ s u, a.streamId = some s ∧ a.utteranceId = some u
        ∧ c.watchdog.cancelPending s u = true)
      (hf : ∀ f, event ≠ .utteranceFinal f) (hcl : event.isSessionClosed = false)
      (hv : c.validator.validate (some event) now = (.ok (), v)) :
      Move c (.validateEvent (some event) now) (.ok .done) (c.withValidator v)
  | consumedLast (s u : Uuid) (b : ReceiveBuffer) (frame : BufferedFrame)
      (hb : c.receiveBuffers.lookup (s, u) = some b) (hf : b.frames = [frame]) :
      Move c (.consumeReceiveAudio s u) (.ok (.frame frame.pcm))
        { c with receiveBuffers := c.receiveBuffers.erase (s, u) }
  | consumed (s u : Uuid) (b : ReceiveBuffer) (frame : BufferedFrame) (frames : List BufferedFrame)
      (hb : c.receiveBuffers.lookup (s, u) = some b) (hf : b.frames = frame :: frames)
      (hne : frames ≠ []) :
      Move c (.consumeReceiveAudio s u) (.ok (.frame frame.pcm))
        { c with receiveBuffers :=
          c.receiveBuffers.insert (s, u) ⟨frames, b.bufferedMs - frame.durationMs⟩ }
  | polled (now : Nat) (c' : ProviderStreamCoordinator)
      (hcheck : c.checkCancels (c.watchdog.poll now).1 = .ok ())
      (hp : Performed { c with watchdog := (c.watchdog.poll now).2 } (c.watchdog.poll now).1 c') :
      Move c (.poll now) (.ok (.actions (c.watchdog.poll now).1)) c'
  | expired (s u : Uuid) (now : Nat) (x : WatchedUtterance)
      (hact : c.watchdog.sessionPhase = .active) (hl : c.watchdog.utterances.lookup u = some x)
      (hs : x.streamId = s) (haw : x.phase.awaitsProvider = true)
      (hcan : c.validator.canRecordCancelRequested u = .ok ()) :
      Move c (.cancelExpiredUtterance s u now)
        (.ok (.actions [.cancelUtterance c.watchdog.sessionId s u true]))
        { c.mark s u true with
          watchdog := c.watchdog.put u ⟨s, .cancelPending (saturatingAdd now cancelFinalTimeout)⟩ }

theorem startUtterance_move (c : ProviderStreamCoordinator) (s u : Uuid) (ns : Nat) :
    Move c (.startUtterance s u ns) (c.apply (.startUtterance s u ns)).1
      (c.apply (.startUtterance s u ns)).2 := by
  simp only [apply, answer, startUtterance]
  cases hw : c.watchdog.startUtterance s u ns with
  | error e => exact .refused _ _ (by rintro _ ⟨⟩)
  | ok w =>
    obtain ⟨hact, hnew, rfl⟩ := ProviderAudioWatchdog.startUtterance_ok.mp hw
    rcases ProviderEventValidator.recordInput_cases c.validator u ns with
      ⟨e, he, hv⟩ | ⟨-, -, -, -, hv⟩
    · -- the watchdog entry is taken back
      simp only [hv]
      have hback : (c.watchdog.put u
          ⟨s, .collectingInput (saturatingAdd ns collectingInputTimeout)⟩).disarmUtterance s u
            = .ok c.watchdog := by
        simp [ProviderAudioWatchdog.disarmUtterance, ProviderAudioWatchdog.watched,
          ProviderAudioWatchdog.put, ProviderAudioWatchdog.remove,
          Table.erase_insert_of_not_mem _ hnew]
        rfl
      rw [hback]
      exact .refused _ _ (by rintro _ ⟨⟩; exact he)
    · have hmove := Move.started (c := c) s u ns _ hact hnew hv
      simp only [hv]
      exact hmove

theorem validateEvent_move (hsid : c.watchdog.sessionId = c.validator.contract.sessionId)
    (event : ProviderEvent) (now : Nat) :
    Move c (.validateEvent event now) (c.apply (.validateEvent event now)).1
      (c.apply (.validateEvent event now)).2 := by
  simp only [apply, answer]
  cases event with
  | none => exact .refused _ _ (by rintro _ ⟨⟩; rfl)
  | some event =>
    by_cases hadm : c.Admits event now
    case neg =>
      obtain ⟨e, he, heq⟩ := validateEvent_turnedAway hadm
      rw [heq]; exact .refused _ e he
    obtain ⟨r, v, hv⟩ : ∃ r v, c.validator.validate (some event) now = (r, v) := ⟨_, _, rfl⟩
    by_cases hr : r = .ok ()
    case neg => rw [validateEvent_refused hadm hv hr]; exact .judged event now r v hadm hv hr
    subst hr
    by_cases hf : ∃ f, event = .utteranceFinal f
    · obtain ⟨f, rfl⟩ := hf
      obtain ⟨s, u, o, hadmf⟩ := hadm.2.2 f rfl
      rw [validateEvent_finished hadmf hv]
      exact .finished f s u o now v hadmf hv
    by_cases hz : ∃ z, event = .sessionClosed z
    · obtain ⟨z, rfl⟩ := hz
      rw [validateEvent_shut hsid hv]
      exact .shut z now v hv
    have hcl : event.isSessionClosed = false := by
      cases event <;> first | rfl | exact absurd ⟨_, rfl⟩ hz
    by_cases hau : ∀ a, event = .audioDelta a → ∃ s u, a.streamId = some s
        ∧ a.utteranceId = some u ∧ c.watchdog.cancelPending s u = true
    · rw [validateEvent_noted hadm hau (fun f h => hf ⟨f, h⟩) hcl hv]
      exact .noted event now v hadm hau (fun f h => hf ⟨f, h⟩) hcl hv
    · push Not at hau
      obtain ⟨a, rfl, hau⟩ := hau
      obtain ⟨s, u, hst, hut, hok⟩ := hadm.2.1 a rfl
      obtain ⟨hc, hb⟩ := hok.resolve_left (hau s u hst hut)
      rw [validateEvent_heard hst hut hc hb hv]
      exact .heard a s u now v hst hut hc hb hv

/-- The inversion lemma of the coordinator. -/
theorem apply_move (hsid : c.watchdog.sessionId = c.validator.contract.sessionId) (op : Op) :
    Move c op (c.apply op).1 (c.apply op).2 := by
  cases op with
  | startUtterance s u ns => exact startUtterance_move c s u ns
  | recordEndOfUtterance s u now =>
    simp only [apply, answer, recordEndOfUtterance]
    cases hw : c.watchdog.recordEndOfUtterance s u now with
    | error e => exact .refused _ _ (by rintro _ ⟨⟩)
    | ok w =>
      obtain ⟨hact, d, hl, hd, rfl⟩ := ProviderAudioWatchdog.recordEndOfUtterance_ok.mp hw
      exact .inputEnded s u now d hact hl hd
  | validateEvent event now => exact validateEvent_move hsid event now
  | consumeReceiveAudio s u =>
    simp only [apply, answer, consumeReceiveAudio]
    cases hb : c.receiveBuffers.lookup (s, u) with
    | none => exact .refused _ _ (by rintro _ ⟨⟩)
    | some b =>
      cases hf : b.frames with
      | nil => simp only [hf]; exact .refused _ _ (by rintro _ ⟨⟩)
      | cons frame frames =>
        cases frames with
        | nil => simp only [hf]; exact .consumedLast s u b frame hb hf
        | cons frame' frames =>
          simp only [hf]; exact .consumed s u b frame (frame' :: frames) hb hf (by simp)
  | poll now =>
    simp only [apply, answer]
    rcases poll_cases c now with ⟨e, he, heq⟩ | ⟨c', hcheck, heq, hp⟩ <;> rw [heq]
    · exact .refused _ _ (by rintro _ ⟨⟩; exact he)
    · exact .polled now c' hcheck hp
  | cancelExpiredUtterance s u now =>
    simp only [apply, answer, cancelExpiredUtterance]
    cases hw : c.watchdog.cancelUtterance s u now with
    | error e => exact .refused _ _ (by rintro _ ⟨⟩)
    | ok p =>
      obtain ⟨action, w⟩ := p
      obtain ⟨hact, x, hl, hs, haw, rfl, rfl⟩ := ProviderAudioWatchdog.cancelUtterance_ok.mp hw
      simp only [ProviderEventValidator.recordCancelRequested]
      cases hcan : c.validator.canRecordCancelRequested u with
      | error e => exact .refused _ _ (by rintro _ ⟨⟩; exact canRecordCancelRequested_err hcan)
      | ok y => exact .expired s u now x hact hl hs haw hcan

end ProviderStreamCoordinator

end Translator.Stream
