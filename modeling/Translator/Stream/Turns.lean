import Translator.Stream.Agreement
import Translator.Stream.DirectionSession

/-! What one call on a direction session can do. Between calls the receive buffers of a session are
    empty, because every accepted frame is consumed by the call that accepted it; with that and the
    agreement of the coordinator's stores, `Turn` lists the outcomes of every call and `apply_turn`
    is the inversion lemma. -/

namespace Translator.Stream
open Schemes Wire
open Audio (CaptureEvent)
open Core (PcmFrame StreamPcmFormat)
open ProviderStreamCoordinator (Move Sound Agree Live)

namespace DirectionSession

/-- What holds of a session between two calls. -/
structure Settled (d : DirectionSession) : Prop where
  sound : Sound d.coordinator
  agree : Live d.coordinator → Agree d.coordinator
  drained : d.coordinator.receiveBuffers = ∅
  contract : d.coordinator.validator.contract = d.contract
  format : d.contract.outputFormat = providerPcmFormat

/-- The effects of an answer. -/
def effectsOf : Result → List DirectionEffect
  | .ok (.effects effects) => effects
  | _ => []

/-- The coordinator after it has played a frame: the buffer is as empty as before. -/
def played (c : ProviderStreamCoordinator) (v : ProviderEventValidator) (s u : Uuid) (now : Nat) :
    ProviderStreamCoordinator :=
  { c with
    watchdog := c.watchdog.put u ⟨s, .streamingAudio (saturatingAdd now interAudioDeltaTimeout)⟩
    validator := v }

/-- The outcomes of a call, with the moves of the coordinator behind them. -/
inductive Turn (d : DirectionSession) : Op → Result → DirectionSession → Prop
  /-- Refused with the coordinator as it was. -/
  | refused (op : Op) (e : DirectionSessionError) (d' : DirectionSession)
      (hc : d'.coordinator = d.coordinator) : Turn d op (.err e) d'
  | started (s u : Uuid) (ns : Nat) (d' : DirectionSession)
      (hm : Move d.coordinator (.startUtterance s u ns) (.ok .done) d'.coordinator) :
      Turn d (.capture (.speechStarted s u ns)) (.ok (.request none)) d'
  | framed (s u : Uuid) (frame : PcmFrame) (d' : DirectionSession)
      (hc : d'.coordinator = d.coordinator) :
      Turn d (.capture (.frame s u frame false))
        (.ok (.request (some (d.inputRequest s u frame false)))) d'
  | inputEnded (s u : Uuid) (frame : PcmFrame) (d' : DirectionSession)
      (hm : Move d.coordinator (.recordEndOfUtterance s u frame.captureMonotonicNs) (.ok .done)
        d'.coordinator) :
      Turn d (.capture (.frame s u frame true))
        (.ok (.request (some (d.inputRequest s u frame true)))) d'
  /-- The watchdog has moved on but the validator refuses. -/
  | inputRefused (s u : Uuid) (frame : PcmFrame) (e : ProviderStreamCoordinatorError)
      (d' : DirectionSession)
      (hm : Move d.coordinator (.recordEndOfUtterance s u frame.captureMonotonicNs) (.err e)
        d'.coordinator) :
      Turn d (.capture (.frame s u frame true)) (.err (.coordinator e)) d'
  | judged (event : Event) (now : Nat) (e : ProviderStreamCoordinatorError) (d' : DirectionSession)
      (hm : Move d.coordinator (.validateEvent (some event) now) (.err e) d'.coordinator)
      (hne : e ≠ .validation .cancelledAudio) (hnx : e ≠ .validation .expiredAudio) :
      Turn d (.providerEvent (some event) now) (.err (.coordinator e)) d'
  /-- Audio that crossed its cancellation is dropped in silence. -/
  | dropped (a : ProviderAudioDelta) (u : Uuid) (now : Nat) (d' : DirectionSession)
      (v : ProviderEventValidator) (hid : a.utteranceId = some u)
      (hc : u ∈ d.coordinator.validator.cancelPending)
      (hadm : d.coordinator.Admits (.audioDelta a) now)
      (hv : d.coordinator.validator.validate (some (.audioDelta a)) now = (.err .cancelledAudio, v))
      (hd : d'.coordinator = d.coordinator.withValidator v) :
      Turn d (.providerEvent (some (.audioDelta a)) now) (.ok (.effects [])) d'
  | expired (a : ProviderAudioDelta) (s u : Uuid) (now : Nat) (d' : DirectionSession)
      (c' : ProviderStreamCoordinator) (hid : a.utteranceId = some u)
      (hm : Move d.coordinator (.validateEvent (some (.audioDelta a)) now)
        (.err (.validation .expiredAudio)) c')
      (hx : Move c' (.cancelExpiredUtterance s u now)
        (.ok (.actions [.cancelUtterance c'.watchdog.sessionId s u true])) d'.coordinator) :
      Turn d (.providerEvent (some (.audioDelta a)) now)
        (.ok (.effects [.expiredAudio u (d.cancelRequest u)])) d'
  | playback (a : ProviderAudioDelta) (s u : Uuid) (now : Nat) (frame : PcmFrame)
      (v : ProviderEventValidator) (d' : DirectionSession) (hst : a.streamId = some s)
      (hut : a.utteranceId = some u) (hc : d.coordinator.watchdog.checkAudioDelta s u now = .ok ())
      (hv : d.coordinator.validator.validate (some (.audioDelta a)) now = (.ok (), v))
      (hseq : frame.sequence = a.sequence) (hpcm : frame.pcm = a.pcm)
      (hd : d'.coordinator = played d.coordinator v s u now) :
      Turn d (.providerEvent (some (.audioDelta a)) now) (.ok (.effects [.playback s u frame])) d'
  | finished (f : ProviderUtteranceFinal) (s u : Uuid) (o : UtteranceOutcome) (t : TerminalOutcome)
      (now : Nat) (v : ProviderEventValidator) (d' : DirectionSession)
      (hadm : d.coordinator.AdmitsFinal f now s u o)
      (hv : d.coordinator.validator.validate (some (.utteranceFinal f)) now = (.ok (), v))
      (ht : terminalOutcome f.outcome = .ok t)
      (hd : d'.coordinator = (d.coordinator.withValidator v).finish s u o) :
      Turn d (.providerEvent (some (.utteranceFinal f)) now)
        (.ok (.effects [.utteranceTerminalOutcome u t, .utteranceTerminal u])) d'
  | shut (z : ProviderSessionClosed) (now : Nat) (d' : DirectionSession)
      (v : ProviderEventValidator)
      (hv : d.coordinator.validator.validate (some (.sessionClosed z)) now = (.ok (), v))
      (hd : d'.coordinator = (d.coordinator.withValidator v).shut) :
      Turn d (.providerEvent (some (.sessionClosed z)) now) (.ok (.effects [.sessionClosed])) d'
  | noted (event : Event) (now : Nat) (v : ProviderEventValidator) (d' : DirectionSession)
      (hadm : d.coordinator.Admits event now) (hau : ∀ a, event ≠ .audioDelta a)
      (hf : ∀ f, event ≠ .utteranceFinal f) (hcl : event.isSessionClosed = false)
      (hv : d.coordinator.validator.validate (some event) now = (.ok (), v))
      (hd : d'.coordinator = d.coordinator.withValidator v) :
      Turn d (.providerEvent (some event) now) ((Outcome.ofExcept (report event)).map .effects) d'
  | polled (now : Nat) (actions : List WatchdogAction) (d' : DirectionSession)
      (hm : Move d.coordinator (.poll now) (.ok (.actions actions)) d'.coordinator) :
      Turn d (.poll now) (.ok (.watchdog (actions.map d.watchdogEffect))) d'

variable {d d' : DirectionSession} {c : ProviderStreamCoordinator} {op : Op} {r : Result}
  {s u : Uuid} {now : Nat} {v : ProviderEventValidator}

/-! ### The pieces of an accepted or refused frame -/

/-- A session whose event the coordinator hands to the validator and the validator takes is live. -/
theorem live_of_accepted {event : Event} (hadm : c.Admits event now)
    (hcl : event.isSessionClosed = false)
    (hv : c.validator.validate (some event) now = (.ok (), v)) : Live c :=
  ⟨hadm.1.resolve_right (by simp [hcl]), (ProviderEventValidator.validate_ok hv).1.1⟩

/-- An accepted frame has the negotiated format. -/
theorem validate_audio_matches {v w : ProviderEventValidator} {a : ProviderAudioDelta}
    (hok : v.validate (some (.audioDelta a)) now = (.ok (), w)) : v.MatchesOutput a := by
  obtain ⟨-, -, w', hv, rfl⟩ := ProviderEventValidator.validate_ok hok
  generalize hj : (Outcome.ok (), w') = j at hv
  cases hv with
  | playedAudio a' u c ha hid hc hu hact hn hm hdone hage => cases ha; exact hm
  | noted _ _ _ _ _ hau => exact absurd rfl (hau a)
  | _ => simp_all

/-- A frame of the negotiated format has the length playback asks for. -/
theorem matches_frameBytes {a : ProviderAudioDelta} (hm : v.MatchesOutput a)
    (hf : v.contract.outputFormat = providerPcmFormat) :
    a.pcm.length = StreamPcmFormat.providerDefault.frameBytes := by
  obtain ⟨hr, hc, -, hd, hl⟩ := hm
  rw [hl, ProviderEventValidator.expectedBytes, hr, hc, hd, hf]
  rfl

/-- While the stores agree, an accepted frame belongs to an utterance that is not being cancelled. -/
theorem audio_not_cancelled (h : Agree c) {a : ProviderAudioDelta}
    (hv : c.validator.validate (some (.audioDelta a)) now = (.ok (), v))
    (hut : a.utteranceId = some u) : c.watchdog.cancelPending s u = false := by
  obtain ⟨u', -, hid, hnc, -⟩ := ProviderEventValidator.validate_audio_ok hv
  obtain rfl : u' = u := by simpa [hut] using hid.symm
  by_contra hcp
  obtain ⟨x, hx, -, hxc⟩ := ProviderAudioWatchdog.cancelPending_iff.mp (by simpa using hcp)
  exact hnc ((h.cancel u' x hx).mp hxc)

/-- A frame that has just been buffered into empty buffers is the one consumed. -/
theorem consume_heard (hempty : c.receiveBuffers = ∅) (a : ProviderAudioDelta) :
    ((c.withValidator v).hear s u a now).consumeReceiveAudio s u
      = (.ok a.pcm, played c v s u now) := by
  have hwith : (c.withValidator v).bufferWith s u ⟨a.pcm, a.frameDurationMs⟩
      = ⟨[⟨a.pcm, a.frameDurationMs⟩], a.frameDurationMs⟩ := by
    simp [ProviderStreamCoordinator.bufferWith, ProviderStreamCoordinator.withValidator, hempty]
  have hlook : ((c.withValidator v).hear s u a now).receiveBuffers.lookup (s, u)
      = some ⟨[⟨a.pcm, a.frameDurationMs⟩], a.frameDurationMs⟩ := by
    rw [ProviderStreamCoordinator.hear, hwith]; exact AList.lookup_insert _
  have hback : ((c.withValidator v).hear s u a now).receiveBuffers.erase (s, u)
      = c.receiveBuffers := by
    rw [ProviderStreamCoordinator.hear]
    exact Table.erase_insert_of_not_mem _ (by
      rw [ProviderStreamCoordinator.withValidator, hempty]; exact AList.notMem_empty _)
  simp only [ProviderStreamCoordinator.consumeReceiveAudio, hlook, hback, List.isEmpty_nil,
    if_true, hempty]
  rw [played, hempty]
  rfl

/-- The facts behind an `ExpiredAudio` verdict. -/
theorem expired_facts {a : ProviderAudioDelta}
    (hv : c.validator.validate (some (.audioDelta a)) now = (.err .expiredAudio, v)) :
    ∃ u, a.utteranceId = some u ∧ u ∉ c.validator.cancelPending ∧ c.validator.Active u
      ∧ c.validator.opened = true ∧ c.validator.closed = false
      ∧ v = ((c.validator.clearNoSpeechLatency (.audioDelta a)).hearWire u a.sequence).see
        a.eventSequence := by
  rcases ProviderEventValidator.validate_cases c.validator (some (.audioDelta a)) now with
    ⟨e, he, heq⟩ | ⟨ev, r', w, hev, hord, -, hver, heq⟩
  · rw [hv] at heq; cases heq; cases he
  cases hev
  rw [hv] at heq
  obtain ⟨rfl, rfl⟩ := Prod.mk.inj heq
  generalize hj : (Outcome.err ProviderValidationError.expiredAudio, w) = j at hver
  cases hver with
  | expiredAudio a' u done ha hid hc hu hact hn hm hfirst hdone hage =>
    cases ha; cases hj
    exact ⟨u, hid, hc, hact, hord.2.1, hord.1, rfl⟩
  | turnedAway e he => cases hj; cases he
  | refused e he _ => cases hj; cases he
  | _ => simp_all

/-- The cancellation that follows an `ExpiredAudio` verdict goes through. -/
theorem cancel_expired_ok (h : Agree c) {a : ProviderAudioDelta}
    (hadm : c.AdmitsAudio a now s u)
    (hv : c.validator.validate (some (.audioDelta a)) now = (.err .expiredAudio, v)) :
    Move (c.withValidator v) (.cancelExpiredUtterance s u now)
        (.ok (.actions [.cancelUtterance c.watchdog.sessionId s u true]))
        ((c.withValidator v).cancelExpiredUtterance s u now).2
      ∧ ((c.withValidator v).cancelExpiredUtterance s u now).1
        = .ok (.cancelUtterance c.watchdog.sessionId s u true) := by
  obtain ⟨-, hut, hok⟩ := hadm
  obtain ⟨u', hid, hnc, hact, hop, hcl, hvv⟩ := expired_facts hv
  obtain rfl : u' = u := by simpa [hut] using hid.symm
  have hcheck : c.watchdog.checkAudioDelta s u' now = .ok () := by
    refine (hok.resolve_left fun hcp => ?_).1
    obtain ⟨x, hx, -, hxc⟩ := ProviderAudioWatchdog.cancelPending_iff.mp hcp
    exact hnc ((h.cancel u' x hx).mp hxc)
  obtain ⟨hlive, x, hx, hsx, haw, -⟩ := ProviderAudioWatchdog.checkAudioDelta_ok.mp hcheck
  have hcan : (c.withValidator v).validator.canRecordCancelRequested u' = .ok () := by
    refine ProviderStreamCoordinator.canRecordCancelRequested_ok.mpr ?_
    rw [ProviderStreamCoordinator.withValidator, hvv]
    refine ⟨?_, ?_, ?_⟩
    · simpa [ProviderEventValidator.see, ProviderEventValidator.hearWire] using hop
    · simpa [ProviderEventValidator.see, ProviderEventValidator.hearWire] using hcl
    · simpa [ProviderEventValidator.see, ProviderEventValidator.hearWire,
        ProviderEventValidator.Active] using hact
  have hw := ProviderAudioWatchdog.cancelUtterance_ok.mpr
    ⟨hlive, x, hx, hsx, haw, rfl, (rfl : c.watchdog.put u'
      ⟨s, .cancelPending (saturatingAdd now cancelFinalTimeout)⟩ = _)⟩
  have heq : (c.withValidator v).cancelExpiredUtterance s u' now
      = (.ok (.cancelUtterance c.watchdog.sessionId s u' true),
        { (c.withValidator v).mark s u' true with
          watchdog := c.watchdog.put u'
            ⟨s, .cancelPending (saturatingAdd now cancelFinalTimeout)⟩ }) := by
    simp only [ProviderStreamCoordinator.cancelExpiredUtterance,
      ProviderEventValidator.recordCancelRequested, hcan]
    rw [show (c.withValidator v).watchdog = c.watchdog from rfl, hw]
    rfl
  rw [heq]
  exact ⟨.expired s u' now x hlive hx hsx haw hcan, rfl⟩

/-- A refusal with `CancelledAudio` is about a frame of an utterance under cancellation. -/
theorem cancelledAudio_facts {event : Event}
    (hv : c.validator.validate (some event) now = (.err .cancelledAudio, v)) :
    ∃ a u, event = .audioDelta a ∧ a.utteranceId = some u ∧ u ∈ c.validator.cancelPending := by
  rcases ProviderEventValidator.validate_cases c.validator (some event) now with
    ⟨e, he, heq⟩ | ⟨ev, r', w, hev, -, -, hver, heq⟩
  · rw [hv] at heq; cases heq; cases he
  cases hev
  rw [hv] at heq
  obtain ⟨rfl, rfl⟩ := Prod.mk.inj heq
  generalize hj : (Outcome.err ProviderValidationError.cancelledAudio, w) = j at hver
  cases hver with
  | cancelledAudio a u ha hid hc hn hm => exact ⟨a, u, ha, hid, hc⟩
  | turnedAway e he => cases hj; cases he
  | refused e he _ => cases hj; cases he
  | _ => simp_all

/-- A refusal with `ExpiredAudio` is about a frame. -/
theorem expiredAudio_audio {event : Event}
    (hv : c.validator.validate (some event) now = (.err .expiredAudio, v)) :
    ∃ a, event = .audioDelta a := by
  rcases ProviderEventValidator.validate_cases c.validator (some event) now with
    ⟨e, he, heq⟩ | ⟨ev, r', w, hev, -, -, hver, heq⟩
  · rw [hv] at heq; cases heq; cases he
  cases hev
  rw [hv] at heq
  obtain ⟨rfl, rfl⟩ := Prod.mk.inj heq
  generalize hj : (Outcome.err ProviderValidationError.expiredAudio, w) = j at hver
  cases hver with
  | expiredAudio a u done ha hid hc hu hact hn hm hfirst hdone hage => exact ⟨a, ha⟩
  | turnedAway e he => cases hj; cases he
  | refused e he _ => cases hj; cases he
  | _ => simp_all

/-! ### Every call -/

theorem capture_turn (h : Settled d) (event : CaptureEvent) :
    Turn d (.capture event) (d.apply (.capture event)).1 (d.apply (.capture event)).2 := by
  cases event with
  | speechStarted s u ns =>
    simp only [apply, handleCapture, speechStarted]
    cases hreq : d.requireStream s with
    | error e => exact .refused _ _ _ rfl
    | ok x =>
      dsimp only
      split
      · exact .refused _ _ _ rfl
      · have hm := ProviderStreamCoordinator.apply_move h.sound.session (.startUtterance s u ns)
        simp only [ProviderStreamCoordinator.apply, ProviderStreamCoordinator.answer] at hm
        cases hst : d.coordinator.startUtterance s u ns with
        | mk res c' =>
          rw [hst] at hm
          cases res with
          | ok y => exact .started s u ns _ hm
          | err e =>
            generalize hr : (Outcome.err e : Outcome _ Unit).map (fun _ =>
              ProviderStreamCoordinator.Answer.done) = r at hm
            cases hm with
            | refused op e he => exact .refused _ _ _ rfl
            | started s u ns v hact hnew hv => cases hr
          | panic =>
            generalize hr : (Outcome.panic : Outcome _ Unit).map (fun _ =>
              ProviderStreamCoordinator.Answer.done) = r at hm
            cases hm <;> cases hr
  | frame s u frame eou =>
    simp only [apply, handleCapture, captured]
    cases hreq : d.requireStream s with
    | error e => exact .refused _ _ _ rfl
    | ok x =>
      dsimp only
      split
      · exact .refused _ _ _ rfl
      · cases eou with
        | false => exact .framed s u frame _ rfl
        | true =>
          have hm := ProviderStreamCoordinator.apply_move h.sound.session
            (.recordEndOfUtterance s u frame.captureMonotonicNs)
          simp only [ProviderStreamCoordinator.apply, ProviderStreamCoordinator.answer] at hm
          cases hst : d.coordinator.recordEndOfUtterance s u frame.captureMonotonicNs with
          | mk res c' =>
            rw [hst] at hm
            cases res with
            | ok y => exact .inputEnded s u frame _ hm
            | err e => exact .inputRefused s u frame e _ hm
            | panic =>
              exfalso
              generalize hr : (Outcome.panic : Outcome _ Unit).map (fun _ =>
                ProviderStreamCoordinator.Answer.done) = r at hm
              cases hm with
              | refused op e he => cases hr
              | inputEnded s u now deadline hact hl hd =>
                rcases ProviderEventValidator.recordEndOfUtterance_cases d.coordinator.validator u
                  frame.captureMonotonicNs with ⟨e, -, heq⟩ | ⟨-, -, -, heq⟩ <;>
                    rw [heq] at hr <;> cases hr

/-- `refuse` on an ordinary refusal. -/
theorem refuse_err {event : ProviderEvent} {e : ProviderStreamCoordinatorError}
    (hne : e ≠ .validation .cancelledAudio) (hnx : e ≠ .validation .expiredAudio) :
    d.refuse event e now = (.err (.coordinator e), d) := by
  unfold refuse
  rw [if_neg hne]
  split
  · rw [if_neg hnx]
  · rfl

theorem terminalOutcome_ok {f : ProviderUtteranceFinal} {w : ProviderEventValidator}
    (hv : v.validate (some (.utteranceFinal f)) now = (.ok (), w)) :
    ∃ t, terminalOutcome f.outcome = .ok t := by
  obtain ⟨path, u, -, hset, -⟩ := ProviderEventValidator.validate_final_ok hv
  cases path with
  | cancelled => exact ⟨.cancelled, by rw [hset.2.1]; rfl⟩
  | overflow => exact ⟨.dropped, by rw [hset.2.2.1]; rfl⟩
  | noSpeech => exact ⟨.dropped, by rw [hset.2.2.2.1]; rfl⟩
  | plain =>
    rcases hset.2.2.2.1 with ho | ho <;> rw [ho]
    · exact ⟨.completed, rfl⟩
    · exact ⟨.dropped, rfl⟩

/-- The coordinator refused the event. -/
theorem refused_turn (h : Settled d) {event : Event} {e : ProviderStreamCoordinatorError}
    {c' : ProviderStreamCoordinator}
    (heq : d.coordinator.validateEvent (some event) now = (.err e, c'))
    (hm : Move d.coordinator (.validateEvent (some event) now) (.err e) c') :
    Turn d (.providerEvent (some event) now) (d.apply (.providerEvent (some event) now)).1
      (d.apply (.providerEvent (some event) now)).2 := by
  simp only [apply, handleProviderEvent, heq]
  generalize hr : (Outcome.err e : ProviderStreamCoordinator.Result) = r at hm
  cases id hm with
  | refused op e' he =>
    cases hr
    have hne : e ≠ .validation .cancelledAudio := fun hx => by cases he _ hx
    have hnx : e ≠ .validation .expiredAudio := fun hx => by cases he _ hx
    rw [refuse_err hne hnx]
    exact .refused _ _ _ rfl
  | judged event now r v hadm hv hrne =>
    cases r with
    | ok x => exact absurd rfl hrne
    | panic => cases hr
    | err e' =>
      obtain rfl : e = .validation e' := Outcome.err.inj hr
      by_cases hc : e' = .cancelledAudio
      · subst hc
        obtain ⟨a, u, rfl, hid, hcp⟩ := cancelledAudio_facts hv
        simp only [refuse]
        exact .dropped a u now _ v hid hcp hadm hv rfl
      by_cases hx : e' = .expiredAudio
      · subst hx
        obtain ⟨a, rfl⟩ := expiredAudio_audio hv
        obtain ⟨u, hid, hnc, hact, hop, hcl, -⟩ := expired_facts hv
        obtain ⟨s, u', hadmA⟩ := hadm.2.1 a rfl
        obtain rfl : u = u' := by simpa [hid] using hadmA.2.1
        have hlive : Live d.coordinator := ⟨hadm.1.resolve_right (by simp [Event.isSessionClosed]), hcl⟩
        obtain ⟨hmove, hok⟩ := cancel_expired_ok (h.agree hlive) hadmA hv
        cases hcancel : (d.coordinator.withValidator v).cancelExpiredUtterance s u now with
        | mk res c' =>
          rw [hcancel] at hmove hok
          subst hok
          simp only [refuse, cancelExpired, hadmA.1, hid, hcancel]
          exact .expired a s u now _ _ hid hm hmove
      · have hne : ProviderStreamCoordinatorError.validation e' ≠ .validation .cancelledAudio := by
          simpa using hc
        have hnx : ProviderStreamCoordinatorError.validation e' ≠ .validation .expiredAudio := by
          simpa using hx
        rw [refuse_err hne hnx]
        exact .judged event now _ _ hm hne hnx
  | _ => cases hr

/-- The coordinator accepted the event. -/
theorem accepted_turn (h : Settled d) {event : Event} {c' : ProviderStreamCoordinator}
    (heq : d.coordinator.validateEvent (some event) now = (.ok (), c'))
    (hm : Move d.coordinator (.validateEvent (some event) now) (.ok .done) c') :
    Turn d (.providerEvent (some event) now) (d.apply (.providerEvent (some event) now)).1
      (d.apply (.providerEvent (some event) now)).2 := by
  simp only [apply, handleProviderEvent, heq]
  generalize hr : (Outcome.ok .done : ProviderStreamCoordinator.Result) = r at hm
  cases hm with
  | refused op e he => cases hr
  | judged event now r v hadm hv hrne =>
    cases r with
    | ok x => exact absurd rfl hrne
    | _ => cases hr
  | heard a s u now v hst hut hc hb hv =>
    have hlen : a.pcm.length = StreamPcmFormat.providerDefault.frameBytes :=
      matches_frameBytes (validate_audio_matches hv) (by rw [h.contract, h.format])
    simp only [translate, playAudio, hst, hut, consume_heard h.drained, PcmFrame.tryNew,
      dif_pos hlen]
    exact .playback a s u now _ v _ hst hut hc hv rfl rfl rfl
  | finished f s u o now v hadm hv =>
    obtain ⟨t, ht⟩ := terminalOutcome_ok hv
    simp only [translate, endUtterance, hadm.2.1, parseUtterance, ht]
    exact .finished f s u o t now v _ hadm hv ht rfl
  | shut z now v hv => exact .shut z now _ v hv rfl
  | noted event now v hadm hau hf hcl hv =>
    have hnau : ∀ a, event ≠ .audioDelta a := by
      rintro a rfl
      obtain ⟨s, u, -, hut, hcp⟩ := hau a rfl
      rw [audio_not_cancelled (h.agree (live_of_accepted hadm hcl hv)) hv hut] at hcp
      cases hcp
    have hnoted := Turn.noted (d := d) event now v
      { d with coordinator := d.coordinator.withValidator v } hadm hnau hf hcl hv rfl
    cases event with
    | audioDelta a => exact absurd rfl (hnau a)
    | utteranceFinal f => exact absurd rfl (hf f)
    | sessionClosed z => cases hcl
    | _ => exact hnoted

/-- The inversion lemma of the session. -/
theorem apply_turn (h : Settled d) (op : Op) : Turn d op (d.apply op).1 (d.apply op).2 := by
  cases op with
  | capture event => exact capture_turn h event
  | providerEvent event now =>
    have hm := ProviderStreamCoordinator.apply_move h.sound.session (.validateEvent event now)
    simp only [ProviderStreamCoordinator.apply, ProviderStreamCoordinator.answer] at hm
    cases event with
    | none =>
      simp only [apply, handleProviderEvent, ProviderStreamCoordinator.validateEvent, refuse]
      exact .refused _ _ _ rfl
    | some event =>
      cases heq : d.coordinator.validateEvent (some event) now with
      | mk res c' =>
        rw [heq] at hm
        cases res with
        | ok x => exact accepted_turn h heq hm
        | err e => exact refused_turn h heq hm
        | panic =>
          exfalso
          generalize hr : (Outcome.panic : Outcome _ Unit).map (fun _ =>
            ProviderStreamCoordinator.Answer.done) = r at hm
          cases hm with
          | judged event now r v hadm hv hrne =>
            cases r with
            | panic =>
              have := ProviderEventValidator.validate_no_panic h.sound.coherent (some event) now
              rw [hv] at this
              exact this rfl
            | _ => cases hr
          | _ => cases hr
  | poll now =>
    have hm := ProviderStreamCoordinator.apply_move h.sound.session (.poll now)
    simp only [ProviderStreamCoordinator.apply, ProviderStreamCoordinator.answer] at hm
    simp only [apply, poll]
    rcases ProviderStreamCoordinator.poll_cases d.coordinator now with
      ⟨e, he, heq⟩ | ⟨c', hcheck, heq, hp⟩
    · rw [heq]; exact .refused _ _ _ rfl
    · rw [heq] at hm ⊢
      exact .polled now _ _ hm

/-! ### Sessions stay settled -/

theorem contract_move {c' : ProviderStreamCoordinator} {op : ProviderStreamCoordinator.Op}
    {r : ProviderStreamCoordinator.Result} (hs : Sound c) (hm : Move c op r c') :
    c'.validator.contract = c.validator.contract := by
  cases hm with
  | refused op e he => rfl
  | started s u ns v hact hnew hv =>
    rcases ProviderEventValidator.recordInput_cases c.validator u ns with
      ⟨e, -, heq⟩ | ⟨-, -, -, -, heq⟩ <;> rw [hv] at heq <;> cases heq
    rfl
  | inputEnded s u now d hact hl hd =>
    rcases ProviderEventValidator.recordEndOfUtterance_cases c.validator u now with
      ⟨e, -, heq⟩ | ⟨-, -, -, heq⟩ <;> rw [heq]
  | judged event now r v hadm hv hr =>
    exact ProviderStreamCoordinator.validate_contract hs.coherent hv
  | heard a s u now v hst hut hc hb hv =>
    exact ProviderStreamCoordinator.validate_contract hs.coherent hv
  | finished f s u o now v hadm hv =>
    exact ProviderStreamCoordinator.validate_contract hs.coherent hv
  | shut z now v hv => exact ProviderStreamCoordinator.validate_contract hs.coherent hv
  | noted event now v hadm hau hf hcl hv =>
    exact ProviderStreamCoordinator.validate_contract hs.coherent hv
  | consumedLast s u b frame hb hf => rfl
  | consumed s u b frame frames hb hf hne => rfl
  | polled now c' hcheck hp =>
    obtain ⟨marked, hv, -⟩ := hp.validator
    rw [hv]
  | expired s u now x hact hl hs haw hcan => rfl

/-- A move that buffers no frame leaves empty buffers empty. -/
theorem drained_move {c' : ProviderStreamCoordinator} {op : ProviderStreamCoordinator.Op}
    {r : ProviderStreamCoordinator.Result} (hm : Move c op r c') (h : c.receiveBuffers = ∅)
    (hna : ∀ a now, op = .validateEvent (some (.audioDelta a)) now → r ≠ .ok .done) :
    c'.receiveBuffers = ∅ := by
  cases hm with
  | heard a s u now v hst hut hc hb hv => exact absurd rfl (hna a now rfl)
  | finished f s u o now v hadm hv =>
    show (if o ≠ .completed then c.receiveBuffers.erase (s, u) else c.receiveBuffers) = ∅
    rw [h]
    split <;> rfl
  | shut z now v hv => rfl
  | consumedLast s u b frame hb hf => rw [h] at hb; cases hb
  | consumed s u b frame frames hb hf hne => rw [h] at hb; cases hb
  | polled now c' hcheck hp =>
    apply AList.ext
    rw [AList.empty_entries, List.eq_nil_iff_forall_not_mem]
    rintro ⟨k, b⟩ hmem
    have hb := hp.kept k b (AList.mem_lookup_iff.mpr hmem)
    rw [show ({ c with watchdog := (c.watchdog.poll now).2 } :
      ProviderStreamCoordinator).receiveBuffers = ∅ from h, AList.lookup_empty] at hb
    cases hb
  | expired s u now x hact hl hs haw hcan =>
    show c.receiveBuffers.erase (s, u) = ∅
    rw [h]; rfl
  | _ => exact h

theorem apply_contract (d : DirectionSession) (op : Op) :
    (d.apply op).2.contract = d.contract := by
  cases op with
  | capture event =>
    cases event with
    | speechStarted s u ns =>
      simp only [apply, handleCapture, speechStarted]
      repeat' split
      all_goals rfl
    | frame s u frame eou =>
      simp only [apply, handleCapture, captured]
      repeat' split
      all_goals rfl
  | providerEvent event now =>
    simp only [apply, handleProviderEvent, refuse, cancelExpired, translate, playAudio,
      endUtterance]
    repeat' split
    all_goals rfl
  | poll now => simp only [apply, poll]; split <;> rfl

theorem settled_new (config : DirectionRuntimeConfig) (sessionId streamId : Uuid) :
    Settled (new config sessionId streamId) where
  sound := ProviderStreamCoordinator.sound_new _
  agree := fun _ => ProviderStreamCoordinator.agree_new _
  drained := rfl
  contract := rfl
  format := rfl

/-- A session whose coordinator made one move that buffers nothing. -/
theorem settled_move (h : Settled d) {op : ProviderStreamCoordinator.Op}
    {r : ProviderStreamCoordinator.Result} (hm : Move d.coordinator op r d'.coordinator)
    (hna : ∀ a now, op = .validateEvent (some (.audioDelta a)) now → r ≠ .ok .done)
    (hd : d'.contract = d.contract) : Settled d' where
  sound := ProviderStreamCoordinator.sound_move h.sound hm
  agree := fun hl => ProviderStreamCoordinator.agree_move h.sound
    (h.agree (ProviderStreamCoordinator.live_of_move hm hl)) hm hl
  drained := drained_move hm h.drained hna
  contract := by rw [contract_move h.sound hm, hd]; exact h.contract
  format := by rw [hd]; exact h.format

/-- Playing a frame is buffering it and consuming it. -/
theorem settled_played (h : Settled d) {a : ProviderAudioDelta} (hst : a.streamId = some s)
    (hut : a.utteranceId = some u) (hc : d.coordinator.watchdog.checkAudioDelta s u now = .ok ())
    (hv : d.coordinator.validator.validate (some (.audioDelta a)) now = (.ok (), v))
    (hd : d'.coordinator = played d.coordinator v s u now) (hk : d'.contract = d.contract) :
    Settled d' := by
  have hkept := ProviderStreamCoordinator.heard_kept hut hv
  obtain ⟨hact, x, hx, hsx, haw, -⟩ := ProviderAudioWatchdog.checkAudioDelta_ok.mp hc
  have hcontract : v.contract = d.coordinator.validator.contract := hkept.1.contract
  refine ⟨⟨?_, ?_, ?_⟩, fun hl => ?_, ?_, ?_, ?_⟩
  · have := ProviderEventValidator.coherent_validate h.sound.coherent (some (.audioDelta a)) now
    rw [hv] at this
    rw [hd]; exact this
  · rw [hd]; exact h.sound.session.trans (by rw [← hcontract]; rfl)
  · rw [hd]; exact h.sound.buffers
  · have hlive : Live d.coordinator := by
      rw [hd] at hl
      exact ⟨hact, hkept.2.2 ▸ hl.2⟩
    rw [hd]
    exact ProviderStreamCoordinator.agree_put (ProviderStreamCoordinator.agree_kept
      (h.agree hlive) hkept.1) hx hsx.symm
        (ProviderStreamCoordinator.not_cancelPending_of_awaits haw).symm
  · rw [hd]; exact h.drained
  · rw [hd, hk]; exact hcontract.trans h.contract
  · rw [hk]; exact h.format

theorem settled_turn (h : Settled d) (ht : Turn d op r d') (hd : d'.contract = d.contract) :
    Settled d' := by
  have hsame : d'.coordinator = d.coordinator → Settled d' := fun hc =>
    ⟨by rw [hc]; exact h.sound, by rw [hc]; exact h.agree, by rw [hc]; exact h.drained,
      by rw [hc, hd]; exact h.contract, by rw [hd]; exact h.format⟩
  cases ht with
  | refused op e d' hc => exact hsame hc
  | started s u ns d' hm => exact settled_move h hm (by simp) hd
  | framed s u frame d' hc => exact hsame hc
  | inputEnded s u frame d' hm => exact settled_move h hm (by simp) hd
  | inputRefused s u frame e d' hm => exact settled_move h hm (by simp) hd
  | judged event now e d' hm hne hnx => exact settled_move h hm (by simp) hd
  | dropped a u now d' v hid hc hadm hv hdd =>
    exact settled_move h (hdd ▸ Move.judged _ now _ v hadm hv (by simp)) (by simp [Outcome.mapErr,
      Outcome.map]) hd
  | expired a s u now d' c' hid hm hx =>
    have hmid : Settled { d with coordinator := c' } := settled_move h hm (by simp) rfl
    exact settled_move hmid hx (by simp) hd
  | playback a s u now frame v d' hst hut hc hv hseq hpcm hdd =>
    exact settled_played h hst hut hc hv hdd hd
  | finished f s u o t now v d' hadm hv ht hdd =>
    exact settled_move h (hdd ▸ Move.finished f s u o now v hadm hv) (by simp) hd
  | shut z now d' v hv hdd => exact settled_move h (hdd ▸ Move.shut z now v hv) (by simp) hd
  | noted event now v d' hadm hau hf hcl hv hdd =>
    exact settled_move h (hdd ▸ Move.noted event now v hadm (fun a ha => absurd ha (hau a)) hf hcl hv)
      (by rintro a now ⟨⟩; exact absurd rfl (hau a)) hd
  | polled now actions d' hm => exact settled_move h hm (by simp) hd

theorem settled_step (h : Settled d) (op : Op) : Settled (d.apply op).2 :=
  settled_turn h (apply_turn h op) (apply_contract d op)

end DirectionSession

end Translator.Stream
