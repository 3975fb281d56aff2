import Translator.Stream.Moves
import Translator.Wire.ValidatorRuns

/-! The coordinator's three stores agree. While the session is live, the watchdog and the validator
    hold the same utterances in the same phases, and a receive buffer belongs to an utterance that may
    still be heard or that completed; buffers are never empty and never over their limit. -/

namespace Translator.Stream
open Schemes Wire
namespace ProviderStreamCoordinator

/-- The watchdog session is active and the validator has not closed. -/
def Live (c : ProviderStreamCoordinator) : Prop :=
  c.watchdog.sessionPhase = .active ∧ c.validator.closed = false

/-- A buffer holds frames, counts them right and keeps the limit. -/
structure BufferOk (b : ReceiveBuffer) : Prop where
  nonempty : b.frames ≠ []
  counted : b.bufferedMs = (b.frames.map BufferedFrame.durationMs).sum
  limit : b.bufferedMs ≤ maxReceiveBufferedMs

/-- What holds of the coordinator in every state, live or not. -/
structure Sound (c : ProviderStreamCoordinator) : Prop where
  coherent : c.validator.Coherent
  session : c.watchdog.sessionId = c.validator.contract.sessionId
  buffers : ∀ k b, c.receiveBuffers.lookup k = some b → BufferOk b

/-- The agreement of the three stores. -/
structure Agree (c : ProviderStreamCoordinator) : Prop where
  keys : ∀ u, u ∈ c.watchdog.utterances ↔ u ∈ c.validator.inputCaptureNs
  cancel : ∀ u x, c.watchdog.utterances.lookup u = some x →
    (x.phase.isCancelPending = true ↔ u ∈ c.validator.cancelPending)
  heard : ∀ s u, (s, u) ∈ c.receiveBuffers →
    (∃ x, c.watchdog.utterances.lookup u = some x ∧ x.streamId = s
      ∧ x.phase.isCancelPending = false ∧ u ∈ c.validator.lastPlayableAudioSequence)
      ∨ u ∈ c.validator.terminalUtterances

variable {c c' : ProviderStreamCoordinator} {op : Op} {r : Result} {s u : Uuid} {now : Nat}
  {v : ProviderEventValidator}

theorem sound_new (contract : ProviderSessionContract) : Sound (new contract) where
  coherent := ProviderEventValidator.coherent_new contract
  session := rfl
  buffers := by simp [new]

theorem agree_new (contract : ProviderSessionContract) : Agree (new contract) where
  keys := by simp [new, ProviderAudioWatchdog.new, ProviderEventValidator.new]
  cancel := by simp [new, ProviderAudioWatchdog.new]
  heard := by simp [new]

/-! ### Buffers -/

theorem bufferedMs_of_lookup {b : ReceiveBuffer} (h : c.receiveBuffers.lookup (s, u) = some b) :
    c.bufferedMs s u = b.bufferedMs := by rw [bufferedMs, h]

/-- Appending a frame that fits keeps a buffer in order. -/
theorem bufferOk_bufferWith (h : ∀ k b, c.receiveBuffers.lookup k = some b → BufferOk b)
    {frame : BufferedFrame} (hfit : overflowsBuffer (c.bufferedMs s u) frame.durationMs = false) :
    BufferOk (c.bufferWith s u frame) := by
  rw [overflowsBuffer, decide_eq_false_iff_not, Nat.not_lt] at hfit
  unfold bufferWith
  cases hb : c.receiveBuffers.lookup (s, u) with
  | none =>
    rw [bufferedMs, hb, Nat.zero_add] at hfit
    exact ⟨by simp, by simp, hfit⟩
  | some b =>
    rw [bufferedMs_of_lookup hb] at hfit
    have hok := h _ b hb
    exact ⟨by simp, by simp [hok.counted], hfit⟩

/-- Taking a frame off the front keeps a buffer in order while frames are left. -/
theorem bufferOk_tail {b : ReceiveBuffer} (h : BufferOk b) {frame : BufferedFrame}
    {frames : List BufferedFrame} (hf : b.frames = frame :: frames) (hne : frames ≠ []) :
    BufferOk ⟨frames, b.bufferedMs - frame.durationMs⟩ := by
  have hcount := h.counted
  rw [hf, List.map_cons, List.sum_cons] at hcount
  refine ⟨hne, ?_, (Nat.sub_le _ _).trans h.limit⟩
  show b.bufferedMs - frame.durationMs = (frames.map BufferedFrame.durationMs).sum
  omega

theorem buffers_insert {t : Table (Uuid × Uuid) ReceiveBuffer} {k : Uuid × Uuid} {b : ReceiveBuffer}
    (h : ∀ k b, t.lookup k = some b → BufferOk b) (hb : BufferOk b) :
    ∀ k' b', (t.insert k b).lookup k' = some b' → BufferOk b' := by
  intro k' b' hl
  rw [Table.lookup_insert_if] at hl
  split at hl
  · cases hl; exact hb
  · exact h k' b' hl

theorem buffers_erase {t : Table (Uuid × Uuid) ReceiveBuffer} {k : Uuid × Uuid}
    (h : ∀ k b, t.lookup k = some b → BufferOk b) :
    ∀ k' b', (t.erase k).lookup k' = some b' → BufferOk b' := by
  intro k' b' hl
  rw [Table.lookup_erase_if] at hl
  split at hl
  · cases hl
  · exact h k' b' hl

theorem poll_sessionId (w : ProviderAudioWatchdog) (now : Nat) :
    (w.poll now).2.sessionId = w.sessionId := by
  unfold ProviderAudioWatchdog.poll
  split
  · split <;> rfl
  · split <;> rfl
  · rfl

theorem validate_contract (h : c.validator.Coherent) {event : ProviderEvent}
    {r : Outcome ProviderValidationError Unit} (hv : c.validator.validate event now = (r, v)) :
    v.contract = c.validator.contract := by
  rcases ProviderEventValidator.validate_frame h hv with ⟨-, hk⟩ | hk | ⟨_, _, _, _, _, hk⟩
  · exact hk
  · exact hk.contract
  · exact hk.contract

theorem canRecordCancelRequested_ok : v.canRecordCancelRequested u = .ok () ↔
    v.opened = true ∧ v.closed = false ∧ v.Active u := by
  unfold ProviderEventValidator.canRecordCancelRequested ProviderEventValidator.Active
  cases v.opened <;> cases v.closed <;> by_cases ht : u ∈ v.terminalUtterances <;>
    by_cases hu : u ∈ v.inputCaptureNs <;> simp [ht, hu]

/-- The first loop lets only cancellable utterances through. -/
theorem checkCancels_ok : ∀ {actions : List WatchdogAction}, c.checkCancels actions = .ok () →
    ∀ u, cancelled actions u → c.validator.canRecordCancelRequested u = .ok ()
  | [], _, u, ⟨_, _, _, hm⟩ => by cases hm
  | .cancelUtterance _ _ x _ :: actions, h, u, hm => by
    simp only [checkCancels] at h
    split at h
    · cases h
    · next hx =>
      rcases cancelled_cons.mp hm with ⟨_, _, _, heq⟩ | hm
      · cases heq; exact hx
      · exact checkCancels_ok h u hm
  | .closeProviderSession _ :: actions, h, u, hm => by
    rcases cancelled_cons.mp hm with ⟨_, _, _, heq⟩ | hm
    · cases heq
    · exact @checkCancels_ok actions h u hm
  | .restartSidecar _ :: actions, h, u, hm => by
    rcases cancelled_cons.mp hm with ⟨_, _, _, heq⟩ | hm
    · cases heq
    · exact @checkCancels_ok actions h u hm

theorem coherent_marked (h : v.Coherent) {marked : Finset Uuid}
    (hm : ∀ u ∈ marked, u ∈ v.inputCaptureNs) :
    ({ v with cancelPending := marked } : ProviderEventValidator).Coherent :=
  { h with cancel_sub := hm }

/-- Every move keeps what holds of all states. -/
theorem sound_move (h : Sound c) (hm : Move c op r c') : Sound c' := by
  have hval : ∀ {event : ProviderEvent} {now : Nat} {r : Outcome ProviderValidationError Unit}
      {v : ProviderEventValidator}, c.validator.validate event now = (r, v) →
      v.Coherent ∧ c.watchdog.sessionId = v.contract.sessionId := by
    intro event now r v hv
    have hc := ProviderEventValidator.coherent_validate h.coherent event now
    rw [hv] at hc
    exact ⟨hc, by rw [h.session, validate_contract h.coherent hv]⟩
  cases hm with
  | refused op e he => exact h
  | started s u ns v hact hnew hv =>
    have hc := ProviderEventValidator.coherent_recordInput h.coherent u ns
    rw [hv] at hc
    refine ⟨hc, ?_, h.buffers⟩
    rcases ProviderEventValidator.recordInput_cases c.validator u ns with
      ⟨e, -, heq⟩ | ⟨-, -, -, -, heq⟩ <;> rw [hv] at heq <;> cases heq
    exact h.session
  | inputEnded s u now d hact hl hd =>
    refine ⟨ProviderEventValidator.coherent_recordEndOfUtterance h.coherent u now, ?_, h.buffers⟩
    show c.watchdog.sessionId = (c.validator.recordEndOfUtterance u now).2.contract.sessionId
    rcases ProviderEventValidator.recordEndOfUtterance_cases c.validator u now with
      ⟨e, -, heq⟩ | ⟨-, -, -, heq⟩ <;> rw [heq] <;> exact h.session
  | judged event now r v hadm hv hr => exact ⟨(hval hv).1, (hval hv).2, h.buffers⟩
  | heard a s u now v hst hut hc hb hv =>
    exact ⟨(hval hv).1, (hval hv).2, buffers_insert h.buffers (bufferOk_bufferWith h.buffers hb)⟩
  | finished f s u o now v hadm hv =>
    refine ⟨(hval hv).1, (hval hv).2, ?_⟩
    show ∀ k b, (if o ≠ .completed then c.receiveBuffers.erase (s, u)
      else c.receiveBuffers).lookup k = some b → BufferOk b
    split
    · exact buffers_erase h.buffers
    · exact h.buffers
  | shut z now v hv => exact ⟨(hval hv).1, (hval hv).2, by simp [shut]⟩
  | noted event now v hadm hau hf hcl hv => exact ⟨(hval hv).1, (hval hv).2, h.buffers⟩
  | consumedLast s u b frame hb hf => exact ⟨h.coherent, h.session, buffers_erase h.buffers⟩
  | consumed s u b frame frames hb hf hne =>
    exact ⟨h.coherent, h.session, buffers_insert h.buffers (bufferOk_tail (h.buffers _ b hb) hf hne)⟩
  | polled now c' hcheck hp =>
    obtain ⟨marked, hv, hmem⟩ := hp.validator
    refine ⟨?_, ?_, fun k b hb => h.buffers k b (hp.kept k b hb)⟩
    · rw [hv]
      refine coherent_marked h.coherent fun x hx => ?_
      rcases (hmem x).mp hx with hx | hx
      · exact h.coherent.cancel_sub x hx
      · exact (canRecordCancelRequested_ok.mp (checkCancels_ok hcheck x hx)).2.2.1
    · rw [hp.watchdog, hv]; exact (poll_sessionId _ _).trans h.session
  | expired s u now x hact hl hs haw hcan =>
    refine ⟨?_, h.session, ?_⟩
    · refine coherent_marked h.coherent fun x hx => ?_
      rcases Finset.mem_insert.mp hx with rfl | hx
      · exact (canRecordCancelRequested_ok.mp hcan).2.2.1
      · exact h.coherent.cancel_sub x hx
    · exact buffers_erase h.buffers

/-! ### Agreement -/

/-- A validator that is open after a call was open before it. -/
theorem open_before {event : Event} {r : Outcome ProviderValidationError Unit}
    (hv : c.validator.validate (some event) now = (r, v)) (hcl : v.closed = false) :
    c.validator.closed = false := by
  rcases ProviderEventValidator.validate_cases c.validator (some event) now with
    ⟨e, -, heq⟩ | ⟨ev, r', w, -, hord, -⟩
  · rw [hv] at heq; cases heq; exact hcl
  · exact hord.1

/-- A session that is live after a move was live before it. -/
theorem live_of_move (hm : Move c op r c') (hl : Live c') : Live c := by
  obtain ⟨hact, hcl⟩ := hl
  cases hm with
  | refused op e he => exact ⟨hact, hcl⟩
  | started s u ns v ha hnew hv =>
    rcases ProviderEventValidator.recordInput_cases c.validator u ns with
      ⟨e, -, heq⟩ | ⟨-, hc, -⟩
    · rw [hv] at heq; cases heq
    · exact ⟨ha, hc⟩
  | inputEnded s u now d ha hlk hd =>
    refine ⟨ha, ?_⟩
    rcases ProviderEventValidator.recordEndOfUtterance_cases c.validator u now with
      ⟨e, -, heq⟩ | ⟨-, hc, -⟩
    · simpa [heq] using hcl
    · exact hc
  | judged event now r v hadm hv hr => exact ⟨hact, open_before hv hcl⟩
  | heard a s u now v hst hut hc hb hv => exact ⟨hact, open_before hv hcl⟩
  | finished f s u o now v hadm hv => exact ⟨hact, open_before hv hcl⟩
  | shut z now v hv => cases hact
  | noted event now v hadm hau hf hz hv => exact ⟨hact, open_before hv hcl⟩
  | consumedLast s u b frame hb hf => exact ⟨hact, hcl⟩
  | consumed s u b frame frames hb hf hne => exact ⟨hact, hcl⟩
  | polled now c' hcheck hp =>
    obtain ⟨marked, hv, -⟩ := hp.validator
    rw [hv] at hcl
    refine ⟨?_, hcl⟩
    rw [hp.watchdog] at hact
    cases hph : c.watchdog.sessionPhase with
    | active => rfl
    | _ => simp only [ProviderAudioWatchdog.poll, hph] at hact; (try split at hact) <;> simp_all
  | expired s u now x ha hlk hs haw hcan => exact ⟨ha, hcl⟩

/-- A live poll marks the overdue utterances and nothing else. -/
theorem poll_live (h : (c.watchdog.poll now).2.sessionPhase = .active) :
    c.watchdog.poll now = (c.watchdog.cancelActions now, c.watchdog.swept now) := by
  cases hph : c.watchdog.sessionPhase with
  | active =>
    simp only [ProviderAudioWatchdog.poll, hph] at h ⊢
    split at h
    · cases h
    · next hcr => rw [if_neg hcr]
  | closePending d => simp only [ProviderAudioWatchdog.poll, hph] at h; split at h <;> simp_all
  | restartIssued => simp [ProviderAudioWatchdog.poll, hph] at h
  | terminal => simp [ProviderAudioWatchdog.poll, hph] at h

theorem not_cancelPending_of_awaits {p : UtterancePhase} (h : p.awaitsProvider = true) :
    p.isCancelPending = false := by
  cases p <;> first | rfl | cases h

/-- A validator call that does not end an utterance keeps them all, while the session is live. -/
theorem kept_of_validate (hs : Sound c) {event : Event} {r : Outcome ProviderValidationError Unit}
    (hv : c.validator.validate (some event) now = (r, v)) (hcl : v.closed = false)
    (hnf : r ≠ .ok () ∨ ∀ f, event ≠ .utteranceFinal f) : c.validator.Kept v := by
  rcases ProviderEventValidator.validate_frame hs.coherent hv with ⟨hc, -⟩ | hk | ⟨f, u, hf, -, hr, -⟩
  · rw [hcl] at hc; cases hc
  · exact hk
  · cases hf
    exact hnf.elim (absurd hr) fun hn => absurd rfl (hn f)

/-- Validation that keeps the utterances keeps the agreement. -/
theorem agree_kept (h : Agree c) (hk : c.validator.Kept v) : Agree (c.withValidator v) where
  keys := fun u => by rw [withValidator, hk.capture]; exact h.keys u
  cancel := fun u x hx => by rw [withValidator, hk.cancel]; exact h.cancel u x hx
  heard := fun s u hb => by
    rw [withValidator, hk.terminal]
    refine (h.heard s u hb).imp_left ?_
    rintro ⟨x, hx, hs, hc, hp⟩
    exact ⟨x, hx, hs, hc, hk.played u hp⟩

/-- Moving an utterance to another phase of the same kind keeps the agreement. -/
theorem agree_put (h : Agree c) {x y : WatchedUtterance} (hx : c.watchdog.utterances.lookup u = some x)
    (hs : y.streamId = x.streamId) (hp : y.phase.isCancelPending = x.phase.isCancelPending) :
    Agree { c with watchdog := c.watchdog.put u y } := by
  have hmem : u ∈ c.watchdog.utterances := by rw [Table.mem_iff_isSome, hx]; rfl
  refine ⟨fun z => ?_, fun z w hz => ?_, fun s' z hb => ?_⟩
  · rw [← h.keys z]
    exact (AList.mem_insert _).trans ⟨fun e => e.elim (fun e => e ▸ hmem) id, .inr⟩
  · rw [ProviderAudioWatchdog.put, Table.lookup_insert_if] at hz
    split at hz
    · next e => cases hz; rw [hp, e]; exact h.cancel u x hx
    · exact h.cancel z w hz
  · refine (h.heard s' z hb).imp_left ?_
    rintro ⟨w, hw, hsw, hcw, hpw⟩
    by_cases e : z = u
    · subst e
      obtain rfl : x = w := Option.some.inj (hx.symm.trans hw)
      exact ⟨y, AList.lookup_insert _, hs.trans hsw, hp.trans hcw, hpw⟩
    · exact ⟨w, by rw [ProviderAudioWatchdog.put, Table.lookup_insert_if, if_neg e]; exact hw,
        hsw, hcw, hpw⟩

theorem agree_started (hc : c.validator.Coherent) (h : Agree c) {ns : Nat} {y : WatchedUtterance}
    (hnew : u ∉ c.watchdog.utterances) (hy : y.phase.isCancelPending = false)
    (hv : c.validator.recordInput u ns = (.ok (), v)) :
    Agree { c with watchdog := c.watchdog.put u y, validator := v } := by
  rcases ProviderEventValidator.recordInput_cases c.validator u ns with
    ⟨e, -, heq⟩ | ⟨-, -, -, -, heq⟩ <;> rw [hv] at heq <;> cases heq
  have hncap : u ∉ c.validator.inputCaptureNs := fun hin => hnew ((h.keys u).mpr hin)
  refine ⟨fun z => ?_, fun z w hz => ?_, fun s' z hb => ?_⟩
  · exact (AList.mem_insert _).trans
      ((or_congr_right (h.keys z)).trans ProviderEventValidator.mem_orInsert.symm)
  · rw [ProviderAudioWatchdog.put, Table.lookup_insert_if] at hz
    split at hz
    · next e =>
      cases hz; subst e
      rw [hy]
      exact ⟨(by intro h; cases h), fun hin => absurd (hc.cancel_sub z hin) hncap⟩
    · exact h.cancel z w hz
  · refine (h.heard s' z hb).imp_left ?_
    rintro ⟨w, hw, hrest⟩
    have hne : z ≠ u := by
      rintro rfl; exact hnew (by rw [Table.mem_iff_isSome, hw]; rfl)
    exact ⟨w, by rw [ProviderAudioWatchdog.put, Table.lookup_insert_if, if_neg hne]; exact hw, hrest⟩

/-- An accepted frame marks its utterance as played. -/
theorem heard_kept {a : ProviderAudioDelta} (hut : a.utteranceId = some u)
    (hv : c.validator.validate (some (.audioDelta a)) now = (.ok (), v)) :
    c.validator.Kept v ∧ u ∈ v.lastPlayableAudioSequence ∧ v.closed = c.validator.closed := by
  obtain ⟨u', t, hid, -, -, -, -, -, -, rfl⟩ := ProviderEventValidator.validate_audio_ok hv
  obtain rfl : u' = u := by simpa [hut] using hid.symm
  refine ⟨⟨rfl, rfl, rfl, rfl, rfl, fun x hx => ?_⟩, (AList.mem_insert _).mpr (.inl rfl), rfl⟩
  exact (AList.mem_insert _).mpr (.inr hx)

/-- An accepted final ends exactly its utterance. -/
theorem finished_retired {f : ProviderUtteranceFinal} (hut : f.utteranceId = some u)
    (hv : c.validator.validate (some (.utteranceFinal f)) now = (.ok (), v)) :
    c.validator.Retired u v := by
  obtain ⟨path, u', hid, -, -, rfl⟩ := ProviderEventValidator.validate_final_ok hv
  obtain rfl : u' = u := by simpa [hut] using hid.symm
  have hr := ProviderEventValidator.retired_settle (v := c.validator) (u := u') path
  exact ⟨hr.contract, hr.capture, hr.complete, hr.cancel, hr.terminal, hr.played⟩

theorem agree_finished (h : Agree c) (hr : c.validator.Retired u v) (o : UtteranceOutcome) :
    Agree ((c.withValidator v).finish s u o) := by
  refine ⟨fun z => ?_, fun z w hz => ?_, fun s' z hb => ?_⟩
  · show z ∈ c.watchdog.utterances.erase u ↔ z ∈ v.inputCaptureNs
    rw [hr.capture, AList.mem_erase, AList.mem_erase, h.keys z]
  · show w.phase.isCancelPending = true ↔ z ∈ v.cancelPending
    obtain ⟨hne, hz⟩ : z ≠ u ∧ c.watchdog.utterances.lookup z = some w := by
      change (c.watchdog.utterances.erase u).lookup z = some w at hz
      rw [Table.lookup_erase_if] at hz
      split at hz
      · cases hz
      · exact ⟨‹_›, hz⟩
    rw [hr.cancel, Finset.mem_erase, h.cancel z w hz]
    exact ⟨fun hin => ⟨hne, hin⟩, And.right⟩
  · show (∃ x, (c.watchdog.utterances.erase u).lookup z = some x ∧ x.streamId = s'
      ∧ x.phase.isCancelPending = false ∧ z ∈ v.lastPlayableAudioSequence)
      ∨ z ∈ v.terminalUtterances
    have hb : (s', z) ∈ c.receiveBuffers := by
      change (s', z) ∈ (if o ≠ .completed then _ else _ : Table (Uuid × Uuid) ReceiveBuffer) at hb
      split at hb
      · exact (AList.mem_erase.mp hb).2
      · exact hb
    rw [hr.terminal, hr.played, Finset.mem_insert]
    by_cases hz : z = u
    · exact .inr (.inl hz)
    · rcases h.heard s' z hb with ⟨x, hx, hsx, hcx, hpx⟩ | ht
      · exact .inl ⟨x, by rw [Table.lookup_erase_if, if_neg hz]; exact hx, hsx, hcx,
          AList.mem_erase.mpr ⟨hz, hpx⟩⟩
      · exact .inr (.inr ht)

/-- The cancellations of a live poll are the overdue utterances. -/
theorem cancelled_cancelActions {w : ProviderAudioWatchdog} : cancelled (w.cancelActions now) u ↔
    ∃ x, w.utterances.lookup u = some x ∧ ProviderAudioWatchdog.overdue now x = true
      ∧ x.phase.isCancelPending = false := by
  constructor
  · rintro ⟨session, s, purge, hm⟩
    obtain ⟨u', x, hx, ho, hc, heq⟩ := ProviderAudioWatchdog.mem_cancelActions.mp hm
    cases heq
    exact ⟨x, hx, ho, hc⟩
  · rintro ⟨x, hx, ho, hc⟩
    exact ⟨w.sessionId, x.streamId, true,
      ProviderAudioWatchdog.mem_cancelActions.mpr ⟨u, x, hx, ho, hc, rfl⟩⟩

theorem agree_polled (h : Agree c)
    (hp : Performed { c with watchdog := c.watchdog.swept now } (c.watchdog.cancelActions now) c') :
    Agree c' := by
  obtain ⟨marked, hv, hmem⟩ := hp.validator
  have hlook : ∀ z y, c'.watchdog.utterances.lookup z = some y ↔
      ∃ x, c.watchdog.utterances.lookup z = some x ∧ ProviderAudioWatchdog.polled now x = y := by
    intro z y
    rw [hp.watchdog, ProviderAudioWatchdog.swept_lookup, Option.map_eq_some_iff]
  refine ⟨fun z => ?_, fun z y hz => ?_, fun s' z hb => ?_⟩
  · rw [hp.watchdog, hv]
    exact Table.mem_mapVals.trans (h.keys z)
  · obtain ⟨x, hx, rfl⟩ := (hlook z y).mp hz
    rw [ProviderAudioWatchdog.polled_isCancelPending, Bool.or_eq_true, hv, hmem,
      cancelled_cancelActions, h.cancel z x hx]
    refine ⟨fun ho => ?_, fun ho => ?_⟩
    · by_cases hin : z ∈ c.validator.cancelPending
      · exact .inl hin
      · refine .inr ⟨x, hx, ho.resolve_right hin, ?_⟩
        simpa using mt (h.cancel z x hx).mp hin
    · rcases ho with hin | ⟨x', hx', ho', -⟩
      · exact .inr hin
      · obtain rfl : x = x' := Option.some.inj (hx.symm.trans hx')
        exact .inl ho'
  · obtain ⟨b, hb'⟩ := Option.isSome_iff_exists.mp (AList.lookup_isSome.mpr hb)
    have hbc : (s', z) ∈ c.receiveBuffers := by
      rw [Table.mem_iff_isSome, show c.receiveBuffers.lookup (s', z) = some b from hp.kept _ b hb']
      rfl
    rw [hv]
    refine (h.heard s' z hbc).imp_left ?_
    rintro ⟨x, hx, hsx, hcx, hpx⟩
    have hno : ProviderAudioWatchdog.overdue now x = false := by
      by_contra ho
      refine hp.purged _ s' z (ProviderAudioWatchdog.mem_cancelActions.mpr
        ⟨z, x, hx, by simpa using ho, hcx, by rw [hsx]⟩) hb
    exact ⟨_, (hlook z _).mpr ⟨x, hx, rfl⟩, (ProviderAudioWatchdog.polled_streamId x).trans hsx,
      by rw [ProviderAudioWatchdog.polled_isCancelPending, hno, hcx]; rfl, hpx⟩

theorem agree_expired (h : Agree c) {x : WatchedUtterance} {d : Nat}
    (hx : c.watchdog.utterances.lookup u = some x) (hs : x.streamId = s) :
    Agree { c.mark s u true with watchdog := c.watchdog.put u ⟨s, .cancelPending d⟩ } := by
  have hmem : u ∈ c.watchdog.utterances := by rw [Table.mem_iff_isSome, hx]; rfl
  refine ⟨fun z => ?_, fun z y hz => ?_, fun s' z hb => ?_⟩
  · refine Iff.trans ?_ (h.keys z)
    exact (AList.mem_insert _).trans ⟨fun e => e.elim (fun e => e ▸ hmem) id, .inr⟩
  · show y.phase.isCancelPending = true ↔ z ∈ insert u c.validator.cancelPending
    rw [ProviderAudioWatchdog.put, Table.lookup_insert_if] at hz
    split at hz
    · next e => cases hz; subst e; simp [UtterancePhase.isCancelPending]
    · next e => rw [Finset.mem_insert, or_iff_right e]; exact h.cancel z y hz
  · obtain ⟨hne, hb⟩ := AList.mem_erase.mp hb
    rcases h.heard s' z hb with ⟨y, hy, hsy, hcy, hpy⟩ | ht
    · have hzu : z ≠ u := by
        rintro rfl
        obtain rfl : x = y := Option.some.inj (hx.symm.trans hy)
        exact hne (by rw [← hs, hsy])
      exact .inl ⟨y, by rw [ProviderAudioWatchdog.put, Table.lookup_insert_if, if_neg hzu]; exact hy,
        hsy, hcy, hpy⟩
    · exact .inr ht

/-- Every move keeps the agreement while the session is live. -/
theorem agree_move (hs : Sound c) (h : Agree c) (hm : Move c op r c') (hl : Live c') :
    Agree c' := by
  cases hm with
  | refused op e he => exact h
  | started s u ns v hact hnew hv => exact agree_started hs.coherent h hnew rfl hv
  | inputEnded s u now d hact hlk hd =>
    have hput := agree_put (y := ⟨s, .awaitingFirstAudio (saturatingAdd now firstAudioAfterEouTimeout)⟩)
      h hlk rfl rfl
    rcases ProviderEventValidator.recordEndOfUtterance_cases c.validator u now with
      ⟨e, -, heq⟩ | ⟨-, -, -, heq⟩ <;> rw [heq]
    · exact hput
    · exact ⟨hput.keys, hput.cancel, hput.heard⟩
  | judged event now r v hadm hv hr => exact agree_kept h (kept_of_validate hs hv hl.2 (.inl hr))
  | heard a s u now v hst hut hc hb hv =>
    obtain ⟨hact, x, hx, hsx, haw, hd⟩ := ProviderAudioWatchdog.checkAudioDelta_ok.mp hc
    obtain ⟨hk, hplayed, -⟩ := heard_kept hut hv
    have hput := agree_put (y := ⟨s, .streamingAudio (saturatingAdd now interAudioDeltaTimeout)⟩)
      (agree_kept h hk) hx hsx.symm (not_cancelPending_of_awaits haw).symm
    refine ⟨hput.keys, hput.cancel, fun s' z hbz => ?_⟩
    rcases (AList.mem_insert _).mp hbz with heq | hbz
    · cases heq
      exact .inl ⟨_, AList.lookup_insert _, rfl, rfl, hplayed⟩
    · exact hput.heard s' z hbz
  | finished f s u o now v hadm hv => exact agree_finished h (finished_retired hadm.2.1 hv) o
  | shut z now v hv => cases hl.1
  | noted event now v hadm hau hf hz hv => exact agree_kept h (kept_of_validate hs hv hl.2 (.inr hf))
  | consumedLast s u b frame hb hf =>
    exact ⟨h.keys, h.cancel, fun s' z hbz => h.heard s' z (AList.mem_erase.mp hbz).2⟩
  | consumed s u b frame frames hb hf hne =>
    refine ⟨h.keys, h.cancel, fun s' z hbz => h.heard s' z ?_⟩
    rcases (AList.mem_insert _).mp hbz with heq | hbz
    · rw [heq, Table.mem_iff_isSome, hb]; rfl
    · exact hbz
  | polled now c' hcheck hp =>
    have hact := hl.1
    rw [hp.watchdog] at hact
    rw [poll_live hact] at hp
    exact agree_polled h hp
  | expired s u now x hact hlk hsx haw hcan => exact agree_expired h hlk hsx

/-! ### Silenced utterances -/

/-- An operation with its answer. -/
abbrev Entry := Op × Result

/-- The entry asked for the cancellation of `u`: an action of `poll`, or `cancel_expired_utterance`. -/
def Cancels (a : Entry) (u : Uuid) : Prop :=
  ∃ actions, a.2 = .ok (.actions actions) ∧ cancelled actions u

/-- The entry accepted a final of `u` that does not complete it. -/
def Drops (a : Entry) (u : Uuid) : Prop :=
  ∃ f now, a.1 = .validateEvent (some (.utteranceFinal f)) now ∧ f.utteranceId = some u
    ∧ f.outcome ≠ UtteranceOutcome.completed.code ∧ a.2 = .ok .done

/-- The entry found the first audio of `u` too old at `t`. -/
def Expires (a : Entry) (u : Uuid) (t : Nat) : Prop :=
  ∃ d, a.1 = .validateEvent (some (.audioDelta d)) t ∧ d.utteranceId = some u
    ∧ a.2 = .err (.validation .expiredAudio)

/-- The entry does not take the clock of `validate_event` back behind `t`. -/
def NotBefore (t : Nat) (a : Entry) : Prop := ∀ event now, a.1 = .validateEvent event now → t ≤ now

/-- `u` expired at `t` and the clock has not gone back since. -/
def ExpiredAt (log : List Entry) (u : Uuid) (t : Nat) : Prop :=
  ∃ pre a post, log = pre ++ a :: post ∧ Expires a u t ∧ ∀ b ∈ post, NotBefore t b

theorem expiredAt_concat {log : List Entry} {b : Entry} {t : Nat} (h : ExpiredAt (log ++ [b]) u t) :
    ExpiredAt log u t ∧ NotBefore t b ∨ Expires b u t := by
  obtain ⟨pre, a, post, heq, ha, hpost⟩ := h
  rcases List.eq_nil_or_concat post with rfl | ⟨post, b', rfl⟩
  · obtain ⟨-, hb⟩ := List.append_inj' heq rfl
    cases hb
    exact .inr ha
  · rw [List.concat_eq_append] at heq hpost
    rw [← List.cons_append, ← List.append_assoc] at heq
    obtain ⟨rfl, hb⟩ := List.append_inj' heq rfl
    cases hb
    exact .inl ⟨⟨pre, a, post, rfl, ha, fun x hx => hpost x (List.mem_append_left _ hx)⟩,
      hpost b (by simp)⟩

/-- Nothing of `u` is buffered and nothing of it can be: it is being cancelled or it is over. -/
def Muted (c : ProviderStreamCoordinator) (u : Uuid) : Prop :=
  u ∈ c.validator.cancelPending
    ∨ u ∈ c.validator.terminalUtterances ∧ ∀ s, (s, u) ∉ c.receiveBuffers

/-- The first audio of `u` is too old from `t` on. -/
def Late (c : ProviderStreamCoordinator) (u : Uuid) (t : Nat) : Prop :=
  ∃ x done, c.watchdog.utterances.lookup u = some x ∧ x.phase.awaitsProvider = true
    ∧ u ∉ c.validator.lastPlayableAudioSequence ∧ c.validator.inputCompleteNs.lookup u = some done
    ∧ c.validator.maxAgeMs * nsPerMs < t - done

/-- A muted utterance has no buffer. -/
theorem muted_no_buffer (hs : Sound c) (h : Agree c) (hm : Muted c u) : (s, u) ∉ c.receiveBuffers := by
  rcases hm with hin | ⟨-, hno⟩
  · intro hb
    have hcap := hs.coherent.cancel_sub u hin
    rcases h.heard s u hb with ⟨x, hx, -, hcx, -⟩ | ht
    · rw [(h.cancel u x hx).mpr hin] at hcx; cases hcx
    · exact hs.coherent.disjoint u hcap ht
  · exact hno s

theorem muted_mono (hs : Sound c) (h : Agree c) (hm : Muted c u)
    (hcan : u ∈ c.validator.cancelPending →
      u ∈ c'.validator.cancelPending ∨ u ∈ c'.validator.terminalUtterances)
    (hterm : c.validator.terminalUtterances ⊆ c'.validator.terminalUtterances)
    (hbuf : ∀ s, (s, u) ∈ c'.receiveBuffers → (s, u) ∈ c.receiveBuffers) : Muted c' u := by
  have hno : ∀ s, (s, u) ∉ c'.receiveBuffers := fun s hb => muted_no_buffer hs h hm (hbuf s hb)
  rcases hm with hin | ⟨ht, -⟩
  · exact (hcan hin).imp_right fun ht => ⟨ht, hno⟩
  · exact .inr ⟨hterm ht, hno⟩

theorem muted_of_kept (hs : Sound c) (h : Agree c) (hm : Muted c u) (hk : c.validator.Kept v) :
    Muted (c.withValidator v) u :=
  muted_mono hs h hm (fun hin => .inl (by rw [withValidator, hk.cancel]; exact hin))
    (by rw [withValidator, hk.terminal]) fun _ hb => hb

/-- Once muted, always muted. -/
theorem muted_move (hs : Sound c) (h : Agree c) (hm : Move c op r c') (hl : Live c')
    (hmu : Muted c u) : Muted c' u := by
  cases hm with
  | refused op e he => exact hmu
  | started s x ns v hact hnew hv =>
    rcases ProviderEventValidator.recordInput_cases c.validator x ns with
      ⟨e, -, heq⟩ | ⟨-, -, -, -, heq⟩ <;> rw [hv] at heq <;> cases heq
    exact hmu
  | inputEnded s x now d hact hlk hd =>
    rcases ProviderEventValidator.recordEndOfUtterance_cases c.validator x now with
      ⟨e, -, heq⟩ | ⟨-, -, -, heq⟩ <;> rw [heq] <;> exact hmu
  | judged event now r v hadm hv hr =>
    exact muted_of_kept hs h hmu (kept_of_validate hs hv hl.2 (.inl hr))
  | heard a s x now v hst hut hc hb hv =>
    -- the frame is of another utterance: its own is neither cancelled nor over
    obtain ⟨x', t, hid, hnc, -, hact, -⟩ := ProviderEventValidator.validate_audio_ok hv
    obtain rfl : x' = x := by simpa [hut] using hid.symm
    have hne : u ≠ x' := by
      rintro rfl
      exact hmu.elim hnc fun ht => hact.2 ht.1
    refine (muted_of_kept hs h hmu (heard_kept hut hv).1).imp_right fun ⟨ht, hno⟩ =>
      ⟨ht, fun s' hb' => ?_⟩
    rcases (AList.mem_insert _).mp hb' with heq | hb'
    · exact hne (Prod.mk.inj heq).2
    · exact hno s' hb'
  | finished f s x o now v hadm hv =>
    have hr := finished_retired hadm.2.1 hv
    refine muted_mono hs h hmu (fun hin => ?_) ?_ fun s' hb' => ?_
    · show u ∈ v.cancelPending ∨ u ∈ v.terminalUtterances
      rw [hr.cancel, hr.terminal, Finset.mem_erase, Finset.mem_insert]
      by_cases hux : u = x
      · exact .inr (.inl hux)
      · exact .inl ⟨hux, hin⟩
    · show _ ⊆ v.terminalUtterances
      rw [hr.terminal]; exact Finset.subset_insert _ _
    · change (s', u) ∈ (if o ≠ .completed then _ else _ : Table (Uuid × Uuid) ReceiveBuffer) at hb'
      split at hb'
      · exact (AList.mem_erase.mp hb').2
      · exact hb'
  | shut z now v hv => cases hl.1
  | noted event now v hadm hau hf hz hv =>
    exact muted_of_kept hs h hmu (kept_of_validate hs hv hl.2 (.inr hf))
  | consumedLast s x b frame hb hf =>
    exact muted_mono hs h hmu .inl (Finset.Subset.refl _) fun s' hb' => (AList.mem_erase.mp hb').2
  | consumed s x b frame frames hb hf hne =>
    refine muted_mono hs h hmu .inl (Finset.Subset.refl _) fun s' hb' => ?_
    rcases (AList.mem_insert _).mp hb' with heq | hb'
    · rw [heq, Table.mem_iff_isSome, hb]; rfl
    · exact hb'
  | polled now c' hcheck hp =>
    obtain ⟨marked, hv, hmem⟩ := hp.validator
    refine muted_mono hs h hmu (fun hin => .inl ?_) ?_ fun s' hb' => ?_
    · rw [hv]; exact (hmem u).mpr (.inl hin)
    · rw [hv]
    · obtain ⟨b, hb⟩ := Option.isSome_iff_exists.mp (AList.lookup_isSome.mpr hb')
      exact AList.lookup_isSome.mp (Option.isSome_of_mem (hp.kept _ b hb))
  | expired s x now y hact hlk hsx haw hcan =>
    exact muted_mono hs h hmu (fun hin => .inl (Finset.mem_insert_of_mem hin))
      (Finset.Subset.refl _) fun s' hb' => (AList.mem_erase.mp hb').2

/-- A cancellation mutes its utterance. -/
theorem muted_of_cancels (hm : Move c op r c') (hc : Cancels (op, r) u) : Muted c' u := by
  obtain ⟨actions, hr, hu⟩ := hc
  cases hm with
  | polled now c' hcheck hp =>
    obtain ⟨marked, hv, hmem⟩ := hp.validator
    cases hr
    exact .inl (by rw [hv]; exact (hmem u).mpr (.inr hu))
  | expired s x now y hact hlk hsx haw hcan =>
    cases hr
    obtain ⟨_, _, _, hm⟩ := hu
    cases List.mem_singleton.mp hm
    exact .inl (Finset.mem_insert_self _ _)
  | judged event now r v hadm hv hne => cases r <;> cases hr
  | inputEnded s x now d hact hlk hd =>
    dsimp only at hr
    cases hres : (c.validator.recordEndOfUtterance x now).1 <;> rw [hres] at hr <;> cases hr
  | _ => cases hr

/-- A final that does not complete its utterance mutes it. -/
theorem muted_of_drops (hs : Sound c) (h : Agree c) (hm : Move c op r c') (hd : Drops (op, r) u) :
    Muted c' u := by
  obtain ⟨f, now, hop, hid, hout, hr⟩ := hd
  cases hm with
  | finished f' s x o now' v hadm hv =>
    cases hop
    obtain ⟨-, hut, ho, hcf⟩ := hadm
    obtain rfl : x = u := by simpa [hid] using hut.symm
    obtain ⟨-, y, hy, hsy, -⟩ := ProviderAudioWatchdog.checkFinal_ok.mp hcf
    have hr := finished_retired hut hv
    have hne : o ≠ .completed := by
      rintro rfl; exact hout (UtteranceOutcome.code_of_tryFrom ho)
    refine .inr ⟨?_, fun s' hb' => ?_⟩
    · show x ∈ v.terminalUtterances
      rw [hr.terminal]; exact Finset.mem_insert_self _ _
    · -- every buffer of the utterance is under the stream the watchdog knows
      change (s', x) ∈ (if o ≠ .completed then _ else _ : Table (Uuid × Uuid) ReceiveBuffer) at hb'
      rw [if_pos hne] at hb'
      obtain ⟨hk, hb'⟩ := AList.mem_erase.mp hb'
      have hin : x ∈ c.watchdog.utterances := by rw [Table.mem_iff_isSome, hy]; rfl
      rcases h.heard s' x hb' with ⟨z, hz, hsz, -⟩ | ht
      · obtain rfl : y = z := Option.some.inj (hy.symm.trans hz)
        exact hk (by rw [← hsz, hsy])
      · exact hs.coherent.disjoint x ((h.keys x).mp hin) ht
  | judged event now r v hadm hv hne =>
    cases r <;> first | exact absurd rfl hne | cases hr
  | noted event now v hadm hau hf hz hv => cases hop; exact absurd rfl (hf f)
  | refused op e he => cases hr
  | _ => cases hop

theorem late_no_buffer (hs : Sound c) (h : Agree c) {t : Nat} (hlate : Late c u t) :
    (s, u) ∉ c.receiveBuffers := by
  obtain ⟨x, done, hx, -, hnp, -⟩ := hlate
  have hin : u ∈ c.watchdog.utterances := by rw [Table.mem_iff_isSome, hx]; rfl
  intro hb
  rcases h.heard s u hb with ⟨-, -, -, -, hp⟩ | ht
  · exact hnp hp
  · exact hs.coherent.disjoint u ((h.keys u).mp hin) ht

/-- An utterance without a buffer that an accepted final names is muted. -/
theorem muted_of_finished {f : ProviderUtteranceFinal} {o : UtteranceOutcome}
    (hno : ∀ s, (s, u) ∉ c.receiveBuffers) (hut : f.utteranceId = some u)
    (hv : c.validator.validate (some (.utteranceFinal f)) now = (.ok (), v)) :
    Muted ((c.withValidator v).finish s u o) u := by
  have hr := finished_retired hut hv
  refine .inr ⟨?_, fun s' hb' => hno s' ?_⟩
  · show u ∈ v.terminalUtterances
    rw [hr.terminal]; exact Finset.mem_insert_self _ _
  · change (s', u) ∈ (if o ≠ .completed then _ else _ : Table (Uuid × Uuid) ReceiveBuffer) at hb'
    split at hb'
    · exact (AList.mem_erase.mp hb').2
    · exact hb'

theorem maxAgeMs_congr {w : ProviderEventValidator} (h : w.contract = v.contract) :
    w.maxAgeMs = v.maxAgeMs := by
  unfold ProviderEventValidator.maxAgeMs; rw [h]

theorem late_of_kept {t : Nat} (h : Late c u t) (hk : c.validator.Kept v)
    (hp : v.lastPlayableAudioSequence = c.validator.lastPlayableAudioSequence) :
    Late (c.withValidator v) u t := by
  obtain ⟨x, done, hx, haw, hnp, hdone, hage⟩ := h
  refine ⟨x, done, hx, haw, ?_, ?_, ?_⟩
  · rw [withValidator, hp]; exact hnp
  · rw [withValidator, hk.complete]; exact hdone
  · rw [withValidator, maxAgeMs_congr hk.contract]; exact hage

/-- Late audio stays late while the clock does not go back, until the utterance is muted. -/
theorem late_move (hs : Sound c) (h : Agree c) (hm : Move c op r c') (hl : Live c') {t : Nat}
    (hlate : Late c u t) (hclock : NotBefore t (op, r)) : Late c' u t ∨ Muted c' u := by
  have hno : ∀ s, (s, u) ∉ c.receiveBuffers := fun s => late_no_buffer hs h hlate
  obtain ⟨x, done, hx, haw, hnp, hdone, hage⟩ := id hlate
  have hother : ∀ {z : Uuid} {y : WatchedUtterance}, u ≠ z →
      (c.watchdog.put z y).utterances.lookup u = some x := by
    intro z y hne
    rw [ProviderAudioWatchdog.put, Table.lookup_insert_if, if_neg hne]; exact hx
  cases hm with
  | refused op e he => exact .inl hlate
  | started s z ns v hact hnew hv =>
    rcases ProviderEventValidator.recordInput_cases c.validator z ns with
      ⟨e, -, heq⟩ | ⟨-, -, -, -, heq⟩ <;> rw [hv] at heq <;> cases heq
    have hne : u ≠ z := by
      rintro rfl; exact hnew (by rw [Table.mem_iff_isSome, hx]; rfl)
    refine .inl ⟨x, done, hother hne, haw, hnp, ?_, hage⟩
    show (ProviderEventValidator.orInsert c.validator.inputCompleteNs z ns).lookup u = some done
    unfold ProviderEventValidator.orInsert
    split
    · exact hdone
    · rw [Table.lookup_insert_if, if_neg hne]; exact hdone
  | inputEnded s z now d hact hlk hd =>
    have hne : u ≠ z := by
      rintro rfl
      obtain rfl := Option.some.inj (hx.symm.trans hlk)
      cases haw
    rcases ProviderEventValidator.recordEndOfUtterance_cases c.validator z now with
      ⟨e, -, heq⟩ | ⟨-, -, -, heq⟩ <;> rw [heq]
    · exact .inl ⟨x, done, hother hne, haw, hnp, hdone, hage⟩
    · refine .inl ⟨x, done, hother hne, haw, hnp, ?_, hage⟩
      show (c.validator.inputCompleteNs.insert z now).lookup u = some done
      rw [Table.lookup_insert_if, if_neg hne]; exact hdone
  | judged event now r v hadm hv hr =>
    exact .inl (late_of_kept hlate (kept_of_validate hs hv hl.2 (.inl hr))
      (ProviderEventValidator.validate_playable hs.coherent hv (fun _ _ => hr) fun _ _ => hr))
  | heard a s z now v hst hut hc hb hv =>
    obtain ⟨z', done', hid, -, -, -, -, hdone', hfresh, rfl⟩ :=
      ProviderEventValidator.validate_audio_ok hv
    obtain rfl : z' = z := by simpa [hut] using hid.symm
    have hne : u ≠ z' := by
      rintro rfl
      obtain rfl : done = done' := Option.some.inj (hdone.symm.trans hdone')
      have hnone : c.validator.lastPlayableAudioSequence.lookup u = none := by
        rw [AList.lookup_eq_none]; exact hnp
      have hle := hfresh hnone
      have ht : t ≤ now := hclock _ now rfl
      omega
    refine .inl ⟨x, done, hother hne, haw, fun hin => ?_, hdone, hage⟩
    rcases (AList.mem_insert _).mp hin with heq | hin
    · exact hne heq
    · exact hnp hin
  | finished f s z o now v hadm hv =>
    by_cases hne : u = z
    · subst hne
      exact .inr (muted_of_finished hno hadm.2.1 hv)
    · have hr := finished_retired hadm.2.1 hv
      refine .inl ⟨x, done, ?_, haw, ?_, ?_, ?_⟩
      · show (c.watchdog.utterances.erase z).lookup u = some x
        rw [Table.lookup_erase_if, if_neg hne]; exact hx
      · show u ∉ v.lastPlayableAudioSequence
        rw [hr.played]; exact fun hin => hnp (AList.mem_erase.mp hin).2
      · show v.inputCompleteNs.lookup u = some done
        rw [hr.complete, Table.lookup_erase_if, if_neg hne]; exact hdone
      · show v.maxAgeMs * nsPerMs < t - done
        rw [maxAgeMs_congr hr.contract]; exact hage
  | shut z now v hv => cases hl.1
  | noted event now v hadm hau hf hz hv =>
    refine .inl (late_of_kept hlate (kept_of_validate hs hv hl.2 (.inr hf))
      (ProviderEventValidator.validate_playable hs.coherent hv (fun a ha => ?_) fun f hf' => ?_))
    · -- a frame of a cancelled utterance is never accepted
      subst ha
      obtain ⟨s, z, -, hut, hcp⟩ := hau a rfl
      obtain ⟨y, hy, -, hyc⟩ := ProviderAudioWatchdog.cancelPending_iff.mp hcp
      obtain ⟨z', -, hid, hnc, -⟩ := ProviderEventValidator.validate_audio_ok hv
      obtain rfl : z' = z := by simpa [hut] using hid.symm
      exact absurd ((h.cancel z' y hy).mp hyc) hnc
    · exact absurd hf' (hf f)
  | consumedLast s z b frame hb hf => exact .inl ⟨x, done, hx, haw, hnp, hdone, hage⟩
  | consumed s z b frame frames hb hf hne => exact .inl ⟨x, done, hx, haw, hnp, hdone, hage⟩
  | polled now c' hcheck hp =>
    have hact := hl.1
    rw [hp.watchdog] at hact
    rw [poll_live hact] at hp
    obtain ⟨marked, hv, hmem⟩ := hp.validator
    cases ho : ProviderAudioWatchdog.overdue now x with
    | true =>
      refine .inr (.inl ?_)
      rw [hv]
      exact (hmem u).mpr (.inr (cancelled_cancelActions.mpr
        ⟨x, hx, ho, not_cancelPending_of_awaits haw⟩))
    | false =>
      refine .inl ⟨x, done, ?_, haw, ?_, ?_, ?_⟩
      · rw [hp.watchdog, ProviderAudioWatchdog.swept_lookup, hx]
        simp [ProviderAudioWatchdog.polled, ho]
      · rw [hv]; exact hnp
      · rw [hv]; exact hdone
      · rw [hv]; exact hage
  | expired s z now y hact hlk hsx haw' hcan =>
    by_cases hne : u = z
    · subst hne; exact .inr (.inl (Finset.mem_insert_self _ _))
    · exact .inl ⟨x, done, hother hne, haw, hnp, hdone, hage⟩

/-- An `ExpiredAudio` verdict makes its utterance late. -/
theorem late_of_expires (h : Agree c) (hm : Move c op r c') {t : Nat}
    (he : Expires (op, r) u t) : Late c' u t := by
  obtain ⟨a, hop, hid, hr⟩ := he
  cases hm with
  | judged event now r v hadm hv hne =>
    cases hop
    obtain ⟨s, z, hst, hut, hok⟩ := hadm.2.1 a rfl
    obtain rfl : z = u := by simpa [hid] using hut.symm
    have hre : r = .err .expiredAudio := by
      cases r with
      | err e => cases hr; rfl
      | _ => cases hr
    subst hre
    rcases ProviderEventValidator.validate_cases c.validator (some (.audioDelta a)) t with
      ⟨e, he, heq⟩ | ⟨ev, r', w, hev, -, -, hver, heq⟩
    · rw [hv] at heq; cases heq; cases he
    cases hev
    rw [hv] at heq
    obtain ⟨rfl, rfl⟩ := Prod.mk.inj heq
    generalize hj : (Outcome.err ProviderValidationError.expiredAudio, w) = j at hver
    cases hver with
    | expiredAudio a' u' done ha hid' hc hu hact hn hm hfirst hdone hage =>
      cases ha; cases hj
      obtain rfl : u' = z := by simpa [hid] using hid'.symm
      have hcheck : c.watchdog.checkAudioDelta s u' t = .ok () := by
        refine (hok.resolve_left fun hcp => ?_).1
        obtain ⟨y, hy, -, hyc⟩ := ProviderAudioWatchdog.cancelPending_iff.mp hcp
        exact hc ((h.cancel u' y hy).mp hyc)
      obtain ⟨-, x, hx, -, haw, -⟩ := ProviderAudioWatchdog.checkAudioDelta_ok.mp hcheck
      exact ⟨x, done, hx, haw, AList.lookup_eq_none.mp hfirst, hdone, hage⟩
    | turnedAway e he => cases hj; cases he
    | refused e he _ => cases hj; cases he
    | _ => simp_all
  | refused op e he =>
    cases hop
    have := he .expiredAudio (Outcome.err.inj hr)
    cases this
  | inputEnded s x now d hact hlk hd => cases hop
  | _ => cases hr

/-! ### Every run -/

/-- The invariant of a run of the coordinator. -/
structure StreamInv (log : List Entry) (c : ProviderStreamCoordinator) : Prop where
  sound : Sound c
  agree : Live c → Agree c
  muted : Live c → ∀ u, (∃ a ∈ log, Cancels a u ∨ Drops a u) → Muted c u
  late : Live c → ∀ u t, ExpiredAt log u t → Late c u t ∨ Muted c u

theorem streamInv_new (contract : ProviderSessionContract) : StreamInv [] (new contract) where
  sound := sound_new contract
  agree := fun _ => agree_new contract
  muted := by simp
  late := by rintro _ u t ⟨pre, a, post, h, -⟩; simp at h

theorem streamInv_step {log : List Entry} (h : StreamInv log c) (op : Op) :
    StreamInv (log ++ [(op, (c.apply op).1)]) (c.apply op).2 := by
  have hm := apply_move h.sound.session op
  refine ⟨sound_move h.sound hm, fun hl => ?_, fun hl u hu => ?_, fun hl u t hu => ?_⟩
  · exact agree_move h.sound (h.agree (live_of_move hm hl)) hm hl
  · have hlive := live_of_move hm hl
    obtain ⟨a, ha, hsil⟩ := hu
    rcases List.mem_append.mp ha with ha | ha
    · exact muted_move h.sound (h.agree hlive) hm hl (h.muted hlive u ⟨a, ha, hsil⟩)
    · cases List.mem_singleton.mp ha
      exact hsil.elim (muted_of_cancels hm) (muted_of_drops h.sound (h.agree hlive) hm)
  · have hlive := live_of_move hm hl
    rcases expiredAt_concat hu with ⟨hu, hclock⟩ | hu
    · rcases h.late hlive u t hu with hlate | hmu
      · exact late_move h.sound (h.agree hlive) hm hl hlate hclock
      · exact .inr (muted_move h.sound (h.agree hlive) hm hl hmu)
    · exact .inl (late_of_expires (h.agree hlive) hm hu)

theorem run_streamInv (contract : ProviderSessionContract) (ops : List Op) :
    StreamInv (exec apply (new contract) ops).1 (exec apply (new contract) ops).2 :=
  exec_invariant (I := StreamInv) (streamInv_new contract)
    (fun _ _ op h _ => streamInv_step h op) ops (adm_true _ _ _)

end ProviderStreamCoordinator

end Translator.Stream
