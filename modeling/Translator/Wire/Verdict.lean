import Translator.Wire.Validator

/-! What one call of `validate` can do. `Verdict` lists every outcome of `validate_kind` with the
    facts that hold when it is taken and the state it leaves; `validate_cases` is the inversion
    lemma every invariant of the validator is derived from. -/

namespace Translator.Wire
open Schemes

/-- The outcomes that reject an event and still change the validator on purpose: audio that came too
    late or after a cancellation advances the counters, a full terminal table closes the session. -/
def ProviderValidationError.documented : ProviderValidationError → Bool
  | .expiredAudio => true
  | .cancelledAudio => true
  | .terminalCapacityExceeded => true
  | _ => false

namespace ProviderEventValidator

variable (v : ProviderEventValidator)

/-- `n` is an admissible next event sequence. -/
def NextSequence (n : UInt64) : Prop :=
  match v.lastEventSequence with
  | none => n = 1
  | some previous => previous < n

/-- The session is open for the event and its sequence is the next one. -/
def InOrder (event : Event) : Prop :=
  v.closed = false ∧ v.opened = !event.isSessionOpened ∧ v.NextSequence event.eventSequence

/-- The event has the schema of its kind and comes from the session, direction and stream of the
    contract; only an error without an utterance may leave its stream out. -/
def Addressed (event : Event) : Prop :=
  event.commonFields.schemaVersion = event.expectedSchema
    ∧ event.commonFields.sessionId = some v.contract.sessionId
    ∧ event.commonFields.directionId = v.contract.directionId.code
    ∧ (∀ t, event.streamField = some t → t = some v.contract.streamId)
    ∧ (∀ x, event = .error x → x.streamId = none → x.utteranceId = none)

/-- `u` has been recorded and has not ended. -/
def Active (u : Uuid) : Prop := u ∈ v.inputCaptureNs ∧ u ∉ v.terminalUtterances

/-- `n` is the next audio sequence of `u`. -/
def NextAudio (u : Uuid) (n : UInt64) : Prop :=
  match v.lastWireAudioSequence.lookup u with
  | none => n = 0
  | some previous => n.toNat = previous.toNat + 1

/-- No final is owed. -/
def Unobliged : Prop := v.pendingOverflowTerminal = none ∧ v.pendingNoSpeechTerminal = none

/-- The frame has the negotiated output format and the length that format asks for. -/
def MatchesOutput (a : ProviderAudioDelta) : Prop :=
  a.sampleRateHz = v.contract.outputFormat.sampleRateHz
    ∧ a.channels = v.contract.outputFormat.channels
    ∧ a.sampleFormat = v.contract.outputFormat.sampleFormat
    ∧ a.frameDurationMs = v.contract.outputFormat.frameDurationMs
    ∧ a.pcm.length = expectedBytes a

/-- The wire counter of `u` moves to `n`. -/
def hearWire (u : Uuid) (n : UInt64) : ProviderEventValidator :=
  { v with lastWireAudioSequence := v.lastWireAudioSequence.insert u n }

/-- The playable counter of `u` moves to `n`. -/
def play (u : Uuid) (n : UInt64) : ProviderEventValidator :=
  { v with lastPlayableAudioSequence := v.lastPlayableAudioSequence.insert u n }

/-- The event is counted. -/
def see (n : UInt64) : ProviderEventValidator := { v with lastEventSequence := some n }

/-- The branch of `validate_kind` that settles a final. -/
inductive FinalPath where | cancelled | overflow | noSpeech | plain

/-- The state in which the branch calls `terminalize`. -/
def settle (u : Uuid) : FinalPath → ProviderEventValidator
  | .cancelled => { v with cancelPending := v.cancelPending.erase u }
  | .overflow => { v with pendingOverflowTerminal := none }
  | .noSpeech => { v with pendingNoSpeechTerminal := none }
  | .plain => { v with pendingNoSpeechLatency := none }

/-- What the branch asks of a final `f` of `u`. -/
def Settles (f : ProviderUtteranceFinal) (u : Uuid) : FinalPath → Prop
  | .cancelled => u ∈ v.cancelPending ∧ f.outcome = UtteranceOutcome.cancelled.code
      ∧ f.finalAudioSequence = v.lastWireAudioSequence.lookup u
  | .overflow => u ∉ v.cancelPending ∧ v.pendingOverflowTerminal = some u
      ∧ f.outcome = UtteranceOutcome.dropped.code
      ∧ f.finalAudioSequence = v.lastPlayableAudioSequence.lookup u
  | .noSpeech => u ∉ v.cancelPending ∧ v.pendingOverflowTerminal = none
      ∧ v.pendingNoSpeechTerminal = some u ∧ f.outcome = UtteranceOutcome.dropped.code
      ∧ f.finalAudioSequence = none
  | .plain => u ∉ v.cancelPending ∧ v.Unobliged ∧ v.Active u
      ∧ (f.outcome = UtteranceOutcome.completed.code ∨ f.outcome = UtteranceOutcome.dropped.code)
      ∧ f.finalAudioSequence = v.lastPlayableAudioSequence.lookup u

/-- Why `validate` would panic on a frame of `u`: the wire counter is exhausted, or a recorded
    utterance has no completion time. -/
def PanicsOn (u : Uuid) : Prop :=
  (∃ p, v.lastWireAudioSequence.lookup u = some p ∧ 2 ^ 64 ≤ p.toNat + 1)
    ∨ (v.Active u ∧ v.inputCompleteNs.lookup u = none)

/-- Every result of `validate_kind`, with the facts that lead to it. -/
inductive Verdict (v : ProviderEventValidator) (event : Event) (nowNs : Nat) : Judgement → Prop
  /-- Rejected before the dispatch: nothing changes. -/
  | turnedAway (e : ProviderValidationError) (he : e.documented = false) :
      Verdict v event nowNs (.err e, v)
  /-- Rejected by the dispatch: a pending no-speech latency is already gone. -/
  | refused (e : ProviderValidationError) (he : e.documented = false) (hu : v.Unobliged) :
      Verdict v event nowNs (.err e, v.clearNoSpeechLatency event)
  | cancelledAudio (a : ProviderAudioDelta) (u : Uuid) (ha : event = .audioDelta a)
      (hid : a.utteranceId = some u) (hc : u ∈ v.cancelPending) (hn : v.NextAudio u a.sequence)
      (hm : v.MatchesOutput a) :
      Verdict v event nowNs (.err .cancelledAudio, v.hearWire u a.sequence)
  | expiredAudio (a : ProviderAudioDelta) (u : Uuid) (c : Nat) (ha : event = .audioDelta a)
      (hid : a.utteranceId = some u) (hc : u ∉ v.cancelPending) (hu : v.Unobliged)
      (hact : v.Active u) (hn : v.NextAudio u a.sequence) (hm : v.MatchesOutput a)
      (hfirst : v.lastPlayableAudioSequence.lookup u = none)
      (hdone : v.inputCompleteNs.lookup u = some c) (hage : v.maxAgeMs * nsPerMs < nowNs - c) :
      Verdict v event nowNs
        (.err .expiredAudio, (v.clearNoSpeechLatency event).hearWire u a.sequence)
  | playedAudio (a : ProviderAudioDelta) (u : Uuid) (c : Nat) (ha : event = .audioDelta a)
      (hid : a.utteranceId = some u) (hc : u ∉ v.cancelPending) (hu : v.Unobliged)
      (hact : v.Active u) (hn : v.NextAudio u a.sequence) (hm : v.MatchesOutput a)
      (hdone : v.inputCompleteNs.lookup u = some c)
      (hage : v.lastPlayableAudioSequence.lookup u = none → nowNs - c ≤ v.maxAgeMs * nsPerMs) :
      Verdict v event nowNs
        (.ok (), ((v.clearNoSpeechLatency event).hearWire u a.sequence).play u a.sequence)
  | opened (o : ProviderSessionOpened) (ho : event = .sessionOpened o) (hu : v.Unobliged) :
      Verdict v event nowNs (.ok (), { v.clearNoSpeechLatency event with opened := true })
  /-- Text, health and ordinary errors leave no trace but the cleared latency. -/
  | noted (hu : v.Unobliged) (hact : ∀ u, event.Names u → v.Active u ∧ u ∉ v.cancelPending)
      (hf : ∀ f, event ≠ .utteranceFinal f) (hcl : event.isSessionClosed = false)
      (hop : event.isSessionOpened = false) (hau : ∀ a, event ≠ .audioDelta a) :
      Verdict v event nowNs (.ok (), v.clearNoSpeechLatency event)
  | latency (l : ProviderLatency) (w : Option Uuid) (hl : event = .latency l) (hu : v.Unobliged)
      (hact : ∀ u, event.Names u → v.Active u ∧ u ∉ v.cancelPending)
      (hw : ∀ u, w = some u → event.Names u) :
      Verdict v event nowNs (.ok (), { v with pendingNoSpeechLatency := w })
  | overflowError (x : ProviderError) (u : Uuid) (hx : event = .error x)
      (hcode : x.code = SafeErrorCode.queueOverflow.code) (hid : x.utteranceId = some (some u))
      (hc : u ∉ v.cancelPending) (hact : v.Active u) (hu : v.Unobliged)
      (hmsg : x.safeMessage = safeErrorMessage .queueOverflow) :
      Verdict v event nowNs
        (.ok (), { v.clearNoSpeechLatency event with pendingOverflowTerminal := some u })
  | noSpeechError (x : ProviderError) (u : Uuid) (hx : event = .error x)
      (hcode : x.code = SafeErrorCode.noSpeech.code) (hid : x.utteranceId = some (some u))
      (hc : u ∉ v.cancelPending) (hact : v.Active u) (hu : v.Unobliged)
      (hlat : v.pendingNoSpeechLatency = some u) (hmsg : x.safeMessage = safeErrorMessage .noSpeech) :
      Verdict v event nowNs
        (.ok (), { v with pendingNoSpeechLatency := none, pendingNoSpeechTerminal := some u })
  | ended (path : FinalPath) (f : ProviderUtteranceFinal) (u : Uuid)
      (hf : event = .utteranceFinal f) (hid : f.utteranceId = some u) (hs : v.Settles f u path)
      (hroom : v.terminalUtterances.card < maxTerminalUtterances) :
      Verdict v event nowNs (.ok (), (v.settle u path).retire u)
  | exhausted (path : FinalPath) (f : ProviderUtteranceFinal) (u : Uuid)
      (hf : event = .utteranceFinal f) (hid : f.utteranceId = some u) (hs : v.Settles f u path)
      (hfull : maxTerminalUtterances ≤ v.terminalUtterances.card) :
      Verdict v event nowNs
        (.err .terminalCapacityExceeded, { v.settle u path with closed := true })
  | closed (c : ProviderSessionClosed) (hc : event = .sessionClosed c) (hu : v.Unobliged) :
      Verdict v event nowNs (.ok (), { v.clearNoSpeechLatency event with closed := true })
  | panicked (a : ProviderAudioDelta) (u : Uuid) (v' : ProviderEventValidator)
      (ha : event = .audioDelta a) (hid : a.utteranceId = some u) (hp : v.PanicsOn u) :
      Verdict v event nowNs (.panic, v')

variable {v : ProviderEventValidator} {event : Event} {u : Uuid} {nowNs : Nat}

/-! ### What the pure checks decide -/

theorem validateSequence_ok {n : UInt64} : v.validateSequence n = .ok () ↔ v.NextSequence n := by
  unfold validateSequence NextSequence
  cases v.lastEventSequence with
  | none => simp
  | some p =>
    simp only [UInt64.lt_iff_toNat_lt, ← UInt64.toNat_inj]
    split
    · simp; omega
    · split
      · simp; omega
      · simp; omega

theorem activeUtterance_ok {t : IdText} : v.activeUtterance t = .ok u ↔ t = some u ∧ v.Active u := by
  cases t with
  | none => simp [activeUtterance, parseUuid]
  | some w =>
    simp only [activeUtterance, parseUuid, Active]
    split
    · simp; rintro rfl _; assumption
    · split
      · simp; rintro rfl _; contradiction
      · simp; rintro rfl; tauto

theorem activeUtterance_err {t : IdText} {e : ProviderValidationError}
    (h : v.activeUtterance t = .error e) : e.documented = false := by
  cases t with
  | none => cases h; rfl
  | some w =>
    simp only [activeUtterance, parseUuid] at h
    split at h
    · cases h; rfl
    · split at h
      · cases h; rfl
      · cases h

/-- An optional utterance field passes when it is absent or names an active utterance. -/
theorem activeUtterance?_ok {t : Option IdText} {w : Option Uuid}
    (h : v.activeUtterance? t = .ok w) :
    t = w.map some ∧ ∀ u, w = some u → v.Active u := by
  cases t with
  | none => cases h; simp
  | some t =>
    simp only [activeUtterance?] at h
    split at h
    · cases h
    · next u hu =>
      cases h
      obtain ⟨rfl, hact⟩ := activeUtterance_ok.mp hu
      exact ⟨rfl, fun w hw => Option.some.inj hw ▸ hact⟩

theorem activeUtterance?_err {t : Option IdText} {e : ProviderValidationError}
    (h : v.activeUtterance? t = .error e) : e.documented = false := by
  cases t with
  | none => cases h
  | some t =>
    simp only [activeUtterance?] at h
    split at h
    · next hu => cases h; exact activeUtterance_err hu
    · cases h

theorem validateAudioSequence_ok {n : UInt64} (h : v.validateAudioSequence u n = .ok ()) :
    v.NextAudio u n := by
  unfold validateAudioSequence at h
  unfold NextAudio
  cases hl : v.lastWireAudioSequence.lookup u with
  | none => rw [hl] at h; simpa using h
  | some p =>
    rw [hl] at h
    simp only [UInt64.lt_iff_toNat_lt, ← UInt64.toNat_inj] at h
    grind

theorem validateAudioSequence_err {n : UInt64} {e : ProviderValidationError}
    (h : v.validateAudioSequence u n = .err e) : e.documented = false := by
  unfold validateAudioSequence at h
  split at h
  · split at h <;> cases h; rfl
  · split at h
    · cases h; rfl
    · split at h
      · cases h; rfl
      · split at h
        · cases h
        · split at h <;> cases h; rfl

theorem validateAudioSequence_panic {n : UInt64} (h : v.validateAudioSequence u n = .panic) :
    ∃ p, v.lastWireAudioSequence.lookup u = some p ∧ 2 ^ 64 ≤ p.toNat + 1 := by
  unfold validateAudioSequence at h
  split at h
  · split at h <;> cases h
  · next p hp =>
    refine ⟨p, hp, ?_⟩
    split at h
    · cases h
    · split at h
      · cases h
      · split at h
        · assumption
        · split at h <;> cases h

/-- A frame passes the wire check, is refused, or hits an exhausted counter. -/
theorem validateWireAudio_cases (v : ProviderEventValidator) (a : ProviderAudioDelta) (u : Uuid) :
    (v.validateWireAudio a u = (.ok (), v.hearWire u a.sequence) ∧ v.NextAudio u a.sequence
        ∧ v.MatchesOutput a)
      ∨ (∃ e, e.documented = false ∧ v.validateWireAudio a u = (.err e, v))
      ∨ (v.validateWireAudio a u = (.panic, v)
        ∧ ∃ p, v.lastWireAudioSequence.lookup u = some p ∧ 2 ^ 64 ≤ p.toNat + 1) := by
  unfold validateWireAudio
  split
  · next h => exact .inr (.inr ⟨rfl, validateAudioSequence_panic h⟩)
  · next e h => exact .inr (.inl ⟨e, validateAudioSequence_err h, rfl⟩)
  · next h =>
    split
    · exact .inr (.inl ⟨_, rfl, rfl⟩)
    · split
      · exact .inr (.inl ⟨_, rfl, rfl⟩)
      · next hf hl =>
        push Not at hf hl
        exact .inl ⟨rfl, validateAudioSequence_ok h, hf.1, hf.2.1, hf.2.2.1, hf.2.2.2, hl⟩

/-! ### The branches, one verdict each -/

@[simp] theorem clear_contract : (v.clearNoSpeechLatency event).contract = v.contract := by
  unfold clearNoSpeechLatency; split <;> rfl
@[simp] theorem clear_capture :
    (v.clearNoSpeechLatency event).inputCaptureNs = v.inputCaptureNs := by
  unfold clearNoSpeechLatency; split <;> rfl
@[simp] theorem clear_complete :
    (v.clearNoSpeechLatency event).inputCompleteNs = v.inputCompleteNs := by
  unfold clearNoSpeechLatency; split <;> rfl
@[simp] theorem clear_wire :
    (v.clearNoSpeechLatency event).lastWireAudioSequence = v.lastWireAudioSequence := by
  unfold clearNoSpeechLatency; split <;> rfl
@[simp] theorem clear_playable :
    (v.clearNoSpeechLatency event).lastPlayableAudioSequence = v.lastPlayableAudioSequence := by
  unfold clearNoSpeechLatency; split <;> rfl
@[simp] theorem clear_terminal :
    (v.clearNoSpeechLatency event).terminalUtterances = v.terminalUtterances := by
  unfold clearNoSpeechLatency; split <;> rfl
@[simp] theorem clear_overflow :
    (v.clearNoSpeechLatency event).pendingOverflowTerminal = v.pendingOverflowTerminal := by
  unfold clearNoSpeechLatency; split <;> rfl
@[simp] theorem clear_noSpeech :
    (v.clearNoSpeechLatency event).pendingNoSpeechTerminal = v.pendingNoSpeechTerminal := by
  unfold clearNoSpeechLatency; split <;> rfl
@[simp] theorem clear_cancel :
    (v.clearNoSpeechLatency event).cancelPending = v.cancelPending := by
  unfold clearNoSpeechLatency; split <;> rfl
@[simp] theorem clear_opened : (v.clearNoSpeechLatency event).opened = v.opened := by
  unfold clearNoSpeechLatency; split <;> rfl
@[simp] theorem clear_closed : (v.clearNoSpeechLatency event).closed = v.closed := by
  unfold clearNoSpeechLatency; split <;> rfl
@[simp] theorem clear_last :
    (v.clearNoSpeechLatency event).lastEventSequence = v.lastEventSequence := by
  unfold clearNoSpeechLatency; split <;> rfl
@[simp] theorem clear_debug :
    (v.clearNoSpeechLatency event).debugTextEnabled = v.debugTextEnabled := by
  unfold clearNoSpeechLatency; split <;> rfl
@[simp] theorem clear_maxAge : (v.clearNoSpeechLatency event).maxAgeMs = v.maxAgeMs := by
  rw [maxAgeMs, clear_contract]; rfl

theorem clear_of_keeps (h : event.keepsNoSpeechLatency = true) :
    v.clearNoSpeechLatency event = v := by rw [clearNoSpeechLatency, if_pos h]

@[simp] theorem clear_active : (v.clearNoSpeechLatency event).Active u ↔ v.Active u := by
  simp [Active]

@[simp] theorem clear_nextAudio {n : UInt64} :
    (v.clearNoSpeechLatency event).NextAudio u n ↔ v.NextAudio u n := by
  simp [NextAudio]

@[simp] theorem clear_matches {a : ProviderAudioDelta} :
    (v.clearNoSpeechLatency event).MatchesOutput a ↔ v.MatchesOutput a := by
  simp [MatchesOutput]

/-- `terminalize` on behalf of the branch `path`. -/
theorem terminalize_verdict (path : FinalPath) {f : ProviderUtteranceFinal}
    (hf : event = .utteranceFinal f) (hid : f.utteranceId = some u) (hs : v.Settles f u path) :
    Verdict v event nowNs ((v.settle u path).terminalize u) := by
  have hset : (v.settle u path).terminalUtterances = v.terminalUtterances := by cases path <;> rfl
  by_cases hfull : maxTerminalUtterances ≤ v.terminalUtterances.card
  · rw [terminalize, if_pos (by rwa [hset])]
    exact .exhausted path f u hf hid hs hfull
  · rw [terminalize, if_neg (by rwa [hset])]
    exact .ended path f u hf hid hs (Nat.lt_of_not_le hfull)

theorem overflowTerminal_verdict (ho : v.pendingOverflowTerminal = some u)
    (hc : ∀ w, event.Names w → w ∉ v.cancelPending) :
    Verdict v event nowNs (v.validateOverflowTerminal event u) := by
  cases event with
  | utteranceFinal f =>
    cases hid : f.utteranceId with
    | none => simp only [validateOverflowTerminal, hid, parseUuid]; exact .turnedAway _ rfl
    | some w =>
      simp only [validateOverflowTerminal, hid, parseUuid]
      split
      · exact .turnedAway _ rfl
      · next hok =>
        push Not at hok
        obtain ⟨rfl, hout, hseq⟩ := hok
        have hnames : (Event.utteranceFinal f).Names w := by
          simp [Event.Names, Event.utteranceField, hid]
        exact terminalize_verdict .overflow rfl hid ⟨hc w hnames, ho, hout, hseq⟩
  | _ => exact .turnedAway _ rfl

theorem noSpeechTerminal_verdict (ho : v.pendingOverflowTerminal = none)
    (hn : v.pendingNoSpeechTerminal = some u) (hc : ∀ w, event.Names w → w ∉ v.cancelPending) :
    Verdict v event nowNs (v.validateNoSpeechTerminal event u) := by
  cases event with
  | utteranceFinal f =>
    cases hid : f.utteranceId with
    | none => simp only [validateNoSpeechTerminal, hid, parseUuid]; exact .turnedAway _ rfl
    | some w =>
      simp only [validateNoSpeechTerminal, hid, parseUuid]
      split
      · exact .turnedAway _ rfl
      · next hok =>
        push Not at hok
        obtain ⟨rfl, hout, hseq⟩ := hok
        have hnames : (Event.utteranceFinal f).Names w := by
          simp [Event.Names, Event.utteranceField, hid]
        have hnone : f.finalAudioSequence = none := by simpa using hseq
        exact terminalize_verdict .noSpeech rfl hid ⟨hc w hnames, ho, hn, hout, hnone⟩
  | _ => exact .turnedAway _ rfl

theorem validateCancelled_verdict (hname : event.Names u) (hc : u ∈ v.cancelPending) :
    Verdict v event nowNs (v.validateCancelled event u) := by
  cases event with
  | audioDelta a =>
    have hid : a.utteranceId = some u := Option.some.inj hname
    simp only [validateCancelled]
    rcases validateWireAudio_cases v a u with ⟨h, hn, hm⟩ | ⟨e, he, h⟩ | ⟨h, hp⟩ <;> rw [h]
    · exact .cancelledAudio a u rfl hid hc hn hm
    · exact .turnedAway e he
    · exact .panicked a u v rfl hid (.inl hp)
  | utteranceFinal f =>
    have hid : f.utteranceId = some u := Option.some.inj hname
    simp only [validateCancelled, validateCancelledTerminal]
    split
    · exact .turnedAway _ rfl
    · next hok =>
      push Not at hok
      exact terminalize_verdict .cancelled rfl hid ⟨hc, hok⟩
  | _ => exact .turnedAway _ rfl

theorem audioDelta_verdict (a : ProviderAudioDelta) (hu : v.Unobliged)
    (hc : ∀ w, (Event.audioDelta a).Names w → w ∉ v.cancelPending) :
    Verdict v (.audioDelta a) nowNs
      ((v.clearNoSpeechLatency (.audioDelta a)).validateAudioDelta a nowNs) := by
  unfold validateAudioDelta
  split
  · next e h => exact .refused e (activeUtterance_err h) hu
  · next u h =>
    obtain ⟨hid, hact⟩ := activeUtterance_ok.mp h
    have hact' : v.Active u := clear_active.mp hact
    have hcu : u ∉ v.cancelPending := hc u (by simp [Event.Names, Event.utteranceField, hid])
    rcases validateWireAudio_cases (v.clearNoSpeechLatency (.audioDelta a)) a u with
      ⟨h, hn, hm⟩ | ⟨e, he, h⟩ | ⟨h, p, hp, hbig⟩ <;> rw [h]
    · dsimp only
      split
      · next hnone => exact .panicked a u _ rfl hid (.inr ⟨hact', hnone⟩)
      · next c hdone =>
        split
        · next hlate =>
          exact .expiredAudio a u c rfl hid hcu hu hact' (clear_nextAudio.mp hn)
            (clear_matches.mp hm) (Option.isNone_iff_eq_none.mp hlate.1) hdone hlate.2
        · next hok =>
          refine .playedAudio a u c rfl hid hcu hu hact' (clear_nextAudio.mp hn)
            (clear_matches.mp hm) hdone fun hfirst => ?_
          by_contra hlate
          exact hok ⟨Option.isNone_iff_eq_none.mpr hfirst, Nat.lt_of_not_le hlate⟩
    · exact .refused e he hu
    · exact .panicked a u _ rfl hid (.inl ⟨p, by simpa using hp, hbig⟩)

theorem text_verdict {t : IdText} (hfield : event.utteranceField = some t)
    (hc : ∀ w, event.Names w → w ∉ v.cancelPending) (hu : v.Unobliged)
    (hf : ∀ f, event ≠ .utteranceFinal f) (hcl : event.isSessionClosed = false)
    (hop : event.isSessionOpened = false) (hau : ∀ a, event ≠ .audioDelta a) :
    Verdict v event nowNs
      (Outcome.ofExcept ((v.clearNoSpeechLatency event).validateTextEvent t),
        v.clearNoSpeechLatency event) := by
  unfold validateTextEvent
  split
  · next e h => exact .refused e (activeUtterance_err h) hu
  · next u h =>
    obtain ⟨rfl, hact⟩ := activeUtterance_ok.mp h
    split
    · exact .refused _ rfl hu
    · refine .noted hu (fun w hw => ?_) hf hcl hop hau
      obtain rfl : u = w := by simpa [Event.Names, hfield] using hw
      exact ⟨clear_active.mp hact, hc u hw⟩

theorem latency_verdict (l : ProviderLatency) (hu : v.Unobliged)
    (hc : ∀ w, (Event.latency l).Names w → w ∉ v.cancelPending) :
    Verdict v (.latency l) nowNs ((v.clearNoSpeechLatency (.latency l)).validateLatency l) := by
  rw [clear_of_keeps rfl, validateLatency]
  split
  · next e h =>
    have hrefused : Verdict v (.latency l) nowNs (.err e, v.clearNoSpeechLatency (.latency l)) :=
      .refused e (activeUtterance?_err h) hu
    rwa [clear_of_keeps rfl] at hrefused
  · next w h =>
    obtain ⟨hfield, hact⟩ := activeUtterance?_ok h
    refine .latency l _ rfl hu (fun u hn => ?_) (fun u hw => ?_)
    · have : w = some u := by simpa [Event.Names, Event.utteranceField, hfield] using hn
      exact ⟨hact u this, hc u hn⟩
    · have : w = some u := by simpa using (Option.filter_eq_some_iff.mp hw).1
      simp [Event.Names, Event.utteranceField, hfield, this]

theorem error_verdict (x : ProviderError) (hu : v.Unobliged)
    (hc : ∀ w, (Event.error x).Names w → w ∉ v.cancelPending) :
    Verdict v (.error x) nowNs ((v.clearNoSpeechLatency (.error x)).validateError x) := by
  unfold validateError
  split
  · exact .refused _ rfl hu
  · next code hcode =>
    have hx := SafeErrorCode.code_of_tryFrom hcode
    split
    · exact .refused _ rfl hu
    · next hsafe =>
      have hmsg : x.safeMessage = safeErrorMessage code := by
        by_contra hne; exact hsafe (.inr hne)
      split
      · next e h => exact .refused e (activeUtterance?_err h) hu
      · next w h =>
        obtain ⟨hfield, hact⟩ := activeUtterance?_ok h
        have hact' : ∀ u, (Event.error x).Names u → v.Active u ∧ u ∉ v.cancelPending := by
          intro u hn
          have : w = some u := by simpa [Event.Names, Event.utteranceField, hfield] using hn
          exact ⟨clear_active.mp (hact u this), hc u hn⟩
        split
        · next hq =>
          cases w with
          | none => exact .refused _ rfl hu
          | some u =>
            obtain ⟨ha, hcu⟩ := hact' u (by simp [Event.Names, Event.utteranceField, hfield])
            exact .overflowError x u rfl (hq ▸ hx) hfield hcu ha hu (hq ▸ hmsg)
        · split
          · next hns =>
            cases w with
            | none => exact .refused _ rfl hu
            | some u =>
              obtain ⟨ha, hcu⟩ := hact' u (by simp [Event.Names, Event.utteranceField, hfield])
              have hkeep : (Event.error x).keepsNoSpeechLatency = true := by
                simp [Event.keepsNoSpeechLatency, hx, hns]
              rw [clear_of_keeps hkeep]
              dsimp only
              split
              · have hrefused : Verdict v (.error x) nowNs
                    (.err .expectedNoSpeechLatency, v.clearNoSpeechLatency (.error x)) :=
                  .refused _ rfl hu
                rwa [clear_of_keeps hkeep] at hrefused
              · next hlat =>
                exact .noSpeechError x u rfl (hns ▸ hx) hfield hcu ha hu (not_not.mp hlat)
                  (hns ▸ hmsg)
          · exact .noted hu hact' (by simp) rfl rfl (by simp)

theorem utteranceFinal_verdict (f : ProviderUtteranceFinal) (hu : v.Unobliged)
    (hc : ∀ w, (Event.utteranceFinal f).Names w → w ∉ v.cancelPending) :
    Verdict v (.utteranceFinal f) nowNs
      ((v.clearNoSpeechLatency (.utteranceFinal f)).validateUtteranceFinal f) := by
  have hclear : v.clearNoSpeechLatency (.utteranceFinal f)
      = { v with pendingNoSpeechLatency := none } := rfl
  unfold validateUtteranceFinal
  split
  · next e h => exact .refused e (activeUtterance_err h) hu
  · next u h =>
    obtain ⟨hid, hact⟩ := activeUtterance_ok.mp h
    have hcu : u ∉ v.cancelPending := hc u (by simp [Event.Names, Event.utteranceField, hid])
    split
    · exact .refused _ rfl hu
    · exact .refused _ rfl hu
    · exact .refused _ rfl hu
    · next o hun hcan hout =>
      split
      · exact .refused _ rfl hu
      · next hseq =>
        have ho := UtteranceOutcome.code_of_tryFrom hout
        refine terminalize_verdict .plain rfl hid
          ⟨hcu, hu, clear_active.mp hact, ?_, by simpa using hseq⟩
        cases o with
        | unspecified => exact absurd rfl hun
        | completed => exact .inl ho
        | cancelled => exact absurd rfl hcan
        | dropped => exact .inr ho

theorem dispatch_verdict (hu : v.Unobliged) (hc : ∀ w, event.Names w → w ∉ v.cancelPending) :
    Verdict v event nowNs ((v.clearNoSpeechLatency event).dispatch event nowNs) := by
  cases event with
  | sessionOpened o =>
    simp only [dispatch, validateSessionOpened]
    split
    · split
      · exact .refused _ rfl hu
      · split
        · exact .refused _ rfl hu
        · split
          · exact .refused _ rfl hu
          · exact .opened o rfl hu
    · exact .refused _ rfl hu
  | audioDelta a => exact audioDelta_verdict a hu hc
  | transcriptDelta t => exact text_verdict rfl hc hu (by simp) rfl rfl (by simp)
  | translationDelta t => exact text_verdict rfl hc hu (by simp) rfl rfl (by simp)
  | utteranceFinal f => exact utteranceFinal_verdict f hu hc
  | sessionClosed c => exact .closed c rfl hu
  | health h =>
    simp only [dispatch, validateHealth]
    have hok : Verdict v (.health h) nowNs (.ok (), v.clearNoSpeechLatency (.health h)) :=
      .noted hu (by simp [Event.Names, Event.utteranceField]) (by simp) rfl rfl (by simp)
    split
    · exact .refused _ rfl hu
    · split
      · exact .refused _ rfl hu
      · split
        · split
          · exact .refused _ rfl hu
          · exact hok
        · exact hok
  | latency l => exact latency_verdict l hu hc
  | error x => exact error_verdict x hu hc

/-- Every result of `validate_kind` is one of the verdicts. -/
theorem validateKind_verdict (v : ProviderEventValidator) (event : Event) (nowNs : Nat) :
    Verdict v event nowNs (v.validateKind event nowNs) := by
  have huncancelled : (∀ w, event.Names w → w ∉ v.cancelPending) →
      Verdict v event nowNs (v.validateUncancelled event nowNs) := by
    intro hc
    unfold validateUncancelled
    split
    · next ho => exact overflowTerminal_verdict ho hc
    · next ho hn => exact noSpeechTerminal_verdict ho hn hc
    · next ho hn => exact dispatch_verdict ⟨ho, hn⟩ hc
  unfold validateKind
  split
  · next hnone => exact huncancelled (by simp [Event.Names, hnone])
  · next t hfield =>
    cases t with
    | none => exact .turnedAway _ rfl
    | some u =>
      simp only [parseUuid]
      split
      · next hc => exact validateCancelled_verdict hfield hc
      · next hc =>
        refine huncancelled fun w hw => ?_
        obtain rfl : u = w := by simpa [Event.Names, hfield] using hw
        exact hc

/-! ### The whole call -/

/-- An undocumented rejection is not counted. -/
theorem not_advances {e : ProviderValidationError} (he : e.documented = false) :
    advancesSequence (.err e) = false := by
  cases e <;> first | rfl | cases he

theorem validateStream_ok : v.validateStream event = .ok ()
    ↔ (∀ t, event.streamField = some t → t = some v.contract.streamId)
      ∧ (∀ x, event = .error x → x.streamId = none → x.utteranceId = none) := by
  unfold validateStream
  cases hs : event.streamField with
  | none =>
    cases event with
    | error x => cases hx : x.utteranceId <;> simp [hx, show x.streamId = none from hs]
    | _ => simp
  | some t =>
    have herr : ∀ x, event = .error x → x.streamId ≠ none := by
      rintro x rfl; rw [show x.streamId = some t from hs]; simp
    cases t with
    | none => simp [parseUuid]
    | some w =>
      simp only [parseUuid]
      split
      · next hne => simp [hne]
      · next heq => simpa [not_not.mp heq] using fun x hx hn => absurd hn (herr x hx)

theorem validateStream_err {e : ProviderValidationError} (h : v.validateStream event = .error e) :
    e.documented = false := by
  unfold validateStream at h
  split at h
  · next t _ =>
    cases t with
    | none => cases h; rfl
    | some w => simp only [parseUuid] at h; split at h <;> cases h; rfl
  · split at h
    · split at h <;> cases h; rfl
    · cases h

theorem validateSequence_err {n : UInt64} {e : ProviderValidationError}
    (h : v.validateSequence n = .error e) : e.documented = false := by
  unfold validateSequence at h
  split at h
  · split at h <;> cases h; rfl
  · split at h
    · cases h; rfl
    · split at h <;> cases h; rfl

theorem validateEnvelope_ok :
    v.validateEnvelope event = .ok () ↔ v.InOrder event ∧ v.Addressed event := by
  unfold validateEnvelope InOrder Addressed
  rw [← validateStream_ok, ← validateSequence_ok]
  cases hid : event.commonFields.sessionId with
  | none => simp only [parseUuid]; grind
  | some w =>
    simp only [parseUuid]
    cases hst : v.validateStream event with
    | error e => grind
    | ok x => cases v.opened <;> cases event.isSessionOpened <;> grind

theorem validateEnvelope_err {e : ProviderValidationError}
    (h : v.validateEnvelope event = .error e) : e.documented = false := by
  unfold validateEnvelope at h
  split at h
  · cases h; rfl
  split at h
  · cases h; rfl
  split at h
  · cases h; rfl
  split at h
  · cases h; rfl
  cases hid : event.commonFields.sessionId with
  | none => rw [hid] at h; cases h; rfl
  | some w =>
    simp only [hid, parseUuid] at h
    split at h
    · cases h; rfl
    split at h
    · cases h; rfl
    split at h
    · next hs => cases h; exact validateStream_err hs
    · exact validateSequence_err h

theorem validate_of_envelope_err {e : ProviderValidationError}
    (h : v.validateEnvelope event = .error e) : v.validate (some event) nowNs = (.err e, v) := by
  simp only [validate, h]

theorem validate_of_envelope_ok (h : v.validateEnvelope event = .ok ()) :
    v.validate (some event) nowNs = ((v.validateKind event nowNs).1,
      if advancesSequence (v.validateKind event nowNs).1 then
        (v.validateKind event nowNs).2.see event.eventSequence
      else (v.validateKind event nowNs).2) := by
  simp only [validate, h]
  split <;> rfl

/-- The inversion lemma: an event is turned away at the envelope, or is in order and meets one of the
    verdicts, after which it is counted when the outcome says so. -/
theorem validate_cases (v : ProviderEventValidator) (event : ProviderEvent) (nowNs : Nat) :
    (∃ e, e.documented = false ∧ v.validate event nowNs = (.err e, v))
      ∨ ∃ ev r v', event = some ev ∧ v.InOrder ev ∧ v.Addressed ev ∧ Verdict v ev nowNs (r, v')
        ∧ v.validate event nowNs
          = (r, if advancesSequence r then v'.see ev.eventSequence else v') := by
  cases event with
  | none => exact .inl ⟨_, rfl, rfl⟩
  | some ev =>
    cases hen : v.validateEnvelope ev with
    | error e => exact .inl ⟨e, validateEnvelope_err hen, validate_of_envelope_err hen⟩
    | ok x =>
      obtain ⟨hord, haddr⟩ := validateEnvelope_ok.mp hen
      exact .inr ⟨ev, _, _, rfl, hord, haddr, validateKind_verdict v ev nowNs,
        validate_of_envelope_ok hen⟩

/-- An accepted event is in order and addressed, and meets a verdict that accepts it. -/
theorem validate_ok {w : ProviderEventValidator}
    (hok : v.validate (some event) nowNs = (.ok (), w)) :
    v.InOrder event ∧ v.Addressed event
      ∧ ∃ w', Verdict v event nowNs (.ok (), w') ∧ w = w'.see event.eventSequence := by
  rcases validate_cases v (some event) nowNs with ⟨x, -, heq⟩ | ⟨ev, r, w', hev, hord, had, hv, heq⟩
  · rw [heq] at hok; cases hok
  · cases hev
    rw [heq] at hok
    obtain ⟨rfl, rfl⟩ := Prod.mk.inj hok
    exact ⟨hord, had, w', hv, rfl⟩

/-- An accepted frame is the next one of an active utterance that owes nothing, and moves both audio
    counters. -/
theorem validate_audio_ok {a : ProviderAudioDelta} {w : ProviderEventValidator}
    (hok : v.validate (some (.audioDelta a)) nowNs = (.ok (), w)) :
    ∃ u c, a.utteranceId = some u ∧ u ∉ v.cancelPending ∧ v.Unobliged ∧ v.Active u
      ∧ v.NextAudio u a.sequence ∧ v.inputCompleteNs.lookup u = some c
      ∧ (v.lastPlayableAudioSequence.lookup u = none → nowNs - c ≤ v.maxAgeMs * nsPerMs)
      ∧ w = (((v.clearNoSpeechLatency (.audioDelta a)).hearWire u a.sequence).play u
        a.sequence).see a.eventSequence := by
  obtain ⟨-, -, w', hv, rfl⟩ := validate_ok hok
  generalize hj : (Outcome.ok (), w') = j at hv
  cases hv with
  | playedAudio a' u c ha hid hc hu hact hn _ hdone hage =>
    cases ha; cases hj
    exact ⟨u, c, hid, hc, hu, hact, hn, hdone, hage, rfl⟩
  | noted _ _ _ _ _ hau => exact absurd rfl (hau a)
  | _ => simp_all

/-- An accepted final settles its utterance on one of the four branches. -/
theorem validate_final_ok {f : ProviderUtteranceFinal} {w : ProviderEventValidator}
    (hok : v.validate (some (.utteranceFinal f)) nowNs = (.ok (), w)) :
    ∃ path u, f.utteranceId = some u ∧ v.Settles f u path
      ∧ v.terminalUtterances.card < maxTerminalUtterances
      ∧ w = ((v.settle u path).retire u).see f.eventSequence := by
  obtain ⟨-, -, w', hv, rfl⟩ := validate_ok hok
  generalize hj : (Outcome.ok (), w') = j at hv
  cases hv with
  | ended path f' u hf hid hs hroom =>
    cases hf; cases hj
    exact ⟨path, u, hid, hs, hroom, rfl⟩
  | noted _ _ hf _ _ _ => exact absurd rfl (hf f)
  | _ => simp_all

end ProviderEventValidator

end Translator.Wire
