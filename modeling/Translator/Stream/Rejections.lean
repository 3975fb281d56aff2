import Translator.Stream.Agreement
import Translator.Wire.Accepts

/-! When a rejected event leaves no trace. The validator drops a pending no-speech latency before it
    looks at an event of another kind, so an event that is then rejected has already changed the
    decision on the no-speech error that may follow. `LeavesLatency` is the exact condition under which
    no rejection does that. -/

namespace Translator.Wire
open Schemes
namespace ProviderEventValidator

variable {v : ProviderEventValidator} {event : Event} {u : Uuid} {nowNs : Nat}

/-- What the dispatch of `validate_kind` asks of an event of each kind, up to the documented outcomes
    (audio that comes too late, a full terminal table). -/
def KindOk (v : ProviderEventValidator) : Event → Prop
  | .sessionOpened o => ∃ caps, o.negotiatedInputFormat = some v.contract.inputFormat
      ∧ o.negotiatedOutputFormat = some v.contract.outputFormat ∧ o.capabilities = some caps
      ∧ caps.audioOutput = true ∧ caps.cancellation = true
      ∧ caps.cloudEgress = decide (v.contract.providerId = .openai)
  | .audioDelta a => ∃ u, a.utteranceId = some u ∧ v.Active u ∧ v.NextAudio u a.sequence
      ∧ v.MatchesOutput a
  | .transcriptDelta t => (∃ u, t.utteranceId = some u ∧ v.Active u) ∧ v.debugTextEnabled = true
  | .translationDelta t => (∃ u, t.utteranceId = some u ∧ v.Active u) ∧ v.debugTextEnabled = true
  | .utteranceFinal f => ∃ u, f.utteranceId = some u ∧ v.Active u
      ∧ (f.outcome = UtteranceOutcome.completed.code ∨ f.outcome = UtteranceOutcome.dropped.code)
      ∧ f.finalAudioSequence = v.lastPlayableAudioSequence.lookup u
  | .sessionClosed _ => True
  | .health h => h.providerId = v.contract.providerId.code ∧ h.queues.isSome = true
      ∧ ∀ e, h.safeError = some e → safeHealthMessage e.code = some e.message
  | .latency l => ∀ t, l.utteranceId = some t → ∃ u, t = some u ∧ v.Active u
  | .error x => ∃ code, x.code = SafeErrorCode.code code ∧ code ≠ .unspecified
      ∧ x.safeMessage = safeErrorMessage code
      ∧ (∀ t, x.utteranceId = some t → ∃ u, t = some u ∧ v.Active u)
      ∧ (code = .queueOverflow → x.utteranceId ≠ none)
      ∧ (code = .noSpeech → ∃ u, x.utteranceId = some (some u)
        ∧ v.pendingNoSpeechLatency = some u)

theorem activeUtterance_cases (t : IdText) :
    (∃ u, t = some u ∧ v.Active u ∧ v.activeUtterance t = .ok u)
      ∨ (¬ ∃ u, t = some u ∧ v.Active u)
        ∧ ∃ e, e.documented = false ∧ v.activeUtterance t = .error e := by
  cases h : v.activeUtterance t with
  | ok u =>
    obtain ⟨ht, hact⟩ := activeUtterance_ok.mp h
    exact .inl ⟨u, ht, hact, rfl⟩
  | error e =>
    refine .inr ⟨?_, e, activeUtterance_err h, rfl⟩
    rintro ⟨u, ht, hact⟩
    rw [activeUtterance_ok.mpr ⟨ht, hact⟩] at h; cases h

theorem activeUtterance?_cases (t : Option IdText) :
    ((∀ t', t = some t' → ∃ u, t' = some u ∧ v.Active u)
        ∧ ∃ w, t = w.map some ∧ v.activeUtterance? t = .ok w)
      ∨ (¬ ∀ t', t = some t' → ∃ u, t' = some u ∧ v.Active u)
        ∧ ∃ e, e.documented = false ∧ v.activeUtterance? t = .error e := by
  cases t with
  | none => exact .inl ⟨by simp, none, rfl, rfl⟩
  | some t =>
    rcases activeUtterance_cases (v := v) t with ⟨u, rfl, hact, hok⟩ | ⟨hno, e, he, herr⟩
    · refine .inl ⟨?_, some u, rfl, by simp only [activeUtterance?, hok]⟩
      rintro t' ⟨⟩; exact ⟨u, rfl, hact⟩
    · exact .inr ⟨fun h => hno (h t rfl), e, he, by simp only [activeUtterance?, herr]⟩

/-- The dispatch either finds the event in order, and then only a documented outcome rejects it, or
    refuses it without a further change. -/
def Decided (v : ProviderEventValidator) (event : Event) (result : Judgement) : Prop :=
  v.KindOk event ∧ (∀ e, result.1 = .err e → e.documented = true)
    ∨ ¬ v.KindOk event ∧ ∃ e, e.documented = false
      ∧ result = (.err e, v.clearNoSpeechLatency event)

theorem decided_ok {w : ProviderEventValidator} (h : v.KindOk event) : Decided v event (.ok (), w) :=
  .inl ⟨h, by simp⟩

theorem decided_refused {e : ProviderValidationError} (h : ¬ v.KindOk event)
    (he : e.documented = false) : Decided v event (.err e, v.clearNoSpeechLatency event) :=
  .inr ⟨h, e, he, rfl⟩

theorem terminalize_documented {w : ProviderEventValidator} {e : ProviderValidationError}
    (h : (w.terminalize u).1 = .err e) : e.documented = true := by
  unfold terminalize at h
  split at h <;> cases h
  rfl

theorem audioDelta_decided (h : Coherent v) (a : ProviderAudioDelta) :
    Decided v (.audioDelta a)
      ((v.clearNoSpeechLatency (.audioDelta a)).validateAudioDelta a nowNs) := by
  unfold validateAudioDelta
  rcases activeUtterance_cases (v := v.clearNoSpeechLatency (.audioDelta a)) a.utteranceId with
    ⟨u, hid, hact, hok⟩ | ⟨hno, e, he, herr⟩
  · simp only [hok]
    have hact' : v.Active u := clear_active.mp hact
    by_cases hwire : v.NextAudio u a.sequence ∧ v.MatchesOutput a
    · rw [validateWireAudio_accepts (clear_nextAudio.mpr hwire.1) (clear_matches.mpr hwire.2)]
      dsimp only
      have hkind : v.KindOk (.audioDelta a) := ⟨u, hid, hact', hwire⟩
      split
      · next hnone => exact absurd (.inr ⟨hact', hnone⟩) (coherent_no_panic h u)
      · split
        · exact .inl ⟨hkind, by rintro e ⟨⟩; rfl⟩
        · exact decided_ok hkind
    · have hkind : ¬ v.KindOk (.audioDelta a) := by
        rintro ⟨u', hid', -, hwire'⟩
        obtain rfl : u = u' := by simpa [hid] using hid'
        exact hwire hwire'
      rcases validateWireAudio_cases (v.clearNoSpeechLatency (.audioDelta a)) a u with
        ⟨-, hn, hm⟩ | ⟨e, he, heq⟩ | ⟨heq, p, hp, hbig⟩
      · exact absurd ⟨clear_nextAudio.mp hn, clear_matches.mp hm⟩ hwire
      · rw [heq]; exact decided_refused hkind he
      · exact absurd (.inl ⟨p, by simpa using hp, hbig⟩) (coherent_no_panic h u)
  · rw [herr]
    refine decided_refused ?_ he
    rintro ⟨u, hid, hact, -⟩
    exact hno ⟨u, hid, clear_active.mpr hact⟩

theorem text_decided {t : ProviderTextDelta}
    (hkind : v.KindOk event ↔
      (∃ u, t.utteranceId = some u ∧ v.Active u) ∧ v.debugTextEnabled = true) :
    Decided v event (Outcome.ofExcept
      ((v.clearNoSpeechLatency event).validateTextEvent t.utteranceId),
        v.clearNoSpeechLatency event) := by
  unfold validateTextEvent
  rcases activeUtterance_cases (v := v.clearNoSpeechLatency event) t.utteranceId with
    ⟨u, hid, hact, hok⟩ | ⟨hno, e, he, herr⟩
  · simp only [hok, clear_debug]
    cases hd : v.debugTextEnabled with
    | true => exact decided_ok (hkind.mpr ⟨⟨u, hid, clear_active.mp hact⟩, hd⟩)
    | false => exact decided_refused (fun h => by rw [(hkind.mp h).2] at hd; cases hd) rfl
  · rw [herr]
    refine decided_refused (fun h => ?_) he
    obtain ⟨⟨u, hid, hact⟩, -⟩ := hkind.mp h
    exact hno ⟨u, hid, clear_active.mpr hact⟩

theorem utteranceFinal_decided (f : ProviderUtteranceFinal) :
    Decided v (.utteranceFinal f)
      ((v.clearNoSpeechLatency (.utteranceFinal f)).validateUtteranceFinal f) := by
  unfold validateUtteranceFinal
  rcases activeUtterance_cases (v := v.clearNoSpeechLatency (.utteranceFinal f)) f.utteranceId with
    ⟨u, hid, hact, hok⟩ | ⟨hno, e, he, herr⟩
  · simp only [hok, clear_playable]
    have hact' : v.Active u := clear_active.mp hact
    have hbad : ∀ o, UtteranceOutcome.tryFrom f.outcome = o →
        (o ≠ some .completed ∧ o ≠ some .dropped) → ¬ v.KindOk (.utteranceFinal f) := by
      rintro o ho ⟨hc, hd⟩ ⟨-, -, -, hout, -⟩
      rcases hout with hout | hout <;>
        rw [hout, UtteranceOutcome.tryFrom_code] at ho
      · exact hc ho.symm
      · exact hd ho.symm
    split
    · next ho => exact decided_refused (hbad _ ho (by simp)) rfl
    · next ho => exact decided_refused (hbad _ ho (by simp)) rfl
    · next ho => exact decided_refused (hbad _ ho (by simp)) rfl
    · next o hun hcan ho =>
      have hout : f.outcome = UtteranceOutcome.completed.code
          ∨ f.outcome = UtteranceOutcome.dropped.code := by
        have hcode := UtteranceOutcome.code_of_tryFrom ho
        cases o with
        | unspecified => exact absurd rfl hun
        | completed => exact .inl hcode
        | cancelled => exact absurd rfl hcan
        | dropped => exact .inr hcode
      split
      · next hseq =>
        refine decided_refused ?_ rfl
        rintro ⟨u', hid', -, -, hs⟩
        obtain rfl : u = u' := by simpa [hid] using hid'
        exact hseq hs
      · next hseq =>
        exact .inl ⟨⟨u, hid, hact', hout, not_not.mp hseq⟩, fun e => terminalize_documented⟩
  · rw [herr]
    refine decided_refused ?_ he
    rintro ⟨u, hid, hact, -⟩
    exact hno ⟨u, hid, clear_active.mpr hact⟩

theorem health_decided (h : ProviderHealth) :
    Decided v (.health h) (Outcome.ofExcept ((v.clearNoSpeechLatency (.health h)).validateHealth h),
      v.clearNoSpeechLatency (.health h)) := by
  unfold validateHealth
  rw [clear_contract]
  split
  · next hp => exact decided_refused (fun hk => hp hk.1) rfl
  split
  · next hp hq =>
    refine decided_refused (fun hk => ?_) rfl
    have hsome : h.queues.isSome = true := hk.2.1
    rw [Option.isNone_iff_eq_none.mp hq] at hsome; cases hsome
  next hp hq =>
  have hqueues : h.queues.isSome = true := by
    cases hqs : h.queues with
    | none => rw [hqs] at hq; exact absurd rfl hq
    | some _ => rfl
  split
  · next e hs =>
    split
    · next hm => exact decided_refused (fun hk => hm (hk.2.2 e hs)) rfl
    · next hm =>
      refine decided_ok ⟨not_not.mp hp, hqueues, fun e' he' => ?_⟩
      obtain rfl : e = e' := Option.some.inj (hs.symm.trans he')
      exact not_not.mp hm
  · next hs => exact decided_ok ⟨not_not.mp hp, hqueues, by simp [hs]⟩

theorem latency_decided (l : ProviderLatency) :
    Decided v (.latency l) ((v.clearNoSpeechLatency (.latency l)).validateLatency l) := by
  have hclear : v.clearNoSpeechLatency (.latency l) = v := clear_of_keeps rfl
  unfold validateLatency
  rcases activeUtterance?_cases (v := v) l.utteranceId with ⟨hall, w, -, hok⟩ | ⟨hno, e, he, herr⟩
  · rw [hclear]; simp only [hok]; exact decided_ok hall
  · have hrefused : Decided v (.latency l) (.err e, v.clearNoSpeechLatency (.latency l)) :=
      decided_refused hno he
    rw [hclear] at hrefused ⊢
    simp only [herr]; exact hrefused

theorem error_decided (x : ProviderError) :
    Decided v (.error x) ((v.clearNoSpeechLatency (.error x)).validateError x) := by
  unfold validateError
  cases hcode : SafeErrorCode.tryFrom x.code with
  | none =>
    refine decided_refused ?_ rfl
    rintro ⟨code, hx, -⟩
    rw [hx, SafeErrorCode.tryFrom_code] at hcode; cases hcode
  | some code =>
    have hx := SafeErrorCode.code_of_tryFrom hcode
    have huniq : ∀ code', x.code = SafeErrorCode.code code' → code' = code := by
      intro code' h'
      rw [h', SafeErrorCode.tryFrom_code] at hcode
      exact Option.some.inj hcode
    dsimp only
    split
    · next hbad =>
      refine decided_refused ?_ rfl
      rintro ⟨code', hx', hun, hmsg, -⟩
      obtain rfl := huniq code' hx'
      exact hbad.elim hun fun h => h hmsg
    next hsafe =>
    push Not at hsafe
    rcases activeUtterance?_cases (v := v.clearNoSpeechLatency (.error x)) x.utteranceId with
      ⟨hall, w, hw, hok⟩ | ⟨hno, e, he, herr⟩
    · simp only [hok]
      have hall' : ∀ t, x.utteranceId = some t → ∃ u, t = some u ∧ v.Active u := fun t ht =>
        (hall t ht).imp fun u hu => ⟨hu.1, clear_active.mp hu.2⟩
      have hkind : (code = .queueOverflow → x.utteranceId ≠ none) →
          (code = .noSpeech → ∃ u, x.utteranceId = some (some u)
            ∧ v.pendingNoSpeechLatency = some u) → v.KindOk (.error x) := fun ho hn =>
        ⟨code, hx, hsafe.1, hsafe.2, hall', ho, hn⟩
      split
      · next hq =>
        cases w with
        | none =>
          refine decided_refused ?_ rfl
          rintro ⟨code', hx', -, -, -, ho, -⟩
          obtain rfl := huniq code' hx'
          exact ho hq hw
        | some u => exact decided_ok (hkind (fun _ => by simp [hw]) (by rw [hq]; rintro ⟨⟩))
      · next hq =>
        split
        · next hns =>
          have hkeep : v.clearNoSpeechLatency (.error x) = v :=
            clear_of_keeps (by simp [Event.keepsNoSpeechLatency, hx, hns])
          cases w with
          | none =>
            refine decided_refused ?_ rfl
            rintro ⟨code', hx', -, -, -, -, hn⟩
            obtain rfl := huniq code' hx'
            obtain ⟨u, hu, -⟩ := hn hns
            rw [hw] at hu; cases hu
          | some u =>
            dsimp only
            split
            · next hlat =>
              refine decided_refused ?_ rfl
              rintro ⟨code', hx', -, -, -, -, hn⟩
              obtain rfl := huniq code' hx'
              obtain ⟨u', hu', hl⟩ := hn hns
              obtain rfl : u = u' := by simpa [hw] using hu'
              rw [hkeep] at hlat
              exact hlat hl
            · next hlat =>
              refine decided_ok (hkind (fun hq' => absurd hq' hq) fun _ => ⟨u, hw, ?_⟩)
              rw [hkeep] at hlat
              exact not_not.mp hlat
        · next hns => exact decided_ok (hkind (fun hq' => absurd hq' hq) fun hn => absurd hn hns)
    · rw [herr]
      refine decided_refused ?_ he
      rintro ⟨_, -, -, -, hall, -⟩
      exact hno fun t ht => (hall t ht).imp fun u hu => ⟨hu.1, clear_active.mpr hu.2⟩

theorem sessionOpened_decided (o : ProviderSessionOpened) :
    Decided v (.sessionOpened o)
      ((v.clearNoSpeechLatency (.sessionOpened o)).validateSessionOpened o) := by
  unfold validateSessionOpened
  rw [clear_contract]
  split
  · next i out caps hi ho hcap =>
    have hno : (i ≠ v.contract.inputFormat ∨ out ≠ v.contract.outputFormat)
        ∨ caps.audioOutput = false ∨ caps.cancellation = false
        ∨ caps.cloudEgress ≠ decide (v.contract.providerId = .openai) →
        ¬ v.KindOk (.sessionOpened o) := by
      rintro hbad ⟨caps', hi', ho', hcap', ha, hx, hcl⟩
      obtain rfl : caps = caps' := Option.some.inj (hcap.symm.trans hcap')
      obtain rfl : i = _ := Option.some.inj (hi.symm.trans hi')
      obtain rfl : out = _ := Option.some.inj (ho.symm.trans ho')
      simp [ha, hx, hcl] at hbad
    split
    · next hbad => exact decided_refused (hno (.inl hbad)) rfl
    split
    · next hbad =>
      refine decided_refused (hno (.inr ?_)) rfl
      rcases Bool.or_eq_true_iff.mp hbad with hb | hb
      · exact .inl (by simpa using hb)
      · exact .inr (.inl (by simpa using hb))
    split
    · next hbad => exact decided_refused (hno (.inr (.inr (.inr hbad)))) rfl
    · next hf hcaps hcl =>
      push Not at hf
      obtain ⟨ha, hx⟩ : caps.audioOutput = true ∧ caps.cancellation = true := by simpa using hcaps
      refine decided_ok ⟨caps, by rw [hi, hf.1], by rw [ho, hf.2], hcap, ha, hx, not_not.mp hcl⟩
  · next hmissing =>
    refine decided_refused ?_ rfl
    rintro ⟨caps, hi, ho, hcap, -⟩
    exact hmissing _ _ _ hi ho hcap

theorem dispatch_decided (h : Coherent v) (event : Event) (nowNs : Nat) :
    Decided v event ((v.clearNoSpeechLatency event).dispatch event nowNs) := by
  cases event with
  | sessionOpened o => exact sessionOpened_decided o
  | audioDelta a => exact audioDelta_decided h a
  | transcriptDelta t => exact text_decided Iff.rfl
  | translationDelta t => exact text_decided Iff.rfl
  | utteranceFinal f => exact utteranceFinal_decided f
  | sessionClosed z => exact decided_ok trivial
  | health x => exact health_decided x
  | latency l => exact latency_decided l
  | error x => exact error_decided x

/-- The event is met before the dispatch: it names an utterance whose cancellation is pending, its
    utterance does not parse, or a final is owed. -/
def MetEarly (v : ProviderEventValidator) (event : Event) : Prop :=
  (∃ u, event.Names u ∧ u ∈ v.cancelPending) ∨ event.utteranceField = some none ∨ ¬ v.Unobliged

/-- Before the dispatch, an undocumented rejection changes nothing. -/
theorem metEarly_unchanged {w : ProviderEventValidator} {e : ProviderValidationError}
    (h : v.MetEarly event) (hv : v.validateKind event nowNs = (.err e, w))
    (he : e.documented = false) : w = v := by
  have hver := validateKind_verdict v event nowNs
  rw [hv] at hver
  by_cases hcan : ∃ u, event.Names u ∧ u ∈ v.cancelPending
  · obtain ⟨u, hn, hc⟩ := hcan
    have hval : v.validateCancelled event u = (.err e, w) := by
      rw [← hv, validateKind, show event.utteranceField = some (some u) from hn]
      simp only [parseUuid, if_pos hc]
    cases event with
    | audioDelta a =>
      simp only [validateCancelled] at hval
      rcases validateWireAudio_cases v a u with ⟨heq, -⟩ | ⟨e', -, heq⟩ | ⟨heq, -⟩ <;>
        rw [heq] at hval <;> cases hval
      · cases he
      · rfl
    | utteranceFinal f =>
      simp only [validateCancelled, validateCancelledTerminal] at hval
      split at hval
      · cases hval; rfl
      · rw [terminalize_documented (by rw [hval])] at he; cases he
    | _ => cases hval; rfl
  · rcases h with h | h | h
    · exact absurd h hcan
    · rw [validateKind, h] at hv; cases hv; rfl
    · generalize hj : (Outcome.err e, w) = j at hver
      cases hver with
      | turnedAway _ _ => cases hj; rfl
      | refused _ _ hu => exact absurd hu h
      | exhausted _ _ _ _ _ _ _ => cases hj; cases he
      | cancelledAudio _ _ _ _ _ _ _ => cases hj; cases he
      | _ => simp_all

end ProviderEventValidator

end Translator.Wire

namespace Translator.Stream
open Schemes Wire
namespace ProviderStreamCoordinator

/-- A rejection with an undocumented error leaves the coordinator as it was. -/
def RejectsCleanly (c : ProviderStreamCoordinator) (event : ProviderEvent) (now : Nat) : Prop :=
  ∀ e, (c.validateEvent event now).1 = .err e →
    (∀ d, e = .validation d → d.documented = false) → (c.validateEvent event now).2 = c

/-- No no-speech latency is pending, or the event keeps it, or is turned away before the dispatch, or
    passes the checks of its kind. -/
def LeavesLatency (c : ProviderStreamCoordinator) : ProviderEvent → Nat → Prop
  | none, _ => True
  | some event, now => c.validator.pendingNoSpeechLatency = none
      ∨ event.keepsNoSpeechLatency = true ∨ ¬ c.Admits event now
      ∨ ¬ (c.validator.InOrder event ∧ c.validator.Addressed event)
      ∨ c.validator.MetEarly event ∨ c.validator.KindOk event

variable {c : ProviderStreamCoordinator} {event : Event} {now : Nat}

theorem clear_eq_iff {v : ProviderEventValidator} : v.clearNoSpeechLatency event = v ↔
    v.pendingNoSpeechLatency = none ∨ event.keepsNoSpeechLatency = true := by
  unfold ProviderEventValidator.clearNoSpeechLatency
  split
  · next h => simp [h]
  · next h =>
    rw [or_iff_left h]
    exact ⟨fun heq => (congrArg ProviderEventValidator.pendingNoSpeechLatency heq).symm,
      fun hn => by rw [← hn]⟩

/-- Past the dispatch: the validator's verdict on an event that nothing met early. -/
theorem validateKind_of_not_metEarly {v : ProviderEventValidator} (h : ¬ v.MetEarly event) :
    v.validateKind event now = (v.clearNoSpeechLatency event).dispatch event now := by
  unfold ProviderEventValidator.MetEarly at h
  push Not at h
  exact ProviderEventValidator.validateKind_dispatch (not_not.mp (by simpa using h.2.2)) h.2.1 h.1

theorem withValidator_eq_iff {v : ProviderEventValidator} :
    c.withValidator v = c ↔ v = c.validator :=
  ⟨fun h => congrArg ProviderStreamCoordinator.validator h, fun h => by rw [h]; rfl⟩

/-- An event in order that reaches the dispatch and is refused there. -/
theorem rejectsCleanly_refused {d : ProviderValidationError} (hadm : c.Admits event now)
    (henv : c.validator.InOrder event ∧ c.validator.Addressed event)
    (hk : c.validator.validateKind event now = (.err d, c.validator.clearNoSpeechLatency event))
    (hd : d.documented = false) :
    RejectsCleanly c (some event) now ↔ c.validator.clearNoSpeechLatency event = c.validator := by
  have hv : c.validator.validate (some event) now
      = (.err d, c.validator.clearNoSpeechLatency event) := by
    rw [ProviderEventValidator.validate_of_envelope_ok
      (ProviderEventValidator.validateEnvelope_ok.mpr henv), hk]
    simp only [ProviderEventValidator.not_advances hd]
    rfl
  have heq := validateEvent_refused hadm hv (by simp)
  unfold RejectsCleanly
  rw [heq, withValidator_eq_iff]
  exact ⟨fun h => h _ rfl (by rintro _ ⟨⟩; exact hd), fun h _ _ _ => h⟩

/-- An event whose undocumented rejections leave the validator alone is rejected cleanly. -/
theorem rejectsCleanly_of_unchanged (hs : Sound c) (hadm : c.Admits event now)
    (h : ∀ d v, c.validator.validate (some event) now = (.err d, v) → d.documented = false →
      v = c.validator) : RejectsCleanly c (some event) now := by
  intro e he hdoc
  obtain ⟨r, v, hv⟩ : ∃ r v, c.validator.validate (some event) now = (r, v) := ⟨_, _, rfl⟩
  cases r with
  | ok x => rw [validateEvent_accepts hs.session hadm hv] at he; cases he
  | panic =>
    exact absurd (by rw [hv]) (ProviderEventValidator.validate_no_panic hs.coherent (some event) now)
  | err d =>
    have heq := validateEvent_refused hadm hv (by simp)
    rw [heq] at he ⊢
    exact withValidator_eq_iff.mpr (h d v hv (hdoc d (Outcome.err.inj he).symm))

/-- The exact condition under which a rejected event leaves no trace. -/
theorem rejectsCleanly_iff (hs : Sound c) (event : ProviderEvent) (now : Nat) :
    RejectsCleanly c event now ↔ LeavesLatency c event now := by
  cases event with
  | none => exact ⟨fun _ => trivial, fun _ _ _ _ => rfl⟩
  | some event =>
    by_cases hadm : c.Admits event now
    case neg =>
      obtain ⟨e, -, heq⟩ := validateEvent_turnedAway hadm
      refine ⟨fun _ => .inr (.inr (.inl hadm)), fun _ _ _ _ => ?_⟩
      rw [heq]
    by_cases henv : c.validator.InOrder event ∧ c.validator.Addressed event
    case neg =>
      refine ⟨fun _ => .inr (.inr (.inr (.inl henv))), fun _ => ?_⟩
      refine rejectsCleanly_of_unchanged hs hadm fun d v hv _ => ?_
      cases hen : c.validator.validateEnvelope event with
      | ok x => exact absurd (ProviderEventValidator.validateEnvelope_ok.mp hen) henv
      | error x => rw [ProviderEventValidator.validate_of_envelope_err hen] at hv; cases hv; rfl
    have hen := ProviderEventValidator.validateEnvelope_ok.mpr henv
    -- an undocumented rejection is not counted, so `validate` ends where `validate_kind` did
    have hkind : ∀ d v, c.validator.validate (some event) now = (.err d, v) →
        d.documented = false → c.validator.validateKind event now = (.err d, v) := by
      intro d v hv hd
      rw [ProviderEventValidator.validate_of_envelope_ok hen] at hv
      obtain ⟨h1, h2⟩ := Prod.mk.inj hv
      rw [h1, ProviderEventValidator.not_advances hd] at h2
      exact Prod.ext h1 h2
    by_cases hme : c.validator.MetEarly event
    · refine ⟨fun _ => .inr (.inr (.inr (.inr (.inl hme)))), fun _ => ?_⟩
      exact rejectsCleanly_of_unchanged hs hadm fun d v hv hd =>
        ProviderEventValidator.metEarly_unchanged hme (hkind d v hv hd) hd
    have hdis : c.validator.validateKind event now
        = (c.validator.clearNoSpeechLatency event).dispatch event now :=
      validateKind_of_not_metEarly hme
    rcases ProviderEventValidator.dispatch_decided hs.coherent event now with
      ⟨hk, hdoc⟩ | ⟨hk, d, hd, heq⟩
    · refine ⟨fun _ => .inr (.inr (.inr (.inr (.inr hk)))), fun _ => ?_⟩
      refine rejectsCleanly_of_unchanged hs hadm fun d v hv hd => ?_
      have hkd := hkind d v hv hd
      rw [hdis] at hkd
      rw [hdoc d (by rw [hkd])] at hd; cases hd
    · rw [rejectsCleanly_refused hadm henv (hdis.trans heq) hd, clear_eq_iff]
      constructor
      · rintro (h | h)
        · exact .inl h
        · exact .inr (.inl h)
      · rintro (h | h | h | h | h | h)
        · exact .inl h
        · exact .inr h
        · exact absurd hadm h
        · exact absurd henv h
        · exact absurd h hme
        · exact absurd h hk

/-- In every reachable state, a rejected event leaves no trace exactly when the pending no-speech
    latency is safe from it. -/
theorem reachable_rejectsCleanly_iff (contract : ProviderSessionContract) (ops : List Op)
    (event : ProviderEvent) (now : Nat) :
    RejectsCleanly (exec apply (new contract) ops).2 event now
      ↔ LeavesLatency (exec apply (new contract) ops).2 event now :=
  rejectsCleanly_iff (run_streamInv contract ops).sound event now

/-- The latency report that comes before a no-speech error. -/
def latencyStream : List Op :=
  [.validateEvent (some ProviderEventValidator.sampleOpened) 0, .startUtterance 2 7 0,
    .recordEndOfUtterance 2 7 0, .validateEvent (some (ProviderEventValidator.sampleLatency 2 7)) 0]

/-- A health report of the wrong provider is rejected, and takes the pending latency with it: the
    no-speech error accepted before it is rejected after it. -/
theorem latencyStream_rejects_uncleanly :
    ¬ RejectsCleanly (exec apply (new ProviderEventValidator.sampleContract) latencyStream).2
        (some (ProviderEventValidator.sampleHealth 3 .openai)) 0
      ∧ ((exec apply (new ProviderEventValidator.sampleContract) latencyStream).2.validateEvent
        (some (ProviderEventValidator.sampleNoSpeech 4 7)) 0).1 = .ok ()
      ∧ (((exec apply (new ProviderEventValidator.sampleContract) latencyStream).2.validateEvent
        (some (ProviderEventValidator.sampleHealth 3 .openai)) 0).2.validateEvent
          (some (ProviderEventValidator.sampleNoSpeech 4 7)) 0).1
        = .err (.validation .expectedNoSpeechLatency) := by
  refine ⟨fun h => ?_, by decide, by decide⟩
  have hsame := h (.validation .providerMismatch) (by decide) (by rintro _ ⟨⟩; rfl)
  have hlat := congrArg (fun c => c.validator.pendingNoSpeechLatency) hsame
  revert hlat
  decide

end ProviderStreamCoordinator

end Translator.Stream
