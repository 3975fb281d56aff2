import Translator.Schemes.Run
import Translator.Wire.Coherence

/-! Whole runs of the validator: any sequence of recordings, cancellations and validated events.

    `SessionRules` is what the daemon relies on after every run: the opening comes first, sequences
    grow, an utterance ends once, nothing follows the close, the tables stay within their bounds and
    nothing panics. All of it but the single ending holds of every run. A `Cancelled` final that
    settles an utterance whose dropped final is still owed leaves the debt behind, and paying it ends
    the utterance a second time; `Strands` names that step, and runs without it keep every rule. -/

namespace Translator.Wire
open Schemes
namespace ProviderEventValidator

/-- One operation on the validator. -/
inductive Op where
  | recordInput (utteranceId : Uuid) (captureMonotonicNs : Nat)
  | recordEndOfUtterance (utteranceId : Uuid) (captureMonotonicNs : Nat)
  | recordCancelRequested (utteranceId : Uuid)
  | setDebugTextEnabled (enabled : Bool)
  | validate (event : ProviderEvent) (nowNs : Nat)

def apply (v : ProviderEventValidator) : Op → Judgement
  | .recordInput u ns => v.recordInput u ns
  | .recordEndOfUtterance u ns => v.recordEndOfUtterance u ns
  | .recordCancelRequested u => v.recordCancelRequested u
  | .setDebugTextEnabled b => (.ok (), v.setDebugTextEnabled b)
  | .validate event nowNs => v.validate event nowNs

/-- An operation with its answer. -/
abbrev Entry := Op × Outcome ProviderValidationError Unit

/-- The event an entry accepted, if it is one. -/
def acceptedEvent : Entry → Option Event
  | (.validate event _, .ok ()) => event
  | _ => none

/-- The events a run accepted, in order. -/
def accepted (log : List Entry) : List Event := log.filterMap acceptedEvent

/-- The entry closed the session: an accepted `SessionClosed`, or a full terminal table. -/
def Closes (a : Entry) : Prop :=
  (∃ e, acceptedEvent a = some e ∧ e.isSessionClosed = true)
    ∨ a.2 = .err .terminalCapacityExceeded

/-- The rules of a session, on the log of a run and the validator it ends in. -/
structure SessionRules (log : List Entry) (v : ProviderEventValidator) : Prop where
  opens_first : ∀ e, (accepted log).head? = some e →
    e.isSessionOpened = true ∧ e.eventSequence = 1
  increasing : (accepted log).Pairwise fun a b => a.eventSequence < b.eventSequence
  ends_once : (accepted log).Pairwise fun a b => ∀ u, a.IsFinalOf u → ¬ b.Names u
  closed_iff : v.closed = true ↔ ∃ a ∈ log, Closes a
  quiet : log.Pairwise fun a b => Closes a → b.2 = .ok () → ∃ d, b.1 = .setDebugTextEnabled d
  tables : Tables v
  no_panic : ∀ a ∈ log, a.2 ≠ .panic

/-- The provider still owes the dropped final of `u`. -/
def Owes (v : ProviderEventValidator) (u : Uuid) : Prop :=
  v.pendingOverflowTerminal = some u ∨ v.pendingNoSpeechTerminal = some u

/-- The step that leaves a debt behind: a `Cancelled` final that the validator is about to accept
    for an utterance whose dropped final is still owed. -/
def Strands (v : ProviderEventValidator) : Op → Prop
  | .validate (some (.utteranceFinal f)) _ => ∃ u, f.utteranceId = some u
      ∧ v.InOrder (.utteranceFinal f) ∧ v.Addressed (.utteranceFinal f)
      ∧ v.Settles f u .cancelled ∧ v.terminalUtterances.card < maxTerminalUtterances
      ∧ v.Owes u
  | _ => False

/-- At most one final is owed, and it is owed for an utterance that is still active. -/
structure Debts (v : ProviderEventValidator) : Prop where
  single : v.pendingOverflowTerminal = none ∨ v.pendingNoSpeechTerminal = none
  active : ∀ u, v.Owes u → v.Active u

variable {v w : ProviderEventValidator} {event : Event} {nowNs : Nat}

/-! ### What one accepted event means -/

/-- An accepted event names active utterances only. -/
theorem accepted_names {r : Outcome ProviderValidationError Unit} (h : Coherent v)
    (hob : Debts v) (hv : Verdict v event nowNs (r, w)) (hr : r = .ok ()) {u : Uuid}
    (hn : event.Names u) : v.Active u := by
  cases hv with
  | playedAudio a x c ha hid _ _ hact _ _ _ _ =>
    subst ha
    obtain rfl : x = u := by simpa [Event.Names, Event.utteranceField, hid] using hn
    exact hact
  | opened o ho _ => subst ho; cases hn
  | noted _ hact _ _ _ _ => exact (hact u hn).1
  | latency _ _ _ _ hact _ => exact (hact u hn).1
  | overflowError x y hx _ hid _ hact _ _ =>
    subst hx
    obtain rfl : y = u := by simpa [Event.Names, Event.utteranceField, hid] using hn
    exact hact
  | noSpeechError x y hx _ hid _ hact _ _ _ =>
    subst hx
    obtain rfl : y = u := by simpa [Event.Names, Event.utteranceField, hid] using hn
    exact hact
  | ended path f y hf hid hs _ =>
    subst hf
    obtain rfl : y = u := by simpa [Event.Names, Event.utteranceField, hid] using hn
    cases path with
    | cancelled => exact ⟨h.cancel_sub y hs.1, h.disjoint y (h.cancel_sub y hs.1)⟩
    | overflow => exact hob.active y (.inl hs.2.1)
    | noSpeech => exact hob.active y (.inr hs.2.2.1)
    | plain => exact hs.2.2.1
  | closed c hc _ => subst hc; cases hn
  | _ => cases hr

theorem ne_capacity {e : ProviderValidationError} (he : e.documented = false) :
    e ≠ .terminalCapacityExceeded := by rintro rfl; cases he

/-- What no verdict takes back, and when a verdict closes the session. -/
theorem verdict_mono {r : Outcome ProviderValidationError Unit} (h : Coherent v)
    (hord : v.InOrder event) (hv : Verdict v event nowNs (r, w)) :
    (w.opened = true ↔ v.opened = true ∨ r = .ok ())
      ∧ v.terminalUtterances ⊆ w.terminalUtterances
      ∧ w.lastEventSequence = v.lastEventSequence
      ∧ (w.closed = true ↔
          r = .ok () ∧ event.isSessionClosed = true ∨ r = .err .terminalCapacityExceeded) := by
  obtain ⟨hcl, hopen, -⟩ := hord
  cases hv with
  | turnedAway e he => simpa [hcl] using ne_capacity he
  | refused e he _ => simpa [hcl] using ne_capacity he
  | cancelledAudio _ _ _ _ _ _ _ => simp [hearWire, hcl]
  | expiredAudio _ _ _ _ _ _ _ _ _ _ _ _ _ => simp [hearWire, hcl]
  | playedAudio a _ _ ha _ _ _ _ _ _ _ _ =>
    subst ha
    simpa [hearWire, play, hcl, Event.isSessionClosed, Event.isSessionOpened] using hopen
  | opened o ho _ => subst ho; simp [hcl, Event.isSessionClosed]
  | noted _ _ _ hec heo _ => simp [hcl, hec, hopen, heo]
  | latency l _ hl _ _ _ => subst hl; simpa [hcl, Event.isSessionClosed, Event.isSessionOpened] using hopen
  | overflowError x _ hx _ _ _ _ _ _ => subst hx; simpa [hcl, Event.isSessionClosed, Event.isSessionOpened] using hopen
  | noSpeechError x _ hx _ _ _ _ _ _ _ => subst hx; simpa [hcl, Event.isSessionClosed, Event.isSessionOpened] using hopen
  | ended path f u hf _ _ _ =>
    subst hf
    cases path <;> simpa [settle, retire, hcl, Event.isSessionClosed, Event.isSessionOpened] using hopen
  | exhausted path f u hf _ _ _ => cases path <;> simp [settle]
  | closed c hc _ => subst hc; simpa [Event.isSessionClosed, Event.isSessionOpened] using hopen
  | panicked _ u _ _ _ hp => exact absurd hp (coherent_no_panic h u)

/-- The final that settles an utterance puts it among the terminal ones. -/
theorem accepted_final (hv : Verdict v event nowNs (.ok (), w)) {u : Uuid}
    (hf : event.IsFinalOf u) : u ∈ w.terminalUtterances := by
  obtain ⟨f, rfl, hid⟩ := hf
  generalize hr : (Outcome.ok (), w) = j at hv
  cases hv with
  | ended path g y hg hid' _ _ =>
    cases hg
    obtain rfl : y = u := by simpa [hid] using hid'.symm
    cases hr
    exact Finset.mem_insert_self ..
  | noted _ _ hne _ _ _ => exact absurd rfl (hne f)
  | _ => simp_all

theorem debts_of_unobliged (hu : v.Unobliged) : Debts v where
  single := .inl hu.1
  active := by
    rintro u (h | h)
    · rw [hu.1] at h; cases h
    · rw [hu.2] at h; cases h

/-- A debt stays with an active utterance unless the step strands it. -/
theorem debts_verdict {r : Outcome ProviderValidationError Unit} (h : Coherent v)
    (hd : Debts v) (hord : v.InOrder event) (had : v.Addressed event)
    (hns : ¬ Strands v (.validate (some event) nowNs)) (hv : Verdict v event nowNs (r, w)) :
    Debts w := by
  cases hv with
  | turnedAway _ _ => exact hd
  | refused _ _ hu => exact debts_of_unobliged (by simpa [Unobliged] using hu)
  | cancelledAudio _ _ _ _ _ _ _ => exact ⟨hd.single, hd.active⟩
  | expiredAudio _ _ _ _ _ _ hu _ _ _ _ _ _ =>
    exact debts_of_unobliged (by simpa [Unobliged, hearWire] using hu)
  | playedAudio _ _ _ _ _ _ hu _ _ _ _ _ =>
    exact debts_of_unobliged (by simpa [Unobliged, hearWire, play] using hu)
  | opened _ _ hu => exact debts_of_unobliged (by simpa [Unobliged] using hu)
  | noted hu _ _ _ _ _ => exact debts_of_unobliged (by simpa [Unobliged] using hu)
  | latency _ _ _ hu _ _ => exact debts_of_unobliged hu
  | overflowError _ u _ _ _ _ hact hu _ =>
    refine ⟨.inr (by simpa using hu.2), ?_⟩
    rintro x (hx | hx)
    · cases hx; simpa [Active] using hact
    · simp [hu.2] at hx
  | noSpeechError _ u _ _ _ _ hact hu _ _ =>
    refine ⟨.inl hu.1, ?_⟩
    rintro x (hx | hx)
    · simp [hu.1] at hx
    · cases hx; exact hact
  | ended path f u hf hid hs hroom =>
    subst hf
    cases path with
    | cancelled =>
      refine ⟨hd.single, fun x hx => ?_⟩
      have hact := hd.active x hx
      have hne : x ≠ u := by
        rintro rfl; exact hns ⟨x, hid, hord, had, hs, hroom, hx⟩
      exact ⟨AList.mem_erase.mpr ⟨hne, hact.1⟩, by simp [retire, settle, hne, hact.2]⟩
    | overflow =>
      refine debts_of_unobliged ⟨rfl, hd.single.resolve_left ?_⟩
      rw [hs.2.1]; simp
    | noSpeech => exact debts_of_unobliged ⟨hs.2.1, rfl⟩
    | plain => exact debts_of_unobliged hs.2.1
  | exhausted path f u hf hid hs hfull =>
    cases path with
    | cancelled => exact ⟨hd.single, hd.active⟩
    | overflow => exact debts_of_unobliged ⟨rfl, hd.single.resolve_left (by rw [hs.2.1]; simp)⟩
    | noSpeech => exact debts_of_unobliged ⟨hs.2.1, rfl⟩
    | plain => exact debts_of_unobliged hs.2.1
  | closed _ _ hu => exact debts_of_unobliged (by simpa [Unobliged] using hu)
  | panicked _ u _ _ _ hp => exact absurd hp (coherent_no_panic h u)

/-- What every entry of a run does to the validator. -/
structure Advances (v : ProviderEventValidator) (a : Entry) (w : ProviderEventValidator) : Prop where
  coherent : Coherent w
  debts : Debts w
  opened : w.opened = true ↔ v.opened = true ∨ (acceptedEvent a).isSome
  last : ∀ s, v.lastEventSequence = some s →
    ∃ s', w.lastEventSequence = some s' ∧ s.toNat ≤ s'.toNat
  terminal : v.terminalUtterances ⊆ w.terminalUtterances
  closed : w.closed = true ↔ v.closed = true ∨ Closes a
  quiet : v.closed = true → a.2 = .ok () → ∃ d, a.1 = .setDebugTextEnabled d
  no_panic : a.2 ≠ .panic
  accepts : ∀ e, acceptedEvent a = some e → v.InOrder e
    ∧ w.lastEventSequence = some e.eventSequence
    ∧ (∀ u, e.Names u → u ∉ v.terminalUtterances)
    ∧ (∀ u, e.IsFinalOf u → u ∈ w.terminalUtterances)

theorem acceptedEvent_record {op : Op} {r : Outcome ProviderValidationError Unit}
    (hop : ∀ e n, op ≠ .validate e n) : acceptedEvent (op, r) = none := by
  cases op with
  | validate e n => exact absurd rfl (hop e n)
  | _ => rfl

/-- An operation other than `validate` that keeps session state, counters and debts. -/
theorem advances_of_record {op : Op} {r : Outcome ProviderValidationError Unit} (hc : Coherent w)
    (hd : Debts w) (ho : w.opened = v.opened) (hcl : w.closed = v.closed)
    (hl : w.lastEventSequence = v.lastEventSequence)
    (ht : w.terminalUtterances = v.terminalUtterances) (hop : ∀ e n, op ≠ .validate e n)
    (hr : r ≠ .err .terminalCapacityExceeded) (hnp : r ≠ .panic)
    (hq : v.closed = true → r = .ok () → ∃ d, op = .setDebugTextEnabled d) :
    Advances v (op, r) w where
  coherent := hc
  debts := hd
  opened := by
    rw [ho, acceptedEvent_record hop]; simp
  last := fun s hs => ⟨s, hl.trans hs, le_rfl⟩
  terminal := by rw [ht]
  closed := by
    rw [hcl]
    refine ⟨.inl, ?_⟩
    rintro (h | ⟨e, he, -⟩ | h)
    · exact h
    · rw [acceptedEvent_record hop] at he; cases he
    · exact absurd h hr
  quiet := hq
  no_panic := hnp
  accepts := by
    intro e he
    rw [acceptedEvent_record hop] at he; cases he

theorem closes_validate {event : ProviderEvent} {nowNs : Nat}
    {r : Outcome ProviderValidationError Unit} : Closes (.validate event nowNs, r) ↔
      (r = .ok () ∧ ∃ e, event = some e ∧ e.isSessionClosed = true)
        ∨ r = .err .terminalCapacityExceeded := by
  unfold Closes
  cases r <;> simp [acceptedEvent]

theorem validate_advances (h : Coherent v) (hd : Debts v) (event : ProviderEvent) (nowNs : Nat)
    (hns : ¬ Strands v (.validate event nowNs)) :
    Advances v (.validate event nowNs, (v.validate event nowNs).1) (v.validate event nowNs).2 := by
  have hcoh := coherent_validate h event nowNs
  have hnp := validate_no_panic h event nowNs
  rcases validate_cases v event nowNs with ⟨e, he, heq⟩ | ⟨ev, r, w, rfl, hord, had, hv, heq⟩
  · rw [heq] at hcoh hnp ⊢
    refine ⟨h, hd, by simp [acceptedEvent], fun s hs => ⟨s, hs, le_rfl⟩, subset_rfl, ?_, by simp, hnp, by
      simp [acceptedEvent]⟩
    simp [closes_validate, ne_capacity he]
  · rw [heq] at hcoh hnp ⊢
    obtain ⟨hop, hterm, hlast, hcl⟩ := verdict_mono h hord hv
    have hdw := debts_verdict h hd hord had hns hv
    -- counting the event touches nothing but the event counter
    have hsee : ∀ w' : ProviderEventValidator,
        w' = (if advancesSequence r then w.see ev.eventSequence else w) →
        w'.opened = w.opened ∧ w'.terminalUtterances = w.terminalUtterances
          ∧ w'.closed = w.closed ∧ (Debts w → Debts w') := by
      rintro w' rfl; split <;> exact ⟨rfl, rfl, rfl, fun hd => ⟨hd.single, hd.active⟩⟩
    obtain ⟨hso, hst, hsc, hsd⟩ := hsee _ rfl
    refine ⟨hcoh, hsd hdw, ?_, fun s hs => ?_, hst ▸ hterm, ?_, ?_, hnp, fun e he => ?_⟩
    · rw [hso, hop]
      cases r <;> simp [acceptedEvent]
    · dsimp only
      split
      · exact ⟨_, rfl, ((nextSequence_some hs).mp hord.2.2).le⟩
      · exact ⟨s, hlast.trans hs, le_rfl⟩
    · rw [hsc, hcl, closes_validate, hord.1]
      simp
    · intro hclosed; rw [hord.1] at hclosed; cases hclosed
    · cases r with
      | ok _ =>
        cases he
        refine ⟨hord, rfl, fun u hu => (accepted_names h hd hv rfl hu).2, fun u hu => ?_⟩
        exact accepted_final hv hu
      | err _ => cases he
      | panic => cases he

theorem apply_advances (h : Coherent v) (hd : Debts v) (op : Op) (hns : ¬ Strands v op) :
    Advances v (op, (v.apply op).1) (v.apply op).2 := by
  cases op with
  | recordInput u ns =>
    have hc := coherent_recordInput h u ns
    dsimp only [apply]
    rcases recordInput_cases v u ns with ⟨e, he, heq⟩ | ⟨-, hcl, hterm, -, heq⟩ <;> rw [heq] at hc ⊢
    · exact advances_of_record h hd rfl rfl rfl rfl (by simp) (by simpa using ne_capacity he)
        (by simp) (by simp)
    · refine advances_of_record hc ⟨hd.single, fun x hx => ?_⟩ rfl rfl rfl rfl (by simp) (by simp)
        (by simp) (by simp [hcl])
      exact ⟨mem_orInsert.mpr (.inr (hd.active x hx).1), (hd.active x hx).2⟩
  | recordEndOfUtterance u ns =>
    have hc := coherent_recordEndOfUtterance h u ns
    dsimp only [apply]
    rcases recordEndOfUtterance_cases v u ns with ⟨e, he, heq⟩ | ⟨-, hcl, -, heq⟩ <;>
      rw [heq] at hc ⊢
    · exact advances_of_record h hd rfl rfl rfl rfl (by simp) (by simpa using ne_capacity he)
        (by simp) (by simp)
    · exact advances_of_record hc ⟨hd.single, hd.active⟩ rfl rfl rfl rfl (by simp) (by simp)
        (by simp) (by simp [hcl])
  | recordCancelRequested u =>
    have hc := coherent_recordCancelRequested h u
    dsimp only [apply]
    rcases recordCancelRequested_cases v u with ⟨e, he, heq⟩ | ⟨-, hcl, -, heq⟩ <;> rw [heq] at hc ⊢
    · exact advances_of_record h hd rfl rfl rfl rfl (by simp) (by simpa using ne_capacity he)
        (by simp) (by simp)
    · exact advances_of_record hc ⟨hd.single, hd.active⟩ rfl rfl rfl rfl (by simp) (by simp)
        (by simp) (by simp [hcl])
  | setDebugTextEnabled b =>
    exact advances_of_record (coherent_setDebugTextEnabled h b) ⟨hd.single, hd.active⟩ rfl rfl rfl rfl
      (by simp) (by simp [apply]) (by simp [apply]) (fun _ _ => ⟨b, rfl⟩)
  | validate event nowNs => exact validate_advances h hd event nowNs hns

/-! ### Every run -/

/-- The invariant of a run: the rules, and what the next step needs to keep them. -/
structure RunInv (log : List Entry) (v : ProviderEventValidator) : Prop
    extends SessionRules log v where
  coherent : Coherent v
  debts : Debts v
  opened_iff : v.opened = true ↔ accepted log ≠ []
  counted : ∀ e ∈ accepted log, ∃ s, v.lastEventSequence = some s ∧ e.eventSequence.toNat ≤ s.toNat
  ended : ∀ e ∈ accepted log, ∀ u, e.IsFinalOf u → u ∈ v.terminalUtterances

theorem runInv_new (contract : ProviderSessionContract) : RunInv [] (new contract) where
  opens_first := by simp [accepted]
  increasing := .nil
  ends_once := .nil
  closed_iff := by simp [new]
  quiet := .nil
  tables := (coherent_new contract).toTables
  no_panic := by simp
  coherent := coherent_new contract
  debts := debts_of_unobliged ⟨rfl, rfl⟩
  opened_iff := by simp [accepted, new]
  counted := by simp [accepted]
  ended := by simp [accepted]

theorem accepted_concat (log : List Entry) (a : Entry) :
    accepted (log ++ [a]) = accepted log ++ (acceptedEvent a).toList := by
  rw [accepted, List.filterMap_append]
  cases h : acceptedEvent a <;> simp [h, accepted]

theorem pairwise_concat {α : Type*} {R : α → α → Prop} {l : List α} {a : α}
    (h : l.Pairwise R) (ha : ∀ x ∈ l, R x a) : (l ++ [a]).Pairwise R := by
  rw [List.pairwise_append]
  exact ⟨h, List.pairwise_singleton .., fun x hx y hy => List.mem_singleton.mp hy ▸ ha x hx⟩

theorem runInv_step {log : List Entry} {a : Entry} (h : RunInv log v) (hs : Advances v a w) :
    RunInv (log ++ [a]) w := by
  have hmem : ∀ {P : Event → Prop}, (∀ e ∈ accepted log, P e) →
      (∀ e, acceptedEvent a = some e → P e) → ∀ e ∈ accepted (log ++ [a]), P e := by
    intro P hold hnew e he
    rw [accepted_concat, List.mem_append, Option.mem_toList] at he
    exact he.elim (hold e) (hnew e)
  refine ⟨⟨?_, ?_, ?_, ?_, ?_, hs.coherent.toTables, ?_⟩, hs.coherent, hs.debts, ?_, ?_, ?_⟩
  · -- the first accepted event
    intro e he
    rw [accepted_concat] at he
    cases hl : accepted log with
    | cons b l =>
      refine h.opens_first e ?_
      rw [hl] at he ⊢; simpa using he
    | nil =>
      rw [hl, List.nil_append] at he
      obtain ⟨⟨-, hopen, hn⟩, -⟩ := hs.accepts e (by simpa using he)
      have hclosed : v.opened = false := by
        cases ho : v.opened with
        | false => rfl
        | true => exact absurd hl (h.opened_iff.mp ho)
      have hnone : v.lastEventSequence = none := by
        rw [h.coherent.opened_iff] at hclosed; simpa using hclosed
      rw [NextSequence, hnone] at hn
      rw [hclosed] at hopen
      exact ⟨by simpa using hopen.symm, hn⟩
  · -- sequences grow
    rw [accepted_concat]
    cases he : acceptedEvent a with
    | none => simpa using h.increasing
    | some e =>
      refine pairwise_concat h.increasing fun b hb => ?_
      obtain ⟨s, hlast, hle⟩ := h.counted b hb
      have := (nextSequence_some hlast).mp (hs.accepts e he).1.2.2
      exact UInt64.lt_iff_toNat_lt.mpr (by omega)
  · -- an ended utterance is terminal, and an accepted event names no terminal utterance
    rw [accepted_concat]
    cases he : acceptedEvent a with
    | none => simpa using h.ends_once
    | some e =>
      refine pairwise_concat h.ends_once fun b hb u hf hn => ?_
      exact (hs.accepts e he).2.2.1 u hn (h.ended b hb u hf)
  · rw [hs.closed, h.closed_iff]
    simp [or_and_right, exists_or]
  · refine pairwise_concat h.quiet fun b hb hc => hs.quiet (h.closed_iff.mpr ⟨b, hb, hc⟩)
  · intro b hb
    rcases List.mem_append.mp hb with hb | hb
    · exact h.no_panic b hb
    · rw [List.mem_singleton.mp hb]; exact hs.no_panic
  · rw [hs.opened, h.opened_iff, accepted_concat]
    cases acceptedEvent a <;> simp
  · refine hmem (fun e he => ?_) fun e he => ⟨_, (hs.accepts e he).2.1, le_rfl⟩
    obtain ⟨s, hl, hle⟩ := h.counted e he
    obtain ⟨s', hl', hle'⟩ := hs.last s hl
    exact ⟨s', hl', hle.trans hle'⟩
  · exact hmem (fun e he u hu => hs.terminal (h.ended e he u hu))
      fun e he => (hs.accepts e he).2.2.2

/-- Every run that strands no debt keeps the rules of the session. -/
theorem run_keeps_session_rules (contract : ProviderSessionContract) (ops : List Op)
    (hadm : Adm apply (fun v op => ¬ Strands v op) (new contract) ops) :
    SessionRules (exec apply (new contract) ops).1 (exec apply (new contract) ops).2 :=
  (exec_invariant (I := RunInv) (runInv_new contract)
    (fun _ _ op h hns => runInv_step h (apply_advances h.coherent h.debts op hns)) ops
    hadm).toSessionRules

/-! ### A sample session -/

/-- The daemon's provider format: 16 kHz, one channel, 20 ms. -/
def sampleFormat : PcmFormat := ⟨16000, 1, 1, 20⟩

def sampleContract : ProviderSessionContract where
  sessionId := 1
  streamId := 2
  providerId := .local
  directionId := .microphone
  sourceLanguage := .ru
  targetLanguage := .en
  mode := .balanced
  inputFormat := sampleFormat
  outputFormat := sampleFormat
  debugTextEnabled := false

/-- The common fields of the sample session's events. -/
def sampleFields (schemaVersion : String) (n : UInt64) : CommonFields :=
  ⟨schemaVersion, some 1, 1, n⟩

def sampleOpened : Event :=
  .sessionOpened
    { toCommonFields := sampleFields "translator.provider.session_opened.v1" 1
      negotiatedInputFormat := some sampleFormat
      negotiatedOutputFormat := some sampleFormat
      capabilities := some ⟨true, true, true, true, false⟩ }

def sampleClosed (n : UInt64) : Event :=
  .sessionClosed { toCommonFields := sampleFields "translator.provider.session_closed.v1" n }

def sampleOverflow (n : UInt64) (u : Uuid) : Event :=
  .error
    { toCommonFields := sampleFields "translator.provider.error.v1" n
      streamId := some (some 2)
      code := SafeErrorCode.queueOverflow.code
      retryable := true
      safeMessage := "Provider queue limit was reached"
      utteranceId := some (some u) }

def sampleLatency (n : UInt64) (u : Uuid) : Event :=
  .latency
    { toCommonFields := sampleFields "translator.provider.latency.v1" n
      streamId := some 2
      utteranceId := some (some u)
      asrFirstTextMs := some 120
      asrFinalTextMs := some 150
      mtFirstTextMs := none
      ttsFirstAudioMs := none
      providerTotalMs := none }

def sampleNoSpeech (n : UInt64) (u : Uuid) : Event :=
  .error
    { toCommonFields := sampleFields "translator.provider.error.v1" n
      streamId := some (some 2)
      code := SafeErrorCode.noSpeech.code
      retryable := true
      safeMessage := "No speech was detected"
      utteranceId := some (some u) }

def sampleHealth (n : UInt64) (provider : ProviderId) : Event :=
  .health
    { toCommonFields := sampleFields "translator.provider.health.v1" n
      providerId := provider.code
      queues := some ⟨0, 0, 0⟩
      safeError := none }

def sampleFinal (n : UInt64) (u : Uuid) (last : Option UInt64) (outcome : UtteranceOutcome) : Event :=
  .utteranceFinal
    { toCommonFields := sampleFields "translator.provider.utterance_final.v1" n
      streamId := some 2
      utteranceId := some u
      finalAudioSequence := last
      outcome := outcome.code }

/-- An overflow drop, told and paid. -/
def overflowRun : List Op :=
  [.validate (some sampleOpened) 0, .recordInput 7 0, .validate (some (sampleOverflow 2 7)) 0,
    .validate (some (sampleFinal 3 7 none .dropped)) 0, .validate (some (sampleClosed 4)) 0]

theorem overflowRun_keeps_session_rules :
    SessionRules (exec apply (new sampleContract) overflowRun).1
      (exec apply (new sampleContract) overflowRun).2 :=
  run_keeps_session_rules sampleContract overflowRun (adm_of_forall (by
    simp [overflowRun, Strands, sampleOpened, sampleOverflow, sampleFinal, sampleClosed, Settles,
      UtteranceOutcome.code]))

/-- The same drop, with the utterance cancelled before its dropped final: the `Cancelled` final is
    accepted, and the dropped final after it as well. -/
def strandedRun : List Op :=
  [.validate (some sampleOpened) 0, .recordInput 7 0, .validate (some (sampleOverflow 2 7)) 0,
    .recordCancelRequested 7, .validate (some (sampleFinal 3 7 none .cancelled)) 0,
    .validate (some (sampleFinal 4 7 none .dropped)) 0]

theorem strandedRun_breaks_session_rules :
    ¬ ∀ contract ops, SessionRules (exec apply (new contract) ops).1
      (exec apply (new contract) ops).2 := by
  intro h
  have hends := (h sampleContract strandedRun).ends_once
  have hlog : accepted (exec apply (new sampleContract) strandedRun).1
      = [sampleOpened, sampleOverflow 2 7, sampleFinal 3 7 none .cancelled,
        sampleFinal 4 7 none .dropped] := by decide
  rw [hlog] at hends
  obtain ⟨-, hends⟩ := List.pairwise_cons.mp hends
  obtain ⟨-, hends⟩ := List.pairwise_cons.mp hends
  exact (List.pairwise_cons.mp hends).1 _ (List.mem_singleton_self _) 7 ⟨_, rfl, rfl⟩ rfl

end ProviderEventValidator

end Translator.Wire
