import Translator.Wire.Verdict

/-! When the validator accepts: the conditions that `Verdict` records are also enough. -/

namespace Translator.Wire
open Schemes
namespace ProviderEventValidator

variable {v w : ProviderEventValidator} {event : Event} {u : Uuid} {nowNs : Nat}

theorem validate_accepts (hord : v.InOrder event) (had : v.Addressed event)
    (hk : v.validateKind event nowNs = (.ok (), w)) :
    v.validate (some event) nowNs = (.ok (), w.see event.eventSequence) := by
  rw [validate_of_envelope_ok (validateEnvelope_ok.mpr ⟨hord, had⟩), hk]; rfl

/-- Without a debt, an event of an utterance that is not being cancelled reaches the dispatch. -/
theorem validateKind_dispatch (hu : v.Unobliged) (hparse : event.utteranceField ≠ some none)
    (hc : ∀ u, event.Names u → u ∉ v.cancelPending) :
    v.validateKind event nowNs = (v.clearNoSpeechLatency event).dispatch event nowNs := by
  have hun : v.validateUncancelled event nowNs
      = (v.clearNoSpeechLatency event).dispatch event nowNs := by
    simp only [validateUncancelled, hu.1, hu.2]
  unfold validateKind
  split
  · exact hun
  · next t hfield =>
    cases t with
    | none => exact absurd hfield hparse
    | some u =>
      simp only [parseUuid]
      rw [if_neg (hc u hfield)]
      exact hun

/-- A final that meets the demands of a branch is settled on it. -/
theorem validateKind_settles (path : FinalPath) {f : ProviderUtteranceFinal}
    (hid : f.utteranceId = some u) (hs : v.Settles f u path)
    (hroom : v.terminalUtterances.card < maxTerminalUtterances) :
    v.validateKind (.utteranceFinal f) nowNs = (.ok (), (v.settle u path).retire u) := by
  have hterm : (v.settle u path).terminalize u = (.ok (), (v.settle u path).retire u) := by
    have hset : (v.settle u path).terminalUtterances = v.terminalUtterances := by cases path <;> rfl
    rw [terminalize, if_neg (by rw [hset]; omega)]
  cases path with
  | cancelled =>
    obtain ⟨hc, hout, hseq⟩ := hs
    simp only [validateKind, Event.utteranceField, hid, parseUuid, if_pos hc, validateCancelled,
      validateCancelledTerminal, hout, hseq, ne_eq, not_true_eq_false, or_self, if_false]
    exact hterm
  | overflow =>
    obtain ⟨hc, ho, hout, hseq⟩ := hs
    simp only [validateKind, Event.utteranceField, hid, parseUuid, if_neg hc, validateUncancelled, ho,
      validateOverflowTerminal, hout, hseq, ne_eq, not_true_eq_false, or_self, if_false]
    exact hterm
  | noSpeech =>
    obtain ⟨hc, ho, hn, hout, hseq⟩ := hs
    have hpath : v.validateUncancelled (.utteranceFinal f) nowNs
        = v.validateNoSpeechTerminal (.utteranceFinal f) u := by
      simp only [validateUncancelled, ho, hn]
    simp only [validateKind, Event.utteranceField, hid, parseUuid, if_neg hc, hpath,
      validateNoSpeechTerminal, hout, hseq, ne_eq, not_true_eq_false, Option.isSome_none,
      Bool.false_eq_true, or_self, if_false]
    exact hterm
  | plain =>
    obtain ⟨hc, hu, hact, hout, hseq⟩ := hs
    have hname : ∀ x, (Event.utteranceFinal f).Names x → x = u := by
      intro x hx; simpa [Event.Names, Event.utteranceField, hid] using hx.symm
    rw [validateKind_dispatch hu (by simp [Event.utteranceField, hid])
      fun x hx => hname x hx ▸ hc]
    have hactive : (v.clearNoSpeechLatency (.utteranceFinal f)).activeUtterance f.utteranceId
        = .ok u := activeUtterance_ok.mpr ⟨hid, clear_active.mpr hact⟩
    simp only [dispatch, validateUtteranceFinal, hactive]
    rcases hout with hout | hout <;>
      simp only [hout, UtteranceOutcome.tryFrom_code, hseq, clear_playable, ne_eq,
        not_true_eq_false, if_false] <;> exact hterm

theorem validateAudioSequence_accepts {n : UInt64} (hn : v.NextAudio u n) :
    v.validateAudioSequence u n = .ok () := by
  unfold NextAudio at hn
  unfold validateAudioSequence
  cases hl : v.lastWireAudioSequence.lookup u with
  | none => rw [hl] at hn; simp only [hn, if_true]
  | some p =>
    rw [hl] at hn
    have hlt := n.toNat_lt
    simp only [UInt64.lt_iff_toNat_lt, ← UInt64.toNat_inj, hn]
    rw [if_neg (by omega), if_neg (by omega), if_neg (by omega), if_neg (by omega)]

theorem validateWireAudio_accepts {a : ProviderAudioDelta} (hn : v.NextAudio u a.sequence)
    (hm : v.MatchesOutput a) : v.validateWireAudio a u = (.ok (), v.hearWire u a.sequence) := by
  obtain ⟨h1, h2, h3, h4, h5⟩ := hm
  simp only [validateWireAudio, validateAudioSequence_accepts hn, h1, h2, h3, h4, h5, ne_eq,
    not_true_eq_false, or_self, if_false]
  rfl

end ProviderEventValidator

end Translator.Wire
