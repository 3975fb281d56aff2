import Translator.Wire.Grammar
import Translator.Wire.ValidatorRuns

/-! A validator hears every lawful stream out. The stream and what the daemon records about its own
    utterances come in any interleaving; nothing is cancelled, the setting of the debug texts stays,
    an utterance is recorded before the provider speaks of it, and no frame is too late. -/

namespace Translator.Wire
open Schemes
namespace ProviderEventValidator

/-- The event an operation brings. -/
def Op.event : Op → Option Event
  | .validate event _ => event
  | _ => none

/-- The events of a run, in order. -/
def heard (ops : List Op) : List Event := ops.filterMap Op.event

/-- What the daemon does while nothing is cancelled. -/
def Attends (v : ProviderEventValidator) : Op → Prop
  | .recordInput .. | .recordEndOfUtterance .. => True
  | .recordCancelRequested _ => False
  | .setDebugTextEnabled enabled => enabled = v.debugTextEnabled
  | .validate none _ => False
  | .validate (some e) nowNs =>
    (∀ f, e = .utteranceFinal f → f.outcome ≠ UtteranceOutcome.cancelled.code)
      ∧ (∀ u, e.Names u → u ∈ v.inputCaptureNs)
      ∧ ∀ a u c, e = .audioDelta a → a.utteranceId = some u →
        v.inputCompleteNs.lookup u = some c → nowNs - c ≤ v.maxAgeMs * nsPerMs

/-- The validator is in step with what it has heard, and has accepted all of it. -/
structure Attentive (contract : ProviderSessionContract) (ops : List Op)
    (log : List Entry) (v : ProviderEventValidator) : Prop where
  coherent : Coherent v
  tracks : Tracks contract (heard ops) v
  undisturbed : Undisturbed contract (heard ops) v
  accepted : accepted log = heard ops
  welcome : ∀ entry ∈ log, entry.1.event.isSome → entry.2 = .ok ()

variable {contract : ProviderSessionContract} {ops : List Op} {log : List Entry}
variable {v : ProviderEventValidator}

theorem heard_concat (ops : List Op) (op : Op) : heard (ops ++ [op]) = heard ops ++ op.event.toList := by
  cases h : op.event <;> simp [heard, h]

/-- An operation that brings no event and changes at most what is recorded about the input. -/
theorem Attentive.quiet (h : Attentive contract ops log v) {op : Op} (hquiet : op.event = none)
    (hcoherent : Coherent (apply v op).2) (hsame : ∃ capture complete, (apply v op).2
      = { v with inputCaptureNs := capture, inputCompleteNs := complete }) :
    Attentive contract (ops ++ [op]) (log ++ [(op, (apply v op).1)]) (apply v op).2 := by
  have hheard : heard (ops ++ [op]) = heard ops := by
    rw [heard_concat, hquiet, Option.toList_none, List.append_nil]
  obtain ⟨capture, complete, hsame⟩ := hsame
  refine ⟨hcoherent, ?_, ?_, ?_, ?_⟩
  · rw [hheard, hsame]
    obtain ⟨hcontract, hopened, hclosed, hlast, hterminal, hwire⟩ := h.tracks
    exact ⟨hcontract, hopened, hclosed, hlast, hterminal, hwire⟩
  · rw [hheard, hsame]
    obtain ⟨hdebug, hcancel, hplay, hoverflow, hnoSpeech, hlatency⟩ := h.undisturbed
    exact ⟨hdebug, hcancel, hplay, hoverflow, hnoSpeech, hlatency⟩
  · rw [hheard, accepted_concat, h.accepted]
    cases op with
    | validate event nowNs =>
      cases hquiet
      cases (apply v (.validate none nowNs)).1 <;> simp [acceptedEvent]
    | _ => simp [acceptedEvent]
  · intro entry hentry hsome
    rcases List.mem_append.mp hentry with hold | hnew
    · exact h.welcome entry hold hsome
    · rw [List.mem_singleton.mp hnew, hquiet] at hsome
      cases hsome

/-- A lawful event is accepted, and what the daemon records does not disturb the stream. -/
theorem Attentive.step (h : Attentive contract ops log v) {op : Op} (hop : Attends v op)
    (hnext : ∀ e ∈ op.event, Follows contract (heard ops) e) :
    Attentive contract (ops ++ [op]) (log ++ [(op, (apply v op).1)]) (apply v op).2 := by
  cases op with
  | recordInput u ns =>
    refine h.quiet rfl (coherent_recordInput h.coherent u ns) ?_
    rcases recordInput_cases v u ns with ⟨e, -, heq⟩ | ⟨-, -, -, -, heq⟩
    · exact ⟨v.inputCaptureNs, v.inputCompleteNs, congrArg Prod.snd heq⟩
    · exact ⟨_, _, congrArg Prod.snd heq⟩
  | recordEndOfUtterance u ns =>
    refine h.quiet rfl (coherent_recordEndOfUtterance h.coherent u ns) ?_
    rcases recordEndOfUtterance_cases v u ns with ⟨e, -, heq⟩ | ⟨-, -, -, heq⟩
    · exact ⟨v.inputCaptureNs, v.inputCompleteNs, congrArg Prod.snd heq⟩
    · exact ⟨v.inputCaptureNs, _, congrArg Prod.snd heq⟩
  | recordCancelRequested u => exact hop.elim
  | setDebugTextEnabled enabled =>
    have hsame : (apply v (.setDebugTextEnabled enabled)).2 = v := by
      obtain rfl : enabled = v.debugTextEnabled := hop
      rfl
    refine h.quiet rfl ?_ ⟨v.inputCaptureNs, v.inputCompleteNs, hsame⟩
    rw [hsame]
    exact h.coherent
  | validate event nowNs =>
    cases event with
    | none => exact hop.elim
    | some e =>
      obtain ⟨hcancelled, hrecorded, hfresh⟩ := hop
      obtain ⟨w, hw, htracks, hundisturbed⟩ := validate_follows h.coherent h.tracks h.undisturbed
        (hnext e rfl) hcancelled hrecorded hfresh
      have hc := coherent_validate h.coherent (some e) nowNs
      rw [hw] at hc
      have happly : apply v (.validate (some e) nowNs) = (.ok (), w) := hw
      have hheard : heard (ops ++ [.validate (some e) nowNs]) = heard ops ++ [e] := by
        rw [heard_concat]
        rfl
      rw [happly]
      refine ⟨hc, hheard.symm ▸ htracks, hheard.symm ▸ hundisturbed, ?_, ?_⟩
      · rw [hheard, accepted_concat, h.accepted]
        rfl
      · intro entry hentry hsome
        rcases List.mem_append.mp hentry with hold | hnew
        · exact h.welcome entry hold hsome
        · rw [List.mem_singleton.mp hnew]

theorem attentive_run (hlawful : Lawful contract (heard ops))
    (hadm : Adm apply Attends (new contract) ops) :
    Attentive contract ops (exec apply (new contract) ops).1 (exec apply (new contract) ops).2 := by
  induction ops using List.reverseRecOn with
  | nil =>
    exact ⟨coherent_new contract, tracks_new contract, undisturbed_new contract, rfl,
      fun entry hentry => absurd hentry List.not_mem_nil⟩
  | append_singleton ops op ih =>
    obtain ⟨hpre, hop⟩ := adm_concat hadm
    have hheard := heard_concat ops op
    have hbefore : Lawful contract (heard ops) := by
      intro pre a post heq
      exact hlawful pre a (post ++ op.event.toList) (by rw [hheard, heq, List.append_assoc]; rfl)
    rw [exec_concat]
    refine (ih hbefore hpre).step hop fun e he => ?_
    refine hlawful (heard ops) e [] ?_
    rw [hheard, Option.mem_def.mp he]
    rfl

/-- Every lawful stream is accepted in full, event by event, whatever the daemon records meanwhile. -/
theorem run_hears_lawful (contract : ProviderSessionContract) (ops : List Op)
    (hlawful : Lawful contract (heard ops)) (hadm : Adm apply Attends (new contract) ops) :
    accepted (exec apply (new contract) ops).1 = heard ops
      ∧ ∀ entry ∈ (exec apply (new contract) ops).1, entry.1.event.isSome → entry.2 = .ok () := by
  have hrun := attentive_run hlawful hadm
  exact ⟨hrun.accepted, hrun.welcome⟩

/-! ### An overflow drop, from its opening to its close -/

theorem overflowRun_heard : heard overflowRun
    = [] ++ [sampleOpened] ++ [sampleOverflow 2 7] ++ [sampleFinal 3 7 none .dropped]
      ++ [sampleClosed 4] := rfl

theorem overflowRun_lawful : Lawful sampleContract (heard overflowRun) := by
  rw [overflowRun_heard]
  refine atEach_concat (atEach_concat (atEach_concat (atEach_concat (atEach_nil _) ?_) ?_) ?_) ?_
  · exact {
      first := rfl
      increasing := rfl
      unclosed := by simp
      addressed := ⟨rfl, rfl, rfl, by simp [sampleOpened, Event.streamField], by simp [sampleOpened]⟩
      parses := by decide
      live := by simp [ended]
      room := by simp [sampleOpened, Event.finalOf]
      pays := by simp
      content := ⟨_, rfl, rfl, rfl, rfl, rfl, rfl⟩ }
  · exact {
      first := rfl
      increasing := (by decide : (1 : UInt64) < 2)
      unclosed := by decide
      addressed := ⟨rfl, rfl, rfl, by simp [sampleOverflow, Event.streamField, sampleContract, new],
        by simp [sampleOverflow]⟩
      parses := by decide
      live := by simp [ended, sampleOpened, Event.finalOf]
      room := by simp [sampleOverflow, Event.finalOf]
      pays := by
        intro code u _ hlast
        rw [atLast_concat] at hlast
        cases hlast
      content := ⟨.queueOverflow, rfl, by decide, rfl, fun _ => ⟨7, rfl⟩, by decide⟩ }
  · exact {
      first := rfl
      increasing := (by decide : (2 : UInt64) < 3)
      unclosed := by decide
      addressed := ⟨rfl, rfl, rfl, by simp [sampleFinal, Event.streamField, sampleContract, new],
        by simp [sampleFinal]⟩
      parses := by decide
      live := by simp [ended, sampleOpened, sampleOverflow, Event.finalOf]
      room := fun u _ => by decide
      pays := by
        intro code u hcode hlast
        rw [atLast_concat] at hlast
        obtain rfl : 7 = u := by
          rcases hcode with rfl | rfl
          · simpa [sampleOverflow, Event.errorOf] using hlast
          · simp [sampleOverflow, Event.errorOf, SafeErrorCode.code] at hlast
        exact ⟨_, rfl, rfl, rfl, fun _ => by decide⟩
      content := ⟨⟨.dropped, rfl, by decide⟩, by
        intro u hu
        obtain rfl : 7 = u := Option.some.inj hu
        decide⟩ }
  · exact {
      first := rfl
      increasing := (by decide : (3 : UInt64) < 4)
      unclosed := by decide
      addressed := ⟨rfl, rfl, rfl, by simp [sampleClosed, Event.streamField], by simp [sampleClosed]⟩
      parses := by decide
      live := by simp [sampleClosed, Event.Names, Event.utteranceField]
      room := by simp [sampleClosed, Event.finalOf]
      pays := by
        intro code u _ hlast
        rw [atLast_concat] at hlast
        cases hlast
      content := trivial }

theorem overflowRun_attended : Adm apply Attends (new sampleContract) overflowRun := by
  refine adm_cons ?_ (adm_cons trivial (adm_cons ?_ (adm_cons ?_ (adm_cons ?_ (adm_nil _ _ _)))))
  · exact ⟨by simp [sampleOpened], by simp [sampleOpened, Event.Names, Event.utteranceField],
      by simp [sampleOpened]⟩
  · refine ⟨by simp [sampleOverflow], ?_, by simp [sampleOverflow]⟩
    intro u hu
    obtain rfl : 7 = u := by simpa [sampleOverflow, Event.Names, Event.utteranceField] using hu
    decide
  · refine ⟨?_, ?_, by simp [sampleFinal]⟩
    · simp [sampleFinal, UtteranceOutcome.code]
    · intro u hu
      obtain rfl : 7 = u := by simpa [sampleFinal, Event.Names, Event.utteranceField] using hu
      decide
  · exact ⟨by simp [sampleClosed], by simp [sampleClosed, Event.Names, Event.utteranceField],
      by simp [sampleClosed]⟩

theorem overflowRun_accepted :
    accepted (exec apply (new sampleContract) overflowRun).1 = heard overflowRun
      ∧ ∀ entry ∈ (exec apply (new sampleContract) overflowRun).1, entry.1.event.isSome →
        entry.2 = .ok () :=
  run_hears_lawful sampleContract overflowRun overflowRun_lawful overflowRun_attended

end ProviderEventValidator

end Translator.Wire
