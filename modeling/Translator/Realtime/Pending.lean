import Translator.Realtime.Later

/-! The audio that is pending for an utterance names it, and once the input is complete and the final is
    not yet sent, nothing is pending. This holds of every run, whatever else goes wrong in it. -/

namespace Translator.Realtime
open Schemes
open Wire (Uuid)
open Sidecar (OpenProviderSession ProviderInputFrame UtteranceOutcome)

structure Tidy (utteranceId : Uuid) (u : UtteranceState) : Prop where
  named : ∀ audio ∈ u.pendingAudio, audio.utteranceId = utteranceId
  told : u.finalSent = false → u.inputComplete = true → u.pendingAudio = []

/-- The pending audio of every utterance is in order. -/
def AllTidy (s : OpenAISession) : Prop := ∀ utteranceId u, s.utterance utteranceId = some u → Tidy utteranceId u

section Moves

variable {s s' : OpenAISession} {utteranceId : Uuid} {u : UtteranceState}

theorem tidy_new (utteranceId streamId id : Uuid) (dropPending : Bool) :
    Tidy utteranceId (.new streamId id dropPending) :=
  ⟨fun _ h => (nomatch h), fun _ _ => rfl⟩

theorem AllTidy.getD (h : AllTidy s) (streamId id : Uuid) (dropPending : Bool) :
    Tidy utteranceId ((s.utterance utteranceId).getD (.new streamId id dropPending)) := by
  cases hu : s.utterance utteranceId with
  | none => exact tidy_new ..
  | some u => exact h utteranceId u hu

theorem Tidy.scheduled (h : Tidy utteranceId u) (n : Nat) : Tidy utteranceId (u.scheduled n) := by
  rw [UtteranceState.scheduled]
  split
  · exact h
  · exact ⟨h.named, h.told⟩

theorem tidy_flushed (utteranceId : Uuid) (u : UtteranceState) : Tidy utteranceId u.flushed :=
  ⟨fun _ h => (nomatch h), fun _ _ => rfl⟩

/-- One utterance changes, or none. -/
theorem AllTidy.change (h : AllTidy s) (utteranceId : Uuid) {o : Option UtteranceState}
    (hutterance : ∀ other, s'.utterance other = if other = utteranceId then o else s.utterance other)
    (htidy : ∀ u, o = some u → Tidy utteranceId u) : AllTidy s' := by
  intro other u hu
  rw [hutterance] at hu
  split at hu
  next heq => exact heq ▸ htidy u hu
  next => exact h other u hu

theorem AllTidy.send (h : AllTidy s) (codec : Codec) (frame : ProviderInputFrame) :
    AllTidy (s.send codec frame) := by
  refine h.change frame.utteranceId (fun other => (s.utterance_send codec frame other).trans ?_)
    (o := some ((s.utterance frame.utteranceId).getD (.new frame.streamId frame.utteranceId false))) ?_
  · split
    next heq => rw [heq]
    next => rfl
  · rintro u ⟨⟩
    exact h.getD ..

theorem AllTidy.drop (h : AllTidy s) (frame : ProviderInputFrame) : AllTidy (s.drop frame) := by
  refine h.change frame.utteranceId (OpenAISession.drop_effect rfl).2 ?_
  rintro u ⟨⟩
  have hknown : Tidy frame.utteranceId
      ((s.utterance frame.utteranceId).getD (.new frame.streamId frame.utteranceId true)) := h.getD ..
  refine ⟨hknown.named, fun hfinal hinput => ?_⟩
  simp only [Bool.or_eq_false_iff] at hfinal
  simp only [hfinal.2, Bool.or_false] at hinput
  exact hknown.told hfinal.1 hinput

theorem AllTidy.finishInput (h : AllTidy s) (hu : s.utterance utteranceId = some u) :
    AllTidy (s.finishInput utteranceId) := by
  obtain ⟨n, -, -, hutterance⟩ := OpenAISession.finishInput_effect hu
  refine h.change utteranceId hutterance ?_
  rintro u ⟨⟩
  exact (tidy_flushed ..).scheduled n

theorem AllTidy.flushPending (h : AllTidy s) (utteranceId : Uuid) : AllTidy (s.flushPending utteranceId) := by
  intro other u hu
  rw [OpenAISession.utterance_flushPending] at hu
  split at hu
  · obtain ⟨v, -, rfl⟩ := Option.map_eq_some_iff.mp hu
    exact tidy_flushed ..
  · exact h other u hu

theorem AllTidy.final (h : AllTidy s) (utteranceId : Uuid)
    (hutterance : ∀ other, s'.utterance other = if other = utteranceId then
        (s.utterance other).map fun u => { u with finalTask := none, finalSent := true }
      else s.utterance other) : AllTidy s' := by
  intro other u hu
  rw [hutterance] at hu
  split at hu
  · obtain ⟨v, hv, rfl⟩ := Option.map_eq_some_iff.mp hu
    exact ⟨(h other v hv).named, fun hfinal => (nomatch hfinal)⟩
  · exact h other u hu

theorem AllTidy.close (h : AllTidy s) (reason : SessionCloseReason) : AllTidy (s.close reason) := by
  unfold OpenAISession.close
  split
  · exact h
  · intro other u hu
    obtain ⟨v, hv, rfl⟩ := Option.map_eq_some_iff.mp ((Table.lookup_mapVals _ _ _).symm.trans hu)
    exact ⟨(h other v hv).named, (h other v hv).told⟩

theorem AllTidy.takeEvent (h : AllTidy s) {codec : Codec} {streamId : Uuid} {items : List ProviderEvent}
    {a : OpenAIRealtimeAdapter} (hmapped : s.adapter.Mapped utteranceId items a) :
    AllTidy (OpenAISession.takeEvent { s with adapter := a } codec streamId utteranceId items) := by
  obtain ⟨u, hu⟩ : ∃ u, (s.utterance utteranceId).getD (.new streamId utteranceId false) = u := ⟨_, rfl⟩
  have htidy : Tidy utteranceId u := hu ▸ h.getD ..
  by_cases hfinal : u.finalSent = true
  · have hknown : s.utterance utteranceId = some u := OpenAISession.utterance_of_final hu rfl hfinal
    have hutterance := (OpenAISession.takeEvent_final (s := { s with adapter := a })
      codec streamId items hknown hfinal).2
    exact fun other v hv => h other v ((hutterance other).symm.trans hv)
  rw [Bool.not_eq_true] at hfinal
  obtain ⟨f, hf, -, hutterance⟩ := OpenAISession.takeEvent_open (s := { s with adapter := a })
    codec items hu hfinal
  refine h.change utteranceId hutterance ?_
  have htask : ∀ v, Tidy utteranceId v → Tidy utteranceId (f v) := by
    rcases hf with rfl | ⟨n, rfl⟩
    · exact fun _ hv => hv
    · exact fun _ hv => hv.scheduled n
  rintro v ⟨⟩
  refine htask _ ?_
  split
  · exact ⟨htidy.named, htidy.told⟩
  next hinput =>
    refine ⟨fun audio haudio => ?_, fun _ hc => absurd hc hinput⟩
    exact (List.mem_append.mp haudio).elim (htidy.named audio) (OpenAISession.toldAudio_named hmapped audio)

theorem AllTidy.message (h : AllTidy s) (codec : Codec) (event : List (PyStr × Json)) (nowNs : Nat) :
    AllTidy (s.message codec event nowNs).2 := by
  unfold OpenAISession.message
  split
  · exact AllTidy.close (s := s.markEnding) h _
  split
  · exact h
  rcases s.realtimeEvent_cases codec event nowNs with
    ⟨a, -, hafter⟩ | ⟨streamId, utteranceId, items, a, -, -, -, hmapped, hafter⟩
  · rw [hafter]
    exact h
  · rw [hafter]
    exact h.takeEvent (OpenAIRealtimeAdapter.mapRealtimeEvents_mapped hmapped)

end Moves

/-- No move leaves the pending audio in disorder. -/
theorem Move.allTidy {codec : Codec} {call : Call} {drained : Bool} {s s' : OpenAISession}
    (hmove : Move codec call drained s s') (h : AllTidy s) : AllTidy s' := by
  cases hmove with
  | rejected | spared | closeKnown | failedClosed | late | debug | closeAsked => exact h
  | dropped => exact h.drop _
  | sent => exact h.send codec _
  | @finished frame => exact (h.send codec frame).finishInput ((s.utterance_send codec frame _).trans (if_pos rfl))
  | cancelled => exact h.final _ (s.utterance_finish _ _ _)
  | closeTimedOut => exact AllTidy.close (s := s.markEnding) h _
  | message => exact h.message codec _ _
  | failed => exact AllTidy.close (s := s.markEnding.providerError) h _
  | final => exact (h.flushPending _).final _ (OpenAISession.utterance_finish _ _ _ _)
  | lost => exact (h.flushPending _).final _ (OpenAISession.utterance_loseFinal _ _)

/-- A final task that has a final to publish finds nothing pending. -/
theorem AllTidy.flushPending_eq {s : OpenAISession} (h : AllTidy s) {utteranceId : Uuid} {u : UtteranceState}
    (hu : (s.flushPending utteranceId).utterance utteranceId = some u) (hfinal : u.finalSent = false)
    (hinput : u.inputComplete = true) : s.flushPending utteranceId = s ∧ s.utterance utteranceId = some u := by
  have hflushed := hu
  rw [OpenAISession.utterance_flushPending, if_pos rfl] at hu
  obtain ⟨v, hv, rfl⟩ := Option.map_eq_some_iff.mp hu
  have hsame := s.flushPending_of_nil hv ((h utteranceId v hv).told hfinal hinput)
  rw [hsame] at hflushed
  exact ⟨hsame, hflushed⟩

end Translator.Realtime
