import Translator.Realtime.Pending

/-! How many events are handed to the transport at once.

    `publish_local` puts a batch on the event channel as a whole, and the channel, even when it is drained,
    holds no more than its capacity. A batch has one or two events, unless it is audio: then it is all that
    was pending when the last frame was sent, or all the frames one message completes. -/

namespace Translator.Realtime
open Schemes
open Wire (Uuid)
open Sidecar (OpenProviderSession ProviderInputFrame UtteranceOutcome)

/-! ### The event channel -/

/-- `CHANNEL_CAPACITY`. -/
def channelCapacity : Nat := 64

/-- A channel never holds more than it has room for. -/
structure BoundedChannel (α : Type) where
  capacity : Nat
  queue : List α
  positive : 1 ≤ capacity
  bounded : capacity ≤ channelCapacity
  held : queue.length ≤ capacity

namespace BoundedChannel

variable {α : Type}

/-- `put_many_nowait`; `none` is a `ChannelOverflow`. -/
def putManyNowait (c : BoundedChannel α) (items : List α) : Option (BoundedChannel α) :=
  if h : c.capacity - c.queue.length < items.length then none
  else some { c with
    queue := c.queue ++ items
    held := by have := c.held; rw [List.length_append]; omega }

/-- The channel of a stream with nothing in it. -/
def drained : BoundedChannel α := ⟨channelCapacity, [], by decide, Nat.le_refl _, Nat.zero_le _⟩

theorem putManyNowait_drained (items : List α) :
    ((drained : BoundedChannel α).putManyNowait items).isSome = true ↔ items.length ≤ channelCapacity := by
  unfold putManyNowait
  split
  next h =>
    have hfull : channelCapacity < items.length := h
    simp only [Option.isSome_none, Bool.false_eq_true, false_iff]
    omega
  next h =>
    have hroom : ¬ channelCapacity < items.length := h
    simp only [Option.isSome_some, true_iff]
    omega

end BoundedChannel

/-! ### What an event makes to be told -/

/-- The audio an event brings. -/
def eventAudio (codec : Codec) (event : List (PyStr × Json)) : Option (List UInt8) :=
  if OpenAISession.eventType event = some (pyStr "session.output_audio.delta") then
    ((Json.get event (pyStr "delta")).bind Json.string?).bind codec.b64decode
  else none

/-- An event makes one text event at most, or the frames that its audio completes. -/
theorem mapRealtimeEvents_items {a a' : OpenAIRealtimeAdapter} {codec : Codec} {debug : Bool}
    {event : List (PyStr × Json)} {streamId utteranceId : Uuid} {nowNs : Nat} {items : List ProviderEvent}
    (h : a.mapRealtimeEvents codec debug event streamId utteranceId nowNs = (.ok items, a')) :
    items.length ≤ 1 ∨ ∃ pcm, eventAudio codec event = some pcm
      ∧ items = a.audioEvents streamId utteranceId nowNs (a.combined utteranceId pcm) := by
  unfold OpenAIRealtimeAdapter.mapRealtimeEvents OpenAIRealtimeAdapter.textEvent at h
  unfold eventAudio OpenAISession.eventType
  dsimp only at h
  split at h
  next haudio =>
    rw [if_pos haudio]
    split at h
    · cases h
      exact .inl (Nat.zero_le _)
    next delta hdelta =>
      split at h
      · cases h
      next pcm hpcm =>
        cases h
        exact .inr ⟨pcm, by rw [hdelta]; exact hpcm, rfl⟩
  next =>
    left
    repeat' split at h
    all_goals
      first
      | (cases h; exact Nat.zero_le _)
      | (cases h; exact Nat.le_refl _)
      | cases h

theorem audioEvents_length (a : OpenAIRealtimeAdapter) (streamId utteranceId : Uuid) (nowNs : Nat)
    (combined : List UInt8) :
    (a.audioEvents streamId utteranceId nowNs combined).length = combined.length / openaiFrameBytes := by
  rw [OpenAIRealtimeAdapter.audioEvents, List.length_map, List.length_range]

/-- While the input goes on no audio is told. -/
theorem audioEvents_early (a : OpenAIRealtimeAdapter) (streamId utteranceId : Uuid) (nowNs : Nat)
    (combined : List UInt8) :
    (a.audioEvents streamId utteranceId nowNs combined).filterMap OpenAISession.toldEarly = [] := by
  refine List.filterMap_eq_nil_iff.mpr fun item hitem => ?_
  obtain ⟨i, -, rfl⟩ := List.mem_map.mp hitem
  rfl

namespace OpenAISession

/-- The frames of an event that are told at once. -/
def framesAtOnce (s : OpenAISession) (codec : Codec) (event : List (PyStr × Json)) : Nat :=
  match s.currentUtteranceId, eventAudio codec event with
  | some utteranceId, some pcm =>
    if (s.utterance utteranceId).any fun u => u.inputComplete && !u.finalSent then
      (s.adapter.combined utteranceId pcm).length / openaiFrameBytes
    else 0
  | _, _ => 0

end OpenAISession

/-- The audio a call finds pending at the end of its input, or completes with one message, fits the
    channel. -/
def roomy (codec : Codec) (call : Call) (w : World) : Bool :=
  match call with
  | .submitFrame frame =>
    (w.session.validateFrame frame).isSome || w.session.blocks frame.utteranceId || !frame.endOfUtterance
      || (w.session.pendingOf frame.utteranceId).length ≤ channelCapacity
  | .receiveMessage raw _ =>
    match codec.loads raw with
    | .value (.object event) => w.session.framesAtOnce codec event ≤ channelCapacity
    | _ => true
  | _ => true

/-! ### Every batch fits -/

/-- Every batch on the wire fits a drained channel. -/
def Fitting (s : OpenAISession) : Prop := ∀ batch ∈ s.wire, batch.length ≤ channelCapacity

section Moves

variable {s s' : OpenAISession}

theorem Fitting.publish (h : Fitting s) {bodies : List Body} (hbodies : bodies.length ≤ channelCapacity) :
    Fitting (s.publish bodies) := by
  intro batch hbatch
  rcases List.mem_append.mp hbatch with hbatch | hbatch
  · exact h batch hbatch
  · rw [List.mem_singleton.mp hbatch]
    show (List.map _ bodies.zipIdx).length ≤ _
    rwa [List.length_map, List.length_zipIdx]

theorem Fitting.publishFew (h : Fitting s) {bodies : List Body} (hfew : bodies.length ≤ 2) :
    Fitting (s.publish bodies) := h.publish (Nat.le_trans hfew (by decide))

theorem Fitting.of_wire (h : Fitting s) (hwire : s'.wire = s.wire) : Fitting s' := by
  intro batch hbatch
  rw [hwire] at hbatch
  exact h batch hbatch

theorem Fitting.close (h : Fitting s) (reason : SessionCloseReason) : Fitting (s.close reason) := by
  unfold OpenAISession.close
  split
  · exact h
  · exact Fitting.publishFew (s := s.markClosed) h (by simp)

theorem Fitting.drop (h : Fitting s) (frame : ProviderInputFrame) : Fitting (s.drop frame) := by
  unfold OpenAISession.drop
  split
  · unfold OpenAISession.overflowDrop
    split
    · exact h
    · split
      · exact h
      · exact Fitting.publishFew (s := ((s.hear frame).noteDropped frame).markFinal frame.utteranceId) h
          (Nat.le_refl _)
  · exact h

theorem Fitting.flushPending (h : Fitting s) {utteranceId : Uuid}
    (hpending : (s.pendingOf utteranceId).length ≤ channelCapacity) : Fitting (s.flushPending utteranceId) := by
  unfold OpenAISession.flushPending
  unfold OpenAISession.pendingOf at hpending
  split
  · exact h
  next u hu =>
    rw [hu] at hpending
    split
    · exact h
    · exact Fitting.publish (s := s.takePending utteranceId) h (by rw [List.length_map]; exact hpending)

/-- The last frame publishes what was pending before it. -/
theorem Fitting.finished (h : Fitting s) (codec : Codec) {frame : ProviderInputFrame}
    (hpending : (s.pendingOf frame.utteranceId).length ≤ channelCapacity) :
    Fitting ((s.send codec frame).finishInput frame.utteranceId) := by
  refine Fitting.of_wire ?_ (OpenAISession.scheduleAfterInput_wire _ _)
  refine Fitting.flushPending (s := (s.send codec frame).completeInput frame.utteranceId) h ?_
  rw [OpenAISession.pendingOf, OpenAISession.completeInput, OpenAISession.utterance_update, if_pos rfl,
    OpenAISession.utterance_send, if_pos rfl]
  unfold OpenAISession.pendingOf at hpending
  cases hu : s.utterance frame.utteranceId with
  | none => exact Nat.zero_le _
  | some u =>
    rw [hu] at hpending
    exact hpending

theorem Fitting.publishConverted (h : Fitting s) (utteranceId : Uuid) {bodies : List Body}
    (hbodies : bodies.length ≤ channelCapacity) : Fitting (s.publishConverted utteranceId bodies) := by
  unfold OpenAISession.publishConverted
  split
  · exact h
  · split
    · exact (h.publish hbodies).of_wire (OpenAISession.scheduleFinal_wire _ _ _ _)
    · exact h.publish hbodies

/-- What is told of the items at once, by whether the input is complete. -/
theorem takeEvent_tells_few (codec : Codec) {streamId utteranceId : Uuid} {items : List ProviderEvent}
    (h : Fitting s)
    (hearly : (items.filterMap OpenAISession.toldEarly).length ≤ channelCapacity)
    (hcomplete : ∀ u, s.utterance utteranceId = some u → u.inputComplete = true → u.finalSent = false →
      items.length ≤ channelCapacity) :
    Fitting (s.takeEvent codec streamId utteranceId items) := by
  unfold OpenAISession.takeEvent
  dsimp only
  obtain ⟨u, hu⟩ : ∃ u, (s.utterance utteranceId).getD (.new streamId utteranceId false) = u := ⟨_, rfl⟩
  have hset : (s.setDefault (.new streamId utteranceId false)).utterance utteranceId = some u := by
    rw [OpenAISession.utterance_setDefault]
    exact (if_pos rfl).trans (congrArg some hu)
  rw [hset]
  split
  · exact h
  next hfinal =>
    rw [Option.map_some, Option.getD_some, Bool.not_eq_true] at hfinal
    have htaken := (OpenAISession.takeItems_untouched (s.setDefault (.new streamId utteranceId false)) codec
      utteranceId items).2
    refine Fitting.publishConverted (h.of_wire htaken) utteranceId ?_
    by_cases hinput : u.inputComplete = true
    · rw [(OpenAISession.takeItems_complete codec items hset hinput).1]
      refine Nat.le_trans (List.length_filterMap_le _ _) (hcomplete u ?_ hinput hfinal)
      cases hknown : s.utterance utteranceId with
      | none =>
        rw [hknown] at hu
        subst hu
        cases hinput
      | some v =>
        rw [hknown] at hu
        exact congrArg some hu
    · rw [Bool.not_eq_true] at hinput
      rw [(OpenAISession.takeItems_waiting codec items hset hinput).1]
      exact hearly

theorem Fitting.message (h : Fitting s) (codec : Codec) (event : List (PyStr × Json)) (nowNs : Nat)
    (hroom : s.framesAtOnce codec event ≤ channelCapacity) : Fitting (s.message codec event nowNs).2 := by
  unfold OpenAISession.message
  split
  · exact Fitting.close (s := s.markEnding) h _
  split
  · exact h.publishFew (by simp)
  rcases s.realtimeEvent_cases codec event nowNs with
    ⟨a, -, hafter⟩ | ⟨streamId, utteranceId, items, a, -, hcurrent, -, hmapped, hafter⟩
  · rw [hafter]
    exact h
  rw [hafter]
  have hmoved : Fitting { s with adapter := a } := h
  have hone : 1 ≤ channelCapacity := by decide
  rcases mapRealtimeEvents_items hmapped with hfew | ⟨pcm, haudio, rfl⟩
  · refine takeEvent_tells_few codec hmoved ?_ fun _ _ _ _ => Nat.le_trans hfew hone
    exact Nat.le_trans (List.length_filterMap_le _ _) (Nat.le_trans hfew hone)
  · refine takeEvent_tells_few codec hmoved (by rw [audioEvents_early]; exact Nat.zero_le _) ?_
    intro u hu hinput hfinal
    rw [audioEvents_length]
    have hknown : s.utterance utteranceId = some u := hu
    rw [OpenAISession.framesAtOnce, hcurrent, haudio] at hroom
    simpa [hknown, hinput, hfinal] using hroom

end Moves

theorem fitting_preserved (codec : Codec) :
    Preserved codec (fun s => AllTidy s ∧ Fitting s) (roomy codec) := by
  rintro call w s' ⟨htidy, h⟩ hok - hmove
  refine ⟨hmove.allTidy htidy, ?_⟩
  cases hmove with
  | rejected | spared | closeKnown | failedClosed | late | debug | closeAsked | sent => exact h
  | dropped => exact h.drop _
  | @finished frame _ _ hvalid hblocks hend =>
    refine h.finished codec ?_
    simpa [roomy, hvalid, hblocks, hend] using hok
  | @cancelled utteranceId => exact Fitting.publishFew (s := w.session.beginFinal utteranceId) h (by simp)
  | closeTimedOut => exact Fitting.close (s := w.session.markEnding) h _
  | @message raw nowNs _ _ event hloads =>
    refine h.message codec event nowNs ?_
    simpa [roomy, hloads] using hok
  | failed =>
    exact Fitting.close (s := w.session.markEnding.providerError)
      (Fitting.publishFew (s := w.session.markEnding) h (by simp)) _
  | @final number task _ _ u hu hfinal hinput =>
    rw [(htidy.flushPending_eq hu hfinal hinput).1]
    exact Fitting.publishFew (s := w.session.beginFinal task.utteranceId) h (by simp)
  | lost hu hfinal hinput =>
    rw [(htidy.flushPending_eq hu hfinal hinput).1]
    exact h

/-- In every run of such calls every batch handed to the publisher fits a drained channel. -/
theorem run_fits (codec : Codec) (request : OpenProviderSession) (turns : List (EventLoop.Turn Call Change))
    (hadm : Admitted codec (roomy codec) request turns) :
    ∀ batch ∈ (after codec request turns).shared.session.wire,
      ((BoundedChannel.drained : BoundedChannel ProviderEvent).putManyNowait batch).isSome = true := by
  have hfresh : AllTidy (.opened request) ∧ Fitting (.opened request) :=
    ⟨fun _ _ h => (nomatch h), fun _ h => (nomatch h)⟩
  obtain ⟨s, ⟨-, hfitting⟩, hwire⟩ := run_toFree (fitting_preserved codec) hfresh hadm
  intro batch hbatch
  exact (BoundedChannel.putManyNowait_drained batch).mpr (hfitting batch (hwire.subset hbatch))

/-- Two frames of speech whose translation arrives in some messages before the second is sent. -/
def translatedEarly (messages : Nat) : List (EventLoop.Turn Call Change) :=
  [.begin (.submitFrame (sampleFrame 3 0 false)), .proceed .ready]
    ++ List.replicate messages (.begin (.receiveMessage (sampleText 3) 0))
    ++ [.begin (.submitFrame (sampleFrame 3 1 true)), .proceed .ready]

theorem run_fits_early :
    (after sampleCodec sampleRequest (translatedEarly 2)).shared.session.wire.map List.length = [2]
      ∧ ∀ batch ∈ (after sampleCodec sampleRequest (translatedEarly 2)).shared.session.wire,
        ((BoundedChannel.drained : BoundedChannel ProviderEvent).putManyNowait batch).isSome = true :=
  ⟨by decide +kernel, run_fits sampleCodec sampleRequest _ (adm_of_walk (by decide +kernel))⟩

/-- A little more than a second of translated speech before the end of the input is too much. -/
theorem translatedEarly_overflows :
    ¬ ∀ batch ∈ (after sampleCodec sampleRequest (translatedEarly 65)).shared.session.wire,
      ((BoundedChannel.drained : BoundedChannel ProviderEvent).putManyNowait batch).isSome = true := by
  have hbatch : (after sampleCodec sampleRequest (translatedEarly 65)).shared.session.wire.map List.length
      = [65] := by decide +kernel
  intro h
  obtain ⟨batch, hmem, hlength⟩ := List.mem_map.mp (hbatch ▸ List.mem_singleton_self 65)
  have hfits := (BoundedChannel.putManyNowait_drained batch).mp (h batch hmem)
  rw [hlength] at hfits
  exact absurd hfits (by decide)

end Translator.Realtime
