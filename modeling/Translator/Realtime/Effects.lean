import Translator.Realtime.Sections

/-! What the sections do to each part of the session: the events they publish, the utterances they
    change, and what they leave alone. -/

namespace Translator.Realtime
open Schemes
open Wire (Uuid)
open Sidecar (ProviderInputFrame UtteranceOutcome)

/-! ### What an event says -/

def Body.isFinal : Body → Bool
  | .utteranceFinal .. => true
  | _ => false

def Body.audio? : Body → Option AudioDelta
  | .audioDelta audio => some audio
  | _ => none

def Body.isText : Body → Bool
  | .transcriptDelta .. | .translationDelta .. => true
  | _ => false

/-- The events that name an utterance. -/
def eventsOf (utteranceId : Uuid) (bodies : List Body) : List Body :=
  bodies.filter fun body => body.utterance? = some utteranceId

/-- The sequences of the audio among some events. -/
def sequencesOf (bodies : List Body) : List Nat :=
  (bodies.filterMap Body.audio?).map AudioDelta.sequence

@[simp] theorem eventsOf_append (utteranceId : Uuid) (bodies more : List Body) :
    eventsOf utteranceId (bodies ++ more) = eventsOf utteranceId bodies ++ eventsOf utteranceId more :=
  List.filter_append ..

@[simp] theorem sequencesOf_append (bodies more : List Body) :
    sequencesOf (bodies ++ more) = sequencesOf bodies ++ sequencesOf more := by
  rw [sequencesOf, List.filterMap_append, List.map_append]
  rfl

theorem eventsOf_all {utteranceId : Uuid} {bodies : List Body}
    (h : ∀ body ∈ bodies, body.utterance? = some utteranceId) : eventsOf utteranceId bodies = bodies :=
  List.filter_eq_self.mpr fun body hbody => by simp [h body hbody]

theorem eventsOf_none {utteranceId : Uuid} {bodies : List Body}
    (h : ∀ body ∈ bodies, body.utterance? ≠ some utteranceId) : eventsOf utteranceId bodies = [] :=
  List.filter_eq_nil_iff.mpr fun body hbody => by simp [h body hbody]

theorem sequencesOf_map {α : Type} (f : α → AudioDelta) (l : List α) :
    sequencesOf (l.map fun x => .audioDelta (f x)) = l.map fun x => (f x).sequence := by
  induction l with
  | nil => rfl
  | cons x l ih => exact congrArg ((f x).sequence :: ·) ih

theorem sequencesOf_texts {bodies : List Body} (h : ∀ body ∈ bodies, body.isText = true) :
    sequencesOf bodies = [] := by
  rw [sequencesOf, List.filterMap_eq_nil_iff.mpr]
  · rfl
  · intro body hbody
    have := h body hbody
    cases body <;> first | rfl | cases this

/-! ### What the adapter makes of an event -/

namespace OpenAIRealtimeAdapter

/-- The sequence the next audio of an utterance takes. -/
def next (a : OpenAIRealtimeAdapter) (utteranceId : Uuid) : Nat :=
  (a.audioSequences.lookup utteranceId).getD 0

/-- What the adapter makes of an event names the utterance, is audio or text, and numbers the audio
    from where it was. -/
structure Mapped (a : OpenAIRealtimeAdapter) (utteranceId : Uuid) (items : List ProviderEvent)
    (a' : OpenAIRealtimeAdapter) : Prop where
  named : ∀ item ∈ items, item.body.utterance? = some utteranceId
  kinds : ∀ item ∈ items, item.body.isText = true ∨ ∃ audio, item.body = .audioDelta audio
  sequences : ∃ n, sequencesOf (items.map ProviderEvent.body) = List.range' (a.next utteranceId) n
    ∧ a'.next utteranceId = a.next utteranceId + n
  others : ∀ other, other ≠ utteranceId → a'.next other = a.next other

theorem mapped_nothing (a : OpenAIRealtimeAdapter) (utteranceId : Uuid) : a.Mapped utteranceId [] a :=
  ⟨by simp, by simp, ⟨0, rfl, rfl⟩, fun _ _ => rfl⟩

theorem mapped_audio (a : OpenAIRealtimeAdapter) (streamId utteranceId : Uuid) (nowNs : Nat)
    (combined : List UInt8) :
    a.Mapped utteranceId (a.audioEvents streamId utteranceId nowNs combined)
      (a.heardAudio utteranceId combined) := by
  refine ⟨fun item hitem => ?_, fun item hitem => ?_, ⟨combined.length / openaiFrameBytes, ?_, ?_⟩,
    fun other hother => ?_⟩
  · obtain ⟨i, -, rfl⟩ := List.mem_map.mp hitem
    rfl
  · obtain ⟨i, -, rfl⟩ := List.mem_map.mp hitem
    exact .inr ⟨_, rfl⟩
  · rw [audioEvents, List.map_map, List.range'_eq_map_range]
    exact sequencesOf_map _ _
  · rw [next, heardAudio, AList.lookup_insert]
    rfl
  · rw [next, heardAudio, AList.lookup_insert_ne hother]
    rfl

theorem mapped_text (a : OpenAIRealtimeAdapter) {codec : Codec} {text : PyStr} {body : Body}
    {utteranceId : Uuid} {items : List ProviderEvent} {a' : OpenAIRealtimeAdapter}
    (hnamed : body.utterance? = some utteranceId) (htext : body.isText = true)
    (h : a.textEvent codec text body = (.ok items, a')) : a.Mapped utteranceId items a' := by
  unfold textEvent at h
  split at h
  · cases h
    refine ⟨by simpa using hnamed, by simpa using .inl htext, ⟨0, ?_, rfl⟩, fun _ _ => rfl⟩
    cases body <;> first | rfl | cases htext
  · cases h

theorem mapRealtimeEvents_mapped {a a' : OpenAIRealtimeAdapter} {codec : Codec} {debug : Bool}
    {event : List (PyStr × Json)} {streamId utteranceId : Uuid} {nowNs : Nat} {items : List ProviderEvent}
    (h : a.mapRealtimeEvents codec debug event streamId utteranceId nowNs = (.ok items, a')) :
    a.Mapped utteranceId items a' := by
  unfold mapRealtimeEvents at h
  dsimp only at h
  repeat' split at h
  all_goals
    first
    | (cases h; exact mapped_nothing a utteranceId)
    | (cases h; exact mapped_audio a streamId utteranceId nowNs _)
    | exact mapped_text a rfl rfl h
    | cases h

/-- An event that makes the adapter raise tells nothing. -/
theorem mapRealtimeEvents_raised {a a' : OpenAIRealtimeAdapter} {codec : Codec} {debug : Bool}
    {event : List (PyStr × Json)} {streamId utteranceId : Uuid} {nowNs : Nat} {error : AdapterError}
    (h : a.mapRealtimeEvents codec debug event streamId utteranceId nowNs = (.error error, a')) :
    ∀ other, a'.next other = a.next other := by
  unfold mapRealtimeEvents textEvent at h
  dsimp only at h
  intro other
  repeat' split at h
  all_goals
    first
    | (cases h; rfl)
    | cases h

end OpenAIRealtimeAdapter

namespace OpenAISession

variable (s : OpenAISession)

/-- An utterance that has had its final was known before. -/
theorem utterance_of_final {s : OpenAISession} {utteranceId : Uuid} {v u : UtteranceState}
    (hu : (s.utterance utteranceId).getD v = u) (hv : v.finalSent = false) (hfinal : u.finalSent = true) :
    s.utterance utteranceId = some u := by
  cases hs : s.utterance utteranceId with
  | none =>
    rw [hs] at hu
    subst hu
    rw [Option.getD_none, hv] at hfinal
    cases hfinal
  | some w =>
    rw [hs] at hu
    exact congrArg some hu

/-! ### Publication -/

theorem number_bodies (bodies : List Body) : (s.number bodies).map ProviderEvent.body = bodies := by
  rw [number, List.map_map]
  exact List.zipIdx_map_fst 0 bodies

@[simp] theorem published_publish (bodies : List Body) :
    (s.publish bodies).published = s.published ++ bodies := by
  show ((s.wire ++ [s.number bodies]).flatten.map _) = _
  rw [List.flatten_append, List.map_append, List.flatten_singleton, number_bodies]
  rfl

/-- What most sections leave alone. -/
structure Untouched (s s' : OpenAISession) : Prop where
  request : s'.request = s.request
  closed : s'.closed = s.closed
  closedPublished : s'.closedPublished = s.closedPublished
  currentUtteranceId : s'.currentUtteranceId = s.currentUtteranceId
  adapter : s'.adapter = s.adapter
  forwarded : s'.forwarded = s.forwarded
  heard : s'.heard = s.heard

theorem Untouched.refl : s.Untouched s := ⟨rfl, rfl, rfl, rfl, rfl, rfl, rfl⟩

variable {s}

theorem Untouched.trans {s' s'' : OpenAISession} (h : s.Untouched s') (h' : s'.Untouched s'') :
    s.Untouched s'' :=
  ⟨h'.1.trans h.1, h'.2.trans h.2, h'.3.trans h.3, h'.4.trans h.4, h'.5.trans h.5, h'.6.trans h.6,
    h'.7.trans h.7⟩

variable (s)

@[simp] theorem utterance_publish (bodies : List Body) (utteranceId : Uuid) :
    (s.publish bodies).utterance utteranceId = s.utterance utteranceId := rfl

theorem publish_untouched (bodies : List Body) : s.Untouched (s.publish bodies) :=
  ⟨rfl, rfl, rfl, rfl, rfl, rfl, rfl⟩

/-- The pending audio of an utterance. -/
def pendingOf (utteranceId : Uuid) : List AudioDelta :=
  ((s.utterance utteranceId).map UtteranceState.pendingAudio).getD []

end OpenAISession

/-- An utterance whose pending audio is published. -/
def UtteranceState.flushed (u : UtteranceState) : UtteranceState :=
  { u with
    pendingAudio := []
    lastAudioSequence := OpenAISession.lastSequence u.pendingAudio u.lastAudioSequence }

/-- An utterance that has a final task from now on, unless it has had its final. -/
def UtteranceState.scheduled (number : Nat) (u : UtteranceState) : UtteranceState :=
  if u.finalSent then u else { u with finalTask := some number }

theorem UtteranceState.flushed_of_nil {u : UtteranceState} (h : u.pendingAudio = []) : u.flushed = u := by
  obtain ⟨streamId, utteranceId, inputComplete, dropPending, finalSent, last, pending, task⟩ := u
  cases h
  rfl

namespace OpenAISession

variable (s : OpenAISession)

theorem utterance_flushPending (utteranceId other : Uuid) :
    (s.flushPending utteranceId).utterance other
      = if other = utteranceId then (s.utterance other).map UtteranceState.flushed
        else s.utterance other := by
  unfold flushPending
  split
  next hnone =>
    split
    next h => rw [h, hnone]; rfl
    next => rfl
  next u hu =>
    split
    next hempty =>
      split
      next h =>
        rw [h, hu, Option.map_some, UtteranceState.flushed_of_nil (List.isEmpty_iff.mp hempty)]
      next => rfl
    next => exact utterance_update ..

theorem published_flushPending (utteranceId : Uuid) :
    (s.flushPending utteranceId).published
      = s.published ++ (s.pendingOf utteranceId).map .audioDelta := by
  unfold flushPending pendingOf
  split
  next hnone => rw [hnone]; simp
  next u hu =>
    rw [hu]
    split
    next hempty => simp [List.isEmpty_iff.mp hempty]
    next => exact published_publish _ _

theorem flushPending_of_nil {utteranceId : Uuid} {u : UtteranceState} (hu : s.utterance utteranceId = some u)
    (hpending : u.pendingAudio = []) : s.flushPending utteranceId = s := by
  rw [flushPending, hu]
  exact if_pos (by rw [hpending]; rfl)

theorem flushPending_untouched (utteranceId : Uuid) : s.Untouched (s.flushPending utteranceId) := by
  unfold flushPending
  split
  · exact .refl s
  · split
    · exact .refl s
    · exact ⟨rfl, rfl, rfl, rfl, rfl, rfl, rfl⟩

theorem utterance_scheduleFinal (utteranceId other : Uuid) (delayMs : Nat) (outcome : UtteranceOutcome) :
    (s.scheduleFinal utteranceId delayMs outcome).utterance other
      = if other = utteranceId then (s.utterance other).map (.scheduled s.finalTasks.length)
        else s.utterance other := by
  unfold scheduleFinal
  split
  next hnone =>
    split
    next h => rw [h, hnone]; rfl
    next => rfl
  next u hu =>
    split
    next hfinal =>
      split
      next h => rw [h, hu, Option.map_some, UtteranceState.scheduled, if_pos hfinal]
      next => rfl
    next hfinal =>
      rw [utterance_update]
      split
      next h =>
        rw [h]
        show (s.utterance utteranceId).map _ = _
        rw [hu, Option.map_some, Option.map_some, UtteranceState.scheduled, if_neg hfinal]
      next => rfl

theorem scheduleFinal_wire (utteranceId : Uuid) (delayMs : Nat) (outcome : UtteranceOutcome) :
    (s.scheduleFinal utteranceId delayMs outcome).wire = s.wire := by
  unfold scheduleFinal
  split
  · rfl
  · split <;> rfl

theorem scheduleFinal_of_final {utteranceId : Uuid} {u : UtteranceState} (hu : s.utterance utteranceId = some u)
    (hfinal : u.finalSent = true) (delayMs : Nat) (outcome : UtteranceOutcome) :
    s.scheduleFinal utteranceId delayMs outcome = s := by
  rw [scheduleFinal, hu]
  exact if_pos hfinal

theorem published_scheduleFinal (utteranceId : Uuid) (delayMs : Nat) (outcome : UtteranceOutcome) :
    (s.scheduleFinal utteranceId delayMs outcome).published = s.published := by
  rw [published, scheduleFinal_wire]
  rfl

theorem scheduleFinal_untouched (utteranceId : Uuid) (delayMs : Nat) (outcome : UtteranceOutcome) :
    s.Untouched (s.scheduleFinal utteranceId delayMs outcome) := by
  unfold scheduleFinal
  split
  · exact .refl s
  · split
    · exact .refl s
    · exact ⟨rfl, rfl, rfl, rfl, rfl, rfl, rfl⟩

/-- The final task after the last frame differs in what it is to say only. -/
theorem scheduleAfterInput_eq (utteranceId : Uuid) :
    ∃ delayMs outcome, s.scheduleAfterInput utteranceId = s.scheduleFinal utteranceId delayMs outcome := by
  unfold scheduleAfterInput
  split
  next hnone => exact ⟨0, .dropped, by rw [scheduleFinal, hnone]⟩
  next => split <;> exact ⟨_, _, rfl⟩

theorem scheduleAfterInput_wire (utteranceId : Uuid) : (s.scheduleAfterInput utteranceId).wire = s.wire := by
  obtain ⟨delayMs, outcome, h⟩ := s.scheduleAfterInput_eq utteranceId
  rw [h, scheduleFinal_wire]

/-! ### Frames -/

theorem utterance_noteDropped (frame : ProviderInputFrame) (other : Uuid) :
    (s.noteDropped frame).utterance other
      = if other = frame.utteranceId then
          some { (s.utterance other).getD (.new frame.streamId frame.utteranceId true) with
            dropPending := true
            inputComplete := ((s.utterance other).getD
              (.new frame.streamId frame.utteranceId true)).inputComplete || frame.endOfUtterance }
        else s.utterance other := by
  rw [noteDropped, utterance_update, utterance_setDefault]
  show (if other = frame.utteranceId then Option.map _ (if other = frame.utteranceId then _ else _)
    else if other = frame.utteranceId then _ else _) = _
  split <;> rfl

theorem utterance_send (codec : Codec) (frame : ProviderInputFrame) (other : Uuid) :
    (s.send codec frame).utterance other
      = if other = frame.utteranceId then
          some ((s.utterance other).getD (.new frame.streamId frame.utteranceId false))
        else s.utterance other :=
  utterance_setDefault (s.hear frame) (.new frame.streamId frame.utteranceId false) other

/-- The last frame of an utterance tells its pending audio and sets its final task. -/
theorem finishInput_effect {s : OpenAISession} {utteranceId : Uuid} {u : UtteranceState}
    (hu : s.utterance utteranceId = some u) :
    ∃ n, (s.finishInput utteranceId).published = s.published ++ u.pendingAudio.map .audioDelta
      ∧ s.Untouched (s.finishInput utteranceId)
      ∧ ∀ other, (s.finishInput utteranceId).utterance other
        = if other = utteranceId then
            some (UtteranceState.scheduled n (UtteranceState.flushed { u with inputComplete := true }))
          else s.utterance other := by
  have hcomplete : ∀ other, (s.completeInput utteranceId).utterance other
      = if other = utteranceId then some { u with inputComplete := true } else s.utterance other := by
    intro other
    rw [completeInput, utterance_update]
    split
    next h => rw [h, hu]; rfl
    next => rfl
  obtain ⟨delayMs, outcome, hafter⟩ :=
    ((s.completeInput utteranceId).flushPending utteranceId).scheduleAfterInput_eq utteranceId
  refine ⟨((s.completeInput utteranceId).flushPending utteranceId).finalTasks.length, ?_, ?_, fun other => ?_⟩
  · rw [finishInput, hafter, published_scheduleFinal, published_flushPending, pendingOf,
      hcomplete, if_pos rfl]
    rfl
  · rw [finishInput, hafter]
    have hcomplete : s.Untouched (s.completeInput utteranceId) := ⟨rfl, rfl, rfl, rfl, rfl, rfl, rfl⟩
    exact (hcomplete.trans (flushPending_untouched _ utteranceId)).trans (scheduleFinal_untouched _ _ _ _)
  · rw [finishInput, hafter, utterance_scheduleFinal, utterance_flushPending, hcomplete]
    split <;> rfl

/-- What a blocked last frame publishes. -/
def overflowBodies (u : UtteranceState) (utteranceId : Uuid) : List Body :=
  [.error (some u.streamId) (some utteranceId) .queueOverflow true,
    .utteranceFinal u.streamId utteranceId none .dropped]

theorem overflowDrop_of_final {utteranceId : Uuid} {u : UtteranceState}
    (hu : s.utterance utteranceId = some u) (hfinal : u.finalSent = true) :
    s.overflowDrop utteranceId = s := by
  rw [overflowDrop, hu]
  exact if_pos hfinal

theorem overflowDrop_of_open {utteranceId : Uuid} {u : UtteranceState}
    (hu : s.utterance utteranceId = some u) (hfinal : u.finalSent = false) :
    s.overflowDrop utteranceId = (s.markFinal utteranceId).publish (overflowBodies u utteranceId) := by
  rw [overflowDrop, hu]
  exact if_neg (by simp [hfinal])

theorem noteDropped_untouched (frame : ProviderInputFrame) :
    (s.hear frame).Untouched ((s.hear frame).noteDropped frame) :=
  ⟨rfl, rfl, rfl, rfl, rfl, rfl, rfl⟩

theorem overflowDrop_untouched (utteranceId : Uuid) : s.Untouched (s.overflowDrop utteranceId) := by
  unfold overflowDrop
  split
  · exact .refl s
  · split
    · exact .refl s
    · exact ⟨rfl, rfl, rfl, rfl, rfl, rfl, rfl⟩

theorem drop_untouched (frame : ProviderInputFrame) : (s.hear frame).Untouched (s.drop frame) := by
  unfold drop
  split
  · exact (s.noteDropped_untouched frame).trans (overflowDrop_untouched _ _)
  · exact s.noteDropped_untouched frame

/-- A blocked frame notes that its utterance is to be dropped, and drops it where it is the last one. -/
theorem drop_effect {s : OpenAISession} {frame : ProviderInputFrame} {u : UtteranceState}
    (hu : (s.utterance frame.utteranceId).getD (.new frame.streamId frame.utteranceId true) = u) :
    (s.drop frame).published
        = s.published ++ (if frame.endOfUtterance && !u.finalSent then overflowBodies u frame.utteranceId else [])
      ∧ ∀ other, (s.drop frame).utterance other
        = if other = frame.utteranceId then some { u with
            dropPending := true
            inputComplete := u.inputComplete || frame.endOfUtterance
            finalSent := u.finalSent || frame.endOfUtterance }
          else s.utterance other := by
  have hnoted : ∀ other, ((s.hear frame).noteDropped frame).utterance other
      = if other = frame.utteranceId then some { u with
          dropPending := true, inputComplete := u.inputComplete || frame.endOfUtterance }
        else s.utterance other := by
    intro other
    rw [utterance_noteDropped]
    split
    next hother => rw [hother, ← hu]; rfl
    next => rfl
  have hpublished : ((s.hear frame).noteDropped frame).published = s.published := rfl
  unfold drop
  by_cases hend : frame.endOfUtterance = true
  · rw [if_pos hend]
    by_cases hfinal : u.finalSent = true
    · rw [overflowDrop_of_final _ ((hnoted _).trans (if_pos rfl)) hfinal, hpublished]
      simp [hend, hfinal, hnoted]
    · rw [Bool.not_eq_true] at hfinal
      rw [overflowDrop_of_open _ ((hnoted _).trans (if_pos rfl)) hfinal, published_publish]
      refine ⟨?_, fun other => ?_⟩
      · rw [hend, hfinal]
        rfl
      · rw [utterance_publish, markFinal, utterance_update, hnoted]
        split <;> simp [hend]
  · rw [if_neg hend, hpublished]
    rw [Bool.not_eq_true] at hend
    simp [hend, hnoted]

/-! ### Finals -/

theorem utterance_beginFinal (utteranceId other : Uuid) :
    (s.beginFinal utteranceId).utterance other
      = if other = utteranceId then
          (s.utterance other).map fun u => { u with finalTask := none, finalSent := true }
        else s.utterance other := by
  show ((s.cancelFinalTask utteranceId).markFinal utteranceId).utterance other = _
  rw [markFinal, utterance_update, cancelFinalTask, utterance_update]
  split
  next =>
    show ((s.utterance other).map _).map _ = _
    rw [Option.map_map]
    rfl
  next => rfl

theorem utterance_finish (u : UtteranceState) (utteranceId : Uuid) (outcome : UtteranceOutcome) (other : Uuid) :
    (s.finish u utteranceId outcome).utterance other
      = if other = utteranceId then
          (s.utterance other).map fun u => { u with finalTask := none, finalSent := true }
        else s.utterance other :=
  s.utterance_beginFinal utteranceId other

theorem utterance_loseFinal (utteranceId other : Uuid) :
    (s.loseFinal utteranceId).utterance other
      = if other = utteranceId then
          (s.utterance other).map fun u => { u with finalTask := none, finalSent := true }
        else s.utterance other :=
  s.utterance_beginFinal utteranceId other

theorem published_finish (u : UtteranceState) (utteranceId : Uuid) (outcome : UtteranceOutcome) :
    (s.finish u utteranceId outcome).published
      = s.published ++ [.utteranceFinal u.streamId utteranceId u.lastAudioSequence outcome] :=
  published_publish _ _

theorem beginFinal_keeps (utteranceId : Uuid) :
    (s.beginFinal utteranceId).adapter = s.adapter
      ∧ (s.beginFinal utteranceId).forwarded = s.forwarded
      ∧ (s.beginFinal utteranceId).heard = s.heard
      ∧ (s.beginFinal utteranceId).closed = s.closed
      ∧ (s.beginFinal utteranceId).closedPublished = s.closedPublished
      ∧ (s.beginFinal utteranceId).currentUtteranceId
        = if s.currentUtteranceId = some utteranceId then none else s.currentUtteranceId :=
  ⟨rfl, rfl, rfl, rfl, rfl, rfl⟩

/-- A final leaves alone what most sections do, but for the utterance that is current. -/
theorem finish_keeps (u : UtteranceState) (utteranceId : Uuid) (outcome : UtteranceOutcome) :
    (s.finish u utteranceId outcome).adapter = s.adapter
      ∧ (s.finish u utteranceId outcome).forwarded = s.forwarded
      ∧ (s.finish u utteranceId outcome).heard = s.heard
      ∧ (s.finish u utteranceId outcome).closed = s.closed
      ∧ (s.finish u utteranceId outcome).closedPublished = s.closedPublished
      ∧ (s.finish u utteranceId outcome).currentUtteranceId
        = if s.currentUtteranceId = some utteranceId then none else s.currentUtteranceId :=
  s.beginFinal_keeps utteranceId

/-! ### Realtime events -/

/-- The audio among some items, as it is told. -/
def toldAudio (codec : Codec) (items : List ProviderEvent) : List AudioDelta :=
  (items.filterMap fun item => item.body.audio?).map (s.convertOutputAudio codec)

theorem toldAudio_sequences (codec : Codec) (items : List ProviderEvent) :
    (s.toldAudio codec items).map AudioDelta.sequence = sequencesOf (items.map ProviderEvent.body) := by
  rw [toldAudio, List.map_map, sequencesOf, List.filterMap_map]
  rfl

/-- What is told of an item at once when the input is complete. -/
def told (codec : Codec) (item : ProviderEvent) : Option Body :=
  match item.body with
  | .audioDelta audio => some (.audioDelta (s.convertOutputAudio codec audio))
  | body => if body.isText then some body else none

/-- What is told of an item at once while the input goes on. -/
def toldEarly (item : ProviderEvent) : Option Body :=
  if item.body.isText then some item.body else none

theorem lastSequence_cons (audio : AudioDelta) (rest : List AudioDelta) (before : Option Nat) :
    lastSequence (audio :: rest) before = lastSequence rest (some audio.sequence) := by
  cases rest with
  | nil => rfl
  | cons next rest => rfl

theorem takeItem_untouched (codec : Codec) (utteranceId : Uuid) (item : ProviderEvent) :
    s.Untouched (s.takeItem codec utteranceId item).2
      ∧ (s.takeItem codec utteranceId item).2.wire = s.wire := by
  unfold takeItem
  split
  · split <;> exact ⟨⟨rfl, rfl, rfl, rfl, rfl, rfl, rfl⟩, rfl⟩
  all_goals exact ⟨.refl s, rfl⟩

theorem takeItems_untouched (codec : Codec) (utteranceId : Uuid) (items : List ProviderEvent) :
    s.Untouched (s.takeItems codec utteranceId items).2
      ∧ (s.takeItems codec utteranceId items).2.wire = s.wire := by
  induction items generalizing s with
  | nil => exact ⟨.refl s, rfl⟩
  | cons item rest ih =>
    obtain ⟨hone, hwire⟩ := s.takeItem_untouched codec utteranceId item
    obtain ⟨hrest, hwires⟩ := ih (s.takeItem codec utteranceId item).2
    exact ⟨hone.trans hrest, hwires.trans hwire⟩

variable {s}

theorem takeItem_complete (codec : Codec) {utteranceId : Uuid} (item : ProviderEvent) {u : UtteranceState}
    (hu : s.utterance utteranceId = some u) (hinput : u.inputComplete = true) :
    (s.takeItem codec utteranceId item).1 = s.told codec item
      ∧ ∀ other, (s.takeItem codec utteranceId item).2.utterance other
        = if other = utteranceId then some { u with
            lastAudioSequence := lastSequence (s.toldAudio codec [item]) u.lastAudioSequence }
          else s.utterance other := by
  obtain ⟨number, body⟩ := item
  have hsame : ∀ other, s.utterance other = if other = utteranceId then some u else s.utterance other := by
    intro other
    split
    next h => rw [h, hu]
    next => rfl
  unfold takeItem
  cases body with
  | audioDelta audio =>
    dsimp only
    rw [hu]
    dsimp only
    rw [if_pos hinput]
    refine ⟨rfl, fun other => ?_⟩
    rw [utterance_update]
    split
    next h => rw [h, hu]; rfl
    next => rfl
  | transcriptDelta streamId id text | translationDelta streamId id text => exact ⟨rfl, hsame⟩
  | error streamId id code retryable | utteranceFinal streamId id last outcome | sessionClosed reason =>
    exact ⟨rfl, hsame⟩

theorem takeItem_waiting (codec : Codec) {utteranceId : Uuid} (item : ProviderEvent) {u : UtteranceState}
    (hu : s.utterance utteranceId = some u) (hinput : u.inputComplete = false) :
    (s.takeItem codec utteranceId item).1 = toldEarly item
      ∧ ∀ other, (s.takeItem codec utteranceId item).2.utterance other
        = if other = utteranceId then some { u with
            pendingAudio := u.pendingAudio ++ s.toldAudio codec [item] }
          else s.utterance other := by
  obtain ⟨number, body⟩ := item
  have hsame : ∀ other, s.utterance other
      = if other = utteranceId then some { u with pendingAudio := u.pendingAudio ++ [] }
        else s.utterance other := by
    intro other
    rw [List.append_nil]
    split
    next h => rw [h, hu]
    next => rfl
  unfold takeItem
  cases body with
  | audioDelta audio =>
    dsimp only
    rw [hu]
    dsimp only
    rw [if_neg (by simp [hinput])]
    refine ⟨rfl, fun other => ?_⟩
    rw [utterance_update]
    split
    next h => rw [h, hu]; rfl
    next => rfl
  | transcriptDelta streamId id text | translationDelta streamId id text => exact ⟨rfl, hsame⟩
  | error streamId id code retryable | utteranceFinal streamId id last outcome | sessionClosed reason =>
    exact ⟨rfl, hsame⟩

theorem toldAudio_cons (codec : Codec) (item : ProviderEvent) (rest : List ProviderEvent) :
    s.toldAudio codec (item :: rest) = s.toldAudio codec [item] ++ s.toldAudio codec rest := by
  rw [toldAudio, ← List.singleton_append, List.filterMap_append, List.map_append]
  rfl

theorem lastSequence_append (audio more : List AudioDelta) (before : Option Nat) :
    lastSequence (audio ++ more) before = lastSequence more (lastSequence audio before) := by
  induction audio generalizing before with
  | nil => rfl
  | cons first rest ih => rw [List.cons_append, lastSequence_cons, ih, lastSequence_cons]

theorem convertOutputAudio_request {s s' : OpenAISession} (h : s'.request = s.request) (codec : Codec) :
    s'.convertOutputAudio codec = s.convertOutputAudio codec := by
  funext audio
  rw [convertOutputAudio, convertOutputAudio, h]

theorem told_request {s s' : OpenAISession} (h : s'.request = s.request) (codec : Codec) :
    s'.told codec = s.told codec := by
  funext item
  rw [told, told, convertOutputAudio_request h]

theorem toldAudio_request {s s' : OpenAISession} (h : s'.request = s.request) (codec : Codec)
    (items : List ProviderEvent) : s'.toldAudio codec items = s.toldAudio codec items := by
  rw [toldAudio, toldAudio, convertOutputAudio_request h]

theorem takeItems_cons (codec : Codec) (utteranceId : Uuid) (item : ProviderEvent)
    (rest : List ProviderEvent) :
    s.takeItems codec utteranceId (item :: rest)
      = ((s.takeItem codec utteranceId item).1.toList
          ++ ((s.takeItem codec utteranceId item).2.takeItems codec utteranceId rest).1,
        ((s.takeItem codec utteranceId item).2.takeItems codec utteranceId rest).2) := rfl

theorem filterMap_cons_toList {α β : Type} (f : α → Option β) (x : α) (l : List α) :
    (x :: l).filterMap f = (f x).toList ++ l.filterMap f := by
  rw [List.filterMap_cons]
  cases f x <;> rfl

/-- Of an utterance with all its input everything is told at once. -/
theorem takeItems_complete (codec : Codec) {utteranceId : Uuid} (items : List ProviderEvent)
    {u : UtteranceState} (hu : s.utterance utteranceId = some u) (hinput : u.inputComplete = true) :
    (s.takeItems codec utteranceId items).1 = items.filterMap (s.told codec)
      ∧ ∀ other, (s.takeItems codec utteranceId items).2.utterance other
        = if other = utteranceId then some { u with
            lastAudioSequence := lastSequence (s.toldAudio codec items) u.lastAudioSequence }
          else s.utterance other := by
  induction items generalizing s u with
  | nil =>
    refine ⟨rfl, fun other => ?_⟩
    split
    next h => rw [h]; exact hu
    next => rfl
  | cons item rest ih =>
    obtain ⟨hbody, hafter⟩ := takeItem_complete codec item hu hinput
    have hrequest := (s.takeItem_untouched codec utteranceId item).1.request
    obtain ⟨hbodies, hafters⟩ := ih ((hafter utteranceId).trans (if_pos rfl)) hinput
    rw [takeItems_cons, filterMap_cons_toList, hbody, hbodies, told_request hrequest]
    refine ⟨rfl, fun other => ?_⟩
    rw [hafters other, toldAudio_request hrequest, ← lastSequence_append, ← toldAudio_cons]
    split
    next => rfl
    next hother => rw [hafter other, if_neg hother]

/-- While the input goes on the audio is kept. -/
theorem takeItems_waiting (codec : Codec) {utteranceId : Uuid} (items : List ProviderEvent)
    {u : UtteranceState} (hu : s.utterance utteranceId = some u) (hinput : u.inputComplete = false) :
    (s.takeItems codec utteranceId items).1 = items.filterMap toldEarly
      ∧ ∀ other, (s.takeItems codec utteranceId items).2.utterance other
        = if other = utteranceId then some { u with
            pendingAudio := u.pendingAudio ++ s.toldAudio codec items }
          else s.utterance other := by
  induction items generalizing s u with
  | nil =>
    refine ⟨rfl, fun other => ?_⟩
    split
    next h =>
      rw [h]
      exact hu.trans (by simp [toldAudio])
    next => rfl
  | cons item rest ih =>
    obtain ⟨hbody, hafter⟩ := takeItem_waiting codec item hu hinput
    have hrequest := (s.takeItem_untouched codec utteranceId item).1.request
    obtain ⟨hbodies, hafters⟩ := ih ((hafter utteranceId).trans (if_pos rfl)) hinput
    rw [takeItems_cons, filterMap_cons_toList, hbody, hbodies]
    refine ⟨rfl, fun other => ?_⟩
    rw [hafters other, toldAudio_request hrequest, List.append_assoc, ← toldAudio_cons]
    split
    next => rfl
    next hother => rw [hafter other, if_neg hother]

/-- What is told of mapped items names the utterance and is no final. -/
theorem told_mapped (codec : Codec) {a a' : OpenAIRealtimeAdapter} {utteranceId : Uuid}
    {items : List ProviderEvent} (h : a.Mapped utteranceId items a') :
    (∀ body ∈ items.filterMap (s.told codec), body.utterance? = some utteranceId ∧ body.isFinal = false)
      ∧ sequencesOf (items.filterMap (s.told codec)) = sequencesOf (items.map ProviderEvent.body) := by
  have hnamed := h.named
  have hkinds := h.kinds
  clear h
  induction items with
  | nil => exact ⟨by simp, rfl⟩
  | cons item rest ih =>
    obtain ⟨hrest, hsequences⟩ := ih (fun i hi => hnamed i (.tail _ hi)) (fun i hi => hkinds i (.tail _ hi))
    have hname := hnamed item (.head _)
    have hkind := hkinds item (.head _)
    obtain ⟨number, body⟩ := item
    rw [filterMap_cons_toList, sequencesOf_append, hsequences, List.map_cons,
      ← List.singleton_append (l := rest.map _), sequencesOf_append]
    cases body with
    | audioDelta audio =>
      refine ⟨fun body hbody => ?_, rfl⟩
      rcases List.mem_cons.mp hbody with rfl | hbody
      · exact ⟨hname, rfl⟩
      · exact hrest body hbody
    | transcriptDelta streamId id text | translationDelta streamId id text =>
      refine ⟨fun body hbody => ?_, rfl⟩
      rcases List.mem_cons.mp hbody with rfl | hbody
      · exact ⟨hname, rfl⟩
      · exact hrest body hbody
    | error streamId id code retryable | utteranceFinal streamId id last outcome | sessionClosed reason =>
      rcases hkind with htext | ⟨audio, haudio⟩
      · cases htext
      · cases haudio

theorem toldAudio_named {codec : Codec} {a a' : OpenAIRealtimeAdapter} {utteranceId : Uuid}
    {items : List ProviderEvent} (h : a.Mapped utteranceId items a') :
    ∀ audio ∈ s.toldAudio codec items, audio.utteranceId = utteranceId := by
  intro audio haudio
  obtain ⟨delta, hdelta, rfl⟩ := List.mem_map.mp haudio
  obtain ⟨item, hitem, htold⟩ := List.mem_filterMap.mp hdelta
  have hname := h.named item hitem
  cases hbody : item.body with
  | audioDelta audio =>
    rw [hbody] at hname htold
    cases htold
    exact Option.some.inj hname
  | _ =>
    rw [hbody] at htold
    cases htold

theorem toldEarly_mapped {a a' : OpenAIRealtimeAdapter} {utteranceId : Uuid}
    {items : List ProviderEvent} (h : a.Mapped utteranceId items a') :
    ∀ body ∈ items.filterMap toldEarly, body.utterance? = some utteranceId ∧ body.isText = true := by
  intro body hbody
  obtain ⟨item, hitem, htold⟩ := List.mem_filterMap.mp hbody
  unfold toldEarly at htold
  split at htold
  next htext =>
    cases htold
    exact ⟨h.named item hitem, htext⟩
  next => cases htold

variable (s)

theorem published_publishConverted (utteranceId : Uuid) (bodies : List Body) :
    (s.publishConverted utteranceId bodies).published = s.published ++ bodies := by
  unfold publishConverted
  split
  next hempty => rw [List.isEmpty_iff.mp hempty, List.append_nil]
  next =>
    split
    · rw [published_scheduleFinal, published_publish]
    · exact published_publish _ _

theorem publishConverted_untouched (utteranceId : Uuid) (bodies : List Body) :
    s.Untouched (s.publishConverted utteranceId bodies) := by
  unfold publishConverted
  split
  · exact .refl s
  split
  · exact (s.publish_untouched bodies).trans ((s.publish bodies).scheduleFinal_untouched _ _ _)
  · exact s.publish_untouched bodies

/-- Publishing audio puts the final of the utterance off, and changes no utterance otherwise. -/
theorem utterance_publishConverted (utteranceId : Uuid) (bodies : List Body) :
    ∃ f : UtteranceState → UtteranceState, (f = id ∨ f = .scheduled s.finalTasks.length)
      ∧ ∀ other, (s.publishConverted utteranceId bodies).utterance other
        = if other = utteranceId then (s.utterance other).map f else s.utterance other := by
  have hid : ∀ other, s.utterance other
      = if other = utteranceId then (s.utterance other).map id else s.utterance other := fun other => by
    rw [Option.map_id, id, ite_self]
  unfold publishConverted
  split
  · exact ⟨id, .inl rfl, hid⟩
  split
  · exact ⟨_, .inr rfl, fun other => utterance_scheduleFinal (s.publish bodies) ..⟩
  · exact ⟨id, .inl rfl, hid⟩

/-- An event either says nothing, or it is taken for the current utterance. -/
theorem realtimeEvent_cases (codec : Codec) (event : List (PyStr × Json)) (nowNs : Nat) :
    (∃ a, (∀ other, a.next other = s.adapter.next other)
      ∧ (s.realtimeEvent codec event nowNs).2 = { s with adapter := a })
    ∨ ∃ streamId utteranceId items a, s.currentStreamId = some streamId
      ∧ s.currentUtteranceId = some utteranceId ∧ items ≠ []
      ∧ s.adapter.mapRealtimeEvents codec s.debugTextEnabled event streamId utteranceId nowNs = (.ok items, a)
      ∧ (s.realtimeEvent codec event nowNs).2
        = OpenAISession.takeEvent { s with adapter := a } codec streamId utteranceId items := by
  unfold realtimeEvent
  split
  next streamId utteranceId hstream hutterance =>
    unfold mapEvent
    dsimp only
    rcases hmapped : s.adapter.mapRealtimeEvents codec s.debugTextEnabled event streamId utteranceId nowNs
      with ⟨error | items, a⟩
    · exact .inl ⟨a, OpenAIRealtimeAdapter.mapRealtimeEvents_raised hmapped, rfl⟩
    · dsimp only
      by_cases hempty : items = []
      · obtain rfl := hempty
        obtain ⟨n, hn, hnext⟩ := (OpenAIRealtimeAdapter.mapRealtimeEvents_mapped hmapped).sequences
        refine .inl ⟨a, fun other => ?_, rfl⟩
        by_cases hother : other = utteranceId
        · obtain rfl : n = 0 := by simpa [sequencesOf] using hn
          rw [hother, hnext, Nat.add_zero]
        · exact (OpenAIRealtimeAdapter.mapRealtimeEvents_mapped hmapped).others other hother
      · refine .inr ⟨streamId, utteranceId, items, a, hstream, hutterance, hempty, hmapped, ?_⟩
        rw [if_neg (by simpa using hempty)]
  next => exact .inl ⟨s.adapter, fun _ => rfl, rfl⟩

theorem takeEvent_untouched (codec : Codec) (streamId utteranceId : Uuid) (items : List ProviderEvent) :
    s.Untouched (s.takeEvent codec streamId utteranceId items) := by
  have hset : s.Untouched (s.setDefault (.new streamId utteranceId false)) :=
    ⟨rfl, rfl, rfl, rfl, rfl, rfl, rfl⟩
  unfold takeEvent
  dsimp only
  split
  · exact hset
  · exact (hset.trans (takeItems_untouched _ codec utteranceId items).1).trans
      (publishConverted_untouched _ _ _)

variable {s}

/-- Nothing is told of an utterance that has had its final. -/
theorem takeEvent_final (codec : Codec) (streamId : Uuid) {utteranceId : Uuid} (items : List ProviderEvent)
    {u : UtteranceState} (hu : s.utterance utteranceId = some u) (hfinal : u.finalSent = true) :
    (s.takeEvent codec streamId utteranceId items).published = s.published
      ∧ ∀ other, (s.takeEvent codec streamId utteranceId items).utterance other = s.utterance other := by
  have hset : ∀ other, (s.setDefault (.new streamId utteranceId false)).utterance other
      = s.utterance other := fun other => by
    rw [utterance_setDefault]
    split
    next h =>
      rw [show other = utteranceId from h, hu]
      rfl
    next => rfl
  rw [takeEvent, hset, hu, if_pos (by simpa using hfinal)]
  exact ⟨rfl, hset⟩

/-- What an event tells of an utterance that has not had its final. -/
theorem takeEvent_open (codec : Codec) {streamId utteranceId : Uuid} (items : List ProviderEvent)
    {u : UtteranceState} (hu : (s.utterance utteranceId).getD (.new streamId utteranceId false) = u)
    (hfinal : u.finalSent = false) :
    ∃ f : UtteranceState → UtteranceState, (f = id ∨ ∃ n, f = .scheduled n)
      ∧ (s.takeEvent codec streamId utteranceId items).published = s.published
        ++ (if u.inputComplete then items.filterMap (s.told codec) else items.filterMap toldEarly)
      ∧ ∀ other, (s.takeEvent codec streamId utteranceId items).utterance other
        = if other = utteranceId then
            some (f (if u.inputComplete then
                { u with lastAudioSequence := lastSequence (s.toldAudio codec items) u.lastAudioSequence }
              else { u with pendingAudio := u.pendingAudio ++ s.toldAudio codec items }))
          else s.utterance other := by
  have hset : (s.setDefault (.new streamId utteranceId false)).utterance utteranceId = some u := by
    rw [utterance_setDefault]
    exact (if_pos rfl).trans (congrArg some hu)
  have hothers : ∀ other, other ≠ utteranceId →
      (s.setDefault (.new streamId utteranceId false)).utterance other = s.utterance other := fun other h => by
    rw [utterance_setDefault]
    exact if_neg h
  have htaken : ∀ {bodies u'} {s' : OpenAISession},
      ((s.setDefault (.new streamId utteranceId false)).takeItems codec utteranceId items) = (bodies, s') →
      (∀ other, s'.utterance other = if other = utteranceId then some u'
        else (s.setDefault (.new streamId utteranceId false)).utterance other) →
      ∃ f : UtteranceState → UtteranceState, (f = id ∨ ∃ n, f = .scheduled n)
        ∧ (s.takeEvent codec streamId utteranceId items).published = s.published ++ bodies
        ∧ ∀ other, (s.takeEvent codec streamId utteranceId items).utterance other
          = if other = utteranceId then some (f u') else s.utterance other := by
    intro bodies u' s' htake hafter
    obtain ⟨f, hf, hutterance⟩ := s'.utterance_publishConverted utteranceId bodies
    have hwire : s'.wire = s.wire := by
      rw [show s' = (takeItems codec utteranceId items (s.setDefault (.new streamId utteranceId false))).2 from
        congrArg Prod.snd htake.symm, (takeItems_untouched _ codec utteranceId items).2]
      rfl
    refine ⟨f, hf.imp_right fun h => ⟨_, h⟩, ?_, fun other => ?_⟩
    all_goals
      rw [takeEvent, hset, if_neg (by simpa using hfinal), htake]
    · rw [published_publishConverted, published, hwire]
      rfl
    · rw [hutterance, hafter]
      split
      next => rfl
      next h => exact hothers other h
  have hrequest : (s.setDefault (.new streamId utteranceId false)).request = s.request := rfl
  by_cases hinput : u.inputComplete = true
  · obtain ⟨hbodies, hafter⟩ := takeItems_complete codec items hset hinput
    rw [toldAudio_request hrequest] at hafter
    obtain ⟨f, hf, hpublished, hutterance⟩ := htaken rfl hafter
    rw [hbodies] at hpublished
    simp only [hinput, if_true]
    exact ⟨f, hf, hpublished, fun other => by rw [hutterance other, hinput]⟩
  · rw [Bool.not_eq_true] at hinput
    obtain ⟨hbodies, hafter⟩ := takeItems_waiting codec items hset hinput
    rw [toldAudio_request hrequest] at hafter
    obtain ⟨f, hf, hpublished, hutterance⟩ := htaken rfl hafter
    rw [hbodies] at hpublished
    simp only [hinput, Bool.false_eq_true, if_false]
    exact ⟨f, hf, hpublished, fun other => by rw [hutterance other, hinput]⟩

end OpenAISession

end Translator.Realtime
