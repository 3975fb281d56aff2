import Translator.Sidecar.ProviderEngine

/-! What a session of `ProviderEngine` keeps over any calls on it: its counters are the sums of its
    queues, only utterances that are not over have frames in them, and what was told of an utterance is
    its audio in order and, once, a final after everything else.

    A session is `Kept` between the effects of a call. An utterance is buried in one step, so it does not
    matter which of the five places ends it, nor which queue is being read. -/

namespace Translator.Engine
open Schemes Sidecar
open Wire (Uuid)

/-! ### What was told of an utterance -/

/-- The utterance an event is about. -/
def EventBody.utterance : EventBody → Option Uuid
  | .audioDelta _ u .. | .transcriptDelta _ u .. | .translationDelta _ u .. | .latency _ u ..
  | .error _ u .. | .utteranceFinal _ u .. => some u
  | .sessionOpened .. | .sessionClosed .. => none

/-- The number of an audio delta of the utterance. -/
def EventBody.audio (u : Uuid) : EventBody → Option Nat
  | .audioDelta _ v sequence .. => if v = u then some sequence else none
  | _ => none

/-- The last audio that a final of the utterance names. -/
def EventBody.final (u : Uuid) : EventBody → Option (Option Nat)
  | .utteranceFinal _ v last _ => if v = u then some last else none
  | _ => none

/-- The numbers of the audio deltas of an utterance. -/
def audioOf (u : Uuid) (events : List ProviderEngineEvent) : List Nat :=
  events.filterMap (·.body.audio u)

/-- What the finals of an utterance name. -/
def finalsOf (u : Uuid) (events : List ProviderEngineEvent) : List (Option Nat) :=
  events.filterMap (·.body.final u)

theorem audioOf_concat (u : Uuid) (events : List ProviderEngineEvent) (e : ProviderEngineEvent) :
    audioOf u (events ++ [e]) = audioOf u events ++ (e.body.audio u).toList := by
  rw [audioOf, List.filterMap_append]
  cases h : e.body.audio u <;> simp [audioOf, h]

theorem finalsOf_concat (u : Uuid) (events : List ProviderEngineEvent) (e : ProviderEngineEvent) :
    finalsOf u (events ++ [e]) = finalsOf u events ++ (e.body.final u).toList := by
  rw [finalsOf, List.filterMap_append]
  cases h : e.body.final u <;> simp [finalsOf, h]

theorem EventBody.audio_eq_none {body : EventBody} {u : Uuid} (h : body.utterance ≠ some u) :
    body.audio u = none := by
  cases body <;> simp_all [EventBody.utterance, EventBody.audio]

theorem EventBody.final_eq_none {body : EventBody} {u : Uuid} (h : body.utterance ≠ some u) :
    body.final u = none := by
  cases body <;> simp_all [EventBody.utterance, EventBody.final]

/-- The utterance has been told audio `0, 1, 2, …` and no final. -/
structure Running (u : Uuid) (events : List ProviderEngineEvent) : Prop where
  audio : audioOf u events = List.range (audioOf u events).length
  final : finalsOf u events = []

/-- Nothing more is told of the utterance after its final, which names its last audio. -/
def Ended (u : Uuid) (events : List ProviderEngineEvent) : Prop :=
  ∃ before final after, events = before ++ final :: after ∧ Running u before
    ∧ final.body.final u = some (audioOf u before).getLast? ∧ ∀ e ∈ after, e.body.utterance ≠ some u

theorem running_nil (u : Uuid) : Running u [] := ⟨rfl, rfl⟩

section Telling

variable {u : Uuid} {events : List ProviderEngineEvent} {e : ProviderEngineEvent}

theorem Running.quiet (h : Running u events) (haudio : e.body.audio u = none)
    (hfinal : e.body.final u = none) : Running u (events ++ [e]) := by
  constructor
  · rw [audioOf_concat, haudio, Option.toList_none, List.append_nil]
    exact h.audio
  · rw [finalsOf_concat, hfinal, h.final]
    rfl

theorem Running.other (h : Running u events) (he : e.body.utterance ≠ some u) :
    Running u (events ++ [e]) :=
  h.quiet (EventBody.audio_eq_none he) (EventBody.final_eq_none he)

theorem Running.speak (h : Running u events) (haudio : e.body.audio u = some (audioOf u events).length)
    (hfinal : e.body.final u = none) : Running u (events ++ [e]) := by
  constructor
  · rw [audioOf_concat, haudio, Option.toList_some, List.length_append, List.length_singleton,
      List.range_succ, ← h.audio]
  · rw [finalsOf_concat, hfinal, h.final]
    rfl

theorem Running.ended (h : Running u events) (hfinal : e.body.final u = some (audioOf u events).getLast?) :
    Ended u (events ++ [e]) :=
  ⟨events, e, [], rfl, h, hfinal, by simp⟩

theorem Ended.other (h : Ended u events) (he : e.body.utterance ≠ some u) : Ended u (events ++ [e]) := by
  obtain ⟨before, final, after, rfl, hbefore, hfinal, hafter⟩ := h
  refine ⟨before, final, after ++ [e], by simp, hbefore, hfinal, ?_⟩
  intro e' he'
  rcases List.mem_append.mp he' with he' | he'
  · exact hafter e' he'
  · rw [List.mem_singleton.mp he']
    exact he

end Telling

/-! ### The invariant -/

/-- The durations of queued frames. -/
def framesMs (frames : List ProviderInputFrame) : Nat := (frames.map ProviderInputFrame.frameDurationMs).sum

namespace Session

def inputFrames (s : Session) : List ProviderInputFrame := s.inputQueue.map QueuedInput.frame

def outputFrames (s : Session) : List ProviderInputFrame := s.outputQueue.map QueuedOutput.frame

/-- How many audio deltas the session has made for an utterance, and the last of them. -/
def audioCount (s : Session) (u : Uuid) : Nat × Option Nat :=
  ((s.nextAudioSequence.lookup u).getD 0, s.lastEmittedAudioSequence.lookup u)

end Session

/-- A session and everything it has told. -/
structure Kept (s : Session) (events : List ProviderEngineEvent) : Prop where
  inputMs : s.inputBufferedMs = framesMs s.inputFrames
  inputRoom : s.inputBufferedMs ≤ inputLimitMs
  outputMs : s.outputBufferedMs = framesMs s.outputFrames
  outputRoom : s.outputBufferedMs ≤ outputLimitMs
  live : ∀ frame ∈ s.inputFrames ++ s.outputFrames, frame.utteranceId ∉ s.terminalUtterances
  active : s.utteranceStreams.keys.length ≤ maxActiveUtterances
  tombstones : s.terminalUtterances.card ≤ maxTerminalUtterances
  ordered : (events.map ProviderEngineEvent.eventSequence).Pairwise (· < ·)
  numbered : ∀ e ∈ events, e.eventSequence ≤ s.eventSequence
  running : ∀ u ∉ s.terminalUtterances, Running u events
  ended : ∀ u ∈ s.terminalUtterances, Ended u events
  counted : s.closed = false → ∀ u ∉ s.terminalUtterances,
    s.audioCount u = ((audioOf u events).length, (audioOf u events).getLast?)

/-- The parts of a session that say what was told. -/
def Session.telling (s : Session) : Nat × Finset Uuid × Table Uuid Nat × Table Uuid Nat × Bool :=
  (s.eventSequence, s.terminalUtterances, s.nextAudioSequence, s.lastEmittedAudioSequence, s.closed)

section Keeping

variable {s s' : Session} {events : List ProviderEngineEvent}

/-- Only the queues and what is known of open utterances changed. -/
theorem Kept.requeue (h : Kept s events) (htelling : s'.telling = s.telling)
    (inputMs : s'.inputBufferedMs = framesMs s'.inputFrames) (inputRoom : s'.inputBufferedMs ≤ inputLimitMs)
    (outputMs : s'.outputBufferedMs = framesMs s'.outputFrames)
    (outputRoom : s'.outputBufferedMs ≤ outputLimitMs)
    (live : ∀ frame ∈ s'.inputFrames ++ s'.outputFrames, frame.utteranceId ∉ s.terminalUtterances)
    (active : s'.utteranceStreams.keys.length ≤ maxActiveUtterances) : Kept s' events := by
  obtain ⟨hsequence, hterminal, hnext, hlast, hclosed⟩ : s'.eventSequence = s.eventSequence
      ∧ s'.terminalUtterances = s.terminalUtterances ∧ s'.nextAudioSequence = s.nextAudioSequence
      ∧ s'.lastEmittedAudioSequence = s.lastEmittedAudioSequence ∧ s'.closed = s.closed := by
    simpa [Session.telling] using htelling
  refine ⟨inputMs, inputRoom, outputMs, outputRoom, ?_, active, ?_, h.ordered, ?_, ?_, ?_, ?_⟩
  · rwa [hterminal]
  · rw [hterminal]; exact h.tombstones
  · rw [hsequence]; exact h.numbered
  · rw [hterminal]; exact h.running
  · rw [hterminal]; exact h.ended
  · unfold Session.audioCount
    rw [hterminal, hclosed, hnext, hlast]
    exact h.counted

/-- An event with the next number. -/
def Session.event (s : Session) (directionId : Core.AudioDirection) (body : EventBody) : ProviderEngineEvent :=
  ⟨s.request.sessionId, directionId, s.eventSequence + 1, body⟩

theorem wp_emit (directionId : Core.AudioDirection) (body : EventBody)
    (post : Call.Post Session Raised ProviderEngineEvent) :
    Call.wp (emit directionId body) post s
      = post.ok (s.event directionId body) { s with eventSequence := s.eventSequence + 1 } := rfl

theorem Kept.ordered_next (h : Kept s events) (directionId : Core.AudioDirection) (body : EventBody) :
    ((events ++ [s.event directionId body]).map ProviderEngineEvent.eventSequence).Pairwise (· < ·) := by
  rw [List.map_append, List.pairwise_append]
  refine ⟨h.ordered, by simp, ?_⟩
  intro n hn m hm
  obtain ⟨e, he, rfl⟩ := List.mem_map.mp hn
  have hle := h.numbered e he
  simp only [List.map_cons, List.map_nil, List.mem_singleton] at hm
  subst hm
  exact Nat.lt_succ_of_le hle

theorem Kept.numbered_next (h : Kept s events) (directionId : Core.AudioDirection) (body : EventBody) :
    ∀ e ∈ events ++ [s.event directionId body], e.eventSequence ≤ s.eventSequence + 1 := by
  intro e he
  rcases List.mem_append.mp he with he | he
  · exact Nat.le_succ_of_le (h.numbered e he)
  · rw [List.mem_singleton.mp he, Session.event]

/-- An event that is neither audio nor a final, about no utterance that is over. -/
theorem Kept.quiet (h : Kept s events) (directionId : Core.AudioDirection) (body : EventBody)
    (hopen : ∀ u ∈ s.terminalUtterances, body.utterance ≠ some u) (haudio : ∀ u, body.audio u = none)
    (hfinal : ∀ u, body.final u = none) :
    Kept { s with eventSequence := s.eventSequence + 1 } (events ++ [s.event directionId body]) where
  inputMs := h.inputMs
  inputRoom := h.inputRoom
  outputMs := h.outputMs
  outputRoom := h.outputRoom
  live := h.live
  active := h.active
  tombstones := h.tombstones
  ordered := h.ordered_next directionId body
  numbered := h.numbered_next directionId body
  running u hu := (h.running u hu).quiet (haudio u) (hfinal u)
  ended u hu := (h.ended u hu).other (hopen u hu)
  counted hclosed u hu := by
    rw [audioOf_concat, show (s.event directionId body).body.audio u = none from haudio u,
      Option.toList_none, List.append_nil]
    exact h.counted hclosed u hu

/-- The next audio of an utterance that is not over. -/
theorem Kept.audio (h : Kept s events) (hclosed : s.closed = false) (directionId : Core.AudioDirection)
    (streamId u : Uuid) (nowNs rate channels duration : Nat) (pcm : List UInt8)
    (hu : u ∉ s.terminalUtterances) :
    Kept (({ s with eventSequence := s.eventSequence + 1 } : Session).noteAudio u (s.audioCount u).1)
      (events ++ [s.event directionId
        (.audioDelta streamId u (s.audioCount u).1 nowNs rate channels duration pcm)]) := by
  have hcount := h.counted hclosed u hu
  have hother : ∀ v, v ≠ u → (s.event directionId (.audioDelta streamId u (s.audioCount u).1 nowNs rate
      channels duration pcm)).body.utterance ≠ some v := fun v hv heq => hv (Option.some.inj heq).symm
  have hself : (s.event directionId (.audioDelta streamId u (s.audioCount u).1 nowNs rate channels duration
      pcm)).body.audio u = some (audioOf u events).length := by
    rw [hcount]
    exact if_pos rfl
  refine ⟨h.inputMs, h.inputRoom, h.outputMs, h.outputRoom, h.live, h.active, h.tombstones,
    h.ordered_next _ _, h.numbered_next _ _, ?_, ?_, ?_⟩
  · intro v hv
    by_cases hvu : v = u
    · subst hvu
      exact (h.running v hv).speak hself rfl
    · exact (h.running v hv).other (hother v hvu)
  · intro v hv
    exact (h.ended v hv).other (hother v fun heq => hu (heq ▸ hv))
  · intro _ v hv
    by_cases hvu : v = u
    · subst hvu
      rw [audioOf_concat, hself, Session.audioCount, Session.noteAudio, hcount]
      simp
    · have hv' := h.counted hclosed v hv
      rw [audioOf_concat, EventBody.audio_eq_none (hother v hvu), Option.toList_none, List.append_nil,
        ← hv', Session.audioCount, Session.noteAudio]
      simp only [Table.lookup_insert_if, if_neg hvu]
      rfl

/-- The frames of an utterance and the others make up a queue. -/
theorem framesMs_split (u : Uuid) (frames : List ProviderInputFrame) :
    framesMs frames = framesMs (frames.filter (·.utteranceId ≠ u))
      + framesMs (frames.filter (·.utteranceId = u)) := by
  induction frames with
  | nil => rfl
  | cons frame frames ih =>
    simp only [framesMs] at ih ⊢
    by_cases hframe : frame.utteranceId = u
    · simp [hframe, ih]
      omega
    · simp [hframe, ih]
      omega

/-- Without the frames of one utterance the counters are sums again. -/
theorem Kept.without (h : Kept s events) (u : Uuid) :
    Kept ((s.removeUtteranceInput u).removeUtteranceOutput u) events := by
  have hinput : ((s.removeUtteranceInput u).removeUtteranceOutput u).inputFrames
      = s.inputFrames.filter (·.utteranceId ≠ u) := by
    simp only [Session.inputFrames, List.filter_map]
    rfl
  have houtput : ((s.removeUtteranceInput u).removeUtteranceOutput u).outputFrames
      = s.outputFrames.filter (·.utteranceId ≠ u) := by
    simp only [Session.outputFrames, List.filter_map]
    rfl
  have hinputMs : ((s.removeUtteranceInput u).removeUtteranceOutput u).inputBufferedMs
      = s.inputBufferedMs - framesMs (s.inputFrames.filter (·.utteranceId = u)) := by
    simp only [framesMs, Session.inputFrames, List.filter_map, List.map_map]
    rfl
  have houtputMs : ((s.removeUtteranceInput u).removeUtteranceOutput u).outputBufferedMs
      = s.outputBufferedMs - framesMs (s.outputFrames.filter (·.utteranceId = u)) := by
    simp only [framesMs, Session.outputFrames, List.filter_map, List.map_map]
    rfl
  have hsplitInput := framesMs_split u s.inputFrames
  have hsplitOutput := framesMs_split u s.outputFrames
  have hin := h.inputMs
  have hout := h.outputMs
  have hinRoom := h.inputRoom
  have houtRoom := h.outputRoom
  refine h.requeue rfl ?_ ?_ ?_ ?_ ?_ h.active
  · rw [hinput, hinputMs]
    omega
  · rw [hinputMs]
    omega
  · rw [houtput, houtputMs]
    omega
  · rw [houtputMs]
    omega
  · rw [hinput, houtput, ← List.filter_append]
    exact fun frame hframe => h.live frame (List.mem_filter.mp hframe).1

/-- The final of an utterance that is not over. -/
theorem Kept.final (h : Kept s events) (hclosed : s.closed = false) (directionId : Core.AudioDirection)
    (streamId u : Uuid) (outcome : UtteranceOutcome) (hu : u ∉ s.terminalUtterances)
    (hroom : s.terminalUtterances.card < maxTerminalUtterances) :
    Kept { s.bury u with eventSequence := s.eventSequence + 1 }
      (events ++ [s.event directionId (.utteranceFinal streamId u (s.audioCount u).2 outcome)]) := by
  have hwithout := h.without u
  have hcount := h.counted hclosed u hu
  have hother : ∀ v, v ≠ u → (s.event directionId (.utteranceFinal streamId u (s.audioCount u).2
      outcome)).body.utterance ≠ some v := fun v hv heq => hv (Option.some.inj heq).symm
  have hself : (s.event directionId (.utteranceFinal streamId u (s.audioCount u).2 outcome)).body.final u
      = some (audioOf u events).getLast? := by
    rw [hcount]
    exact if_pos rfl
  refine ⟨hwithout.inputMs, hwithout.inputRoom, hwithout.outputMs, hwithout.outputRoom, ?_, ?_, ?_,
    h.ordered_next _ _, h.numbered_next _ _, ?_, ?_, ?_⟩
  · intro frame hframe hmem
    rcases Finset.mem_insert.mp hmem with heq | hmem
    · rcases List.mem_append.mp hframe with hframe | hframe <;>
        obtain ⟨queued, hqueued, rfl⟩ := List.mem_map.mp hframe
      · simpa [heq] using (List.mem_filter.mp hqueued).2
      · simpa [heq] using (List.mem_filter.mp hqueued).2
    · exact hwithout.live frame hframe hmem
  · exact Nat.le_trans (Table.length_keys_erase_le _ _) h.active
  · exact Nat.le_trans (Finset.card_insert_le _ _) hroom
  · intro v hv
    obtain ⟨hvu, hv⟩ := not_or.mp (mt Finset.mem_insert.mpr hv)
    change v ∉ s.terminalUtterances at hv
    exact (h.running v hv).other (hother v hvu)
  · intro v hv
    by_cases hvu : v = u
    · subst hvu
      exact (h.running v hu).ended hself
    · have hv' : v ∈ s.terminalUtterances := (Finset.mem_insert.mp hv).resolve_left hvu
      exact (h.ended v hv').other (hother v hvu)
  · intro _ v hv
    obtain ⟨hvu, hv⟩ := not_or.mp (mt Finset.mem_insert.mpr hv)
    change v ∉ s.terminalUtterances at hv
    rw [audioOf_concat, EventBody.audio_eq_none (hother v hvu), Option.toList_none, List.append_nil,
      ← h.counted hclosed v hv]
    unfold Session.audioCount Session.bury
    simp only [Table.lookup_erase_if, if_neg hvu]
    rfl

/-! ### The queues -/

theorem Kept.note (h : Kept s events) (frame : ProviderInputFrame)
    (hroom : frame.utteranceId ∈ s.utteranceStreams ∨ s.utteranceStreams.keys.length < maxActiveUtterances) :
    Kept (s.note frame) events := by
  refine h.requeue rfl h.inputMs h.inputRoom h.outputMs h.outputRoom h.live ?_
  by_cases hmem : frame.utteranceId ∈ s.utteranceStreams
  · rw [Session.note, Table.length_keys_insert_of_mem _ hmem]
    exact h.active
  · rw [Session.note, Table.length_keys_insert_of_not_mem _ hmem]
    exact hroom.resolve_left hmem

theorem framesMs_append (frames more : List ProviderInputFrame) :
    framesMs (frames ++ more) = framesMs frames + framesMs more := by
  simp [framesMs]

theorem Kept.queueInput (h : Kept s events) {frame : ProviderInputFrame} (nowNs : Int)
    (hu : frame.utteranceId ∉ s.terminalUtterances)
    (hroom : s.inputBufferedMs + frame.frameDurationMs ≤ inputLimitMs) :
    Kept (s.queueInput frame nowNs) events := by
  have hframes : (s.queueInput frame nowNs).inputFrames = s.inputFrames ++ [frame] := by
    simp [Session.queueInput, Session.inputFrames]
  refine h.requeue rfl ?_ hroom h.outputMs h.outputRoom ?_ h.active
  · rw [hframes, framesMs_append, Session.queueInput, h.inputMs]
    simp [framesMs]
  · intro other hother
    rw [hframes] at hother
    rcases List.mem_append.mp hother with hother | hother
    · rcases List.mem_append.mp hother with hother | hother
      · exact h.live other (List.mem_append_left _ hother)
      · rw [List.mem_singleton.mp hother]
        exact hu
    · exact h.live other (List.mem_append_right _ hother)

theorem Kept.queueOutput (h : Kept s events) {frame : ProviderInputFrame} (pcm : List UInt8)
    (hu : frame.utteranceId ∉ s.terminalUtterances)
    (hroom : s.outputBufferedMs + frame.frameDurationMs ≤ outputLimitMs) :
    Kept (s.queueOutput frame pcm) events := by
  have hframes : (s.queueOutput frame pcm).outputFrames = s.outputFrames ++ [frame] := by
    simp [Session.queueOutput, Session.outputFrames]
  refine h.requeue rfl h.inputMs h.inputRoom ?_ hroom ?_ h.active
  · rw [hframes, framesMs_append, Session.queueOutput, h.outputMs]
    simp [framesMs]
  · intro other hother
    rw [hframes, ← List.append_assoc] at hother
    rcases List.mem_append.mp hother with hother | hother
    · exact h.live other hother
    · rw [List.mem_singleton.mp hother]
      exact hu

theorem Kept.popInput (h : Kept s events) {queued : QueuedInput} {rest : List QueuedInput}
    (hqueue : s.inputQueue = queued :: rest) : Kept (s.popInput queued rest) events := by
  have hframes : s.inputFrames = queued.frame :: (s.popInput queued rest).inputFrames := by
    rw [Session.inputFrames, hqueue]
    rfl
  have hms := h.inputMs
  have hroom := h.inputRoom
  have hsum : framesMs s.inputFrames
      = queued.frame.frameDurationMs + framesMs (s.popInput queued rest).inputFrames := by
    rw [hframes, framesMs, List.map_cons, List.sum_cons, framesMs]
  refine h.requeue rfl ?_ ?_ h.outputMs h.outputRoom ?_ h.active
  · rw [Session.popInput] at hsum ⊢
    dsimp only at hsum ⊢
    omega
  · rw [Session.popInput]
    dsimp only
    omega
  · intro frame hframe
    apply h.live
    rw [hframes]
    exact List.mem_cons_of_mem _ hframe

theorem Kept.popOutput (h : Kept s events) {queued : QueuedOutput} {rest : List QueuedOutput}
    (hqueue : s.outputQueue = queued :: rest) : Kept (s.popOutput queued rest) events := by
  have hframes : s.outputFrames = queued.frame :: (s.popOutput queued rest).outputFrames := by
    rw [Session.outputFrames, hqueue]
    rfl
  have hms := h.outputMs
  have hroom := h.outputRoom
  have hsum : framesMs s.outputFrames
      = queued.frame.frameDurationMs + framesMs (s.popOutput queued rest).outputFrames := by
    rw [hframes, framesMs, List.map_cons, List.sum_cons, framesMs]
  refine h.requeue rfl h.inputMs h.inputRoom ?_ ?_ ?_ h.active
  · rw [Session.popOutput] at hsum ⊢
    dsimp only at hsum ⊢
    omega
  · rw [Session.popOutput]
    dsimp only
    omega
  · intro frame hframe
    apply h.live
    rw [hframes]
    rcases List.mem_append.mp hframe with hframe | hframe
    · exact List.mem_append_left _ hframe
    · exact List.mem_append_right _ (List.mem_cons_of_mem _ hframe)

/-! ### The calls -/

/-- The capacity of the tombstones is not reached, and no message fails its own checks. -/
def Raised.tolerable : Raised → Bool
  | .protocol error => error ≠ .terminalTombstoneCapacity
  | .valueError => false

/-- The session still takes calls. -/
structure Open (s : Session) (events : List ProviderEngineEvent) : Prop where
  kept : Kept s events
  closed : s.closed = false

/-- What a call comes to that may refuse, and then has changed nothing that counts. -/
def told (events : List ProviderEngineEvent) : Call.Post Session Raised (List ProviderEngineEvent) where
  ok more s' := Kept s' (events ++ more)
  err e s' := e.tolerable = true → Kept s' events
  crash _ := False

/-- What a part of a call comes to that can not refuse any more. -/
def tells (events : List ProviderEngineEvent) : Call.Post Session Raised (List ProviderEngineEvent) where
  ok more s' := Open s' (events ++ more)
  err e _ := e.tolerable = false
  crash _ := False

/-- The same for a part that makes one event. -/
def tellsOne (events : List ProviderEngineEvent) : Call.Post Session Raised ProviderEngineEvent where
  ok e s' := Open s' (events ++ [e])
  err e _ := e.tolerable = false
  crash _ := False

theorem told_of_tells {c : SessionCall (List ProviderEngineEvent)} (h : Call.wp c (tells events) s) :
    Call.wp c (told events) s :=
  Call.wp_mono h (fun _ _ h => h.kept) (fun _ _ h htolerable => absurd (h.symm.trans htolerable) (by decide)) (fun _ h => h)

/-- A part that makes one event, at the end of a call. -/
theorem tells_single {c : SessionCall ProviderEngineEvent} (h : Call.wp c (tellsOne events) s) :
    Call.wp (do let e ← c; pure [e]) (tells events) s := by
  rw [Call.wp_bind]
  exact Call.wp_mono h (fun _ _ h => h) (fun _ _ h => h) (fun _ h => h)

theorem terminalForIdentity_tells (h : Open s events) (streamId u : Uuid) (outcome : UtteranceOutcome)
    (hu : u ∉ s.terminalUtterances) :
    Call.wp (terminalForIdentity streamId u (s.audioCount u).2 outcome) (tellsOne events) s := by
  rw [terminalForIdentity, Call.wp_bind, Call.wp_get]
  dsimp only
  rw [if_neg hu]
  split
  · rfl
  next hroom =>
    rw [Call.wp_bind, Call.wp_modify]
    exact ⟨h.kept.final h.closed _ _ _ _ hu (Nat.lt_of_not_le hroom), h.closed⟩

theorem terminal_tells (h : Open s events) {frame : ProviderInputFrame} (outcome : UtteranceOutcome)
    (hu : frame.utteranceId ∉ s.terminalUtterances) :
    Call.wp (terminal frame outcome) (tellsOne events) s := by
  rw [terminal, Call.wp_bind, Call.wp_get]
  exact terminalForIdentity_tells h _ _ _ hu

theorem dropWithError_tells (h : Open s events) {frame : ProviderInputFrame} (code : SafeErrorCode)
    (hu : frame.utteranceId ∉ s.terminalUtterances) :
    Call.wp (dropWithError frame code) (tells events) s := by
  rw [dropWithError, Call.wp_bind, Call.wp_get]
  dsimp only
  rw [Call.wp_bind]
  have herror := h.kept.quiet s.request.directionId
    (.error frame.streamId frame.utteranceId code true)
    (fun u hmem heq => hu (Option.some.inj heq ▸ hmem)) (fun _ => rfl) (fun _ => rfl)
  rw [wp_emit]
  dsimp only
  rw [Call.wp_bind]
  refine Call.wp_mono (terminal_tells ⟨herror, h.closed⟩ .dropped hu) ?_ (fun _ _ h => h) (fun _ h => h)
  intro final s' hs'
  change Open s' _ at hs'
  rw [List.append_assoc] at hs'
  exact hs'

theorem takeFrame_tells (h : Open s events) {frame : ProviderInputFrame} (nowNs : Int)
    (hu : frame.utteranceId ∉ s.terminalUtterances)
    (hroom : frame.utteranceId ∈ s.utteranceStreams ∨ s.utteranceStreams.keys.length < maxActiveUtterances) :
    Call.wp (takeFrame frame nowNs) (tells events) s := by
  have hnoted : Open (s.note frame) events := ⟨h.kept.note frame hroom, h.closed⟩
  rw [takeFrame, Call.wp_bind, Call.wp_modify, Call.wp_bind, Call.wp_get]
  dsimp only
  split
  · exact tells_single (terminal_tells hnoted .dropped hu)
  split
  · exact dropWithError_tells hnoted .queueOverflow hu
  next hinput =>
    rw [Call.wp_bind, Call.wp_modify, Call.wp_pure]
    refine ⟨?_, h.closed⟩
    rw [List.append_nil]
    exact hnoted.kept.queueInput nowNs hu (by omega)

theorem enqueueFrame_told (h : Open s events) (frame : ProviderInputFrame) (nowNs : Int) :
    Call.wp (enqueueFrame frame nowNs) (told events) s := by
  rw [enqueueFrame, Call.wp_bind, Call.wp_get]
  dsimp only
  split
  · exact fun _ => h.kept
  next hvalid =>
    have hu : frame.utteranceId ∉ s.terminalUtterances := by
      intro hmem
      rw [Session.validateFrame, if_pos hmem] at hvalid
      cases hvalid
    split
    · exact fun _ => h.kept
    next hroom =>
      refine told_of_tells (takeFrame_tells h nowNs hu ?_)
      by_cases hmem : frame.utteranceId ∈ s.utteranceStreams
      · exact .inl hmem
      · exact .inr (Nat.lt_of_not_le fun hle => hroom ⟨hmem, hle⟩)

theorem describe_tells (h : Open s events) (injection : MockInjection) {frame : ProviderInputFrame}
    (hu : frame.utteranceId ∉ s.terminalUtterances) :
    Call.wp (describe injection frame) (tells events) s := by
  rw [describe, Call.wp_bind, Call.wp_get]
  dsimp only
  split
  · refine ⟨?_, h.closed⟩
    rw [List.append_nil]
    exact h.kept
  · have htranscript := h.kept.quiet frame.directionId
      (.transcriptDelta frame.streamId frame.utteranceId injection.transcript frame.endOfUtterance)
      (fun u hmem heq => hu (Option.some.inj heq ▸ hmem)) (fun _ => rfl) (fun _ => rfl)
    have htranslation := htranscript.quiet frame.directionId
      (.translationDelta frame.streamId frame.utteranceId injection.translation true
        frame.endOfUtterance)
      (fun u hmem heq => hu (Option.some.inj heq ▸ hmem)) (fun _ => rfl) (fun _ => rfl)
    rw [List.append_assoc] at htranslation
    exact ⟨htranslation, h.closed⟩

theorem transform_tells (h : Open s events) (injection : MockInjection) {frame : ProviderInputFrame}
    (hu : frame.utteranceId ∉ s.terminalUtterances) :
    Call.wp (transform injection frame) (tells events) s := by
  have hcounted : Open { s with processedFrames := s.processedFrames + 1 } events :=
    ⟨h.kept.requeue rfl h.kept.inputMs h.kept.inputRoom h.kept.outputMs h.kept.outputRoom h.kept.live
      h.kept.active, h.closed⟩
  rw [transform, Call.wp_bind, Call.wp_get]
  dsimp only
  rw [Call.wp_bind, Call.wp_modify]
  dsimp only
  split
  · exact dropWithError_tells hcounted .providerUnavailable hu
  split
  · exact dropWithError_tells hcounted .queueOverflow hu
  next houtput =>
    split
    · rfl
    next pcm _ =>
      rw [Call.wp_bind, Call.wp_modify]
      have hroom : s.outputBufferedMs + frame.frameDurationMs ≤ outputLimitMs := not_lt.mp houtput
      exact describe_tells ⟨hcounted.kept.queueOutput pcm hu hroom, h.closed⟩ injection hu

theorem processNext_told (h : Open s events) (injection : MockInjection) (nowNs : Int) :
    Call.wp (processNext injection nowNs) (told events) s := by
  have hnothing : Kept s (events ++ []) := by
    rw [List.append_nil]
    exact h.kept
  rw [processNext, Call.wp_bind, Call.wp_get]
  dsimp only
  split
  · exact hnothing
  next queued rest hqueue =>
    have hu : queued.frame.utteranceId ∉ s.terminalUtterances := by
      apply h.kept.live
      rw [Session.inputFrames, hqueue]
      exact List.mem_cons_self ..
    have hpopped : Open (s.popInput queued rest) events := ⟨h.kept.popInput hqueue, h.closed⟩
    split
    · rw [Call.wp_bind, Call.wp_modify]
      exact told_of_tells (tells_single (terminal_tells hpopped .dropped hu))
    split
    · exact hnothing
    · rw [Call.wp_bind, Call.wp_modify]
      exact told_of_tells (transform_tells hpopped injection hu)

/-- The audio of a frame ends no utterance. -/
theorem speak_tells (h : Open s events) {queued : QueuedOutput} (nowNs : Int)
    (hu : queued.frame.utteranceId ∉ s.terminalUtterances) :
    Call.wp (speak queued nowNs)
      ⟨fun more s' => Open s' (events ++ more) ∧ s'.terminalUtterances = s.terminalUtterances,
        fun e _ => e.tolerable = false, fun _ => False⟩ s := by
  rw [speak]
  dsimp only
  rw [Call.wp_bind, Call.wp_get]
  dsimp only
  rw [Call.wp_bind]
  show Call.wp _ _ _
  split
  · rfl
  · have haudio := h.kept.audio h.closed queued.frame.directionId queued.frame.streamId
      queued.frame.utteranceId nowNs.toNat queued.frame.sampleRateHz queued.frame.channels
      queued.frame.frameDurationMs queued.pcm hu
    have hlatency := haudio.quiet queued.frame.directionId
      (.latency queued.frame.streamId queued.frame.utteranceId
        (max 0 ((nowNs - queued.frame.captureMonotonicNs) / nanosecondsPerMillisecond)).toNat
        (max 0 ((nowNs - queued.frame.captureMonotonicNs) / nanosecondsPerMillisecond)).toNat)
      (fun u hmem heq => hu (Option.some.inj heq ▸ hmem)) (fun _ => rfl) (fun _ => rfl)
    rw [List.append_assoc] at hlatency
    exact ⟨⟨hlatency, h.closed⟩, rfl⟩

theorem drainFrame_tells (h : Open s events) {queued : QueuedOutput} (nowNs : Int)
    (hu : queued.frame.utteranceId ∉ s.terminalUtterances) :
    Call.wp (drainFrame queued nowNs) (tells events) s := by
  rw [drainFrame, Call.wp_bind, Call.wp_get]
  dsimp only
  split
  · exact tells_single (terminal_tells h .dropped hu)
  · rw [Call.wp_bind]
    refine Call.wp_mono (speak_tells h nowNs hu) ?_ (fun _ _ h => h) (fun _ h => h)
    rintro spoken s' ⟨hs', hterminal⟩
    dsimp only
    split
    · rw [Call.wp_bind]
      refine Call.wp_mono (terminal_tells hs' .completed (hterminal ▸ hu)) ?_ (fun _ _ h => h)
        (fun _ h => h)
      intro final s'' hs''
      change Open s'' _ at hs''
      rw [List.append_assoc] at hs''
      exact hs''
    · exact hs'

/-- The loop reads the queue that is there after each frame: a final may have emptied it of others. -/
theorem drainLoop_tells (nowNs : Int) : ∀ (fuel : Nat) {s : Session} {events : List ProviderEngineEvent},
    Open s events → Call.wp (drainLoop nowNs fuel) (tells events) s
  | 0, s, events, h => by
    rw [drainLoop, Call.wp_pure]
    refine ⟨?_, h.closed⟩
    rw [List.append_nil]
    exact h.kept
  | fuel + 1, s, events, h => by
    rw [drainLoop, Call.wp_bind, Call.wp_get]
    dsimp only
    split
    · refine ⟨?_, h.closed⟩
      rw [List.append_nil]
      exact h.kept
    next queued rest hqueue =>
      have hu : queued.frame.utteranceId ∉ s.terminalUtterances := by
        apply h.kept.live
        rw [Session.outputFrames, hqueue]
        exact List.mem_append_right _ (List.mem_cons_self ..)
      rw [Call.wp_bind, Call.wp_modify, Call.wp_bind]
      refine Call.wp_mono (drainFrame_tells ⟨h.kept.popOutput hqueue, h.closed⟩ nowNs hu) ?_
        (fun _ _ h => h) (fun _ h => h)
      intro drained s' hs'
      dsimp only
      rw [Call.wp_bind]
      refine Call.wp_mono (drainLoop_tells nowNs fuel hs') ?_ (fun _ _ h => h) (fun _ h => h)
      intro more s'' hs''
      change Open s'' _ at hs''
      rw [List.append_assoc] at hs''
      exact hs''

theorem drainOutput_told (h : Open s events) (nowNs : Int) :
    Call.wp (drainOutput nowNs) (told events) s := by
  rw [drainOutput, Call.wp_bind, Call.wp_get]
  exact told_of_tells (drainLoop_tells nowNs _ h)

theorem cancelUtterance_told (h : Open s events) (request : CancelUtterance) :
    Call.wp (cancelUtterance request) (told events) s := by
  rw [cancelUtterance, Call.wp_bind, Call.wp_get]
  dsimp only
  split
  · exact fun _ => h.kept
  split
  · exact fun _ => h.kept
  next hu =>
    split
    · exact fun _ => h.kept
    · rw [Call.wp_bind, Call.wp_modify]
      have hwithout : Open ((s.removeUtteranceInput request.utteranceId).removeUtteranceOutput
          request.utteranceId) events := ⟨h.kept.without request.utteranceId, h.closed⟩
      exact told_of_tells (tells_single (terminalForIdentity_tells hwithout _ _ _ hu))

theorem closeSession_told (h : Open s events) (request : CloseProviderSession) :
    Call.wp (closeSession request) (told events) s := by
  rw [closeSession, Call.wp_bind, Call.wp_modify, Call.wp_bind, Call.wp_get]
  dsimp only
  have hcleared : Kept s.cleared events := by
    refine ⟨rfl, Int.natCast_nonneg _, rfl, Int.natCast_nonneg _, ?_, Nat.zero_le _, h.kept.tombstones, h.kept.ordered,
      h.kept.numbered, h.kept.running, h.kept.ended, nofun⟩
    intro frame hframe
    cases hframe
  exact hcleared.quiet s.request.directionId (.sessionClosed request.reason) (fun _ _ => nofun)
    (fun _ => rfl) (fun _ => rfl)

theorem updateDebugText_told (h : Open s events) (request : UpdateDebugText) :
    Call.wp (updateDebugText request) (told events) s := by
  rw [updateDebugText, Call.wp_bind, Call.wp_modify, Call.wp_pure]
  show Kept _ (events ++ [])
  rw [List.append_nil]
  exact h.kept.requeue rfl h.kept.inputMs h.kept.inputRoom h.kept.outputMs h.kept.outputRoom h.kept.live
    h.kept.active

/-- What one call does. -/
theorem call_told (h : Open s events) (injection : MockInjection) (op : Op) :
    Call.wp (op.call injection) (told events) s := by
  cases op with
  | enqueueFrame frame nowNs => exact enqueueFrame_told h frame nowNs
  | processNext _ nowNs => exact processNext_told h injection nowNs
  | drainOutput _ nowNs => exact drainOutput_told h nowNs
  | cancelUtterance request => exact cancelUtterance_told h request
  | updateDebugText request => exact updateDebugText_told h request
  | closeSession request => exact closeSession_told h request

end Keeping

/-! ### The whole queue is drained -/

section Draining

variable {n : Nat}

/-- No more than so many frames wait to be spoken. -/
def Within (n : Nat) (s : Session) : Prop := s.outputQueue.length ≤ n

/-- The call queues no output, whatever becomes of it. -/
def Drains (n : Nat) {α : Type} (c : SessionCall α) : Prop := Call.Maintains (Within n) (Within n) c

theorem emit_drains (directionId : Core.AudioDirection) (body : EventBody) : Drains n (emit directionId body) :=
  fun _ h => h

theorem terminalForIdentity_drains (streamId u : Uuid) (last : Option Nat) (outcome : UtteranceOutcome) :
    Drains n (terminalForIdentity streamId u last outcome) := by
  refine Call.maintains_get fun s _ => ?_
  split
  · exact Call.maintains_fail _
  split
  · exact Call.maintains_fail _
  · refine Call.maintains_bind (Call.maintains_modify ?_) fun _ => emit_drains _ _
    intro s hs
    exact (List.length_filter_le _ _).trans hs

theorem terminal_drains (frame : ProviderInputFrame) (outcome : UtteranceOutcome) :
    Drains n (terminal frame outcome) :=
  Call.maintains_get fun _ _ => terminalForIdentity_drains _ _ _ _

theorem speak_drains (queued : QueuedOutput) (nowNs : Int) : Drains n (speak queued nowNs) := by
  refine Call.maintains_get fun s _ => Call.maintains_bind (emit_drains _ _) fun audio => ?_
  split
  · exact Call.maintains_fail _
  · refine Call.maintains_bind (Call.maintains_modify ?_) fun _ => ?_
    · intro s hs
      exact hs
    · exact Call.maintains_bind (emit_drains _ _) fun _ => Call.maintains_pure _

theorem drainFrame_drains (queued : QueuedOutput) (nowNs : Int) : Drains n (drainFrame queued nowNs) := by
  refine Call.maintains_get fun s _ => ?_
  split
  · exact Call.maintains_bind (terminal_drains _ _) fun _ => Call.maintains_pure _
  · refine Call.maintains_bind (speak_drains _ _) fun spoken => ?_
    split
    · exact Call.maintains_bind (terminal_drains _ _) fun _ => Call.maintains_pure _
    · exact Call.maintains_pure _

/-- The fuel of the loop is enough: each turn takes a frame, and none puts one back. -/
theorem drainLoop_empties (nowNs : Int) (fuel : Nat) : ∀ {s : Session}, s.outputQueue.length ≤ fuel →
    Call.wp (drainLoop nowNs fuel) ⟨fun _ s' => s'.outputQueue = [], fun _ _ => True, fun _ => True⟩ s := by
  induction fuel with
  | zero =>
    intro s hs
    exact List.length_eq_zero_iff.mp (Nat.le_zero.mp hs)
  | succ fuel ih =>
    intro s hs
    rw [drainLoop, Call.wp_bind, Call.wp_get]
    dsimp only
    split
    next hempty => exact hempty
    next queued rest hqueue =>
      rw [Call.wp_bind, Call.wp_modify, Call.wp_bind]
      have hrest : Within fuel (s.popOutput queued rest) := by
        rw [hqueue, List.length_cons] at hs
        exact Nat.le_of_succ_le_succ hs
      refine Call.wp_mono (drainFrame_drains queued nowNs _ hrest) ?_ (fun _ _ _ => trivial) (fun _ _ => trivial)
      intro events s' hs'
      dsimp only
      rw [Call.wp_bind]
      exact Call.wp_mono (ih hs') (fun _ _ h => h) (fun _ _ h => h) (fun _ h => h)

theorem drainOutput_empties (s : Session) (nowNs : Int) :
    Call.wp (drainOutput nowNs) ⟨fun _ s' => s'.outputQueue = [], fun _ _ => True, fun _ => True⟩ s := by
  rw [drainOutput, Call.wp_bind, Call.wp_get]
  exact drainLoop_empties nowNs _ (Nat.le_refl _)

end Draining

/-! ### Runs -/

/-- What a call on the engine answers. -/
abbrev Reply := Outcome Raised (List ProviderEngineEvent)

/-- The call returned, or was refused for anything but the capacity of the tombstones. -/
def tolerated : Reply → Bool
  | .ok _ => true
  | .err e => e.tolerable
  | .panic => false

/-- The events an answer holds, if it is about the session. -/
def answered (sessionId : Uuid) : Op × Reply → List ProviderEngineEvent
  | (op, .ok events) => if op.sessionId = sessionId then events else []
  | _ => []

/-- The events a run has emitted for a session. -/
def emitted (sessionId : Uuid) (log : List (Op × Reply)) : List ProviderEngineEvent :=
  log.flatMap (answered sessionId)

/-- What is told of an utterance is in order. -/
structure Orderly (u : Uuid) (events : List ProviderEngineEvent) : Prop where
  /-- Its audio is numbered `0, 1, 2, …`. -/
  audio : audioOf u events = List.range (audioOf u events).length
  /-- It has one final at most. -/
  once : (finalsOf u events).length ≤ 1
  /-- The final names the last audio. -/
  last : ∀ last ∈ finalsOf u events, last = (audioOf u events).getLast?
  /-- Nothing names the utterance after its final. -/
  silent : ∀ before e after, events = before ++ e :: after → (e.body.final u).isSome →
    ∀ e' ∈ after, e'.body.utterance ≠ some u

/-- A session, and the events it has emitted. -/
structure Sane (s : Session) (events : List ProviderEngineEvent) : Prop where
  inputMs : s.inputBufferedMs = framesMs s.inputFrames
  inputRoom : s.inputBufferedMs ≤ 800
  outputMs : s.outputBufferedMs = framesMs s.outputFrames
  outputRoom : s.outputBufferedMs ≤ 1200
  /-- Queued frames belong to utterances that are not over. -/
  live : ∀ frame ∈ s.inputFrames ++ s.outputFrames, frame.utteranceId ∉ s.terminalUtterances
  increasing : (events.map ProviderEngineEvent.eventSequence).Pairwise (· < ·)
  orderly : ∀ u, Orderly u events
  active : s.utteranceStreams.keys.length ≤ 64
  terminal : s.terminalUtterances.card ≤ 4096

theorem Running.orderly {u : Uuid} {events : List ProviderEngineEvent} (h : Running u events) :
    Orderly u events := by
  refine ⟨h.audio, by simp [h.final], by simp [h.final], ?_⟩
  rintro before e after rfl he
  obtain ⟨last, hlast⟩ := Option.isSome_iff_exists.mp he
  have hmem : last ∈ finalsOf u (before ++ e :: after) :=
    List.mem_filterMap.mpr ⟨e, List.mem_append_right _ (List.mem_cons_self ..), hlast⟩
  rw [h.final] at hmem
  cases hmem

theorem audioOf_eq_nil {u : Uuid} {events : List ProviderEngineEvent}
    (h : ∀ e ∈ events, e.body.utterance ≠ some u) : audioOf u events = [] :=
  List.filterMap_eq_nil_iff.mpr fun e he => EventBody.audio_eq_none (h e he)

theorem finalsOf_eq_nil {u : Uuid} {events : List ProviderEngineEvent}
    (h : ∀ e ∈ events, e.body.utterance ≠ some u) : finalsOf u events = [] :=
  List.filterMap_eq_nil_iff.mpr fun e he => EventBody.final_eq_none (h e he)

/-- A final is no audio. -/
theorem EventBody.audio_of_final {body : EventBody} {u : Uuid} (h : (body.final u).isSome) :
    body.audio u = none := by
  cases body <;> simp_all [EventBody.audio, EventBody.final]

theorem EventBody.utterance_of_final {body : EventBody} {u : Uuid} (h : (body.final u).isSome) :
    body.utterance = some u := by
  cases body <;> simp_all [EventBody.utterance, EventBody.final]

theorem Ended.orderly {u : Uuid} {events : List ProviderEngineEvent} (h : Ended u events) :
    Orderly u events := by
  obtain ⟨before, final, after, rfl, hbefore, hfinal, hafter⟩ := h
  have hsome : (final.body.final u).isSome := by rw [hfinal]; rfl
  have haudio : audioOf u (before ++ final :: after) = audioOf u before := by
    have hnone := EventBody.audio_of_final hsome
    have hnil := audioOf_eq_nil hafter
    unfold audioOf at hnil ⊢
    simp only [List.filterMap_append, List.filterMap_cons, hnone, hnil, List.append_nil]
  have hfinals : finalsOf u (before ++ final :: after) = [(audioOf u before).getLast?] := by
    have hnil := finalsOf_eq_nil hafter
    have hbefore := hbefore.final
    unfold finalsOf at hnil hbefore ⊢
    simp only [List.filterMap_append, List.filterMap_cons, hfinal, hnil, hbefore, List.nil_append]
  refine ⟨?_, ?_, ?_, ?_⟩
  · rw [haudio]
    exact hbefore.audio
  · rw [hfinals, List.length_singleton]
  · rw [hfinals, haudio]
    intro last hlast
    exact List.mem_singleton.mp hlast
  · intro before' e after' heq he e' he'
    rcases List.append_eq_append_iff.mp heq with ⟨mid, rfl, hmid⟩ | ⟨mid, hmid, hlate⟩
    · -- The final that was found is the one that ended the utterance, or stands after it.
      cases mid with
      | nil =>
        obtain ⟨-, rfl⟩ := List.cons.inj hmid
        exact hafter e' he'
      | cons first mid =>
        obtain ⟨-, rfl⟩ := List.cons.inj hmid
        exact absurd (EventBody.utterance_of_final he) (hafter e (by simp))
    · cases mid with
      | nil =>
        obtain ⟨-, rfl⟩ := List.cons.inj hlate
        exact hafter e' he'
      | cons first mid =>
        -- Before it there is none.
        obtain ⟨rfl, -⟩ := List.cons.inj hlate
        obtain ⟨last, hlast⟩ := Option.isSome_iff_exists.mp he
        have hmem : last ∈ finalsOf u before :=
          List.mem_filterMap.mpr ⟨e, by simp [hmid], hlast⟩
        rw [hbefore.final] at hmem
        cases hmem

theorem Kept.sane {s : Session} {events : List ProviderEngineEvent} (h : Kept s events) : Sane s events where
  inputMs := h.inputMs
  inputRoom := h.inputRoom
  outputMs := h.outputMs
  outputRoom := h.outputRoom
  live := h.live
  increasing := h.ordered
  orderly u := by
    by_cases hu : u ∈ s.terminalUtterances
    · exact (h.ended u hu).orderly
    · exact (h.running u hu).orderly
  active := h.active
  terminal := h.tombstones

theorem kept_opened (request : OpenProviderSession) : Kept (Session.opened request) [] := by
  refine ⟨rfl, Int.natCast_nonneg _, rfl, Int.natCast_nonneg _, ?_, Nat.zero_le _, Nat.zero_le _,
    List.Pairwise.nil, ?_, fun u _ => running_nil u, ?_, fun _ u _ => rfl⟩
  · intro frame hframe
    cases hframe
  · intro e he
    cases he
  · intro u hu
    exact absurd hu (Finset.notMem_empty u)

/-- A call, on this session or another one. -/
theorem apply_kept {engine : ProviderEngine} {sessionId : Uuid} {s : Session}
    {events : List ProviderEngineEvent} (hs : engine.sessions.lookup sessionId = some s) (h : Kept s events)
    (op : Op) (htolerated : op.sessionId = sessionId → tolerated (engine.apply op).1 = true) :
    ∃ s', (engine.apply op).2.sessions.lookup sessionId = some s'
      ∧ Kept s' (events ++ answered sessionId (op, (engine.apply op).1)) := by
  by_cases hop : op.sessionId = sessionId
  · subst hop
    have htolerated := htolerated rfl
    unfold ProviderEngine.apply ProviderEngine.onSession at htolerated ⊢
    rw [hs] at htolerated ⊢
    dsimp only at htolerated ⊢
    split
    · refine ⟨s, hs, ?_⟩
      simpa [answered] using h
    next hopen =>
      rw [if_neg hopen] at htolerated
      have hcall := call_told ⟨h, by simpa using hopen⟩ engine.injection op
      unfold Call.wp at hcall
      revert hcall htolerated
      rcases op.call engine.injection s with ⟨more | e | _, s'⟩ <;> intro htolerated hcall
      · refine ⟨s', AList.lookup_insert _, ?_⟩
        rw [answered, if_pos rfl]
        exact hcall
      · refine ⟨s', AList.lookup_insert _, ?_⟩
        rw [show answered op.sessionId (op, .err e) = [] from rfl, List.append_nil]
        exact hcall htolerated
      · exact absurd hcall id
  · refine ⟨s, ?_, ?_⟩
    · unfold ProviderEngine.apply ProviderEngine.onSession
      split
      · exact hs
      split
      · exact hs
      · rw [Table.lookup_insert_if, if_neg (Ne.symm hop)]
        exact hs
    · have hnone : answered sessionId (op, (engine.apply op).1) = [] := by
        rcases (engine.apply op).1 with events | e | _ <;> simp [answered, hop]
      rw [hnone, List.append_nil]
      exact h

theorem openSession_kept {engine engine' : ProviderEngine} {request : OpenProviderSession}
    {opened : ProviderEngineEvent} (hopen : engine.openSession request = (.ok opened, engine')) :
    ∃ s, engine'.sessions.lookup request.sessionId = some s ∧ Kept s [opened] := by
  unfold ProviderEngine.openSession at hopen
  split at hopen
  · cases hopen
  split at hopen
  · cases hopen
  split at hopen
  · cases hopen
  · cases hopen
    refine ⟨_, AList.lookup_insert _, ?_⟩
    exact (kept_opened request).quiet _ (.sessionOpened ..) (fun _ _ => nofun) (fun _ => rfl) (fun _ => rfl)

/-- Whatever is called on a session, and whatever is called on others, it stays sane. -/
theorem run_sane {engine engine' : ProviderEngine} {request : OpenProviderSession}
    {opened : ProviderEngineEvent} (hopen : engine.openSession request = (.ok opened, engine')) (ops : List Op)
    (htolerated : ∀ entry ∈ (exec ProviderEngine.apply engine' ops).1,
      entry.1.sessionId = request.sessionId → tolerated entry.2 = true) :
    ∃ s, (exec ProviderEngine.apply engine' ops).2.sessions.lookup request.sessionId = some s
      ∧ Sane s (opened :: emitted request.sessionId (exec ProviderEngine.apply engine' ops).1) := by
  have hkept : ∃ s, (exec ProviderEngine.apply engine' ops).2.sessions.lookup request.sessionId = some s
      ∧ Kept s (opened :: emitted request.sessionId (exec ProviderEngine.apply engine' ops).1) := by
    induction ops using List.reverseRecOn with
    | nil => exact openSession_kept hopen
    | append_singleton ops op ih =>
      rw [exec_concat] at htolerated ⊢
      obtain ⟨s, hs, hkept⟩ := ih fun entry hentry => htolerated entry (List.mem_append_left _ hentry)
      obtain ⟨s', hs', hkept'⟩ := apply_kept hs hkept op fun hop =>
        htolerated _ (List.mem_append_right _ (List.mem_singleton_self _)) hop
      refine ⟨s', hs', ?_⟩
      simpa [emitted, logStep] using hkept'
  obtain ⟨s, hs, hkept⟩ := hkept
  exact ⟨s, hs, hkept.sane⟩

theorem sampleFormat_rate : 16000 = 16000 ∨ 16000 = 24000 ∨ 16000 = 48000 := .inl rfl

theorem sampleFormat_channels : 1 = 1 ∨ 1 = 2 := .inl rfl

theorem sampleFormat_duration : 20 = 20 ∨ 20 = 40 ∨ 20 = 60 ∨ 20 = 80 ∨ 20 = 100 := .inl rfl

def sampleFormat : PcmFormat := ⟨16000, 1, 20, sampleFormat_rate, sampleFormat_channels, sampleFormat_duration⟩

def sampleRequest : OpenProviderSession where
  sessionId := 1#128
  providerId := .local
  directionId := .microphone
  sourceLanguage := .ru
  targetLanguage := .en
  mode := .balanced
  requestedInputFormat := sampleFormat
  requestedOutputFormat := sampleFormat
  voiceProfile := ⟨.en, .female, .piper, none, none⟩
  debugTextEnabled := true

def sampleEngine : ProviderEngine := ⟨⟨0, none, "mock transcript", "mock translation"⟩, ∅⟩

def sampleFrame (utteranceId : Uuid) (sequence : Nat) (endOfUtterance : Bool) : ProviderInputFrame where
  sessionId := 1#128
  directionId := .microphone
  streamId := 7#128
  utteranceId := utteranceId
  sequence := sequence
  captureMonotonicNs := 0
  sampleRateHz := 16000
  channels := 1
  frameDurationMs := 20
  sourceLanguage := .ru
  targetLanguage := .en
  mode := .balanced
  pcm := List.replicate 640 0
  endOfUtterance := endOfUtterance

/-- Two utterances that take turns in both queues: one ends with its audio and is spoken to once more,
    the other is cancelled. -/
def turnTaking : List Op :=
  [.enqueueFrame (sampleFrame 2#128 1 false) 0, .enqueueFrame (sampleFrame 3#128 2 false) 0,
    .processNext 1#128 0, .enqueueFrame (sampleFrame 2#128 3 true) 0, .processNext 1#128 0,
    .drainOutput 1#128 0, .processNext 1#128 0, .drainOutput 1#128 0,
    .enqueueFrame (sampleFrame 2#128 4 false) 0, .cancelUtterance ⟨1#128, .microphone, 3#128⟩,
    .closeSession ⟨1#128, .userStop⟩, .drainOutput 1#128 0]

theorem sampleEngine_opened :
    sampleEngine.openSession sampleRequest
      = (.ok ⟨1#128, .microphone, 1, .sessionOpened sampleFormat sampleFormat⟩,
        (sampleEngine.openSession sampleRequest).2) := rfl

theorem turnTaking_tolerated :
    ∀ entry ∈ (exec ProviderEngine.apply (sampleEngine.openSession sampleRequest).2 turnTaking).1,
      entry.1.sessionId = sampleRequest.sessionId → tolerated entry.2 = true := by
  decide +kernel

theorem turnTaking_sane :
    ∃ s, (exec ProviderEngine.apply (sampleEngine.openSession sampleRequest).2 turnTaking).2.sessions.lookup
        sampleRequest.sessionId = some s
      ∧ Sane s (⟨1#128, .microphone, 1, .sessionOpened sampleFormat sampleFormat⟩
        :: emitted sampleRequest.sessionId
          (exec ProviderEngine.apply (sampleEngine.openSession sampleRequest).2 turnTaking).1) :=
  run_sane sampleEngine_opened turnTaking turnTaking_tolerated

end Translator.Engine
