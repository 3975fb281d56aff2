import Translator.Realtime.Batches
import Translator.Schemes.Frames
import Translator.Schemes.Run

/-! `OpenAIRealtimeAdapter` with the tables of all its sessions, and what it makes of their audio. The
    remote service sends audio in pieces of any length; the adapter tells it in frames of 20 ms and
    keeps what is too short for one. `SharedAdapter` has the tables as the source keys them, and
    `OpenAIRealtimeAdapter` is what one session sees of it. -/

namespace Translator.Realtime
open Schemes
open Wire (Uuid)
open Sidecar (OpenProviderSession)

/-- An event with the session and the direction it names. -/
structure SessionEvent where
  sessionId : Uuid
  directionId : Core.AudioDirection
  event : ProviderEvent
  deriving DecidableEq

structure SharedAdapter where
  eventSequences : Table Uuid Nat
  audioSequences : Table (Uuid × Uuid) Nat
  audioRemainders : Table (Uuid × Uuid) (List UInt8)

namespace SharedAdapter

def new : SharedAdapter := ⟨∅, ∅, ∅⟩

variable (a : SharedAdapter)

/-- `_next_event_sequence`. -/
def nextEventSequence (sessionId : Uuid) : Nat × SharedAdapter :=
  let nextValue := (a.eventSequences.lookup sessionId).getD 0 + 1
  (nextValue, { a with eventSequences := a.eventSequences.insert sessionId nextValue })

/-- The audio of one frame. -/
def frameAudio (streamId utteranceId : Uuid) (nowNs sequence : Nat) (pcm : List UInt8) : AudioDelta where
  streamId := streamId
  utteranceId := utteranceId
  sequence := sequence
  providerMonotonicNs := nowNs
  sampleRateHz := openaiSampleRateHz
  channels := 1
  frameDurationMs := openaiFrameDurationMs
  pcm := pcm

def frameEvent (request : OpenProviderSession) (streamId utteranceId : Uuid)
    (nowNs eventSequence sequence : Nat) (pcm : List UInt8) : SessionEvent :=
  ⟨request.sessionId, request.directionId, eventSequence,
    .audioDelta (frameAudio streamId utteranceId nowNs sequence pcm)⟩

/-- The loop over the complete frames; also the sequence it ends with. -/
def tellFrames (request : OpenProviderSession) (streamId utteranceId : Uuid) (nowNs : Nat) :
    List (List UInt8) → Nat → SharedAdapter → List SessionEvent × Nat × SharedAdapter
  | [], sequence, a => ([], sequence, a)
  | pcm :: frames, sequence, a =>
    let (eventSequence, a) := a.nextEventSequence request.sessionId
    let (events, last, a) := tellFrames request streamId utteranceId nowNs frames (sequence + 1) a
    (frameEvent request streamId utteranceId nowNs eventSequence sequence pcm :: events, last, a)

/-- The branch for audio. -/
def mapAudio (request : OpenProviderSession) (pcm : List UInt8) (streamId utteranceId : Uuid)
    (nowNs : Nat) : List SessionEvent × SharedAdapter :=
  let sequenceKey := (request.sessionId, utteranceId)
  let combined := (a.audioRemainders.lookup sequenceKey).getD [] ++ pcm
  let completeBytes := combined.length - combined.length % openaiFrameBytes
  let complete := combined.take completeBytes
  let a := { a with
    audioRemainders := a.audioRemainders.insert sequenceKey (combined.drop completeBytes) }
  let sequence := (a.audioSequences.lookup sequenceKey).getD 0
  let (events, sequence, a) :=
    tellFrames request streamId utteranceId nowNs (Schemes.framesOf openaiFrameBytes complete) sequence a
  (events, { a with audioSequences := a.audioSequences.insert sequenceKey sequence })

def textEvent (codec : Codec) (request : OpenProviderSession) (text : PyStr) (body : Body) :
    Except AdapterError (List SessionEvent) × SharedAdapter :=
  let (eventSequence, a) := a.nextEventSequence request.sessionId
  (if codec.acceptsText text then
      .ok [⟨request.sessionId, request.directionId, eventSequence, body⟩]
    else .error .invalidText, a)

/-- `map_realtime_events`. -/
def mapRealtimeEvents (codec : Codec) (request : OpenProviderSession) (event : List (PyStr × Json))
    (streamId utteranceId : Uuid) (nowNs : Nat) :
    Except AdapterError (List SessionEvent) × SharedAdapter :=
  let eventType := (Json.get event (pyStr "type")).bind Json.string?
  let delta := (Json.get event (pyStr "delta")).bind Json.string?
  if eventType = some (pyStr "session.output_audio.delta") then
    match delta with
    | none => (.ok [], a)
    | some delta =>
      match codec.b64decode delta with
      | none => (.error .invalidOpenaiAudioDelta, a)
      | some pcm =>
        let (events, a) := a.mapAudio request pcm streamId utteranceId nowNs
        (.ok events, a)
  else if !request.debugTextEnabled then (.ok [], a)
  else
    match delta with
    | none => (.ok [], a)
    | some delta =>
      if eventType = some (pyStr "session.input_transcript.delta") then
        a.textEvent codec request delta (.transcriptDelta streamId utteranceId delta)
      else if eventType = some (pyStr "session.output_transcript.delta") then
        a.textEvent codec request delta (.translationDelta streamId utteranceId delta)
      else (.ok [], a)

/-- One call of `map_realtime_events`. -/
structure MapCall where
  request : OpenProviderSession
  event : List (PyStr × Json)
  streamId : Uuid
  utteranceId : Uuid
  nowNs : Nat

def MapCall.key (call : MapCall) : Uuid × Uuid := (call.request.sessionId, call.utteranceId)

/-- The audio of a call, where its event is audio with a valid payload. -/
def MapCall.audio? (codec : Codec) (call : MapCall) : Option (List UInt8) := eventAudio codec call.event

abbrev Mapping := Except AdapterError (List SessionEvent)

def step (codec : Codec) (a : SharedAdapter) (call : MapCall) : Mapping × SharedAdapter :=
  a.mapRealtimeEvents codec call.request call.event call.streamId call.utteranceId call.nowNs

/-- The audio among some events that names a session and an utterance. -/
def audioOf (key : Uuid × Uuid) (events : List SessionEvent) : List AudioDelta :=
  (events.filter fun e => e.sessionId = key.1 ∧ e.event.body.utterance? = some key.2).filterMap
    fun e => e.event.body.audio?

/-- The audio told for a key in the whole run. -/
def told (key : Uuid × Uuid) (log : List (MapCall × Mapping)) : List AudioDelta :=
  log.flatMap fun entry => match entry.2 with
    | .ok events => audioOf key events
    | .error _ => []

/-- The audio of a key that came in. -/
def received (codec : Codec) (key : Uuid × Uuid) (calls : List MapCall) : List UInt8 :=
  calls.flatMap fun call => if call.key = key then (call.audio? codec).getD [] else []

/-- The stored remainder. -/
def remainder (a : SharedAdapter) (key : Uuid × Uuid) : List UInt8 :=
  (a.audioRemainders.lookup key).getD []

/-- The sequence the next frame takes. -/
def next (a : SharedAdapter) (key : Uuid × Uuid) : Nat := (a.audioSequences.lookup key).getD 0

def lastEvent (a : SharedAdapter) (sessionId : Uuid) : Nat :=
  (a.eventSequences.lookup sessionId).getD 0

/-! ### One call -/

variable {codec : Codec} {request : OpenProviderSession} {streamId utteranceId sessionId : Uuid} {nowNs : Nat}
  {key : Uuid × Uuid} {a' : SharedAdapter}

theorem lastEvent_next (a : SharedAdapter) (sessionId other : Uuid) :
    (a.nextEventSequence sessionId).2.lastEvent other
      = a.lastEvent other + if other = sessionId then 1 else 0 := by
  simp only [lastEvent, nextEventSequence]
  split
  · next h => rw [h, AList.lookup_insert]; rfl
  · next h => rw [AList.lookup_insert_ne h]; rfl

/-- What the loop tells, and what it leaves of the tables. -/
theorem tellFrames_eq (request : OpenProviderSession) (streamId utteranceId : Uuid) (nowNs : Nat)
    (frames : List (List UInt8)) : ∀ (sequence : Nat) (a : SharedAdapter),
    let told := tellFrames request streamId utteranceId nowNs frames sequence a
    told.1 = frames.mapIdx (fun i pcm => frameEvent request streamId utteranceId nowNs
        (a.lastEvent request.sessionId + i + 1) (sequence + i) pcm)
      ∧ told.2.1 = sequence + frames.length
      ∧ told.2.2.audioSequences = a.audioSequences ∧ told.2.2.audioRemainders = a.audioRemainders
      ∧ ∀ other, told.2.2.lastEvent other
        = a.lastEvent other + if other = request.sessionId then frames.length else 0 := by
  induction frames with
  | nil => intro sequence a; simp [tellFrames]
  | cons pcm frames ih =>
    intro sequence a
    obtain ⟨hevents, hlast, hsequences, hremainders, hother⟩ :=
      ih (sequence + 1) (a.nextEventSequence request.sessionId).2
    refine ⟨?_, ?_, hsequences, hremainders, fun other => ?_⟩
    · simp only [tellFrames, List.mapIdx_cons, hevents, lastEvent_next, if_true]
      refine congrArg₂ List.cons rfl (congrArg (List.mapIdx · frames) ?_)
      funext i pcm
      rw [Nat.add_right_comm _ 1 i, Nat.add_assoc sequence 1 i, Nat.add_comm 1 i]
      rfl
    · simp only [tellFrames, hlast, List.length_cons]
      omega
    · simp only [tellFrames, hother, lastEvent_next, List.length_cons]
      split <;> omega

theorem openaiFrameBytes_pos : 0 < openaiFrameBytes := by decide

/-- The audio among events that all name one key. -/
theorem audioOf_named {events : List SessionEvent} (named : Uuid × Uuid)
    (h : ∀ e ∈ events, e.sessionId = named.1 ∧ e.event.body.utterance? = some named.2) :
    audioOf key events = if key = named then events.filterMap fun e => e.event.body.audio? else [] := by
  unfold audioOf
  split
  · next hkey =>
    subst hkey
    rw [List.filter_eq_self.mpr fun e he => by simpa using h e he]
  · next hkey =>
    rw [List.filter_eq_nil_iff.mpr, List.filterMap_nil]
    intro e he hnames
    obtain ⟨hsession, hutterance⟩ := h e he
    simp only [hsession, hutterance, Option.some.injEq, decide_eq_true_eq] at hnames
    exact hkey (Prod.ext hnames.1.symm hnames.2.symm)

/-- What a call with audio tells, and what it leaves of the tables. -/
theorem mapAudio_spec (a : SharedAdapter) (request : OpenProviderSession) (streamId utteranceId : Uuid)
    (nowNs : Nat) {own : Uuid × Uuid} (hown : own = (request.sessionId, utteranceId))
    {combined pcm : List UInt8} (hcombined : combined = a.remainder own ++ pcm) :
    let frames := Schemes.framesOf openaiFrameBytes combined
    let mapped := a.mapAudio request pcm streamId utteranceId nowNs
    mapped.1 = frames.mapIdx (fun i pcm => frameEvent request streamId utteranceId nowNs
        (a.lastEvent request.sessionId + i + 1) (a.next own + i) pcm)
      ∧ (∀ key, mapped.2.remainder key
        = if key = own then restOf openaiFrameBytes combined else a.remainder key)
      ∧ (∀ key, mapped.2.next key = a.next key + if key = own then frames.length else 0)
      ∧ ∀ other, mapped.2.lastEvent other
        = a.lastEvent other + if other = request.sessionId then frames.length else 0 := by
  subst hown
  have hbytes : combined.length - combined.length % openaiFrameBytes
      = combined.length / openaiFrameBytes * openaiFrameBytes := (Nat.div_mul_self_eq_mod_sub_self ..).symm
  have hlookup : (a.audioRemainders.lookup (request.sessionId, utteranceId)).getD [] ++ pcm = combined :=
    hcombined.symm
  simp only [mapAudio, hlookup, hbytes, framesOf_take openaiFrameBytes_pos]
  obtain ⟨hevents, hlast, hsequences, hremainders, hother⟩ := tellFrames_eq request streamId
    utteranceId nowNs (Schemes.framesOf openaiFrameBytes combined) (a.next (request.sessionId, utteranceId))
    { a with
      audioRemainders := a.audioRemainders.insert (request.sessionId, utteranceId)
        (combined.drop (combined.length / openaiFrameBytes * openaiFrameBytes)) }
  refine ⟨hevents, fun key => ?_, fun key => ?_, hother⟩
  · simp only [remainder]
    erw [hremainders]
    split
    · next h => rw [h, AList.lookup_insert]; rfl
    · next h => rw [AList.lookup_insert_ne h]
  · simp only [next]
    split
    · next h =>
      rw [h, AList.lookup_insert]
      exact hlast
    · next h =>
      rw [AList.lookup_insert_ne h]
      erw [hsequences]
      rfl

/-- The audio a call with audio tells. -/
theorem audioOf_mapAudio (a : SharedAdapter) (request : OpenProviderSession) (streamId utteranceId : Uuid)
    (nowNs : Nat) {own : Uuid × Uuid} (hown : own = (request.sessionId, utteranceId)) (pcm : List UInt8)
    (key : Uuid × Uuid) :
    audioOf key (a.mapAudio request pcm streamId utteranceId nowNs).1
      = if key = own then
          (Schemes.framesOf openaiFrameBytes (a.remainder own ++ pcm)).mapIdx fun i pcm =>
            frameAudio streamId utteranceId nowNs (a.next own + i) pcm
        else [] := by
  rw [(mapAudio_spec a request streamId utteranceId nowNs hown (Eq.refl (a.remainder own ++ pcm))).1,
    audioOf_named own]
  · refine if_congr Iff.rfl ?_ rfl
    rw [List.mapIdx_eq_zipIdx_map, List.filterMap_map, List.mapIdx_eq_zipIdx_map]
    exact List.filterMap_eq_map ▸ rfl
  · intro e he
    rw [List.mapIdx_eq_zipIdx_map] at he
    obtain ⟨x, -, rfl⟩ := List.mem_map.mp he
    rw [hown]
    exact ⟨rfl, rfl⟩

/-- Nothing that was answered is audio, and the audio tables are as they were. -/
structure Silent (a : SharedAdapter) (answer : Mapping × SharedAdapter) : Prop where
  mute : ∀ events, answer.1 = .ok events → ∀ key, audioOf key events = []
  remainders : answer.2.audioRemainders = a.audioRemainders
  sequences : answer.2.audioSequences = a.audioSequences

theorem silent_nothing (a : SharedAdapter) : a.Silent (.ok [], a) :=
  ⟨by rintro _ ⟨⟩ _; rfl, rfl, rfl⟩

theorem silent_text (a : SharedAdapter) (text : PyStr) {body : Body} (hbody : body.audio? = none) :
    a.Silent (a.textEvent codec request text body) := by
  refine ⟨fun events h key => ?_, rfl, rfl⟩
  simp only [textEvent] at h
  split at h
  · cases h
    refine List.filterMap_eq_nil_iff.mpr fun e he => ?_
    rw [List.mem_singleton.mp (List.mem_filter.mp he).1]
    exact hbody
  · cases h

/-- A call either adds audio to its key or leaves the audio of every key as it was. -/
theorem step_cases (codec : Codec) (a : SharedAdapter) (call : MapCall) :
    (∃ pcm, call.audio? codec = some pcm
      ∧ a.step codec call = ((.ok (a.mapAudio call.request pcm call.streamId call.utteranceId call.nowNs).1),
          (a.mapAudio call.request pcm call.streamId call.utteranceId call.nowNs).2))
      ∨ call.audio? codec = none ∧ a.Silent (a.step codec call) := by
  unfold step mapRealtimeEvents MapCall.audio? eventAudio OpenAISession.eventType
  dsimp only
  split
  · next haudio =>
    cases hdelta : (Json.get call.event (pyStr "delta")).bind Json.string? with
    | none => exact .inr ⟨rfl, silent_nothing a⟩
    | some delta =>
      dsimp only [Option.bind_some]
      cases hpcm : codec.b64decode delta with
      | none => exact .inr ⟨rfl, by rintro _ ⟨⟩, rfl, rfl⟩
      | some pcm => exact .inl ⟨pcm, rfl, rfl⟩
  · refine .inr ⟨rfl, ?_⟩
    repeat' split
    · exact silent_nothing a
    · exact silent_nothing a
    · exact silent_text a _ rfl
    · exact silent_text a _ rfl
    · exact silent_nothing a

/-! ### Every run -/

/-- The audio of a key, as it was told and as it is kept, is the audio that came in, cut in frames. -/
structure Reframed (codec : Codec) (key : Uuid × Uuid) (log : List (MapCall × Mapping))
    (a : SharedAdapter) : Prop where
  cut : Cut openaiFrameBytes ((told key log).map AudioDelta.pcm) (a.remainder key)
    (received codec key (log.map Prod.fst))
  numbered : (told key log).map AudioDelta.sequence = List.range (told key log).length
  next : a.next key = (told key log).length
  answered : ∀ entry ∈ log, (entry.1.audio? codec).isSome = true → ∃ events, entry.2 = .ok events

theorem reframed_new (codec : Codec) (key : Uuid × Uuid) : Reframed codec key [] new where
  cut := cut_nil openaiFrameBytes_pos
  numbered := rfl
  next := rfl
  answered := by simp

theorem told_concat (log : List (MapCall × Mapping)) (call : MapCall) (events : List SessionEvent) :
    told key (log ++ [(call, .ok events)]) = told key log ++ audioOf key events := by
  rw [told, List.flatMap_append, List.flatMap_singleton]
  rfl

theorem received_concat (codec : Codec) (calls : List MapCall) (call : MapCall) :
    received codec key (calls ++ [call])
      = received codec key calls ++ if call.key = key then (call.audio? codec).getD [] else [] := by
  rw [received, List.flatMap_append, List.flatMap_singleton]
  rfl

theorem map_frameAudio {β : Type} (f : AudioDelta → β) (frames : List (List UInt8)) (first : Nat) :
    (frames.mapIdx fun i pcm => frameAudio streamId utteranceId nowNs (first + i) pcm).map f
      = frames.zipIdx.map fun frame => f (frameAudio streamId utteranceId nowNs (first + frame.2) frame.1) := by
  rw [List.mapIdx_eq_zipIdx_map, List.map_map]
  rfl

theorem reframed_step {log : List (MapCall × Mapping)} {a : SharedAdapter} (h : Reframed codec key log a)
    (call : MapCall) :
    Reframed codec key (log ++ [(call, (a.step codec call).1)]) (a.step codec call).2 := by
  have hanswered : ((call.audio? codec).isSome = true → ∃ events, (a.step codec call).1 = .ok events) →
      ∀ entry ∈ log ++ [(call, (a.step codec call).1)], (entry.1.audio? codec).isSome = true →
        ∃ events, entry.2 = .ok events := by
    intro hcall entry hmem haudio
    rcases List.mem_append.mp hmem with hmem | hmem
    · exact h.answered entry hmem haudio
    · cases List.mem_singleton.mp hmem
      exact hcall haudio
  rcases step_cases codec a call with ⟨pcm, hpcm, hstep⟩ | ⟨hnone, hsilent⟩
  case inr =>
    -- nothing came in for any key, and nothing was told
    have htold : told key (log ++ [(call, (a.step codec call).1)]) = told key log := by
      rw [told, List.flatMap_append, List.flatMap_singleton]
      cases hanswer : (a.step codec call).1 with
      | ok events => exact (congrArg _ (hsilent.mute events hanswer key)).trans (List.append_nil _)
      | error e => exact List.append_nil _
    have hreceived : received codec key ((log ++ [(call, (a.step codec call).1)]).map Prod.fst)
        = received codec key (log.map Prod.fst) := by
      rw [List.map_append, List.map_singleton, received_concat, hnone]
      exact (congrArg _ (ite_self _)).trans (List.append_nil _)
    refine ⟨?_, by rw [htold]; exact h.numbered, ?_, hanswered (by rw [hnone]; simp)⟩
    · rw [htold, hreceived, remainder, hsilent.remainders]
      exact h.cut
    · rw [htold, SharedAdapter.next, hsilent.sequences]
      exact h.next
  have hown : call.key = (call.request.sessionId, call.utteranceId) := rfl
  obtain ⟨-, hremainder, hnext, -⟩ := mapAudio_spec a call.request call.streamId call.utteranceId
    call.nowNs hown (Eq.refl (a.remainder call.key ++ pcm))
  have hsounds := audioOf_mapAudio a call.request call.streamId call.utteranceId call.nowNs hown pcm key
  rw [hstep] at hanswered ⊢
  dsimp only at hanswered ⊢
  refine ⟨?_, ?_, ?_, hanswered fun _ => ⟨_, rfl⟩⟩
  · rw [told_concat, hsounds, List.map_append, List.map_append, List.map_singleton, received_concat, hpcm,
      hremainder]
    by_cases hkey : key = call.key
    · subst hkey
      rw [if_pos rfl, if_pos rfl, if_pos rfl, map_frameAudio]
      refine h.cut.append ?_
      have hframes : (Schemes.framesOf openaiFrameBytes (a.remainder call.key ++ pcm)).zipIdx.map
          (fun frame => (frameAudio call.streamId call.utteranceId call.nowNs
            (a.next call.key + frame.2) frame.1).pcm)
          = Schemes.framesOf openaiFrameBytes (a.remainder call.key ++ pcm) := List.zipIdx_map_fst ..
      rw [hframes]
      exact cut_stream openaiFrameBytes_pos _
    · rw [if_neg hkey, if_neg hkey, if_neg (Ne.symm hkey), List.map_nil, List.append_nil, List.append_nil]
      exact h.cut
  · rw [told_concat, hsounds, List.map_append, h.numbered, List.length_append, List.range_add]
    refine congrArg _ ?_
    split
    · next hkey =>
      subst hkey
      rw [map_frameAudio, List.length_mapIdx, ← h.next, List.range_eq_range', ← List.zipIdx_map_snd,
        List.map_map]
      rfl
    · rfl
  · rw [told_concat, hsounds, hnext, List.length_append, h.next]
    split
    · rw [List.length_mapIdx]
    · rfl

theorem run_reframed (codec : Codec) (calls : List MapCall) (key : Uuid × Uuid) :
    Reframed codec key (exec (step codec) new calls).1 (exec (step codec) new calls).2 :=
  exec_invariant (I := Reframed codec key) (reframed_new codec key)
    (fun _ _ call h _ => reframed_step h call) calls (adm_true _ _ _)

/-- For every order of calls and every key: audio with a valid payload is always mapped; what was told
    and what is kept make up what came in; the frames are of 20 ms and numbered from 0 on; the rest is
    shorter than a frame; and the frames are a function of what came in alone. -/
theorem audio_reframed (codec : Codec) (calls : List MapCall) (key : Uuid × Uuid) :
    let run := exec (step codec) new calls
    let frames := told key run.1
    let came := received codec key calls
    (∀ entry ∈ run.1, (entry.1.audio? codec).isSome = true → ∃ events, entry.2 = .ok events)
      ∧ frames.flatMap AudioDelta.pcm ++ run.2.remainder key = came
      ∧ (∀ frame ∈ frames, frame.pcm.length = openaiFrameBytes)
      ∧ frames.map AudioDelta.sequence = List.range frames.length
      ∧ (run.2.remainder key).length < openaiFrameBytes
      ∧ frames.map AudioDelta.pcm = Schemes.framesOf openaiFrameBytes came := by
  intro run frames came
  have h := run_reframed codec calls key
  have hcut : Cut openaiFrameBytes (frames.map AudioDelta.pcm) (run.2.remainder key) came := by
    have := h.cut
    rwa [exec_ops] at this
  refine ⟨h.answered, ?_, fun frame hframe => ?_, h.numbered, hcut.short, hcut.unique.1⟩
  · rw [List.flatMap_def]
    exact hcut.joined
  · exact hcut.whole _ (List.mem_map_of_mem hframe)

/-! ### What one session sees -/

/-- The tables of one session, as its runtime knows them. -/
structure Shows (a : SharedAdapter) (sessionId : Uuid) (s : OpenAIRealtimeAdapter) : Prop where
  event : a.lastEvent sessionId = s.eventSequence
  next : ∀ u, a.next (sessionId, u) = s.next u
  remainder : ∀ u, a.remainder (sessionId, u) = (s.audioRemainders.lookup u).getD []

variable {a : SharedAdapter} {s : OpenAIRealtimeAdapter} {event : List (PyStr × Json)}

/-- The frames, numbered as the session numbers them. -/
theorem mapAudio_audioEvents (h : a.Shows request.sessionId s) (pcm : List UInt8) :
    (a.mapAudio request pcm streamId utteranceId nowNs).1
      = (s.audioEvents streamId utteranceId nowNs (s.combined utteranceId pcm)).map
          (SessionEvent.mk request.sessionId request.directionId) := by
  have hcombined : a.remainder (request.sessionId, utteranceId) ++ pcm = s.combined utteranceId pcm := by
    rw [h.remainder, OpenAIRealtimeAdapter.combined]
  rw [(mapAudio_spec a request streamId utteranceId nowNs rfl hcombined.symm).1]
  refine List.ext_getElem ?_ fun i h₁ h₂ => ?_
  · simp [Schemes.framesOf, OpenAIRealtimeAdapter.audioEvents]
  · simp only [List.getElem_mapIdx, List.getElem_map, Schemes.framesOf, OpenAIRealtimeAdapter.audioEvents,
      List.getElem_range, frameEvent, frameAudio, h.event, h.next, OpenAIRealtimeAdapter.next]

theorem mapAudio_shows (h : a.Shows request.sessionId s) (pcm : List UInt8) :
    (a.mapAudio request pcm streamId utteranceId nowNs).2.Shows request.sessionId
      (s.heardAudio utteranceId (s.combined utteranceId pcm)) := by
  have hcombined : a.remainder (request.sessionId, utteranceId) ++ pcm = s.combined utteranceId pcm := by
    rw [h.remainder, OpenAIRealtimeAdapter.combined]
  obtain ⟨-, hremainder, hnext, hevent⟩ :=
    mapAudio_spec a request streamId utteranceId nowNs rfl hcombined.symm
  have hlength : (Schemes.framesOf openaiFrameBytes (s.combined utteranceId pcm)).length
      = (s.combined utteranceId pcm).length / openaiFrameBytes := by
    rw [Schemes.framesOf, List.length_map, List.length_range]
  refine ⟨?_, fun u => ?_, fun u => ?_⟩
  · rw [hevent, if_pos rfl, h.event, hlength]
    rfl
  · rw [hnext, h.next, hlength, OpenAIRealtimeAdapter.next, OpenAIRealtimeAdapter.next,
      OpenAIRealtimeAdapter.heardAudio]
    by_cases hu : u = utteranceId
    · rw [hu, if_pos rfl, AList.lookup_insert]
      rfl
    · rw [if_neg (by rintro ⟨⟩; exact hu rfl), AList.lookup_insert_ne hu]
      rfl
  · rw [hremainder, h.remainder, OpenAIRealtimeAdapter.heardAudio]
    by_cases hu : u = utteranceId
    · rw [hu, if_pos rfl, AList.lookup_insert]
      rfl
    · rw [if_neg (by rintro ⟨⟩; exact hu rfl), AList.lookup_insert_ne hu]

theorem textEvent_shows (h : a.Shows request.sessionId s) (text : PyStr) (body : Body) :
    (a.textEvent codec request text body).1 = ((s.textEvent codec text body).1).map
        (List.map (SessionEvent.mk request.sessionId request.directionId))
      ∧ (a.textEvent codec request text body).2.Shows request.sessionId (s.textEvent codec text body).2 := by
  have hevent : (a.eventSequences.lookup request.sessionId).getD 0 = s.eventSequence := h.event
  refine ⟨?_, ?_, h.next, h.remainder⟩
  · simp only [textEvent, OpenAIRealtimeAdapter.textEvent, nextEventSequence, hevent]
    split <;> rfl
  · exact (lastEvent_next a request.sessionId request.sessionId).trans (by rw [if_pos rfl, h.event]; rfl)

/-- One session sees of the adapter what it would see of one of its own. -/
theorem mapRealtimeEvents_shown (h : a.Shows request.sessionId s) :
    (a.mapRealtimeEvents codec request event streamId utteranceId nowNs).1
      = ((s.mapRealtimeEvents codec request.debugTextEnabled event streamId utteranceId nowNs).1).map
          (List.map (SessionEvent.mk request.sessionId request.directionId))
      ∧ (a.mapRealtimeEvents codec request event streamId utteranceId nowNs).2.Shows request.sessionId
        (s.mapRealtimeEvents codec request.debugTextEnabled event streamId utteranceId nowNs).2 := by
  unfold mapRealtimeEvents OpenAIRealtimeAdapter.mapRealtimeEvents
  dsimp only
  split
  · cases (Json.get event (pyStr "delta")).bind Json.string? with
    | none => exact ⟨rfl, h⟩
    | some delta =>
      dsimp only
      cases codec.b64decode delta with
      | none => exact ⟨rfl, h⟩
      | some pcm => exact ⟨congrArg Except.ok (mapAudio_audioEvents h pcm), mapAudio_shows h pcm⟩
  · split
    · exact ⟨rfl, h⟩
    · cases (Json.get event (pyStr "delta")).bind Json.string? with
      | none => exact ⟨rfl, h⟩
      | some delta =>
        dsimp only
        split
        · exact textEvent_shows h delta _
        · split
          · exact textEvent_shows h delta _
          · exact ⟨rfl, h⟩

/-- A call for one session does not show in another. -/
theorem mapRealtimeEvents_elsewhere (h : a.Shows sessionId s) (hother : sessionId ≠ request.sessionId) :
    (a.mapRealtimeEvents codec request event streamId utteranceId nowNs).2.Shows sessionId s := by
  have htext : ∀ text body, (a.textEvent codec request text body).2.Shows sessionId s := fun text body =>
    ⟨(lastEvent_next a request.sessionId sessionId).trans (by rw [if_neg hother]; exact h.event), h.next,
      h.remainder⟩
  unfold mapRealtimeEvents
  dsimp only
  split
  · cases (Json.get event (pyStr "delta")).bind Json.string? with
    | none => exact h
    | some delta =>
      dsimp only
      cases codec.b64decode delta with
      | none => exact h
      | some pcm =>
        obtain ⟨-, hremainder, hnext, hevent⟩ := mapAudio_spec a request streamId utteranceId nowNs rfl
          (Eq.refl (a.remainder (request.sessionId, utteranceId) ++ pcm))
        have hkey : ∀ u, (sessionId, u) ≠ (request.sessionId, utteranceId) := by
          rintro u ⟨⟩
          exact hother rfl
        refine ⟨?_, fun u => ?_, fun u => ?_⟩
        · exact (hevent sessionId).trans (by rw [if_neg hother]; exact h.event)
        · exact (hnext _).trans (by rw [if_neg (hkey u)]; exact h.next u)
        · exact (hremainder _).trans (by rw [if_neg (hkey u)]; exact h.remainder u)
  · repeat' split
    · exact h
    · exact h
    · exact htext _ _
    · exact htext _ _
    · exact h

end SharedAdapter

end Translator.Realtime
