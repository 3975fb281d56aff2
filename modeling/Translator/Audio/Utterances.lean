import Translator.Audio.Segmenter
import Translator.Schemes.Blocks
import Translator.Schemes.Run

/-! What comes out of the segmenter, whatever goes in: one `Segment` after the other, each a block of
    the captured frames. `Cutting` says how far the segmenter has got with the frames it has taken;
    every call keeps it, and no `expect` of the source is reached. -/

namespace Translator.Audio
open Schemes Core
open Wire (Uuid)

/-- An utterance as it is told: its first frame, the frames after it, and whether it has ended. -/
structure Segment where
  utteranceId : Uuid
  first : PcmFrame
  rest : List PcmFrame
  ended : Bool

namespace Segment

def frames (seg : Segment) : List PcmFrame := seg.first :: seg.rest

/-- The events that tell an utterance: its start, its frames, and the end on the last one. -/
def events (streamId : Uuid) (seg : Segment) : List CaptureEvent :=
  .speechStarted streamId seg.utteranceId seg.first.captureMonotonicNs
    :: seg.frames.dropLast.map (fun frame => .frame streamId seg.utteranceId frame false)
    ++ seg.frames.getLast?.toList.map (fun frame => .frame streamId seg.utteranceId frame seg.ended)

/-- The utterance goes on with more frames. -/
def extend (seg : Segment) (more : List PcmFrame) (ended : Bool) : Segment :=
  { seg with rest := seg.rest ++ more, ended := ended }

variable {seg : Segment}

@[simp] theorem frames_extend (more : List PcmFrame) (ended : Bool) :
    (seg.extend more ended).frames = seg.frames ++ more := rfl

theorem events_open (streamId : Uuid) (h : seg.ended = false) :
    seg.events streamId = .speechStarted streamId seg.utteranceId seg.first.captureMonotonicNs
      :: seg.frames.map (fun frame => .frame streamId seg.utteranceId frame false) := by
  rcases List.eq_nil_or_concat seg.frames with hnil | ⟨init, last, hl⟩
  · cases hnil
  · simp [events, hl, h]

theorem events_extend (streamId : Uuid) (h : seg.ended = false) (more : List PcmFrame)
    (last : PcmFrame) (ended : Bool) :
    (seg.extend (more ++ [last]) ended).events streamId = seg.events streamId
      ++ more.map (fun frame => .frame streamId seg.utteranceId frame false)
      ++ [.frame streamId seg.utteranceId last ended] := by
  rw [events_open streamId h, events, frames_extend, ← List.append_assoc, List.dropLast_concat,
    List.getLast?_concat]
  simp [extend]

end Segment

namespace SpeechSegmenter

/-- One call of `process`: the frame, what the detector makes of it and the next fresh identifier. -/
structure Input where
  frame : PcmFrame
  voice : Except VadError Bool
  freshId : Uuid

/-- The frame has the provider's format and the detector has decided. -/
def Input.Accepted (input : Input) : Prop :=
  input.frame.format = .providerDefault ∧ ∃ voice, input.voice = .ok voice

instance (input : Input) : Decidable input.Accepted :=
  decidable_of_iff (input.frame.format = .providerDefault ∧ input.voice.isOk) (by
    unfold Input.Accepted
    cases input.voice <;> simp [Except.isOk, Except.toBool])

def step (g : SpeechSegmenter) (input : Input) : Segmented :=
  g.process input.frame input.voice input.freshId

/-- What a run has told, in order. -/
def told (log : List (Input × Outcome VadError (List CaptureEvent))) : List CaptureEvent :=
  log.flatMap fun entry => match entry.2 with
    | .ok events => events
    | _ => []

/-- The frames a run has taken. -/
def taken (inputs : List Input) : List PcmFrame :=
  (inputs.filter fun input => decide input.Accepted).map Input.frame

/-- The bounds the constructors give every segmenter. -/
structure Bounded (g : SpeechSegmenter) : Prop where
  confirmation : 0 < g.speechConfirmationFrames
  fits : g.speechConfirmationFrames < g.maxUtteranceFrames
  countable : g.maxUtteranceFrames < 2 ^ 63
  adaptive : 0 < g.adaptiveSilenceFrames

theorem bounded_with (streamId : Uuid) (a b c d : Nat) :
    Bounded (withConfirmationAndAdaptiveFrames streamId a b c d) where
  confirmation := by
    simp only [withConfirmationAndAdaptiveFrames, minSpeechConfirmationFrames]
    omega
  fits := by
    simp only [withConfirmationAndAdaptiveFrames, minSpeechConfirmationFrames,
      maxSpeechConfirmationFrames, minMaxUtteranceFrames, maxMaxUtteranceFrames]
    omega
  countable := by
    simp only [withConfirmationAndAdaptiveFrames, minMaxUtteranceFrames, maxMaxUtteranceFrames]
    omega
  adaptive := by
    simp only [withConfirmationAndAdaptiveFrames]
    omega

/-- The settings of the segmenter are those it was built with. -/
structure SameSettings (g g' : SpeechSegmenter) : Prop where
  stream : g'.streamId = g.streamId
  confirmation : g'.speechConfirmationFrames = g.speechConfirmationFrames
  max : g'.maxUtteranceFrames = g.maxUtteranceFrames
  adaptive : g'.adaptiveSilenceFrames = g.adaptiveSilenceFrames

theorem sameSettings_trans {g g' g'' : SpeechSegmenter} (h : SameSettings g g')
    (h' : SameSettings g' g'') : SameSettings g g'' where
  stream := h'.stream.trans h.stream
  confirmation := h'.confirmation.trans h.confirmation
  max := h'.max.trans h.max
  adaptive := h'.adaptive.trans h.adaptive

/-- How far the segmenter has got: the segments it has told, as blocks of the frames it has taken. -/
inductive Cutting (g : SpeechSegmenter) (stream : List PcmFrame) : List Segment → Prop
  /-- Between utterances; the last frames may become the start of one. -/
  | waiting (segments : List Segment) (before : List PcmFrame) (hid : g.utteranceId = none)
      (hsilence : g.trailingSilence = []) (hover : ∀ seg ∈ segments, seg.ended = true)
      (hstream : stream = before ++ g.pendingSpeech)
      (hcuts : Cuts (segments.map Segment.frames) before)
      (hpending : g.pendingSpeech.length < g.speechConfirmationFrames)
      (hrearm : g.rearmSilenceFrames ≠ none → g.pendingSpeech = []) : Cutting g stream segments
  /-- In an utterance; the silence at the end has not been told yet. -/
  | speaking (segments : List Segment) (seg : Segment) (before : List PcmFrame)
      (hid : g.utteranceId = some seg.utteranceId) (hpending : g.pendingSpeech = [])
      (hrearm : g.rearmSilenceFrames = none) (hopen : seg.ended = false)
      (hover : ∀ seg ∈ segments, seg.ended = true)
      (hstream : stream = before ++ seg.frames ++ g.trailingSilence)
      (hcuts : Cuts (segments.map Segment.frames) before)
      (hactive : g.activeFrames = seg.frames.length + g.trailingSilence.length)
      (hmax : g.activeFrames < g.maxUtteranceFrames) : Cutting g stream (segments ++ [seg])

/-- Every segment has a length the settings allow. -/
def Sized (g : SpeechSegmenter) (segments : List Segment) : Prop :=
  ∀ seg ∈ segments, g.speechConfirmationFrames ≤ seg.frames.length
    ∧ seg.frames.length ≤ g.maxUtteranceFrames

/-- What one accepted call does to the segments: it goes on with the last one, or opens one more. -/
structure Tells (g : SpeechSegmenter) (segments : List Segment) (freshId : Uuid)
    (events : List CaptureEvent) (segments' : List Segment) : Prop where
  events_eq : segments'.flatMap (Segment.events g.streamId)
    = segments.flatMap (Segment.events g.streamId) ++ events
  ids : segments'.map Segment.utteranceId = segments.map Segment.utteranceId
    ∨ segments'.map Segment.utteranceId = segments.map Segment.utteranceId ++ [freshId]
  sized : Sized g segments → Sized g segments'

/-- The outcome of an accepted call. -/
def Advances (g : SpeechSegmenter) (stream : List PcmFrame) (segments : List Segment)
    (frame : PcmFrame) (freshId : Uuid) (result : Segmented) : Prop :=
  ∃ events g' segments', result = (.ok events, g') ∧ SameSettings g g'
    ∧ Cutting g' (stream ++ [frame]) segments' ∧ Tells g segments freshId events segments'

variable {g : SpeechSegmenter} {stream : List PcmFrame} {segments : List Segment} {frame : PcmFrame}
  {freshId : Uuid}

/-- A call that tells nothing. -/
theorem tells_nothing (g : SpeechSegmenter) (segments : List Segment) (freshId : Uuid) :
    Tells g segments freshId [] segments :=
  ⟨by simp, .inl rfl, id⟩

/-- Before an utterance: silence forgets what was pending, voice collects it, and enough of it opens
    an utterance. -/
theorem advances_idle {before : List PcmFrame} (hb : Bounded g) (hid : g.utteranceId = none)
    (hsilence : g.trailingSilence = []) (hover : ∀ seg ∈ segments, seg.ended = true)
    (hstream : stream = before ++ g.pendingSpeech)
    (hcuts : Cuts (segments.map Segment.frames) before)
    (hpending : g.pendingSpeech.length < g.speechConfirmationFrames)
    (hrearm : g.rearmSilenceFrames = none) (voice : Bool) :
    Advances g stream segments frame freshId (g.processIdle frame voice freshId) := by
  unfold processIdle
  cases voice with
  | false =>
    refine ⟨[], _, segments, rfl, ⟨rfl, rfl, rfl, rfl⟩, ?_, tells_nothing g segments freshId⟩
    refine .waiting segments (stream ++ [frame]) hid hsilence hover (by simp) ?_ hb.confirmation
      fun _ => rfl
    rw [hstream, List.append_assoc]
    exact cuts_append hcuts _
  | true =>
    simp only [Bool.not_true, Bool.false_eq_true, if_false]
    split
    · next hlt =>
      refine ⟨[], _, segments, rfl, ⟨rfl, rfl, rfl, rfl⟩, ?_, tells_nothing g segments freshId⟩
      exact .waiting segments before hid hsilence hover (by simp [hstream]) hcuts hlt
        fun hne => absurd hrearm hne
    · next hge =>
      have hlen : (g.pendingSpeech ++ [frame]).length = g.speechConfirmationFrames := by
        simp only [List.length_append, List.length_singleton] at hge ⊢
        omega
      cases hp : g.pendingSpeech ++ [frame] with
      | nil => simp at hp
      | cons first rest =>
        let seg : Segment := ⟨freshId, first, rest, false⟩
        have hframes : seg.frames = g.pendingSpeech ++ [frame] := hp.symm
        refine ⟨_, _, segments ++ [seg], rfl, ⟨rfl, rfl, rfl, rfl⟩, ?_, ?_⟩
        · refine .speaking segments seg before rfl rfl hrearm rfl hover ?_ hcuts ?_ ?_
          · simp [hframes, hstream, hsilence]
          · simp [hframes, ← hp, hsilence]
          · have hfits := hb.fits
            rw [← hp, hlen]
            exact hfits
        · refine ⟨?_, .inr (by simp [seg]), ?_⟩
          · rw [List.flatMap_append, List.flatMap_singleton, Segment.events_open g.streamId rfl]
            simp [spoken, seg, Segment.frames]
          · intro hsized x hx
            rcases List.mem_append.mp hx with hx | hx
            · exact hsized x hx
            · rw [List.mem_singleton.mp hx, hframes, hlen]
              exact ⟨Nat.le_refl _, Nat.le_of_lt hb.fits⟩

/-- The running utterance goes on with the silence so far and one more frame. -/
theorem tells_extend {seg : Segment} (hopen : seg.ended = false) (more : List PcmFrame)
    (last : PcmFrame) (ended : Bool)
    (hmax : seg.frames.length + more.length + 1 ≤ g.maxUtteranceFrames) :
    Tells g (segments ++ [seg]) freshId
      (g.spoken seg.utteranceId more ++ [.frame g.streamId seg.utteranceId last ended])
      (segments ++ [seg.extend (more ++ [last]) ended]) := by
  refine ⟨?_, .inl (by simp [Segment.extend]), ?_⟩
  · simp only [List.flatMap_append, List.flatMap_singleton,
      Segment.events_extend g.streamId hopen, spoken, List.append_assoc]
  · intro hsized x hx
    rcases List.mem_append.mp hx with hx | hx
    · exact hsized x (List.mem_append_left _ hx)
    · rw [List.mem_singleton.mp hx, Segment.frames_extend]
      have hseg := hsized seg (by simp)
      simp only [List.length_append, List.length_singleton]
      omega

/-- The utterance has ended: it is one more block, and the segmenter waits again. -/
theorem cutting_ended {g' : SpeechSegmenter} {seg : Segment} {before : List PcmFrame}
    (hb : Bounded g) (hover : ∀ seg ∈ segments, seg.ended = true)
    (hcuts : Cuts (segments.map Segment.frames) before) (more : List PcmFrame)
    (hstream : stream = before ++ seg.frames ++ more)
    (hsame : SameSettings g g') (hid : g'.utteranceId = none) (hpending : g'.pendingSpeech = [])
    (hsilence : g'.trailingSilence = []) : Cutting g' stream (segments ++ [seg.extend more true]) := by
  refine .waiting _ stream hid hsilence ?_ (by simp [hpending]) ?_ ?_ fun _ => hpending
  · intro x hx
    rcases List.mem_append.mp hx with hx | hx
    · exact hover x hx
    · rw [List.mem_singleton.mp hx]
      rfl
  · rw [hstream, List.append_assoc, List.map_append]
    exact cuts_concat hcuts _
  · rw [hpending, hsame.confirmation]
    exact hb.confirmation

/-- The counter of a running utterance never saturates. -/
theorem count_next (hb : Bounded g) (hmax : g.activeFrames < g.maxUtteranceFrames) :
    saturatingAdd g.activeFrames 1 = g.activeFrames + 1 := by
  have := hb.countable
  unfold saturatingAdd u64Max
  omega

/-- A voice frame takes the silence before it along, and at the maximal length ends the utterance. -/
theorem advances_voice {seg : Segment} {before : List PcmFrame} (hb : Bounded g)
    (hpending : g.pendingSpeech = []) (hrearm : g.rearmSilenceFrames = none)
    (hid : g.utteranceId = some seg.utteranceId) (hopen : seg.ended = false)
    (hover : ∀ seg ∈ segments, seg.ended = true)
    (hstream : stream = before ++ seg.frames ++ g.trailingSilence)
    (hcuts : Cuts (segments.map Segment.frames) before)
    (hactive : g.activeFrames = seg.frames.length + g.trailingSilence.length)
    (hmax : g.activeFrames < g.maxUtteranceFrames) :
    Advances g stream (segments ++ [seg]) frame freshId (g.processVoice frame seg.utteranceId) := by
  have hcount := count_next hb hmax
  have hroom : seg.frames.length + g.trailingSilence.length + 1 ≤ g.maxUtteranceFrames := by omega
  have hnext : stream ++ [frame] = before ++ seg.frames ++ (g.trailingSilence ++ [frame]) := by
    simp [hstream]
  unfold processVoice
  dsimp only
  split
  · rw [finishForcedUtterance_concat]
    refine ⟨_, _, segments ++ [seg.extend (g.trailingSilence ++ [frame]) true], rfl,
      ⟨rfl, rfl, rfl, rfl⟩, ?_, tells_extend hopen _ _ true hroom⟩
    exact cutting_ended hb hover hcuts _ hnext ⟨rfl, rfl, rfl, rfl⟩ rfl hpending rfl
  · next hlt =>
    refine ⟨_, _, segments ++ [seg.extend (g.trailingSilence ++ [frame]) false], rfl,
      ⟨rfl, rfl, rfl, rfl⟩, ?_, tells_extend hopen _ _ false hroom⟩
    refine .speaking segments _ before hid hpending hrearm rfl hover ?_ hcuts ?_ ?_
    · simp [hstream]
    · simp only [Segment.frames_extend, List.length_append, List.length_singleton, List.length_nil]
      omega
    · exact Nat.not_le.mp hlt

/-- The silence that has gathered ends the utterance. -/
theorem advances_finish {seg : Segment} {before : List PcmFrame} (hb : Bounded g)
    (hpending : g.pendingSpeech = []) (hopen : seg.ended = false)
    (hover : ∀ seg ∈ segments, seg.ended = true)
    (hstream : stream = before ++ seg.frames ++ g.trailingSilence)
    (hcuts : Cuts (segments.map Segment.frames) before)
    (hlen : seg.frames.length + g.trailingSilence.length + 1 ≤ g.maxUtteranceFrames)
    (active : Nat) (forced : Bool) :
    Advances g stream (segments ++ [seg]) frame freshId
      ({ g with
        trailingSilence := g.trailingSilence ++ [frame]
        activeFrames := active }.finishWithTrailingSilence seg.utteranceId forced) := by
  have hnext : stream ++ [frame] = before ++ seg.frames ++ (g.trailingSilence ++ [frame]) := by
    simp [hstream]
  simp only [finishWithTrailingSilence, List.getLast?_concat, List.dropLast_concat]
  refine ⟨_, _, segments ++ [seg.extend (g.trailingSilence ++ [frame]) true], rfl,
    ⟨rfl, rfl, rfl, rfl⟩, ?_, tells_extend hopen _ _ true hlen⟩
  exact cutting_ended hb hover hcuts _ hnext ⟨rfl, rfl, rfl, rfl⟩ rfl hpending rfl

theorem advances_active {seg : Segment} {before : List PcmFrame} (hb : Bounded g)
    (hpending : g.pendingSpeech = []) (hrearm : g.rearmSilenceFrames = none)
    (hid : g.utteranceId = some seg.utteranceId) (hopen : seg.ended = false)
    (hover : ∀ seg ∈ segments, seg.ended = true)
    (hstream : stream = before ++ seg.frames ++ g.trailingSilence)
    (hcuts : Cuts (segments.map Segment.frames) before)
    (hactive : g.activeFrames = seg.frames.length + g.trailingSilence.length)
    (hmax : g.activeFrames < g.maxUtteranceFrames) (voice : Bool) :
    Advances g stream (segments ++ [seg]) frame freshId
      (g.processActive frame voice seg.utteranceId) := by
  have hroom : seg.frames.length + g.trailingSilence.length + 1 ≤ g.maxUtteranceFrames := by omega
  unfold processActive
  cases voice with
  | true => exact advances_voice hb hpending hrearm hid hopen hover hstream hcuts hactive hmax
  | false =>
    simp only [Bool.false_eq_true, if_false]
    split
    · split
      · exact advances_finish hb hpending hopen hover hstream hcuts hroom _ true
      · next hlt =>
        -- the silence goes on and nothing is told yet
        have hcount := count_next hb hmax
        refine ⟨[], _, segments ++ [seg], rfl, ⟨rfl, rfl, rfl, rfl⟩, ?_, tells_nothing g _ freshId⟩
        refine .speaking segments seg before hid hpending hrearm hopen hover ?_ hcuts ?_ ?_
        · simp [hstream]
        · simp only [List.length_append, List.length_singleton]
          omega
        · exact Nat.not_le.mp hlt
    · exact advances_finish hb hpending hopen hover hstream hcuts hroom _ false

/-- Every accepted frame leads on, whatever the detector decides. -/
theorem advances_process (hb : Bounded g) (h : Cutting g stream segments)
    (hf : frame.format = .providerDefault) (voice : Bool) (freshId : Uuid) :
    Advances g stream segments frame freshId (g.process frame (.ok voice) freshId) := by
  unfold process
  rw [if_neg (not_not.mpr hf)]
  dsimp only
  cases h with
  | waiting segments before hid hsilence hover hstream hcuts hpending hrearm =>
    cases hre : g.rearmSilenceFrames with
    | none =>
      simp only [hid]
      exact advances_idle hb hid hsilence hover hstream hcuts hpending hre voice
    | some n =>
      -- frames are taken and forgotten until there has been enough silence
      have hnone := hrearm (by simp [hre])
      refine ⟨[], _, segments, rfl, ⟨rfl, rfl, rfl, rfl⟩, ?_, tells_nothing g segments freshId⟩
      refine .waiting segments (stream ++ [frame]) hid hsilence hover ?_ ?_ hpending fun _ => hnone
      · show _ = _ ++ g.pendingSpeech
        simp [hnone]
      · rw [hstream, List.append_assoc]
        exact cuts_append hcuts _
  | speaking segments seg before hid hpending hrearm hopen hover hstream hcuts hactive hmax =>
    simp only [hrearm, hid]
    exact advances_active hb hpending hrearm hid hopen hover hstream hcuts hactive hmax voice

/-! ### Every run -/

/-- The output of a run, read as segments cut out of the frames it has taken. -/
structure Segmentation (g : SpeechSegmenter) (inputs : List Input) (output : List CaptureEvent)
    (segments : List Segment) : Prop where
  told : output = segments.flatMap (Segment.events g.streamId)
  ended : ∀ seg ∈ segments.dropLast, seg.ended = true
  fresh : (segments.map Segment.utteranceId).Nodup
  blocks : Cuts (segments.map Segment.frames) (taken inputs)
  sized : Sized g segments

/-- The invariant of a run: how far the segmenter has got, and what it has told. -/
structure RunInv (g₀ : SpeechSegmenter) (log : List (Input × Outcome VadError (List CaptureEvent)))
    (g : SpeechSegmenter) (segments : List Segment) : Prop where
  same : SameSettings g₀ g
  cutting : Cutting g (taken (log.map Prod.fst)) segments
  told : told log = segments.flatMap (Segment.events g₀.streamId)
  ids : (segments.map Segment.utteranceId).Sublist ((log.map Prod.fst).map Input.freshId)
  sized : Sized g₀ segments
  answered : ∀ entry ∈ log, entry.2 ≠ .panic ∧ (entry.1.Accepted ↔ ∃ events, entry.2 = .ok events)

theorem bounded_same {g₀ : SpeechSegmenter} (hb : Bounded g₀) (h : SameSettings g₀ g) : Bounded g where
  confirmation := by rw [h.confirmation]; exact hb.confirmation
  fits := by rw [h.confirmation, h.max]; exact hb.fits
  countable := by rw [h.max]; exact hb.countable
  adaptive := by rw [h.adaptive]; exact hb.adaptive

/-- A call that is not accepted is refused and changes nothing. -/
theorem step_refused {input : Input} (h : ¬ input.Accepted) : ∃ e, g.step input = (.err e, g) := by
  unfold step process
  split
  · exact ⟨_, rfl⟩
  · next hf =>
    cases hv : input.voice with
    | error e => exact ⟨e, rfl⟩
    | ok voice => exact absurd ⟨not_not.mp hf, voice, hv⟩ h

theorem runInv_step {g₀ : SpeechSegmenter}
    {log : List (Input × Outcome VadError (List CaptureEvent))} (hb : Bounded g₀)
    (h : RunInv g₀ log g segments) (input : Input) :
    ∃ segments', RunInv g₀ (log ++ [(input, (g.step input).1)]) (g.step input).2 segments' := by
  by_cases hacc : input.Accepted
  · obtain ⟨hf, voice, hv⟩ := hacc
    obtain ⟨events, g', segments', heq, hsame, hcut, htells⟩ :=
      advances_process (bounded_same hb h.same) h.cutting hf voice input.freshId
    have hstep : g.step input = (.ok events, g') := by rw [step, hv]; exact heq
    rw [hstep]
    refine ⟨segments', ⟨hsame.stream.trans h.same.stream,
      hsame.confirmation.trans h.same.confirmation, hsame.max.trans h.same.max,
      hsame.adaptive.trans h.same.adaptive⟩, ?_, ?_, ?_, ?_, ?_⟩
    · have htaken : taken ((log ++ [(input, Outcome.ok events)]).map Prod.fst)
          = taken (log.map Prod.fst) ++ [input.frame] := by
        have : input.Accepted := ⟨hf, voice, hv⟩
        simp [taken, this]
      rw [htaken]
      exact hcut
    · have hev := htells.events_eq
      rw [h.same.stream] at hev
      rw [hev, ← h.told]
      simp [SpeechSegmenter.told]
    · rw [List.map_append, List.map_append]
      rcases htells.ids with hids | hids
      · rw [hids]
        exact h.ids.trans (List.sublist_append_left _ _)
      · rw [hids]
        exact h.ids.append (List.Sublist.refl _)
    · have hsized := htells.sized
      simp only [Sized, h.same.confirmation, h.same.max] at hsized
      exact hsized h.sized
    · intro entry he
      rcases List.mem_append.mp he with he | he
      · exact h.answered entry he
      · rw [List.mem_singleton.mp he]
        exact ⟨by simp, fun _ => ⟨events, rfl⟩, fun _ => ⟨hf, voice, hv⟩⟩
  · obtain ⟨e, hstep⟩ := step_refused (g := g) hacc
    rw [hstep]
    refine ⟨segments, h.same, ?_, ?_, ?_, h.sized, ?_⟩
    · have htaken : taken ((log ++ [(input, Outcome.err e)]).map Prod.fst)
          = taken (log.map Prod.fst) := by
        simp [taken, hacc]
      rw [htaken]
      exact h.cutting
    · rw [← h.told]
      simp [SpeechSegmenter.told]
    · rw [List.map_append, List.map_append]
      exact h.ids.trans (List.sublist_append_left _ _)
    · intro entry he
      rcases List.mem_append.mp he with he | he
      · exact h.answered entry he
      · rw [List.mem_singleton.mp he]
        exact ⟨by simp, fun hin => absurd hin hacc, by simp⟩

/-- The blocks of the segments lie in the frames that were taken, and only the last may be open. -/
theorem cutting_blocks (h : Cutting g stream segments) :
    Cuts (segments.map Segment.frames) stream ∧ ∀ seg ∈ segments.dropLast, seg.ended = true := by
  cases h with
  | waiting segments before hid hsilence hover hstream hcuts hpending hrearm =>
    rw [hstream]
    exact ⟨cuts_append hcuts _, fun seg hseg => hover seg (List.dropLast_subset _ hseg)⟩
  | speaking segments seg before hid hpending hrearm hopen hover hstream hcuts hactive hmax =>
    rw [hstream, List.map_append, List.dropLast_concat]
    exact ⟨cuts_append (cuts_concat hcuts _) _, hover⟩

/-- Whatever is captured and decided: nothing panics, exactly the calls with a usable frame and a
    decision succeed, and the output is one utterance after the other, each with an identifier of
    its own, cut out of the frames in one piece and of an admissible length. -/
theorem run_segmentation (streamId : Uuid)
    (confirmation minUtterance maxUtterance adaptiveSilence : Nat) (inputs : List Input)
    (hfresh : (inputs.map Input.freshId).Nodup) :
    let g := withConfirmationAndAdaptiveFrames streamId confirmation minUtterance maxUtterance
      adaptiveSilence
    (∀ entry ∈ (exec step g inputs).1,
        entry.2 ≠ .panic ∧ (entry.1.Accepted ↔ ∃ events, entry.2 = .ok events))
      ∧ ∃ segments, Segmentation g inputs (told (exec step g inputs).1) segments := by
  intro g
  have hb : Bounded g := bounded_with streamId _ _ _ _
  obtain ⟨segments, h⟩ : ∃ segments,
      RunInv g (exec step g inputs).1 (exec step g inputs).2 segments := by
    refine exec_invariant (I := fun log g' => ∃ segments, RunInv g log g' segments) ?_ ?_ inputs
      (adm_true step g inputs)
    · refine ⟨[], ⟨rfl, rfl, rfl, rfl⟩, ?_, rfl, .slnil, nofun, nofun⟩
      exact .waiting [] [] rfl rfl nofun rfl trivial hb.confirmation fun _ => rfl
    · rintro log g' input ⟨segments, h⟩ -
      exact runInv_step hb h input
  obtain ⟨hcuts, hover⟩ := cutting_blocks h.cutting
  have hids := h.ids
  rw [exec_ops] at hcuts hids
  exact ⟨h.answered, segments, h.told, hover, hids.nodup hfresh, hcuts, h.sized⟩

/-- Four frames of speech and a pause, 20 ms apart. -/
def shortRun : List Input :=
  (List.range 20).map fun n =>
    ⟨⟨UInt64.ofNat n, n * 20000000, .providerDefault, List.replicate 640 0,
      List.length_replicate⟩, .ok (n < 4), BitVec.ofNat 128 n⟩

theorem shortRun_segmentation :
    let g := withConfirmationAndAdaptiveFrames 1 3 125 300 6
    (told (exec step g shortRun).1).length = 20
      ∧ ∃ segments, Segmentation g shortRun (told (exec step g shortRun).1) segments :=
  ⟨by decide +kernel, (run_segmentation 1 3 125 300 6 shortRun (by decide +kernel)).2⟩

end SpeechSegmenter

end Translator.Audio
