import Translator.Audio.Utterances

/-! Which speech is told. A frame that was taken is told by a later call, or never: `heard` keeps both, with
    what the detector made of the frame, and the claim on the segmenter is about the runs of voice in it.

    A cut on a voice frame leaves the segmenter ready for the rest of the run. A cut inside a pause makes it
    wait for silence, and speech that comes first is lost. -/

namespace Translator.Audio
open Schemes Core
open Wire (Uuid)

namespace SpeechSegmenter

/-! ### What was taken and what was told -/

/-- A frame that was taken, what the detector made of it and, where it was told, whether it was the last of
    its utterance. -/
structure Heard where
  frame : PcmFrame
  voice : Bool
  told : Option Bool

/-- The frames of a batch, each with whether it ends its utterance. -/
def framesOf (events : List CaptureEvent) : List (PcmFrame × Bool) :=
  events.filterMap fun event => match event with
    | .frame _ _ frame last => some (frame, last)
    | .speechStarted .. => none

/-- A batch tells the frames that were taken last. -/
def tellLast (heard : List Heard) (ends : List Bool) : List Heard :=
  heard.take (heard.length - ends.length)
    ++ List.zipWith (fun h last => { h with told := some last }) (heard.drop (heard.length - ends.length)) ends

def hear (heard : List Heard) : Input × Outcome VadError (List CaptureEvent) → List Heard
  | (⟨frame, .ok voice, _⟩, .ok events) =>
    tellLast (heard ++ [⟨frame, voice, none⟩]) ((framesOf events).map Prod.snd)
  | _ => heard

/-- The frames a run has taken. -/
def heard (log : List (Input × Outcome VadError (List CaptureEvent))) : List Heard := log.foldl hear []

/-- The frames that were told, in order. -/
def toldOf (heard : List Heard) : List (PcmFrame × Bool) :=
  heard.filterMap fun h => h.told.map fun last => (h.frame, last)

/-- The maximal runs of consecutive voice frames; between two silent frames there is an empty one. -/
def voiceRuns (heard : List Heard) : List (List Heard) := heard.splitOnP (fun h => !h.voice)

/-- The run is told in full, but for fewer frames than confirm speech that are left of it after a cut
    inside it. -/
def ToldInFull (confirmation : Nat) (run : List Heard) : Prop :=
  ∃ told rest, run = told ++ rest ∧ (∀ h ∈ told, h.told.isSome) ∧ rest.length < confirmation
    ∧ (rest ≠ [] → told.getLast?.bind Heard.told = some true)

/-- Every run of voice that is long enough to be speech is told. -/
def Emits (confirmation : Nat) (heard : List Heard) : Prop :=
  ∀ run ∈ voiceRuns heard, confirmation ≤ run.length → ToldInFull confirmation run

/-! ### Marking -/

theorem tellLast_append {a b : List Heard} {ends : List Bool} (h : b.length = ends.length) :
    tellLast (a ++ b) ends = a ++ List.zipWith (fun h last => { h with told := some last }) b ends := by
  have hlen : (a ++ b).length - ends.length = a.length := by
    rw [List.length_append]
    omega
  rw [tellLast, hlen, List.take_left, List.drop_left]

theorem tellLast_nil (heard : List Heard) : tellLast heard [] = heard := by
  simp [tellLast]

theorem toldOf_append (a b : List Heard) : toldOf (a ++ b) = toldOf a ++ toldOf b :=
  List.filterMap_append

/-- Frames of one kind that have not been told. -/
def untold (voice : Bool) (frames : List PcmFrame) : List Heard := frames.map (⟨·, voice, none⟩)

/-- The same frames, told. -/
def retold (voice : Bool) (batch : List (PcmFrame × Bool)) : List Heard :=
  batch.map fun entry => ⟨entry.1, voice, some entry.2⟩

/-- Frames that do not end their utterance. -/
def unended (frames : List PcmFrame) : List (PcmFrame × Bool) := frames.map (·, false)

@[simp] theorem unended_fst (frames : List PcmFrame) : (unended frames).map Prod.fst = frames := by
  simp [unended, Function.comp_def]

theorem untold_voice {voice : Bool} {frames : List PcmFrame} : ∀ h ∈ untold voice frames, h.voice = voice := by
  intro h hmem
  obtain ⟨frame, -, rfl⟩ := List.mem_map.mp hmem
  rfl

theorem retold_voice {voice : Bool} {batch : List (PcmFrame × Bool)} :
    ∀ h ∈ retold voice batch, h.voice = voice := by
  intro h hmem
  obtain ⟨entry, -, rfl⟩ := List.mem_map.mp hmem
  rfl

theorem retold_told {voice : Bool} {batch : List (PcmFrame × Bool)} :
    ∀ h ∈ retold voice batch, h.told.isSome := by
  intro h hmem
  obtain ⟨entry, -, rfl⟩ := List.mem_map.mp hmem
  rfl

theorem untold_concat (voice : Bool) (frames : List PcmFrame) (frame : PcmFrame) :
    untold voice (frames ++ [frame]) = untold voice frames ++ [⟨frame, voice, none⟩] := by
  simp [untold]

theorem toldOf_untold (voice : Bool) (frames : List PcmFrame) : toldOf (untold voice frames) = [] := by
  simp [toldOf, untold]

theorem toldOf_retold (voice : Bool) (batch : List (PcmFrame × Bool)) : toldOf (retold voice batch) = batch := by
  simp [toldOf, retold]

/-- Untold frames are told by a batch that holds them. -/
theorem tellLast_untold (a : List Heard) (voice : Bool) (batch : List (PcmFrame × Bool)) :
    tellLast (a ++ untold voice (batch.map Prod.fst)) (batch.map Prod.snd) = a ++ retold voice batch := by
  rw [tellLast_append (by simp [untold])]
  congr 1
  rw [untold, List.map_map, List.zipWith_map, List.zipWith_self]
  rfl

/-- The silence before a voice frame is told with it. -/
theorem tellLast_voice (a : List Heard) (silence : List (PcmFrame × Bool)) (frame : PcmFrame) (last : Bool) :
    tellLast (a ++ untold false (silence.map Prod.fst) ++ [⟨frame, true, none⟩])
        ((silence ++ [(frame, last)]).map Prod.snd)
      = a ++ retold false silence ++ [⟨frame, true, some last⟩] := by
  rw [List.append_assoc, tellLast_append (by simp [untold]), List.map_append, List.zipWith_append (by simp [untold]),
    untold, List.map_map, List.zipWith_map, List.zipWith_self, ← List.append_assoc]
  rfl

/-! ### Runs of voice -/

theorem voiceRuns_ne_nil (heard : List Heard) : voiceRuns heard ≠ [] := List.splitOnP_ne_nil _ _

theorem voiceRuns_silence {heard : List Heard} {past : List (List Heard)} {run : List Heard}
    (h : voiceRuns heard = past ++ [run]) (frame : PcmFrame) (told : Option Bool) :
    voiceRuns (heard ++ [⟨frame, false, told⟩]) = past ++ [run] ++ [[]] := by
  rw [voiceRuns, splitOnP_append (splitOnP_all (by simp)) h]
  simp

theorem voiceRuns_voice {heard voices : List Heard} {past : List (List Heard)} {run : List Heard}
    (h : voiceRuns heard = past ++ [run]) (hvoices : ∀ h ∈ voices, h.voice = true) :
    voiceRuns (heard ++ voices) = past ++ [run ++ voices] := by
  rw [voiceRuns, splitOnP_append (List.splitOnP_eq_singleton (by simpa using hvoices)) h]

/-- Telling silence changes no run. -/
theorem voiceRuns_told_silence (a : List Heard) (batch : List (PcmFrame × Bool)) :
    voiceRuns (a ++ retold false batch) = voiceRuns (a ++ untold false (batch.map Prod.fst)) := by
  rcases List.eq_nil_or_concat (voiceRuns a) with hnil | ⟨past, run, hruns⟩
  · exact absurd hnil (voiceRuns_ne_nil a)
  · rw [List.concat_eq_append] at hruns
    have hretold : ∀ h ∈ retold false batch, (!h.voice) = true := by
      intro h hmem
      rw [retold_voice h hmem]
      rfl
    have huntold : ∀ h ∈ untold false (batch.map Prod.fst), (!h.voice) = true := by
      intro h hmem
      rw [untold_voice h hmem]
      rfl
    rw [voiceRuns, voiceRuns, splitOnP_append (splitOnP_all hretold) hruns,
      splitOnP_append (splitOnP_all huntold) hruns]
    simp [retold, untold]

/-! ### How far the segmenter has heard -/

/-- The runs of voice up to here, the last of which is open: what is pending belongs to it, an utterance has
    told all of it, and while the segmenter waits for silence it loses all of it. -/
inductive Hearing (g : SpeechSegmenter) (heard : List Heard) (past : List (List Heard)) : List Heard → Prop
  | waiting (a told : List Heard) (hid : g.utteranceId = none) (hrearm : g.rearmSilenceFrames = none)
      (hsilence : g.trailingSilence = []) (hheard : heard = a ++ untold true g.pendingSpeech)
      (hruns : voiceRuns a = past ++ [told]) (htold : ∀ h ∈ told, h.told.isSome)
      (hcut : told ≠ [] → told.getLast?.bind Heard.told = some true)
      (hpending : g.pendingSpeech.length < g.speechConfirmationFrames) :
      Hearing g heard past (told ++ untold true g.pendingSpeech)
  | speaking (a run : List Heard) (u : Uuid) (hid : g.utteranceId = some u)
      (hrearm : g.rearmSilenceFrames = none) (hpending : g.pendingSpeech = [])
      (hheard : heard = a ++ untold false g.trailingSilence) (hruns : voiceRuns heard = past ++ [run])
      (htold : ∀ h ∈ run, h.told.isSome) : Hearing g heard past run
  | deaf (run : List Heard) (n : Nat) (hid : g.utteranceId = none) (hrearm : g.rearmSilenceFrames = some n)
      (hsilence : g.trailingSilence = []) (hpending : g.pendingSpeech = [])
      (hruns : voiceRuns heard = past ++ [run]) (hlost : ∀ h ∈ run, h.told = none) : Hearing g heard past run

/-- What an accepted call comes to: the runs of voice after it, and what it has told. -/
def Hears (g : SpeechSegmenter) (heard : List Heard) (frame : PcmFrame) (voice : Bool) (result : Segmented)
    (past' : List (List Heard)) (run' : List Heard) : Prop :=
  ∃ events g', result = (.ok events, g') ∧ g'.speechConfirmationFrames = g.speechConfirmationFrames
    ∧ Hearing g' (tellLast (heard ++ [⟨frame, voice, none⟩]) ((framesOf events).map Prod.snd)) past' run'
    ∧ toldOf (tellLast (heard ++ [⟨frame, voice, none⟩]) ((framesOf events).map Prod.snd))
      = toldOf heard ++ framesOf events

variable {g : SpeechSegmenter} {heard : List Heard} {past : List (List Heard)} {run : List Heard}

theorem Hearing.runs (h : Hearing g heard past run) : voiceRuns heard = past ++ [run] := by
  cases h with
  | waiting a told hid hrearm hsilence hheard hruns htold hcut hpending =>
    rw [hheard]
    exact voiceRuns_voice hruns untold_voice
  | speaking a run u hid hrearm hpending hheard hruns htold => exact hruns
  | deaf run n hid hrearm hsilence hpending hruns hlost => exact hruns

/-- Nothing is pending, and the open run has been told up to here or was cut here. -/
theorem Hearing.ready (hid : g.utteranceId = none) (hrearm : g.rearmSilenceFrames = none)
    (hsilence : g.trailingSilence = []) (hpending : g.pendingSpeech = [])
    (hb : 0 < g.speechConfirmationFrames) (hruns : voiceRuns heard = past ++ [run])
    (htold : ∀ h ∈ run, h.told.isSome) (hcut : run ≠ [] → run.getLast?.bind Heard.told = some true) :
    Hearing g heard past run := by
  have hnone : untold true g.pendingSpeech = [] := by
    rw [hpending]
    rfl
  have h : Hearing g heard past (run ++ untold true g.pendingSpeech) := by
    refine .waiting heard run hid hrearm hsilence ?_ hruns htold hcut ?_
    · rw [hnone, List.append_nil]
    · rw [hpending]
      exact hb
  rwa [hnone, List.append_nil] at h

theorem framesOf_append (events more : List CaptureEvent) :
    framesOf (events ++ more) = framesOf events ++ framesOf more := List.filterMap_append

theorem framesOf_spoken (u : Uuid) (frames : List PcmFrame) :
    framesOf (g.spoken u frames) = unended frames := by
  simp [framesOf, spoken, unended, List.filterMap_map]

/-- A call that tells nothing. -/
theorem hears_nothing {result : Segmented} {g' : SpeechSegmenter} {frame : PcmFrame} {voice : Bool}
    {past' : List (List Heard)} {run' : List Heard} (hresult : result = (.ok [], g'))
    (hsame : g'.speechConfirmationFrames = g.speechConfirmationFrames)
    (h : Hearing g' (heard ++ [⟨frame, voice, none⟩]) past' run') :
    Hears g heard frame voice result past' run' := by
  have hnone : tellLast (heard ++ [⟨frame, voice, none⟩]) ((framesOf []).map Prod.snd)
      = heard ++ [⟨frame, voice, none⟩] := tellLast_nil _
  refine ⟨[], g', hresult, hsame, ?_, ?_⟩
  · rw [hnone]
    exact h
  · rw [hnone, toldOf_append]
    rfl

/-- Silence that ends an utterance tells what has gathered of it. -/
theorem hears_finish {a : List Heard} {u : Uuid} (hpending : g.pendingSpeech = [])
    (hrearm : g.rearmSilenceFrames = none) (hb : 0 < g.speechConfirmationFrames)
    (hheard : heard = a ++ untold false g.trailingSilence) (hruns : voiceRuns heard = past ++ [run])
    (frame : PcmFrame) (active : Nat) (forced : Bool) :
    Hears g heard frame false
      ({ g with
        trailingSilence := g.trailingSilence ++ [frame]
        activeFrames := active }.finishWithTrailingSilence u forced) (past ++ [run]) [] := by
  have hbatch : heard ++ [⟨frame, false, none⟩]
      = a ++ untold false ((unended g.trailingSilence ++ [(frame, true)]).map Prod.fst) := by
    rw [hheard, List.append_assoc, ← untold_concat, List.map_append, unended_fst]
    rfl
  have hframes : framesOf (({ g with
        trailingSilence := g.trailingSilence ++ [frame], activeFrames := active } : SpeechSegmenter).spoken u
        g.trailingSilence ++ [.frame g.streamId u frame true])
      = unended g.trailingSilence ++ [(frame, true)] := by
    rw [framesOf_append, framesOf_spoken]
    rfl
  have htold := tellLast_untold a false (unended g.trailingSilence ++ [(frame, true)])
  have hruns' := voiceRuns_silence hruns frame none
  rw [hbatch, ← voiceRuns_told_silence] at hruns'
  simp only [finishWithTrailingSilence, List.getLast?_concat, List.dropLast_concat]
  refine ⟨_, _, rfl, rfl, ?_, ?_⟩
  · rw [hframes, hbatch, htold]
    cases forced with
    | true => exact .deaf [] 0 rfl rfl rfl hpending hruns' (by simp)
    | false => exact .ready rfl hrearm rfl hpending hb hruns' (by simp) (by simp)
  · rw [hframes, hbatch, htold, toldOf_append, toldOf_retold, hheard, toldOf_append, toldOf_untold,
      List.append_nil]

/-- A silent frame ends the run. -/
theorem hears_silence (hb : 0 < g.speechConfirmationFrames) (h : Hearing g heard past run)
    {frame : PcmFrame} (hf : frame.format = .providerDefault) (freshId : Uuid) :
    Hears g heard frame false (g.process frame (.ok false) freshId) (past ++ [run]) [] := by
  have hruns' := voiceRuns_silence h.runs frame none
  unfold process
  rw [if_neg (not_not.mpr hf)]
  dsimp only
  cases h with
  | waiting a told hid hrearm hsilence hheard hruns htold hcut hpending =>
    rw [hrearm]
    dsimp only
    rw [hid]
    exact hears_nothing rfl rfl (.ready hid hrearm hsilence rfl hb hruns' (by simp) (by simp))
  | speaking a run u hid hrearm hpending hheard hruns htold =>
    rw [hrearm]
    dsimp only
    rw [hid]
    unfold processActive
    simp only [Bool.false_eq_true, if_false]
    split
    · split
      · exact hears_finish hpending hrearm hb hheard hruns frame _ true
      · refine hears_nothing rfl rfl (.speaking a [] u hid hrearm hpending ?_ hruns' (by simp))
        rw [hheard, List.append_assoc, ← untold_concat]
    · exact hears_finish hpending hrearm hb hheard hruns frame _ false
  | deaf run n hid hrearm hsilence hpending hruns hlost =>
    rw [hrearm]
    refine hears_nothing rfl rfl ?_
    by_cases hmore : saturatingAdd n 1 < endOfUtteranceSilenceFrames
    · exact .deaf [] (saturatingAdd n 1) hid (if_pos hmore) hsilence hpending hruns' (by simp)
    · exact .ready hid (if_neg hmore) hsilence hpending hb hruns' (by simp) (by simp)

/-- A voice frame belongs to the run, and it does not change whether the segmenter waits for silence. -/
theorem hears_voice (hb : 0 < g.speechConfirmationFrames) (h : Hearing g heard past run) {frame : PcmFrame}
    (hf : frame.format = .providerDefault) (freshId : Uuid) :
    ∃ run', run'.length = run.length + 1
      ∧ Hears g heard frame true (g.process frame (.ok true) freshId) past run'
      ∧ ((g.process frame (.ok true) freshId).2.rearmSilenceFrames = none ↔ g.rearmSilenceFrames = none) := by
  unfold process
  rw [if_neg (not_not.mpr hf)]
  dsimp only
  cases h with
  | waiting a told hid hrearm hsilence hheard hruns htold hcut hpending =>
    rw [hrearm]
    dsimp only
    rw [hid]
    dsimp only
    unfold processIdle
    simp only [Bool.not_true, Bool.false_eq_true, if_false]
    split
    next hlt =>
      refine ⟨told ++ untold true (g.pendingSpeech ++ [frame]), ?_, hears_nothing rfl rfl ?_, by simp [hrearm]⟩
      · rw [untold_concat, ← List.append_assoc, List.length_append]
        rfl
      · refine .waiting a told hid hrearm hsilence ?_ hruns htold hcut hlt
        rw [hheard, List.append_assoc, ← untold_concat]
    next hge =>
      cases hp : g.pendingSpeech ++ [frame] with
      | nil => simp at hp
      | cons first rest =>
        dsimp only [List.head?_cons]
        have hbatch : heard ++ [⟨frame, true, none⟩]
            = a ++ untold true ((unended (g.pendingSpeech ++ [frame])).map Prod.fst) := by
          rw [hheard, List.append_assoc, ← untold_concat, unended_fst]
        have htell := tellLast_untold a true (unended (g.pendingSpeech ++ [frame]))
        have hframes : framesOf (.speechStarted g.streamId freshId first.captureMonotonicNs
            :: g.spoken freshId (first :: rest)) = unended (g.pendingSpeech ++ [frame]) := by
          rw [← hp]
          exact framesOf_spoken freshId _
        refine ⟨told ++ retold true (unended (g.pendingSpeech ++ [frame])), ?_, ⟨_, _, rfl, rfl, ?_, ?_⟩,
          by simp [hrearm]⟩
        · simp only [List.length_append, retold, untold, unended, List.length_map, List.length_singleton]
          omega
        · rw [hframes, hbatch, htell]
          refine .speaking (a ++ retold true (unended (g.pendingSpeech ++ [frame]))) _ freshId rfl hrearm rfl
            (by simp [hsilence, untold]) (voiceRuns_voice hruns retold_voice) ?_
          intro x hx
          rcases List.mem_append.mp hx with hx | hx
          · exact htold x hx
          · exact retold_told x hx
        · rw [hframes, hbatch, htell, hheard, toldOf_append, toldOf_retold, toldOf_append, toldOf_untold,
            List.append_nil]
  | speaking a run u hid hrearm hpending hheard hruns htold =>
    rw [hrearm]
    dsimp only
    rw [hid]
    dsimp only
    unfold processActive
    rw [if_pos rfl]
    have hframes : ∀ last, framesOf (g.spoken u g.trailingSilence ++ [.frame g.streamId u frame last])
        = unended g.trailingSilence ++ [(frame, last)] := by
      intro last
      rw [framesOf_append, framesOf_spoken]
      rfl
    have htell : ∀ last, tellLast (heard ++ [⟨frame, true, none⟩])
          ((unended g.trailingSilence ++ [(frame, last)]).map Prod.snd)
        = a ++ retold false (unended g.trailingSilence) ++ [⟨frame, true, some last⟩] := by
      intro last
      have htell := tellLast_voice a (unended g.trailingSilence) frame last
      rwa [unended_fst, ← hheard] at htell
    have hruns' : ∀ last, voiceRuns (a ++ retold false (unended g.trailingSilence)
        ++ [⟨frame, true, some last⟩]) = past ++ [run ++ [⟨frame, true, some last⟩]] := by
      intro last
      refine voiceRuns_voice ?_ (by simp)
      rw [voiceRuns_told_silence, unended_fst, ← hheard]
      exact hruns
    have hall : ∀ last, ∀ h ∈ run ++ [(⟨frame, true, some last⟩ : Heard)], h.told.isSome := by
      intro last x hx
      rcases List.mem_append.mp hx with hx | hx
      · exact htold x hx
      · rw [List.mem_singleton.mp hx]
        rfl
    have hcount : ∀ last, toldOf (a ++ retold false (unended g.trailingSilence)
        ++ [⟨frame, true, some last⟩]) = toldOf heard ++ (unended g.trailingSilence ++ [(frame, last)]) := by
      intro last
      rw [hheard, toldOf_append, toldOf_append, toldOf_append, toldOf_retold, toldOf_untold, List.append_nil,
        List.append_assoc]
      rfl
    unfold processVoice
    dsimp only
    split
    next =>
      rw [finishForcedUtterance_concat]
      refine ⟨run ++ [⟨frame, true, some true⟩], by simp, ⟨_, _, rfl, rfl, ?_, ?_⟩, by simp [hrearm]⟩
      · rw [hframes, htell]
        exact .ready rfl hrearm rfl hpending hb (hruns' true) (hall true) (by simp)
      · rw [hframes, htell, hcount]
    next =>
      refine ⟨run ++ [⟨frame, true, some false⟩], by simp, ⟨_, _, rfl, rfl, ?_, ?_⟩, by simp [hrearm]⟩
      · rw [hframes, htell]
        exact .speaking _ _ u hid hrearm hpending (List.append_nil _).symm (hruns' false) (hall false)
      · rw [hframes, htell, hcount]
  | deaf run n hid hrearm hsilence hpending hruns hlost =>
    rw [hrearm]
    dsimp only
    refine ⟨run ++ [⟨frame, true, none⟩], by simp, hears_nothing rfl rfl ?_,
      by simp [rearm, endOfUtteranceSilenceFrames]⟩
    refine .deaf _ 0 hid (by simp [rearm, endOfUtteranceSilenceFrames]) hsilence hpending
      (voiceRuns_voice hruns (by simp)) ?_
    intro x hx
    rcases List.mem_append.mp hx with hx | hx
    · exact hlost x hx
    · rw [List.mem_singleton.mp hx]

/-! ### Every run -/

/-- What the detector made of a frame that is taken. -/
def Input.decision (input : Input) : Option Bool :=
  if input.frame.format = .providerDefault then input.voice.toOption else none

def decisions (inputs : List Input) : List Bool := inputs.filterMap Input.decision

/-- While enough voice comes in a row to be speech, the segmenter does not wait for silence. -/
def NeverDeaf (g : SpeechSegmenter) (inputs : List Input) : Prop :=
  ∀ before block after, inputs = before ++ block ++ after → (∀ voice ∈ decisions block, voice = true) →
    g.speechConfirmationFrames ≤ (decisions block).length →
    (exec step g before).2.rearmSilenceFrames = none

/-- What one call makes of the runs of voice. -/
theorem step_hears (hb : 0 < g.speechConfirmationFrames) (h : Hearing g heard past run) (input : Input) :
    (input.decision = none ∧ (g.step input).2 = g ∧ hear heard (input, (g.step input).1) = heard
        ∧ ∀ events, (g.step input).1 ≠ .ok events)
      ∨ ∃ voice events past' run', input.decision = some voice ∧ (g.step input).1 = .ok events
        ∧ (g.step input).2.speechConfirmationFrames = g.speechConfirmationFrames
        ∧ Hearing (g.step input).2 (hear heard (input, (g.step input).1)) past' run'
        ∧ toldOf (hear heard (input, (g.step input).1)) = toldOf heard ++ framesOf events
        ∧ ((voice = false ∧ past' = past ++ [run] ∧ run' = [])
          ∨ voice = true ∧ past' = past ∧ run'.length = run.length + 1
            ∧ ((g.step input).2.rearmSilenceFrames = none ↔ g.rearmSilenceFrames = none)) := by
  obtain ⟨frame, decided, freshId⟩ := input
  by_cases hf : frame.format = .providerDefault
  · cases decided with
    | error e =>
      refine .inl ⟨by simp [Input.decision, hf, Except.toOption], ?_⟩
      have hstep : g.step ⟨frame, .error e, freshId⟩ = (.err e, g) := by
        unfold step process
        rw [if_neg (not_not.mpr hf)]
      rw [hstep]
      exact ⟨rfl, rfl, by intro events h; cases h⟩
    | ok voice =>
      refine .inr ⟨voice, ?_⟩
      have hdecision : Input.decision ⟨frame, .ok voice, freshId⟩ = some voice := by
        simp [Input.decision, hf, Except.toOption]
      cases voice with
      | false =>
        obtain ⟨events, g', hresult, hsame, hhearing, htold⟩ := hears_silence hb h hf freshId
        have hstep : g.step ⟨frame, .ok false, freshId⟩ = (.ok events, g') := hresult
        rw [hstep]
        exact ⟨events, past ++ [run], [], hdecision, rfl, hsame, hhearing, htold, .inl ⟨rfl, rfl, rfl⟩⟩
      | true =>
        obtain ⟨run', hlen, ⟨events, g', hresult, hsame, hhearing, htold⟩, hrearm⟩ := hears_voice hb h hf freshId
        have hstep : g.step ⟨frame, .ok true, freshId⟩ = (.ok events, g') := hresult
        rw [hresult] at hrearm
        rw [hstep]
        exact ⟨events, past, run', hdecision, rfl, hsame, hhearing, htold, .inr ⟨rfl, rfl, hlen, hrearm⟩⟩
  · refine .inl ⟨by simp [Input.decision, hf], ?_⟩
    have hstep : g.step ⟨frame, decided, freshId⟩ = (.err .unsupportedFormat, g) := by
      unfold step process
      rw [if_pos hf]
    rw [hstep]
    refine ⟨rfl, ?_, by intro events h; cases h⟩
    cases decided <;> rfl

/-- What a run has made of the runs of voice, and since when the last of them is open. -/
structure RunHeard (g₀ : SpeechSegmenter) (inputs : List Input) (past : List (List Heard)) (run : List Heard) :
    Prop where
  hearing : Hearing (exec step g₀ inputs).2 (SpeechSegmenter.heard (exec step g₀ inputs).1) past run
  same : (exec step g₀ inputs).2.speechConfirmationFrames = g₀.speechConfirmationFrames
  told : toldOf (SpeechSegmenter.heard (exec step g₀ inputs).1) = framesOf (told (exec step g₀ inputs).1)
  since : ∃ before block, inputs = before ++ block ∧ (∀ voice ∈ decisions block, voice = true)
    ∧ (decisions block).length = run.length ∧ ((exec step g₀ before).2.rearmSilenceFrames = none
      ↔ (exec step g₀ inputs).2.rearmSilenceFrames = none)

variable {g₀ : SpeechSegmenter} {inputs : List Input}

theorem decisions_append (a b : List Input) : decisions (a ++ b) = decisions a ++ decisions b :=
  List.filterMap_append

theorem decisions_of_none {input : Input} (h : input.decision = none) : decisions [input] = [] := by
  simp [decisions, h]

theorem decisions_of_some {input : Input} {voice : Bool} (h : input.decision = some voice) :
    decisions [input] = [voice] := by
  simp [decisions, h]

theorem heard_concat (log : List (Input × Outcome VadError (List CaptureEvent)))
    (entry : Input × Outcome VadError (List CaptureEvent)) :
    SpeechSegmenter.heard (log ++ [entry]) = hear (SpeechSegmenter.heard log) entry := by
  rw [SpeechSegmenter.heard, List.foldl_append]
  rfl

theorem told_concat (log : List (Input × Outcome VadError (List CaptureEvent))) (input : Input)
    (events : List CaptureEvent) : told (log ++ [(input, .ok events)]) = told log ++ events := by
  simp [told]

/-- A call goes on with the open run, or silence closes it. -/
theorem runHeard_step (hb : 0 < g₀.speechConfirmationFrames) (h : RunHeard g₀ inputs past run) (input : Input) :
    ∃ past' run', RunHeard g₀ (inputs ++ [input]) past' run'
      ∧ ((input.decision ≠ some false ∧ past' = past ∧ run'.length = run.length + (decisions [input]).length
          ∧ ((exec step g₀ (inputs ++ [input])).2.rearmSilenceFrames = none
            ↔ (exec step g₀ inputs).2.rearmSilenceFrames = none))
        ∨ (input.decision = some false ∧ past' = past ++ [run])) := by
  obtain ⟨before, block, hinputs, hvoice, hlen, hbefore⟩ := h.since
  have hb' : 0 < (exec step g₀ inputs).2.speechConfirmationFrames := by
    rw [h.same]
    exact hb
  have hexec : exec step g₀ (inputs ++ [input]) = logStep step (exec step g₀ inputs) input := exec_concat ..
  have hblock : inputs ++ [input] = before ++ (block ++ [input]) := by
    rw [hinputs, List.append_assoc]
  rcases step_hears hb' h.hearing input with ⟨hdecision, hsame, hheard, hnone⟩
    | ⟨voice, events, past', run', hdecision, hevents, hsame, hhearing, htold, hcase⟩
  · have hstate : (exec step g₀ (inputs ++ [input])).2 = (exec step g₀ inputs).2 := by
      rw [hexec]
      exact hsame
    have hlog : SpeechSegmenter.heard (exec step g₀ (inputs ++ [input])).1
        = SpeechSegmenter.heard (exec step g₀ inputs).1 := by
      rw [hexec, logStep, heard_concat]
      exact hheard
    refine ⟨past, run, ⟨?_, ?_, ?_, before, block ++ [input], hblock, ?_, ?_, ?_⟩, .inl ⟨?_, rfl, ?_, ?_⟩⟩
    · rw [hstate, hlog]
      exact h.hearing
    · rw [hstate]
      exact h.same
    · rw [hlog, h.told, hexec, logStep]
      rcases hresult : ((exec step g₀ inputs).2.step input).1 with events | e | _
      · exact absurd hresult (hnone events)
      · simp [told]
      · simp [told]
    · rw [decisions_append, decisions_of_none hdecision, List.append_nil]
      exact hvoice
    · rw [decisions_append, decisions_of_none hdecision, List.append_nil]
      exact hlen
    · rw [hstate]
      exact hbefore
    · rw [hdecision]
      intro h
      cases h
    · rw [decisions_of_none hdecision]
      rfl
    · rw [hstate]
  · have hlog : SpeechSegmenter.heard (exec step g₀ (inputs ++ [input])).1
        = hear (SpeechSegmenter.heard (exec step g₀ inputs).1) (input, ((exec step g₀ inputs).2.step input).1) := by
      rw [hexec, logStep, heard_concat]
    have htold' : toldOf (SpeechSegmenter.heard (exec step g₀ (inputs ++ [input])).1)
        = framesOf (told (exec step g₀ (inputs ++ [input])).1) := by
      rw [hlog, htold, h.told, hexec, logStep, hevents, told_concat, framesOf_append]
    have hsame' : (exec step g₀ (inputs ++ [input])).2.speechConfirmationFrames
        = g₀.speechConfirmationFrames := by
      rw [hexec]
      exact hsame.trans h.same
    have hhearing' : Hearing (exec step g₀ (inputs ++ [input])).2
        (SpeechSegmenter.heard (exec step g₀ (inputs ++ [input])).1) past' run' := by
      rw [hlog, hexec]
      exact hhearing
    rcases hcase with ⟨rfl, rfl, rfl⟩ | ⟨rfl, rfl, hgrown, hrearm⟩
    · exact ⟨_, [], ⟨hhearing', hsame', htold', inputs ++ [input], [], by simp, by simp [decisions],
        rfl, Iff.rfl⟩, .inr ⟨hdecision, rfl⟩⟩
    · have hrearm' : (exec step g₀ (inputs ++ [input])).2.rearmSilenceFrames = none
          ↔ (exec step g₀ inputs).2.rearmSilenceFrames = none := by
        rw [hexec]
        exact hrearm
      have hone := decisions_of_some hdecision
      refine ⟨_, run', ⟨hhearing', hsame', htold', before, block ++ [input], hblock, ?_, ?_,
        hbefore.trans hrearm'.symm⟩, .inl ⟨?_, rfl, ?_, hrearm'⟩⟩
      · intro voice hmem
        rw [decisions_append, hone, List.mem_append, List.mem_singleton] at hmem
        exact hmem.elim (hvoice voice) id
      · rw [decisions_append, hone, List.length_append, hlen, hgrown]
        rfl
      · rw [hdecision]
        intro h
        cases h
      · rw [hone, hgrown]
        rfl

/-- A run of voice that the segmenter did not hear while it waited for silence is told in full. -/
theorem RunHeard.toldInFull (hb : 0 < g₀.speechConfirmationFrames) (h : RunHeard g₀ inputs past run)
    (hnever : NeverDeaf g₀ inputs) (hlen : g₀.speechConfirmationFrames ≤ run.length) : ToldInFull g₀.speechConfirmationFrames run := by
  obtain ⟨before, block, hinputs, hvoice, hblock, hbefore⟩ := h.since
  have hready : (exec step g₀ inputs).2.rearmSilenceFrames = none :=
    hbefore.mp (hnever before block [] (by simp [hinputs]) hvoice (by omega))
  have hsame := h.same
  cases h.hearing with
  | waiting a told hid hrearm hsilence hheard hruns htold hcut hpending =>
    refine ⟨told, _, rfl, htold, by simpa [untold, hsame] using hpending, ?_⟩
    intro _
    refine hcut fun hnil => ?_
    rw [hnil] at hlen
    simp only [untold, List.nil_append, List.length_map] at hlen
    omega
  | speaking a run u hid hrearm hpending hheard hruns htold =>
    exact ⟨run, [], by simp, htold, hb, fun hne => absurd rfl hne⟩
  | deaf run n hid hrearm hsilence hpending hruns hlost =>
    rw [hrearm] at hready
    cases hready

theorem NeverDeaf.prefix {more : List Input} (h : NeverDeaf g₀ (inputs ++ more)) : NeverDeaf g₀ inputs := by
  intro before block after hinputs
  exact h before block (after ++ more) (by rw [hinputs, List.append_assoc])

theorem runHeard_nil (hb : 0 < g₀.speechConfirmationFrames) (hid : g₀.utteranceId = none)
    (hpending : g₀.pendingSpeech = []) (hsilence : g₀.trailingSilence = [])
    (hrearm : g₀.rearmSilenceFrames = none) : RunHeard g₀ [] [] [] := by
  refine ⟨?_, rfl, rfl, [], [], rfl, by simp [decisions], rfl, Iff.rfl⟩
  exact Hearing.ready hid hrearm hsilence hpending hb rfl (by simp) (by simp)

/-- Where the segmenter is never deaf to speech, every closed run was told. -/
theorem run_heard (hb : 0 < g₀.speechConfirmationFrames) (h0 : RunHeard g₀ [] [] []) (inputs : List Input) :
    ∃ past run, RunHeard g₀ inputs past run ∧ (NeverDeaf g₀ inputs → ∀ closed ∈ past,
      g₀.speechConfirmationFrames ≤ closed.length → ToldInFull g₀.speechConfirmationFrames closed) := by
  induction inputs using List.reverseRecOn with
  | nil => exact ⟨[], [], h0, by simp⟩
  | append_singleton inputs input ih =>
    obtain ⟨past, run, hrun, hpast⟩ := ih
    obtain ⟨past', run', hrun', hcase⟩ := runHeard_step hb hrun input
    refine ⟨past', run', hrun', fun hnever closed hclosed => ?_⟩
    rcases hcase with ⟨-, rfl, -⟩ | ⟨-, rfl⟩
    · exact hpast hnever.prefix closed hclosed
    · rcases List.mem_append.mp hclosed with hclosed | hclosed
      · exact hpast hnever.prefix closed hclosed
      · rw [List.mem_singleton.mp hclosed]
        exact hrun.toldInFull hb hnever.prefix

/-- Voice that comes while the segmenter waits for silence does not end the waiting. -/
theorem RunHeard.deaf (hb : 0 < g₀.speechConfirmationFrames) (h : RunHeard g₀ inputs past run)
    (hdeaf : (exec step g₀ inputs).2.rearmSilenceFrames ≠ none) (block : List Input)
    (hvoice : ∀ voice ∈ decisions block, voice = true) :
    ∃ run', RunHeard g₀ (inputs ++ block) past run'
      ∧ (exec step g₀ (inputs ++ block)).2.rearmSilenceFrames ≠ none
      ∧ run'.length = run.length + (decisions block).length := by
  induction block using List.reverseRecOn with
  | nil => exact ⟨run, by simpa using h, by simpa using hdeaf, by simp [decisions]⟩
  | append_singleton block input ih =>
    rw [decisions_append] at hvoice
    obtain ⟨run₁, h₁, hdeaf₁, hlen₁⟩ := ih fun voice hmem => hvoice voice (List.mem_append_left _ hmem)
    obtain ⟨past', run', hrun', hcase⟩ := runHeard_step hb h₁ input
    rw [List.append_assoc] at hrun' hcase
    rcases hcase with ⟨-, rfl, hlen, hrearm⟩ | ⟨hdecision, -⟩
    · refine ⟨run', hrun', mt hrearm.mp hdeaf₁, ?_⟩
      rw [hlen, hlen₁, decisions_append, List.length_append]
      omega
    · have hmem : false ∈ decisions block ++ decisions [input] := by
        rw [decisions_of_some hdecision]
        simp
      cases hvoice false hmem

/-- A run of voice that is speech, and nothing of it is told. -/
def Lost (confirmation : Nat) (run : List Heard) : Prop :=
  confirmation ≤ run.length ∧ ∀ h ∈ run, h.told = none

/-- What is lost stays lost: the segmenter goes on waiting while the run lasts. -/
theorem RunHeard.lost (hb : 0 < g₀.speechConfirmationFrames) (h : RunHeard g₀ inputs past run)
    (hlost : (∃ closed ∈ past, Lost g₀.speechConfirmationFrames closed)
      ∨ (exec step g₀ inputs).2.rearmSilenceFrames ≠ none ∧ g₀.speechConfirmationFrames ≤ run.length)
    (more : List Input) :
    ∃ past' run', RunHeard g₀ (inputs ++ more) past' run'
      ∧ ((∃ closed ∈ past', Lost g₀.speechConfirmationFrames closed)
        ∨ (exec step g₀ (inputs ++ more)).2.rearmSilenceFrames ≠ none
          ∧ g₀.speechConfirmationFrames ≤ run'.length) := by
  induction more using List.reverseRecOn with
  | nil => exact ⟨past, run, by simpa using h, by simpa using hlost⟩
  | append_singleton more input ih =>
    obtain ⟨past₁, run₁, h₁, hlost₁⟩ := ih
    obtain ⟨past', run', hrun', hcase⟩ := runHeard_step hb h₁ input
    rw [List.append_assoc] at hrun' hcase
    refine ⟨past', run', hrun', ?_⟩
    rcases hcase with ⟨-, rfl, hlen, hrearm⟩ | ⟨-, rfl⟩
    · rcases hlost₁ with hclosed | ⟨hdeaf, hspeech⟩
      · exact .inl hclosed
      · exact .inr ⟨mt hrearm.mp hdeaf, by omega⟩
    · rcases hlost₁ with ⟨closed, hmem, hclosed⟩ | ⟨hdeaf, hspeech⟩
      · exact .inl ⟨closed, List.mem_append_left _ hmem, hclosed⟩
      · refine .inl ⟨run₁, List.mem_append_right _ (List.mem_singleton_self _), hspeech, ?_⟩
        cases h₁.hearing with
        | waiting _ _ _ hrearm => exact absurd hrearm hdeaf
        | speaking _ _ _ _ hrearm => exact absurd hrearm hdeaf
        | deaf _ _ _ _ _ _ _ hall => exact hall

theorem Lost.not_toldInFull {confirmation : Nat} (h : Lost confirmation run) :
    ¬ ToldInFull confirmation run := by
  rintro ⟨told, rest, rfl, htold, hrest, -⟩
  have hnil : told = [] := by
    refine List.eq_nil_iff_forall_not_mem.mpr fun x hx => ?_
    have hnone := h.2 x (List.mem_append_left _ hx)
    have hsome := htold x hx
    rw [hnone] at hsome
    cases hsome
  have hlen := h.1
  rw [hnil, List.nil_append] at hlen
  omega

/-- Where the segmenter is deaf to speech once, that speech is lost. -/
theorem emits_neverDeaf (hb : 0 < g₀.speechConfirmationFrames) (h0 : RunHeard g₀ [] [] [])
    (h : Emits g₀.speechConfirmationFrames (SpeechSegmenter.heard (exec step g₀ inputs).1)) :
    NeverDeaf g₀ inputs := by
  rintro before block after rfl hvoice hlen
  by_contra hdeaf
  obtain ⟨past, run, hbefore, -⟩ := run_heard hb h0 before
  obtain ⟨run₁, hblock, hdeaf₁, hlen₁⟩ := hbefore.deaf hb hdeaf block hvoice
  obtain ⟨past', run', hend, hlost⟩ := hblock.lost hb (.inr ⟨hdeaf₁, by omega⟩) after
  have hruns := hend.hearing.runs
  rcases hlost with ⟨closed, hmem, hclosed⟩ | ⟨hdeaf', hspeech⟩
  · exact hclosed.not_toldInFull (h closed (by rw [hruns]; exact List.mem_append_left _ hmem) hclosed.1)
  · have hall : ∀ x ∈ run', x.told = none := by
      cases hend.hearing with
      | waiting _ _ _ hrearm => exact absurd hrearm hdeaf'
      | speaking _ _ _ _ hrearm => exact absurd hrearm hdeaf'
      | deaf _ _ _ _ _ _ _ hall => exact hall
    have hmem : run' ∈ voiceRuns (SpeechSegmenter.heard (exec step g₀ (before ++ block ++ after)).1) := by
      rw [hruns]
      simp
    exact Lost.not_toldInFull ⟨hspeech, hall⟩ (h run' hmem hspeech)

theorem runHeard_with (streamId : Uuid) (confirmation minUtterance maxUtterance adaptiveSilence : Nat) :
    let g := withConfirmationAndAdaptiveFrames streamId confirmation minUtterance maxUtterance adaptiveSilence
    0 < g.speechConfirmationFrames ∧ RunHeard g [] [] [] :=
  ⟨(bounded_with ..).confirmation, runHeard_nil (bounded_with ..).confirmation rfl rfl rfl rfl⟩

/-- Which frames a run has told is what `heard` keeps of it, and all speech among them is told exactly if the
    segmenter never waits for silence while enough voice to be speech comes in a row. -/
theorem run_emits_iff (streamId : Uuid) (confirmation minUtterance maxUtterance adaptiveSilence : Nat)
    (inputs : List Input) :
    let g := withConfirmationAndAdaptiveFrames streamId confirmation minUtterance maxUtterance adaptiveSilence
    toldOf (SpeechSegmenter.heard (exec step g inputs).1) = framesOf (told (exec step g inputs).1)
      ∧ (Emits g.speechConfirmationFrames (SpeechSegmenter.heard (exec step g inputs).1) ↔ NeverDeaf g inputs) := by
  intro g
  obtain ⟨hb, h0⟩ := runHeard_with streamId confirmation minUtterance maxUtterance adaptiveSilence
  obtain ⟨past, run, hrun, hpast⟩ := run_heard hb h0 inputs
  refine ⟨hrun.told, emits_neverDeaf hb h0, fun hnever => ?_⟩
  intro closed hmem hlen
  rw [hrun.hearing.runs] at hmem
  rcases List.mem_append.mp hmem with hmem | hmem
  · exact hpast hnever closed hmem hlen
  · rw [List.mem_singleton.mp hmem] at hlen ⊢
    exact hrun.toldInFull hb hnever hlen

theorem silentFrame_fits : (List.replicate 640 (0 : UInt8)).length
    = Core.StreamPcmFormat.providerDefault.frameBytes := List.length_replicate

/-- Almost four seconds of speech, a pause of one frame in which the utterance is cut, and speech again. -/
def cutInPause : List Input :=
  (List.range 210).map fun n =>
    ⟨⟨UInt64.ofNat n, n * 20000000, .providerDefault, List.replicate 640 0, silentFrame_fits⟩,
      .ok (n ≠ 199), BitVec.ofNat 128 n⟩

theorem cutInPause_loses_speech :
    let g := withConfirmationAndAdaptiveFrames 1 3 200 200 6
    ¬ Emits g.speechConfirmationFrames (SpeechSegmenter.heard (exec step g cutInPause).1) := by
  intro g h
  obtain ⟨hb, h0⟩ := runHeard_with 1 3 200 200 6
  have hnever := emits_neverDeaf hb h0 h
  have hready := hnever (cutInPause.take 200) (cutInPause.drop 200) [] (by simp) (by decide +kernel) (by decide +kernel)
  revert hready
  decide +kernel

end SpeechSegmenter

end Translator.Audio
