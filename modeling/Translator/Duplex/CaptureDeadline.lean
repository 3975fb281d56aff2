import Translator.Audio.Utterances
import Translator.Stream.Collecting
import Translator.Stream.Playback

/-! The capture arm of `run_direction`: a captured frame goes through the segmenter, and what it tells
    goes to the session at once. Frames come every 20 ms, so an utterance of `n` frames ends
    `(n - 1) · 20 ms` after its first one; the session gives it twelve seconds. -/

namespace Translator.Duplex
open Schemes Translator.Stream
open Audio (CaptureEvent VadError SpeechSegmenter)
open Audio.SpeechSegmenter (Input Bounded SameSettings)
open Core (PcmFrame StreamPcmFormat)
open Wire (ProviderEvent ProviderRequest Uuid maxActiveUtterances nsPerMs)
open DirectionSession (Collecting Unmet)
open ProviderStreamCoordinator (Continues InTime)

/-- What a direction's loop holds for its capture, with the capture time of the last frame. -/
structure CapturedSession where
  segmenter : SpeechSegmenter
  session : DirectionSession
  capturedNs : Option Nat

inductive CaptureError where
  | captureVad (error : VadError)
  | captureSession (error : DirectionSessionError)
  deriving DecidableEq, Repr

/-- One round of the loop. -/
inductive Round where
  | capture (input : Input)
  | providerEvent (event : ProviderEvent) (nowNs : Nat)
  | poll (nowNs : Nat)

inductive RoundResult where
  | captured (sent : Outcome CaptureError (List ProviderRequest))
  | answered (result : DirectionSession.Result)

/-- `for event in events`: every event goes to the session, up to the first error. -/
def handleAll : List CaptureEvent → DirectionSession → Turned (List ProviderRequest)
  | [], session => (.ok [], session)
  | event :: events, session =>
    match session.handleCapture event with
    | (.ok request, session) =>
      let (sent, session) := handleAll events session
      (sent.map (request.toList ++ ·), session)
    | (.err error, session) => (.err error, session)
    | (.panic, session) => (.panic, session)

namespace CapturedSession

/-- The arm that reads a frame. -/
def captureFrame (loop : CapturedSession) (input : Input) :
    Outcome CaptureError (List ProviderRequest) × CapturedSession :=
  let captured := some input.frame.captureMonotonicNs
  match loop.segmenter.step input with
  | (.ok events, segmenter) =>
    let (sent, session) := handleAll events loop.session
    (sent.mapErr .captureSession, ⟨segmenter, session, captured⟩)
  | (.err error, segmenter) => (.err (.captureVad error), ⟨segmenter, loop.session, captured⟩)
  | (.panic, segmenter) => (.panic, ⟨segmenter, loop.session, captured⟩)

def step (loop : CapturedSession) : Round → RoundResult × CapturedSession
  | .capture input =>
    let (sent, loop) := loop.captureFrame input
    (.captured sent, loop)
  | .providerEvent event nowNs =>
    let (result, session) := loop.session.apply (.providerEvent event nowNs)
    (.answered result, { loop with session := session })
  | .poll nowNs =>
    let (result, session) := loop.session.apply (.poll nowNs)
    (.answered result, { loop with session := session })

end CapturedSession

/-- The time from one frame to the next. -/
def framePeriodNs : Nat := 20 * nsPerMs

/-- Frames come in time and are usable, and the provider retires utterances: when speech may start
    there is room for an utterance, at a poll no other utterance than the one being collected is
    overdue, and no event closes the session. Polls are not ahead of the capture. -/
def Round.Regular (loop : CapturedSession) : Round → Prop
  | .capture input => input.Accepted ∧ input.frame.captureMonotonicNs ≤ u64Max
    ∧ (∀ last, loop.capturedNs = some last →
      input.frame.captureMonotonicNs = last + framePeriodNs)
    ∧ (loop.session.collectingUtterance = none → loop.session.Unmet input.freshId
      ∧ loop.session.coordinator.validator.inputCaptureNs.keys.length < maxActiveUtterances)
  | .providerEvent event _ => ∀ kind, event = some kind → loop.session.coordinator.Continues kind
  | .poll nowNs => (∀ last, loop.capturedNs = some last → nowNs ≤ last)
    ∧ loop.session.coordinator.InTime loop.session.collectingUtterance nowNs

/-! ### What the segmenter tells of a frame -/

/-- How far the segmenter is: between utterances, or in one whose first frame was captured at that
    time and whose last one is the last captured. -/
inductive Paced (g : SpeechSegmenter) (capturedNs : Option Nat) : Option (Uuid × Nat) → Prop
  | waiting (hid : g.utteranceId = none) (hsilence : g.trailingSilence = [])
      (hpending : ∀ first, g.pendingSpeech.head? = some first → capturedNs
        = some (first.captureMonotonicNs + (g.pendingSpeech.length - 1) * framePeriodNs))
      (hlength : g.pendingSpeech.length < g.speechConfirmationFrames)
      (hrearm : g.rearmSilenceFrames ≠ none → g.pendingSpeech = []) : Paced g capturedNs none
  | speaking (u : Uuid) (ns : Nat) (hid : g.utteranceId = some u) (hpending : g.pendingSpeech = [])
      (hrearm : g.rearmSilenceFrames = none)
      (hcaptured : capturedNs = some (ns + (g.activeFrames - 1) * framePeriodNs))
      (hactive : 0 < g.activeFrames) (hmax : g.activeFrames < g.maxUtteranceFrames) :
      Paced g capturedNs (some (u, ns))

/-- What is told of a frame that was captured at that time, with the utterance before and after. -/
inductive Told (streamId freshId : Uuid) (capturedNs : Nat) :
    Option (Uuid × Nat) → List CaptureEvent → Option (Uuid × Nat) → Prop
  | nothing (since : Option (Uuid × Nat)) : Told streamId freshId capturedNs since [] since
  | opened (ns : Nat) (frames : List PcmFrame) : Told streamId freshId capturedNs none
      (.speechStarted streamId freshId ns
        :: frames.map (fun frame => .frame streamId freshId frame false)) (some (freshId, ns))
  | continued (u : Uuid) (ns : Nat) (frames : List PcmFrame) : Told streamId freshId capturedNs
      (some (u, ns)) (frames.map (fun frame => .frame streamId u frame false)) (some (u, ns))
  | ended (u : Uuid) (ns : Nat) (frames : List PcmFrame) (last : PcmFrame)
      (hlast : last.captureMonotonicNs = capturedNs) : Told streamId freshId capturedNs (some (u, ns))
      (frames.map (fun frame => .frame streamId u frame false) ++ [.frame streamId u last true]) none

variable {g g' : SpeechSegmenter} {frame : PcmFrame} {freshId u : Uuid} {ns : Nat}
  {capturedNs : Option Nat} {since : Option (Uuid × Nat)} {d d' : DirectionSession}

/-- The outcome of an accepted frame. -/
def Keeps (g : SpeechSegmenter) (frame : PcmFrame) (freshId : Uuid) (since : Option (Uuid × Nat))
    (result : SpeechSegmenter.Segmented) : Prop :=
  ∃ events g' since', result = (.ok events, g') ∧ SameSettings g g'
    ∧ Paced g' (some frame.captureMonotonicNs) since'
    ∧ Told g.streamId freshId frame.captureMonotonicNs since events since'
    ∧ (∀ u ns, since = some (u, ns) → frame.captureMonotonicNs
        ≤ ns + (g.maxUtteranceFrames - 1) * framePeriodNs)

section Frame

variable (hb : Bounded g) (hnext : ∀ last, capturedNs = some last →
  frame.captureMonotonicNs = last + framePeriodNs)

include hb hnext

theorem keeps_idle (hid : g.utteranceId = none) (hsilence : g.trailingSilence = [])
    (hpending : ∀ first, g.pendingSpeech.head? = some first → capturedNs
      = some (first.captureMonotonicNs + (g.pendingSpeech.length - 1) * framePeriodNs))
    (hlength : g.pendingSpeech.length < g.speechConfirmationFrames)
    (hrearm : g.rearmSilenceFrames = none) (voice : Bool) :
    Keeps g frame freshId none (g.processIdle frame voice freshId) := by
  unfold SpeechSegmenter.processIdle
  cases voice with
  | false =>
    refine ⟨[], _, none, rfl, ⟨rfl, rfl, rfl, rfl⟩, ?_, .nothing none, nofun⟩
    exact .waiting hid hsilence nofun hb.confirmation fun _ => rfl
  | true =>
    simp only [Bool.not_true, Bool.false_eq_true, if_false]
    -- the frame carries on from the first one pending
    have hfirst : ∀ first, (g.pendingSpeech ++ [frame]).head? = some first →
        frame.captureMonotonicNs
          = first.captureMonotonicNs + ((g.pendingSpeech ++ [frame]).length - 1) * framePeriodNs := by
      intro first hhead
      cases hp : g.pendingSpeech with
      | nil =>
        rw [hp] at hhead
        obtain rfl : frame = first := Option.some.inj hhead
        simp
      | cons head rest =>
        rw [hp] at hhead
        obtain rfl : head = first := Option.some.inj hhead
        have hlast := hnext _ (hpending head (by rw [hp]; rfl))
        rw [hp] at hlast
        simp only [List.length_cons, List.length_append, List.length_nil, Nat.zero_add,
          Nat.add_sub_cancel] at hlast ⊢
        rw [hlast, Nat.add_mul]
        omega
    split
    · next hlt =>
      refine ⟨[], _, none, rfl, ⟨rfl, rfl, rfl, rfl⟩, ?_, .nothing none, nofun⟩
      refine .waiting hid hsilence (fun first hhead => ?_) hlt fun hne => absurd hrearm hne
      exact congrArg some (hfirst first hhead)
    · next hge =>
      have hlen : (g.pendingSpeech ++ [frame]).length = g.speechConfirmationFrames := by
        simp only [List.length_append, List.length_singleton] at hge ⊢
        omega
      cases hp : g.pendingSpeech ++ [frame] with
      | nil => simp at hp
      | cons first rest =>
        have hcaptured := hfirst first (by rw [hp]; rfl)
        rw [hp] at hcaptured hlen
        refine ⟨_, _, some (freshId, first.captureMonotonicNs), rfl, ⟨rfl, rfl, rfl, rfl⟩, ?_,
          .opened _ (first :: rest), nofun⟩
        refine .speaking freshId _ rfl rfl hrearm (congrArg some hcaptured) ?_ ?_
        · exact Nat.succ_pos _
        · show (first :: rest).length < g.maxUtteranceFrames
          rw [hlen]
          exact hb.fits

theorem keeps_active (hid : g.utteranceId = some u) (hpending : g.pendingSpeech = [])
    (hrearm : g.rearmSilenceFrames = none)
    (hcaptured : capturedNs = some (ns + (g.activeFrames - 1) * framePeriodNs))
    (hactive : 0 < g.activeFrames) (hmax : g.activeFrames < g.maxUtteranceFrames) (voice : Bool) :
    Keeps g frame freshId (some (u, ns)) (g.processActive frame voice u) := by
  have hcount := SpeechSegmenter.count_next hb hmax
  have hframe : frame.captureMonotonicNs = ns + (g.activeFrames + 1 - 1) * framePeriodNs := by
    rw [hnext _ hcaptured]
    obtain ⟨n, hn⟩ : ∃ n, g.activeFrames = n + 1 := ⟨g.activeFrames - 1, by omega⟩
    rw [hn, Nat.add_sub_cancel, Nat.add_sub_cancel, Nat.add_mul]
    omega
  have hbound : ∀ u' ns', some (u, ns) = some (u', ns') → frame.captureMonotonicNs
      ≤ ns' + (g.maxUtteranceFrames - 1) * framePeriodNs := by
    intro u' ns' heq
    obtain ⟨-, rfl⟩ := Prod.mk.inj (Option.some.inj heq)
    rw [hframe]
    exact Nat.add_le_add_left (Nat.mul_le_mul_right _ (by omega)) _
  have hgoes : ∀ g' : SpeechSegmenter, g'.utteranceId = some u → g'.pendingSpeech = [] →
      g'.rearmSilenceFrames = none → g'.activeFrames = saturatingAdd g.activeFrames 1 →
      ¬ g'.maxUtteranceFrames ≤ g'.activeFrames →
      Paced g' (some frame.captureMonotonicNs) (some (u, ns)) := by
    intro g' hid' hpending' hrearm' hactive' hlt
    rw [hcount] at hactive'
    refine .speaking u ns hid' hpending' hrearm' ?_ (by omega) (Nat.not_le.mp hlt)
    rw [hactive', hframe]
  have hfinish : ∀ g' : SpeechSegmenter, g'.utteranceId = none → g'.pendingSpeech = [] →
      g'.trailingSilence = [] → SameSettings g g' →
      Paced g' (some frame.captureMonotonicNs) none := by
    intro g' hid' hpending' hsilence' hsame
    refine .waiting hid' hsilence' ?_ ?_ fun _ => hpending'
    · rw [hpending']
      nofun
    · rw [hpending', hsame.confirmation]
      exact hb.confirmation
  unfold SpeechSegmenter.processActive
  cases voice with
  | true =>
    simp only [if_true]
    unfold SpeechSegmenter.processVoice
    dsimp only
    split
    · rw [SpeechSegmenter.finishForcedUtterance_concat]
      refine ⟨_, _, none, rfl, ⟨rfl, rfl, rfl, rfl⟩, hfinish _ rfl hpending rfl ⟨rfl, rfl, rfl, rfl⟩,
        .ended u ns g.trailingSilence frame rfl, hbound⟩
    · next hlt =>
      refine ⟨_, _, some (u, ns), rfl, ⟨rfl, rfl, rfl, rfl⟩, hgoes _ hid hpending hrearm rfl hlt,
        ?_, hbound⟩
      have htold := @Told.continued g.streamId freshId frame.captureMonotonicNs u ns
        (g.trailingSilence ++ [frame])
      rw [List.map_append] at htold
      exact htold
  | false =>
    simp only [Bool.false_eq_true, if_false]
    have hended : ∀ forced active, Keeps g frame freshId (some (u, ns))
        ({ g with
          trailingSilence := g.trailingSilence ++ [frame]
          activeFrames := active }.finishWithTrailingSilence u forced) := by
      intro forced active
      simp only [SpeechSegmenter.finishWithTrailingSilence, List.getLast?_concat,
        List.dropLast_concat]
      exact ⟨_, _, none, rfl, ⟨rfl, rfl, rfl, rfl⟩, hfinish _ rfl hpending rfl ⟨rfl, rfl, rfl, rfl⟩,
        .ended u ns g.trailingSilence frame rfl, hbound⟩
    split
    · split
      · exact hended true _
      · next hlt =>
        exact ⟨[], _, some (u, ns), rfl, ⟨rfl, rfl, rfl, rfl⟩, hgoes _ hid hpending hrearm rfl hlt,
          .nothing _, hbound⟩
    · exact hended false _

/-- An accepted frame keeps the pace. -/
theorem keeps_process (h : Paced g capturedNs since)
    (hf : frame.format = .providerDefault) (voice : Bool) :
    Keeps g frame freshId since (g.process frame (.ok voice) freshId) := by
  unfold SpeechSegmenter.process
  rw [if_neg (not_not.mpr hf)]
  dsimp only
  cases h with
  | waiting hid hsilence hpending hlength hrearm =>
    cases hre : g.rearmSilenceFrames with
    | none =>
      simp only [hid]
      exact keeps_idle hb hnext hid hsilence hpending hlength hre voice
    | some n =>
      have hnil := hrearm (by simp [hre])
      refine ⟨[], _, none, rfl, ⟨rfl, rfl, rfl, rfl⟩, ?_, .nothing none, nofun⟩
      refine .waiting hid hsilence ?_ hlength fun _ => hnil
      show ∀ first, g.pendingSpeech.head? = some first → _
      rw [hnil]
      nofun
  | speaking u ns hid hpending hrearm hcaptured hactive hmax =>
    simp only [hrearm, hid]
    exact keeps_active hb hnext hid hpending hrearm hcaptured hactive hmax voice

end Frame

/-! ### What the session makes of it -/

theorem handleAll_cons {event : CaptureEvent} {events : List CaptureEvent}
    {request : Option ProviderRequest} {sent : List ProviderRequest}
    {d₁ : DirectionSession} (h : d.handleCapture event = (.ok request, d₁))
    (hrest : handleAll events d₁ = (.ok sent, d')) :
    handleAll (event :: events) d = (.ok (request.toList ++ sent), d') := by
  unfold handleAll
  rw [h]
  dsimp only
  rw [hrest]
  rfl

theorem handleAll_append {first second : List CaptureEvent} {sent : List ProviderRequest}
    {d₁ : DirectionSession} (h : handleAll first d = (.ok sent, d₁)) :
    handleAll (first ++ second) d
      = ((handleAll second d₁).1.map (sent ++ ·), (handleAll second d₁).2) := by
  induction first generalizing d sent with
  | nil =>
    cases h
    rcases h₂ : handleAll second d₁ with ⟨result, d₂⟩
    cases result <;> simp [Outcome.map, h₂]
  | cons event rest ih =>
    unfold handleAll at h
    rcases he : d.handleCapture event with ⟨result, d₂⟩
    rw [he] at h
    cases result with
    | err e => cases h
    | panic => cases h
    | ok request =>
      dsimp only at h
      rcases hr : handleAll rest d₂ with ⟨result₂, d₃⟩
      rw [hr] at h
      cases result₂ with
      | err e => cases h
      | panic => cases h
      | ok sent₂ =>
        cases h
        rw [List.cons_append, handleAll, he]
        dsimp only
        rw [ih hr]
        rcases handleAll second d₃ with ⟨result, d₄⟩
        cases result <;> simp [Outcome.map]

/-- The frames of the utterance that is collected are sent. -/
theorem handleAll_frames (frames : List PcmFrame) (h : Collecting d (some (u, ns))) :
    ∃ sent d', handleAll (frames.map (fun frame => .frame d.contract.streamId u frame false)) d
        = (.ok sent, d') ∧ d'.contract = d.contract ∧ Collecting d' (some (u, ns)) := by
  induction frames generalizing d with
  | nil => exact ⟨[], d, rfl, rfl, h⟩
  | cons frame frames ih =>
    obtain ⟨d₁, hframe, hcontract, h₁⟩ := DirectionSession.collecting_framed h frame
    obtain ⟨sent, d', hrest, hcontract', h'⟩ := ih h₁
    rw [hcontract] at hrest
    exact ⟨_, d', handleAll_cons hframe hrest, hcontract'.trans hcontract, h'⟩

/-- What is told of a frame is taken, within the deadline. -/
theorem handleAll_told {capturedNs : Nat} {since' : Option (Uuid × Nat)} {events : List CaptureEvent}
    (h : Collecting d since) (htold : Told d.contract.streamId freshId capturedNs since events since')
    (hstart : since = none → d.Unmet freshId
      ∧ d.coordinator.validator.inputCaptureNs.keys.length < maxActiveUtterances)
    (hend : ∀ u ns, since = some (u, ns) →
      capturedNs ≤ saturatingAdd ns collectingInputTimeout) :
    ∃ sent d', handleAll events d = (.ok sent, d') ∧ d'.contract = d.contract
      ∧ Collecting d' since' := by
  cases htold with
  | nothing => exact ⟨[], d, rfl, rfl, h⟩
  | opened ns frames =>
    obtain ⟨hunmet, hroom⟩ := hstart rfl
    obtain ⟨d₁, hstarted, hcontract, h₁⟩ := DirectionSession.collecting_started h hunmet hroom ns
    obtain ⟨sent, d', hrest, hcontract', h'⟩ := handleAll_frames frames h₁
    rw [hcontract] at hrest
    exact ⟨_, d', handleAll_cons hstarted hrest, hcontract'.trans hcontract, h'⟩
  | continued u ns frames => exact handleAll_frames frames h
  | ended u ns frames last hlast =>
    obtain ⟨sent, d₁, hframes, hcontract, h₁⟩ := handleAll_frames frames h
    obtain ⟨d', hended, hcontract', h'⟩ := @DirectionSession.collecting_ended _ _ _ last h₁
      (hlast ▸ hend u ns rfl)
    rw [hcontract] at hended
    obtain ⟨tail, htail⟩ : ∃ tail, handleAll [.frame d.contract.streamId u last true] d₁
        = (.ok tail, d') := ⟨_, handleAll_cons hended rfl⟩
    refine ⟨sent ++ tail, d', ?_, hcontract'.trans hcontract, h'⟩
    rw [handleAll_append hframes, htail]
    rfl

/-! ### Every run -/

/-- The segmenter's pace, with the session collecting what the segmenter tells of. -/
structure InStep (loop : CapturedSession) (since : Option (Uuid × Nat)) : Prop where
  bounded : Bounded loop.segmenter
  paced : Paced loop.segmenter loop.capturedNs since
  collecting : Collecting loop.session since
  stream : loop.segmenter.streamId = loop.session.contract.streamId
  clock : ∀ last, loop.capturedNs = some last → last ≤ u64Max

/-- Every event of a frame is taken, and a poll finds nothing to do. -/
def RoundResult.Fine : Round → RoundResult → Prop
  | .capture _, .captured sent => ∃ requests, sent = .ok requests
  | .capture _, .answered _ => False
  | .providerEvent _ _, _ => True
  | .poll _, result => result = .answered (.ok (.watchdog []))

/-- The utterances that fit the deadline: their last frame is captured within it. -/
def FitsDeadline (g : SpeechSegmenter) : Prop :=
  (g.maxUtteranceFrames - 1) * framePeriodNs ≤ collectingInputTimeout

theorem fitsDeadline_iff : FitsDeadline g ↔ g.maxUtteranceFrames ≤ 601 := by
  unfold FitsDeadline framePeriodNs collectingInputTimeout nsPerMs
  omega

variable {loop : CapturedSession} {round : Round}

/-- What was captured within the longest utterance is within the deadline. -/
theorem within_deadline {at' ns n : Nat} (hfits : FitsDeadline g) (hat : at' ≤ u64Max)
    (hn : n ≤ g.maxUtteranceFrames - 1) (h : at' ≤ ns + n * framePeriodNs) :
    at' ≤ saturatingAdd ns collectingInputTimeout := by
  have hlong : n * framePeriodNs ≤ (g.maxUtteranceFrames - 1) * framePeriodNs :=
    Nat.mul_le_mul_right _ hn
  unfold FitsDeadline at hfits
  unfold saturatingAdd
  omega

theorem capture_fine (h : InStep loop since) (hfits : FitsDeadline loop.segmenter) {input : Input}
    (hr : (Round.capture input).Regular loop) :
    ∃ since', InStep (loop.captureFrame input).2 since'
      ∧ SameSettings loop.segmenter (loop.captureFrame input).2.segmenter
      ∧ ∃ requests, (loop.captureFrame input).1 = .ok requests := by
  obtain ⟨⟨hformat, voice, hvoice⟩, hat, hnext, hroom⟩ := hr
  obtain ⟨events, g', since', hprocess, hsame, hpaced, htold, hlate⟩ :=
    @keeps_process _ _ input.freshId _ _ h.bounded hnext h.paced hformat voice
  rw [h.stream] at htold
  obtain ⟨sent, d', hsent, hcontract, hcollecting⟩ := handleAll_told h.collecting htold
    (fun hnone => hroom (by rw [h.collecting.current, hnone]; rfl))
    (fun u ns hsince => within_deadline hfits hat le_rfl (hlate u ns hsince))
  have hstep : loop.segmenter.step input = (.ok events, g') := by
    rw [SpeechSegmenter.step, hvoice]
    exact hprocess
  have hcaptured : loop.captureFrame input
      = (.ok sent, ⟨g', d', some input.frame.captureMonotonicNs⟩) := by
    unfold CapturedSession.captureFrame
    rw [hstep]
    dsimp only
    rw [hsent]
    rfl
  rw [hcaptured]
  refine ⟨since', ⟨Audio.SpeechSegmenter.bounded_same h.bounded hsame, hpaced, hcollecting, ?_, ?_⟩,
    hsame, sent, rfl⟩
  · exact hsame.stream.trans (h.stream.trans (by rw [hcontract]))
  · rintro last heq
    cases heq
    exact hat

/-- One round of the loop: nothing fails, and the two stay in step. -/
theorem inStep_step (h : InStep loop since) (hfits : FitsDeadline loop.segmenter)
    (hr : round.Regular loop) :
    ∃ since', InStep (loop.step round).2 since'
      ∧ SameSettings loop.segmenter (loop.step round).2.segmenter
      ∧ (loop.step round).1.Fine round := by
  have hsame : SameSettings loop.segmenter loop.segmenter := ⟨rfl, rfl, rfl, rfl⟩
  cases round with
  | capture input => exact capture_fine h hfits hr
  | providerEvent event now =>
    have hcontract := DirectionSession.apply_contract loop.session (.providerEvent event now)
    refine ⟨since, ⟨h.bounded, h.paced, ?_, h.stream.trans ?_, h.clock⟩, hsame, trivial⟩
    · exact DirectionSession.collecting_event h.collecting hr
    · exact (congrArg Wire.ProviderSessionContract.streamId hcontract).symm
  | poll now =>
    obtain ⟨hbefore, hintime⟩ := hr
    have hnow : ∀ u ns, since = some (u, ns) → now ≤ saturatingAdd ns collectingInputTimeout := by
      rintro u ns rfl
      cases h.paced with
      | speaking _ _ hid hpending hrearm hcaptured hactive hmax =>
        have hlast := hbefore _ hcaptured
        exact within_deadline hfits (hlast.trans (h.clock _ hcaptured)) (by omega) hlast
    have hpolled := DirectionSession.collecting_polled h.collecting hintime hnow
    simp only [CapturedSession.step, hpolled]
    exact ⟨since, h, hsame, rfl⟩

/-- A session that has taken its `SessionOpened`. -/
def Opened (d : DirectionSession) : Prop :=
  ∃ config sessionId streamId opening openedNs, opening.isSessionOpened = true
    ∧ (DirectionSession.new config sessionId streamId).apply (.providerEvent (some opening) openedNs)
      = (.ok (.effects []), d)

theorem collecting_opened (h : Opened d) : Collecting d none := by
  obtain ⟨config, sessionId, streamId, opening, now, hopening, happly⟩ := h
  have hnew := DirectionSession.settled_new config sessionId streamId
  have hturn := DirectionSession.apply_turn hnew (.providerEvent (some opening) now)
  have hsettled := DirectionSession.settled_step hnew (.providerEvent (some opening) now)
  rw [happly] at hturn hsettled
  have hsame := @DirectionSession.apply_collecting
    (DirectionSession.new config sessionId streamId) now (some opening) (by
      rintro kind heq
      cases heq
      cases opening <;> first | rfl | cases hopening)
  rw [happly] at hsame
  refine ⟨hsettled, ?_, hsame, nofun⟩
  generalize hr : Outcome.ok (DirectionSession.Answer.effects []) = r at hturn
  cases hturn with
  | dropped a => cases hopening
  | noted _ _ v _ hadm hau hf hcl hv hd =>
    obtain ⟨⟨hclosed, -⟩, -, w, hverdict, rfl⟩ := Wire.ProviderEventValidator.validate_ok hv
    generalize hj : (Outcome.ok (), w) = j at hverdict
    cases hverdict with
    | opened o ho hu =>
      cases hj
      rw [hd]
      exact ⟨rfl, rfl, Wire.ProviderEventValidator.clear_closed.trans hclosed⟩
    | noted _ _ _ _ hop => rw [hopening] at hop; cases hop
    | _ => simp_all [Wire.Event.isSessionOpened]
  | _ => cases hr

/-- Loops that start in step stay so. -/
theorem run_fine (h : InStep loop since) (hfits : FitsDeadline loop.segmenter) (rounds : List Round)
    (hadm : Adm CapturedSession.step (fun loop round => round.Regular loop) loop rounds) :
    ∀ entry ∈ (exec CapturedSession.step loop rounds).1, entry.2.Fine entry.1 := by
  have hinv := exec_invariant (I := fun log (loop' : CapturedSession) =>
      (∃ since, InStep loop' since) ∧ SameSettings loop.segmenter loop'.segmenter
        ∧ ∀ entry ∈ log, RoundResult.Fine entry.1 entry.2)
    ⟨⟨since, h⟩, ⟨rfl, rfl, rfl, rfl⟩, fun _ hnil => absurd hnil List.not_mem_nil⟩ ?_ rounds hadm
  · exact hinv.2.2
  rintro log loop' round ⟨⟨since, h⟩, hsame, hfine⟩ hround
  have hfits' : FitsDeadline loop'.segmenter := by
    rw [FitsDeadline, hsame.max]
    exact hfits
  obtain ⟨since', h', hsame', hfine'⟩ := inStep_step h hfits' hround
  refine ⟨⟨since', h'⟩, Audio.SpeechSegmenter.sameSettings_trans hsame hsame', ?_⟩
  intro entry hentry
  rcases List.mem_append.mp hentry with hold | hnew
  · exact hfine entry hold
  · rw [List.mem_singleton.mp hnew]
    exact hfine'

/-- In every regular run in which the longest utterance fits the deadline every captured frame is
    taken, and the watchdog cancels nothing. -/
theorem capture_in_time (session : DirectionSession) (hopened : Opened session)
    (confirmation minUtterance maxUtterance adaptiveSilence : Nat) (g : SpeechSegmenter)
    (hg : g = .withConfirmationAndAdaptiveFrames session.contract.streamId confirmation minUtterance
      maxUtterance adaptiveSilence)
    (hmax : g.maxUtteranceFrames ≤ 601) (rounds : List Round)
    (hadm : Adm CapturedSession.step (fun loop round => round.Regular loop) ⟨g, session, none⟩ rounds) :
    ∀ entry ∈ (exec CapturedSession.step ⟨g, session, none⟩ rounds).1, entry.2.Fine entry.1 := by
  have hb : Bounded g := hg ▸ Audio.SpeechSegmenter.bounded_with _ _ _ _ _
  have hpaced : Paced g none none := by
    subst hg
    exact .waiting rfl rfl nofun hb.confirmation fun _ => rfl
  have hstream : g.streamId = session.contract.streamId := by rw [hg]; rfl
  exact run_fine ⟨hb, hpaced, collecting_opened hopened, hstream, fun _ h => by cases h⟩
    (fitsDeadline_iff.mpr hmax) rounds hadm

/-! ### Sample runs -/

/-- A session that is open. -/
def openedSession : DirectionSession :=
  ((DirectionSession.new DirectionSession.sampleConfig 1 2).apply
    (.providerEvent (some Wire.ProviderEventValidator.sampleOpened) 0)).2

theorem opened_openedSession : Opened openedSession :=
  ⟨DirectionSession.sampleConfig, 1, 2, Wire.ProviderEventValidator.sampleOpened, 0, rfl,
    Prod.ext (by decide +kernel) rfl⟩

/-- A frame of speech, so many after the first. -/
def voiced (n : Nat) : Round :=
  .capture ⟨{ DirectionSession.silence with captureMonotonicNs := n * framePeriodNs }, .ok true, 7⟩

/-- The error a captured frame came to. -/
def RoundResult.failure : RoundResult → Option CaptureError
  | .captured (.err error) => some error
  | _ => none

/-- The loop at the start, with a longest utterance. -/
def listening (maxUtterance : Nat) : CapturedSession :=
  ⟨.withConfirmationAndAdaptiveFrames 2 3 50 maxUtterance 6, openedSession, none⟩

/-- The condition of a run that only captures. -/
def capturesRegularly (loop : CapturedSession) : Round → Bool
  | .capture input => decide input.Accepted && decide (input.frame.captureMonotonicNs ≤ u64Max)
    && loop.capturedNs.all (fun last => input.frame.captureMonotonicNs == last + framePeriodNs)
    && (loop.session.collectingUtterance.isSome
      || decide (input.freshId ∉ loop.session.activeUtterances)
        && decide (input.freshId ∉ loop.session.coordinator.watchdog.utterances)
        && decide (input.freshId ∉ loop.session.coordinator.validator.terminalUtterances)
        && decide (loop.session.coordinator.validator.inputCaptureNs.keys.length
          < maxActiveUtterances))
  | _ => false

theorem regular_of_captures (h : capturesRegularly loop round = true) : round.Regular loop := by
  cases round with
  | providerEvent event now => cases h
  | poll now => cases h
  | capture input =>
    simp only [capturesRegularly, Bool.and_eq_true, Bool.or_eq_true, decide_eq_true_eq] at h
    obtain ⟨⟨⟨haccepted, hat⟩, hnext⟩, hstart⟩ := h
    refine ⟨haccepted, hat, fun last hlast => ?_, fun hnone => ?_⟩
    · rw [hlast] at hnext
      exact beq_iff_eq.mp hnext
    · rw [hnone] at hstart
      obtain ⟨⟨⟨hactive, hwatched⟩, hended⟩, hroom⟩ := hstart.resolve_left Bool.false_ne_true
      exact ⟨⟨hactive, hwatched, hended⟩, hroom⟩

/-- The longest utterance that fits. -/
theorem capture_in_time_listening :
    (listening 601).segmenter.maxUtteranceFrames = 601
      ∧ ∀ entry ∈ (exec CapturedSession.step (listening 601) ((List.range 4).map voiced)).1,
        entry.2.Fine entry.1 :=
  ⟨rfl, capture_in_time openedSession opened_openedSession 3 50 601 6 _ rfl (by decide) _
    fun pre op hp => regular_of_captures (adm_of_walk (by decide +kernel) pre op hp)⟩

/-- One frame more, and the last one comes too late: 601 frame periods are 12.02 s. -/
theorem capture_too_late :
    Opened openedSession
      ∧ Adm CapturedSession.step (fun loop round => round.Regular loop) (listening 602)
        ((List.range 602).map voiced)
      ∧ ∃ entry ∈ (exec CapturedSession.step (listening 602) ((List.range 602).map voiced)).1,
        entry.2.failure
          = some (.captureSession (.coordinator (.watchdog .deadlineExpired))) := by
  refine ⟨opened_openedSession,
    fun pre op hp => regular_of_captures (adm_of_walk (by decide +kernel) pre op hp), ?_⟩
  rw [List.range_succ, List.map_append, List.map_singleton, exec_concat]
  refine ⟨_, List.mem_append_right _ (List.mem_singleton_self _), ?_⟩
  decide +kernel

end Translator.Duplex
