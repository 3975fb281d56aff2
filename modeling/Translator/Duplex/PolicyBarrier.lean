import Translator.Duplex.Generation
import Translator.Stream.Playback

/-! Does a mode change spare the utterances in flight? The barrier remembers of each direction only
    whether something is going on, and a terminal clears the mark for the whole direction: when the
    next utterance has begun by then, the direction is closed over it. As long as no utterance is
    retired while another one of its direction is live, a direction that is closed for a new mode
    has none. -/

namespace Translator.Duplex
open Schemes Core
open Audio (CaptureEvent)
open Audio.SpeechSegmenter (IsFrame StartsFirst process_startsFirst)
open Latency (DuplexRuntimeEvent)
open Wire (Uuid ProviderEvent)
open Translator.Stream (DirectionSession DirectionEffect)

/-- What an event told to the observer makes of the live utterances of a direction. -/
def liveAfter (direction : AudioDirection) (live : Finset Uuid) : DuplexRuntimeEvent → Finset Uuid
  | .speechStarted d u _ => if d = direction then insert u live else live
  | .utteranceTerminal d u => if d = direction then live.erase u else live
  | _ => live

/-- The utterances of a direction whose speech has started and whose terminal has not been
    received. -/
def live (direction : AudioDirection) (log : List (Generation.Op × List DuplexRuntimeEvent)) :
    Finset Uuid :=
  (log.flatMap Prod.snd).foldl (liveAfter direction) ∅

/-- The direction is closed for a policy reopen: it exits with `ModeChanged`, or it is stopped
    after its peer did. -/
def Generation.closedForPolicy (g : Generation) (direction : AudioDirection) : Bool :=
  match (g.loop direction).map DirectionLoop.phase with
  | some (.closing .modeChanged) | some (.exited (.ok .modeChanged)) => true
  | some (.closing .restartRequired) =>
    g.finished = some (.direction (peer direction) (.ok .modeChanged))
  | _ => false

/-- The final of an utterance arrives while another utterance of its direction is live. -/
def overlaps (log : List (Generation.Op × List DuplexRuntimeEvent)) : Generation.Op → Bool
  | .wake direction (.providerEvent (some (.utteranceFinal f)) _) =>
    match f.utteranceId with
    | some u => !decide (live direction log ⊆ {u})
    | none => false
  | _ => false

theorem peer_ne (direction : AudioDirection) : peer direction ≠ direction := by
  cases direction <;> decide

theorem live_concat (direction : AudioDirection)
    (log : List (Generation.Op × List DuplexRuntimeEvent)) (op : Generation.Op)
    (observed : List DuplexRuntimeEvent) :
    live direction (log ++ [(op, observed)])
      = observed.foldl (liveAfter direction) (live direction log) := by
  simp [live, List.flatMap_append, List.foldl_append]

/-! ### What a loop does when it is woken -/

/-- The event neither starts nor ends an utterance. -/
def Silent : DuplexRuntimeEvent → Prop
  | .speechStarted .. | .utteranceTerminal .. => False
  | _ => True

theorem foldl_silent {observed : List DuplexRuntimeEvent} (h : ∀ e ∈ observed, Silent e)
    (direction : AudioDirection) (live : Finset Uuid) :
    observed.foldl (liveAfter direction) live = live := by
  induction observed with
  | nil => rfl
  | cons e rest ih =>
    have he : liveAfter direction live e = live := by
      have := h e (List.mem_cons_self ..)
      cases e <;> first | rfl | exact this.elim
    rw [List.foldl_cons, he, ih fun e' he' => h e' (List.mem_cons_of_mem _ he')]

/-- The loop is on its way out for a new mode. -/
def Phase.Spent : Phase → Prop
  | .playing changed => changed = true
  | .closing exit => exit = .modeChanged
  | .exited exit => exit = .ok .modeChanged
  | _ => False

/-- What is left of a batch are frames. -/
def Phase.Orderly : Phase → Prop
  | .sending rest => ∀ event ∈ rest, IsFrame event
  | _ => True

namespace DirectionLoop

variable {l : DirectionLoop} {b : GenerationPolicyBarrier} {signals : Signals} {w : Wake} {ran : Ran}

/-- A step that concerns no utterance. -/
structure Quiet (l : DirectionLoop) (b : GenerationPolicyBarrier) (signals : Signals) (ran : Ran) :
    Prop where
  launch : ran.loop.launch = l.launch
  barrier : ran.barrier = b
  observed : ∀ e ∈ ran.observed, Silent e
  orderly : ran.loop.phase.Orderly
  spent : ran.loop.phase.Spent → l.phase.Spent
  stopped : ran.loop.phase = .closing .restartRequired →
    l.phase = .closing .restartRequired ∨ signals.generationStop = true

/-- Everything a woken loop may do. -/
inductive Woken (l : DirectionLoop) (b : GenerationPolicyBarrier) (signals : Signals) :
    Wake → Ran → Prop
  | quiet (w : Wake) (ran : Ran) (h : Quiet l b signals ran) : Woken l b signals w ran
  /-- An utterance starts, which only a loop that is not to be stopped lets happen. -/
  | started (w : Wake) (u : Uuid) (ns : Nat) (ran : Ran) (hl : ran.loop.launch = l.launch)
      (hb : ran.barrier = b.setActive l.direction true)
      (ho : ran.observed = [.speechStarted l.direction u ns]) (hq : signals.generationStop = false)
      (horder : ran.loop.phase.Orderly) (hspent : ¬ ran.loop.phase.Spent)
      (hclosing : ran.loop.phase ≠ .closing .restartRequired) : Woken l b signals w ran
  /-- An utterance ends. -/
  | ended (f : Wire.ProviderUtteranceFinal) (u : Uuid) (nowNs : Nat) (changed : Bool) (ran : Ran)
      (hu : f.utteranceId = some u) (hl : ran.loop.launch = l.launch)
      (hb : ran.barrier = l.settle b signals.requestedMode)
      (ho : ran.observed
        = [.utteranceTerminalOutcome l.direction u, .utteranceTerminal l.direction u])
      (hp : ran.loop.phase = .playing changed) :
      Woken l b signals (.providerEvent (some (.utteranceFinal f)) nowNs) ran

/-- The loop moves to a phase that is neither on the way out nor out of order. -/
theorem quiet_of_phase (hl : ran.loop.launch = l.launch) (hb : ran.barrier = b)
    (ho : ran.observed = []) (horder : ran.loop.phase.Orderly) (hspent : ¬ ran.loop.phase.Spent)
    (hclosing : ran.loop.phase ≠ .closing .restartRequired) : Quiet l b signals ran :=
  ⟨hl, hb, by simp [ho], horder, fun h => absurd h hspent, fun h => absurd h hclosing⟩

theorem quiet_same (horder : l.phase.Orderly) : Quiet l b signals ⟨[], b, l⟩ :=
  ⟨rfl, rfl, by simp, horder, id, .inl⟩

/-- The frames of a batch are sent one after another. -/
theorem handleCaptured_frames (events : List CaptureEvent) :
    ∀ l : DirectionLoop, (∀ event ∈ events, IsFrame event) →
      (l.handleCaptured b events).loop.launch = l.launch
        ∧ (l.handleCaptured b events).barrier = b ∧ (l.handleCaptured b events).observed = []
        ∧ (l.handleCaptured b events).loop.phase.Orderly
        ∧ ¬ (l.handleCaptured b events).loop.phase.Spent
        ∧ (l.handleCaptured b events).loop.phase ≠ .closing .restartRequired := by
  induction events with
  | nil => exact fun l _ => ⟨rfl, rfl, rfl, trivial, id, nofun⟩
  | cons event rest ih =>
    intro l h
    obtain ⟨s, u, frame, last, rfl⟩ := h _ (List.mem_cons_self ..)
    have hrest : ∀ event ∈ rest, IsFrame event := fun e he => h e (List.mem_cons_of_mem _ he)
    simp only [handleCaptured, announce]
    split
    · next session _ => exact ih { l with session := session } hrest
    · exact ⟨rfl, rfl, rfl, hrest, id, nofun⟩
    · exact ⟨rfl, rfl, rfl, trivial, nofun, nofun⟩
    · exact ⟨rfl, rfl, rfl, trivial, nofun, nofun⟩

theorem handleCaptured_quiet {events : List CaptureEvent} (h : ∀ event ∈ events, IsFrame event) :
    Quiet l b signals (l.handleCaptured b events) := by
  obtain ⟨hl, hb, ho, horder, hspent, hclosing⟩ := handleCaptured_frames (b := b) events l h
  exact quiet_of_phase hl hb ho horder hspent hclosing

/-- A batch starts at most one utterance, and it does so before the loop waits for anything. -/
theorem handleCaptured_woken {events : List CaptureEvent} (h : StartsFirst events)
    (hq : signals.generationStop = false) : Woken l b signals w (l.handleCaptured b events) := by
  match events, h with
  | [], _ => exact .quiet _ _ (handleCaptured_quiet (by simp))
  | .frame s u frame last :: rest, h =>
    refine .quiet _ _ (handleCaptured_quiet fun e he => ?_)
    rcases List.mem_cons.mp he with rfl | he
    · exact ⟨_, _, _, _, rfl⟩
    · exact h e he
  | .speechStarted s u ns :: rest, h =>
    simp only [handleCaptured, announce]
    split
    · next session _ =>
      obtain ⟨hl, hb, ho, horder, hspent, hclosing⟩ :=
        handleCaptured_frames (b := b.setActive l.direction true) rest { l with session := session } h
      exact .started w u ns _ hl hb (by rw [ho]; rfl) hq horder hspent hclosing
    · exact .started w u ns _ rfl rfl rfl hq h id nofun
    · exact .started w u ns _ rfl rfl rfl hq trivial nofun nofun
    · exact .started w u ns _ rfl rfl rfl hq trivial nofun nofun

theorem capture_woken {frame : PcmFrame} {voice : Except Audio.VadError Bool} {freshId : Uuid}
    (hq : signals.generationStop = false) :
    Woken l b signals w (l.capture b frame voice freshId) := by
  rw [capture]
  split
  · next events segmenter heq =>
    have := handleCaptured_woken (l := { l with segmenter := segmenter }) (b := b) (w := w)
      (process_startsFirst (by rw [heq])) hq
    cases this with
    | quiet _ _ h => exact .quiet _ _ ⟨h.launch, h.barrier, h.observed, h.orderly, h.spent, h.stopped⟩
    | started _ u ns _ hl hb ho hq horder hspent hclosing =>
      exact .started _ u ns _ hl hb ho hq horder hspent hclosing
    | ended f u nowNs changed _ hu hl hb ho hp => exact .ended f u nowNs changed _ hu hl hb ho hp
  · exact .quiet _ _ (quiet_of_phase rfl rfl rfl trivial nofun nofun)
  · exact .quiet _ _ (quiet_of_phase rfl rfl rfl trivial nofun nofun)

/-- No effect but the last one of a final ends an utterance. -/
def Unending (effects : List DirectionEffect) : Prop := ∀ u, .utteranceTerminal u ∉ effects

theorem report_unending {kind : Wire.Event} {effects : List DirectionEffect}
    (h : DirectionSession.report kind = .ok effects) : Unending effects := by
  have hmap : ∀ {α : Type} {x : Except Translator.Stream.DirectionSessionError α}
      {f : α → DirectionEffect}, (∀ a u, f a ≠ .utteranceTerminal u) →
      x.map (fun a => [f a]) = .ok effects → Unending effects := by
    intro α x f hf hx u hu
    cases x with
    | error e => cases hx
    | ok a =>
      cases hx
      exact hf a u (List.mem_singleton.mp hu).symm
  unfold DirectionSession.report at h
  split at h
  · split at h
    · exact hmap (by simp) h
    · cases h; intro u hu; cases hu
  · split at h
    · exact hmap (by simp) h
    · cases h; intro u hu; cases hu
  · exact hmap (by simp) h
  · split at h
    · cases h
    · exact hmap (by simp) h
  · cases h; intro u hu; cases hu

/-- Only an accepted final ends an utterance. -/
theorem translate_unending {session : DirectionSession} {kind : Wire.Event}
    {effects : List DirectionEffect} (h : (session.translate kind).1 = .ok effects) :
    Unending effects
      ∨ ∃ f u t, kind = .utteranceFinal f ∧ f.utteranceId = some u
        ∧ effects = [.utteranceTerminalOutcome u t, .utteranceTerminal u] := by
  unfold DirectionSession.translate at h
  split at h
  · -- audio
    left
    unfold DirectionSession.playAudio at h
    split at h
    · split at h
      · dsimp only at h
        split at h
        · cases h; intro u hu; simp at hu
        · cases h
      · cases h
      · cases h
    · cases h
  · -- the final
    next f =>
    right
    unfold DirectionSession.endUtterance at h
    split at h
    · cases h
    next u hu =>
      split at h
      · cases h
      next t ht =>
        cases h
        refine ⟨f, u, t, rfl, ?_, rfl⟩
        unfold Translator.Stream.parseUtterance at hu
        split at hu
        · next hid => cases hu; exact hid
        · cases hu
  · -- the end of the session
    left
    cases h
    intro u hu
    simp at hu
  · left
    refine report_unending (?_ : DirectionSession.report kind = .ok effects)
    revert h
    cases DirectionSession.report kind with
    | error e => intro h; cases h
    | ok effects' => intro h; cases h; rfl

theorem handleProviderEvent_unending {session : DirectionSession} {event : ProviderEvent}
    {nowNs : Nat} {effects : List DirectionEffect}
    (h : (session.handleProviderEvent event nowNs).1 = .ok effects) :
    Unending effects
      ∨ ∃ f u t, event = some (.utteranceFinal f) ∧ f.utteranceId = some u
        ∧ effects = [.utteranceTerminalOutcome u t, .utteranceTerminal u] := by
  unfold DirectionSession.handleProviderEvent at h
  split at h
  · left
    unfold DirectionSession.refuse at h
    split at h
    · cases h; intro u hu; cases hu
    split at h
    · split at h
      · unfold DirectionSession.cancelExpired at h
        split at h
        · split at h
          · cases h; intro u hu; simp at hu
          · cases h
          · cases h
        · cases h
      · cases h
    · cases h
  · cases h
  · split at h
    · cases h
      left
      intro u hu
      cases hu
    · rcases translate_unending h with h | ⟨f, u, t, rfl, hu, he⟩
      · exact .inl h
      · exact .inr ⟨f, u, t, rfl, hu, he⟩

/-- Effects that end nothing leave the barrier alone and ask for nothing. -/
theorem foldl_unending (l : DirectionLoop) (rm : Option TranslationMode) (nowNs : Nat)
    {effects : List DirectionEffect} (h : Unending effects) (observed : List DuplexRuntimeEvent) (ho : ∀ e ∈ observed, Silent e)
    (b : GenerationPolicyBarrier) :
    ∃ told, effects.foldl (l.effect rm nowNs) (observed, b, false) = (told, b, false)
      ∧ ∀ e ∈ told, Silent e := by
  induction effects generalizing observed with
  | nil => exact ⟨observed, rfl, ho⟩
  | cons e rest ih =>
    have hrest : Unending rest := fun u hu => h u (List.mem_cons_of_mem _ hu)
    have hsnoc : ∀ x, Silent x → ∀ y ∈ observed ++ [x], Silent y := by
      intro x hx y hy
      rcases List.mem_append.mp hy with hy | hy
      · exact ho y hy
      · rwa [List.mem_singleton.mp hy]
    rw [List.foldl_cons]
    cases e with
    | utteranceTerminal u => exact absurd (List.mem_cons_self ..) (h u)
    | playback | sessionClosed => exact ih hrest _ ho
    | _ => exact ih hrest _ (hsnoc _ trivial)

theorem handleEvent_woken {event : ProviderEvent} {nowNs : Nat} :
    Woken l b signals (.providerEvent event nowNs)
      (l.handleEvent b signals.requestedMode event nowNs) := by
  rw [handleEvent]
  split
  · next effects session heq =>
    rcases handleProviderEvent_unending (by rw [heq]) with h | ⟨f, u, t, rfl, hu, rfl⟩
    · obtain ⟨told, hfold, hsilent⟩ := foldl_unending { l with session := session }
        signals.requestedMode nowNs h [] (by simp) b
      dsimp only
      rw [hfold]
      exact .quiet _ _ ⟨rfl, rfl, hsilent, trivial, nofun, nofun⟩
    · exact .ended f u nowNs _ _ hu rfl rfl rfl rfl
  · exact .quiet _ _ (quiet_of_phase rfl rfl rfl trivial nofun nofun)
  · exact .quiet _ _ (quiet_of_phase rfl rfl rfl trivial nofun nofun)

theorem act_quiet (effects : List Translator.Stream.DirectionWatchdogEffect) :
    Quiet l b signals (l.act b effects) := by
  unfold act
  split <;> exact quiet_of_phase rfl rfl rfl trivial nofun nofun

theorem tick_quiet (nowNs : Nat) : Quiet l b signals (l.tick b nowNs) := by
  rw [tick]
  split
  · next effects session _ =>
    have h : Quiet { l with session := session } b signals _ := act_quiet effects
    exact ⟨h.launch, h.barrier, h.observed, h.orderly, h.spent, h.stopped⟩
  · exact quiet_of_phase rfl rfl rfl trivial nofun nofun
  · exact quiet_of_phase rfl rfl rfl trivial nofun nofun

theorem select_woken (hp : l.phase = .selecting) : Woken l b signals w (l.select b signals w) := by
  have hsame : Quiet l b signals ⟨[], b, l⟩ := quiet_same (by rw [hp]; trivial)
  unfold select
  split
  · split
    · exact .quiet _ _ (quiet_of_phase rfl rfl rfl trivial nofun nofun)
    · exact .quiet _ _ hsame
  · split
    · next h =>
      rw [Bool.and_eq_true] at h
      exact .quiet _ _ ⟨rfl, rfl, by simp [goTo], trivial, nofun, fun _ => .inr h.2⟩
    · exact .quiet _ _ hsame
  · split
    · exact .quiet _ _ hsame
    next hstop =>
      have hq : signals.generationStop = false := by simp at hstop; exact hstop.2
      split
      · exact handleEvent_woken
      · exact capture_woken hq
      · exact .quiet _ _ (tick_quiet _)
      · exact .quiet _ _ (quiet_of_phase rfl rfl rfl trivial nofun nofun)
      · exact .quiet _ _ (quiet_of_phase rfl rfl rfl trivial nofun nofun)
      · exact .quiet _ _ hsame

theorem closeEvent_quiet {exit : DirectionExit} {event : ProviderEvent} {nowNs : Nat}
    (hp : l.phase = .closing exit) : Quiet l b signals (l.closeEvent b exit event nowNs) := by
  have hspent : l.phase.Spent ↔ exit = .modeChanged := by rw [hp]; rfl
  rw [closeEvent]
  split
  · split
    · refine ⟨rfl, rfl, by simp [goTo], trivial, fun h => hspent.mpr ?_, nofun⟩
      simpa [goTo, Phase.Spent] using h
    · exact ⟨rfl, rfl, by simp [goTo], trivial, fun h => hspent.mpr h, fun h => .inl (hp.trans h)⟩
  · refine ⟨rfl, rfl, by simp [goTo], trivial, fun h => ?_, nofun⟩
    cases exit <;> cases h
  · exact quiet_of_phase rfl rfl rfl trivial nofun nofun

/-- The inversion lemma of the direction loop. -/
theorem wake_woken (horder : l.phase.Orderly) : Woken l b signals w (l.wake b signals w) := by
  have hsame : Woken l b signals w ⟨[], b, l⟩ := .quiet _ _ (quiet_same horder)
  have hfail : Woken l b signals w (l.fail b) :=
    .quiet _ _ (quiet_of_phase rfl rfl rfl trivial nofun nofun)
  unfold wake
  split
  · next hp => exact select_woken hp
  · next rest hp =>
    rw [hp] at horder
    split
    · exact .quiet _ _ (handleCaptured_quiet horder)
    · exact hfail
    · exact hsame
  · split
    · exact .quiet _ _ (act_quiet _)
    · exact hfail
    · exact hsame
  · next changed hp =>
    split
    · cases changed with
      | false => exact .quiet _ _ (quiet_of_phase rfl rfl rfl trivial nofun nofun)
      | true => exact .quiet _ _ ⟨rfl, rfl, by simp [goTo], trivial, fun _ => by rw [hp]; rfl, nofun⟩
    · exact hfail
    · exact hsame
  · next exit hp =>
    have hlost : Woken l b signals w (l.goTo b (.exited (closeFailure exit))) := by
      refine .quiet _ _ ⟨rfl, rfl, by simp [goTo], trivial, fun h => ?_, nofun⟩
      cases exit <;> cases h
    split
    · exact .quiet _ _ (closeEvent_quiet hp)
    · exact hlost
    · exact hlost
    · exact hsame
  · exact hsame

end DirectionLoop

/-! ### The generation -/

namespace Generation

open DirectionLoop (Woken wake_woken)

variable {g : Generation} {ran : Ran} {direction other : AudioDirection}
  {log : List (Op × List DuplexRuntimeEvent)}

@[simp]
theorem setLoop_loop (l : DirectionLoop) (direction other : AudioDirection) :
    (g.setLoop l direction).loop other = if other = direction then some l else g.loop other := by
  cases direction <;> cases other <;> rfl

theorem finish_loop (result : Exit) : (g.finish direction result).loop other = g.loop other := by
  unfold finish
  split
  · rfl
  · cases other <;> rfl

theorem finish_barrier (result : Exit) : (g.finish direction result).barrier = g.barrier := by
  unfold finish
  split <;> rfl

theorem afterWake_loop :
    (g.afterWake direction ran).loop other
      = if other = direction then some ran.loop else g.loop other := by
  have hset : ({ g with barrier := ran.barrier }.setLoop ran.loop direction).loop other
      = if other = direction then some ran.loop else g.loop other := by
    rw [setLoop_loop]; cases other <;> rfl
  unfold afterWake
  dsimp only
  split
  · rw [← hset]; cases other <;> rfl
  · rw [finish_loop, hset]
  · exact hset

theorem afterWake_barrier : (g.afterWake direction ran).barrier = ran.barrier := by
  unfold afterWake
  dsimp only
  split
  · cases direction <;> rfl
  · rw [finish_barrier]; cases direction <;> rfl
  · cases direction <;> rfl

/-- A generation hears of the first loop that ends, and stops the peer of one that changes its mode
    only when the barrier says that the peer is idle. -/
theorem finish_signals (result : Exit) :
    (g.finish direction result).finished = g.finished
        ∧ (g.finish direction result).generationStop = g.generationStop
      ∨ (g.finish direction result).finished = some (.direction direction result)
        ∧ (result = .ok .modeChanged → g.finished = none
          ∧ ((g.finish direction result).generationStop = true →
            g.generationStop = true ∨ g.barrier.isActive (peer direction) = false)) := by
  unfold finish
  split
  · exact .inl ⟨rfl, rfl⟩
  · next hnone =>
    refine .inr ⟨rfl, fun hr => ⟨hnone, fun h => ?_⟩⟩
    simp only [hr, shouldWaitForPolicyPeer, decide_true, Bool.true_and, Bool.or_eq_true,
      Bool.and_eq_true, Bool.not_eq_true'] at h
    exact h.imp_right And.right

theorem afterWake_signals (g : Generation) (direction : AudioDirection) (ran : Ran) :
    (g.afterWake direction ran).finished = g.finished
        ∧ (g.afterWake direction ran).generationStop = g.generationStop
      ∨ ∃ result, (g.afterWake direction ran).finished = some (.direction direction result)
        ∧ (result = .ok .modeChanged → g.finished = none
          ∧ ((g.afterWake direction ran).generationStop = true →
            g.generationStop = true ∨ ran.barrier.isActive (peer direction) = false)) := by
  obtain ⟨g₁, hg₁, hf, hs, hb⟩ : ∃ g₁ : Generation,
      { g with barrier := ran.barrier }.setLoop ran.loop direction = g₁ ∧ g₁.finished = g.finished
        ∧ g₁.generationStop = g.generationStop ∧ g₁.barrier = ran.barrier := by
    cases direction <;> exact ⟨_, rfl, rfl, rfl, rfl⟩
  unfold afterWake
  dsimp only
  rw [hg₁, ← hf, ← hs, ← hb]
  split
  · exact .inr ⟨.panic, rfl, nofun⟩
  · next result _ _ => exact (finish_signals result).imp_right fun h => ⟨result, h⟩
  · exact .inl ⟨rfl, rfl⟩

/-- A stop is never taken back. -/
theorem afterWake_generationStop (h : g.generationStop = true) :
    (g.afterWake direction ran).generationStop = true := by
  have hset : ({ g with barrier := ran.barrier }.setLoop ran.loop direction).generationStop = true := by
    cases direction <;> exact h
  unfold afterWake
  dsimp only
  split
  · exact hset
  · unfold finish
    split
    · exact hset
    · rw [hset]; rfl
  · exact hset

/-! ### Along a run -/

/-- The mark of a direction covers its live utterances, and a direction that is to be closed for a
    new mode has none. -/
structure Spares (log : List (Op × List DuplexRuntimeEvent)) (g : Generation) : Prop where
  direction : ∀ d l, g.loop d = some l → l.direction = d
  orderly : ∀ d l, g.loop d = some l → l.phase.Orderly
  marked : ∀ d, live d log ≠ ∅ → g.barrier.isActive d = true
  spent : ∀ d l, g.loop d = some l → l.phase.Spent → live d log = ∅
  closing : ∀ d l, g.loop d = some l → l.phase = .closing .restartRequired → g.generationStop = true
  calm : g.generationStop = true → g.finished ≠ none
  idle : ∀ d, g.generationStop = true → g.finished = some (.direction (peer d) (.ok .modeChanged)) →
    live d log = ∅

theorem spares_new (microphone : Option (PreparedDirection .microphone))
    (speaker : Option (PreparedDirection .speaker))
    (requestedMode : AudioDirection → Option TranslationMode) :
    Spares [] (new microphone speaker requestedMode) where
  direction := by
    rintro (_ | _) l hl <;> obtain ⟨p, -, rfl⟩ := Option.map_eq_some_iff.mp hl <;> exact p.isFor
  orderly := by
    rintro (_ | _) l hl <;> obtain ⟨p, -, rfl⟩ := Option.map_eq_some_iff.mp hl <;> trivial
  marked := fun d h => absurd rfl h
  spent := fun d l _ _ => rfl
  closing := by
    rintro (_ | _) l hl hp <;> obtain ⟨p, -, rfl⟩ := Option.map_eq_some_iff.mp hl <;> cases hp
  calm := nofun
  idle := fun d _ _ => rfl

/-- What a woken loop does to the live utterances and the marks of both directions. -/
structure Handles (log log' : List (Op × List DuplexRuntimeEvent)) (g : Generation) (l : DirectionLoop)
    (ran : Ran) : Prop where
  launch : ran.loop.launch = l.launch
  orderly : ran.loop.phase.Orderly
  marked : ∀ d, live d log' ≠ ∅ → ran.barrier.isActive d = true
  spent : ran.loop.phase.Spent → live l.direction log' = ∅
  closing : ran.loop.phase = .closing .restartRequired →
    l.phase = .closing .restartRequired ∨ g.generationStop = true
  others : ∀ d, d ≠ l.direction → live d log' = live d log ∧ ran.barrier.isActive d = g.barrier.isActive d
  grows : g.generationStop = true → live l.direction log = ∅ → live l.direction log' = ∅

theorem wake_handles {l : DirectionLoop} {w : Wake} (h : Spares log g)
    (hl : g.loop direction = some l) (hov : overlaps log (.wake direction w) = false) :
    Handles log
      (log ++ [(.wake direction w,
        (l.wake g.barrier ⟨g.stop, g.generationStop, g.requestedMode direction⟩ w).observed)]) g l
      (l.wake g.barrier ⟨g.stop, g.generationStop, g.requestedMode direction⟩ w) := by
  have hw : Woken l g.barrier ⟨g.stop, g.generationStop, g.requestedMode direction⟩ w _ :=
    wake_woken (h.orderly direction l hl)
  have hd := h.direction direction l hl
  generalize l.wake g.barrier ⟨g.stop, g.generationStop, g.requestedMode direction⟩ w = ran at hw ⊢
  cases hw with
  | quiet _ _ hq =>
    have hlive : ∀ d, live d (log ++ [(.wake direction w, ran.observed)]) = live d log := by
      intro d
      rw [live_concat, foldl_silent hq.observed]
    refine ⟨hq.launch, hq.orderly, ?_, ?_, hq.stopped, ?_, ?_⟩
    · intro d hne
      rw [hlive] at hne
      rw [hq.barrier]
      exact h.marked d hne
    · intro hs
      rw [hlive, hd]
      exact h.spent direction l hl (hq.spent hs)
    · intro d _
      exact ⟨hlive d, by rw [hq.barrier]⟩
    · intro _ he
      rw [hlive, he]
  | started _ u ns _ hlaunch hb ho hq horder hspent hclosing =>
    have hlive : ∀ d, live d (log ++ [(.wake direction w, ran.observed)])
        = if direction = d then insert u (live d log) else live d log := by
      intro d
      rw [live_concat, ho, hd]
      rfl
    refine ⟨hlaunch, horder, ?_, fun hs => absurd hs hspent, fun hp => absurd hp hclosing, ?_, ?_⟩
    · intro d hne
      rw [hb, hd, GenerationPolicyBarrier.setActive_isActive]
      split
      · rfl
      · next hdd =>
        rw [hlive, if_neg (Ne.symm hdd)] at hne
        exact h.marked d hne
    · intro d hdd
      rw [hd] at hdd
      rw [hlive, if_neg hdd.symm, hb, hd, GenerationPolicyBarrier.setActive_isActive, if_neg hdd]
      exact ⟨rfl, rfl⟩
    · intro hstop _
      rw [hstop] at hq
      cases hq
  | ended f u nowNs changed _ hu hlaunch hb ho hp =>
    have hlive : ∀ d, live d (log ++ [(.wake direction (.providerEvent (some (.utteranceFinal f)) nowNs),
        ran.observed)]) = if direction = d then (live d log).erase u else live d log := by
      intro d
      rw [live_concat, ho, hd]
      rfl
    -- the utterance that ends was the only live one
    have hempty : (live direction log).erase u = ∅ := by
      simp only [overlaps, hu, Bool.not_eq_false', decide_eq_true_eq] at hov
      refine Finset.eq_empty_of_forall_notMem fun z hz => ?_
      obtain ⟨hne, hmem⟩ := Finset.mem_erase.mp hz
      exact hne (Finset.mem_singleton.mp (hov hmem))
    have hactive : ∀ d, d ≠ direction → ran.barrier.isActive d = g.barrier.isActive d := by
      intro d hdd
      rw [hb, DirectionLoop.settle, hd]
      dsimp only
      split
      · rw [GenerationPolicyBarrier.requestReopen_isActive,
          GenerationPolicyBarrier.setActive_isActive, if_neg hdd]
      · rw [GenerationPolicyBarrier.setActive_isActive, if_neg hdd]
    refine ⟨hlaunch, by rw [hp]; trivial, ?_, ?_, by rw [hp]; exact nofun, ?_, ?_⟩
    · intro d hne
      rw [hlive] at hne
      split at hne
      · next hdd => subst hdd; exact absurd hempty hne
      · next hdd => rw [hactive d (Ne.symm hdd)]; exact h.marked d hne
    · intro _
      rw [hlive, hd, if_pos rfl, hempty]
    · intro d hdd
      rw [hd] at hdd
      rw [hlive, if_neg hdd.symm]
      exact ⟨rfl, hactive d hdd⟩
    · intro _ _
      rw [hlive, hd, if_pos rfl, hempty]

/-- The invariant survives a woken loop. -/
theorem spares_wake {l : DirectionLoop} {w : Wake} (h : Spares log g)
    (hl : g.loop direction = some l) (hov : overlaps log (.wake direction w) = false) :
    let ran := l.wake g.barrier ⟨g.stop, g.generationStop, g.requestedMode direction⟩ w
    Spares (log ++ [(.wake direction w, ran.observed)]) (g.afterWake direction ran) := by
  intro ran
  have hh : Handles log (log ++ [(.wake direction w, ran.observed)]) g l ran := wake_handles h hl hov
  have hd := h.direction direction l hl
  generalize hlog' : log ++ [(.wake direction w, ran.observed)] = log' at hh ⊢
  -- either the loop is the woken one or it is as before
  have hloop : ∀ d l', (g.afterWake direction ran).loop d = some l' →
      d = direction ∧ l' = ran.loop ∨ d ≠ direction ∧ g.loop d = some l' := by
    intro d l' hl'
    rw [afterWake_loop] at hl'
    split at hl'
    · next hdd => exact .inl ⟨hdd, (Option.some.inj hl').symm⟩
    · next hdd => exact .inr ⟨hdd, hl'⟩
  have hstop : g.generationStop = true → (g.afterWake direction ran).generationStop = true :=
    afterWake_generationStop
  refine ⟨?_, ?_, ?_, ?_, ?_, ?_, ?_⟩
  · intro d l' hl'
    rcases hloop d l' hl' with ⟨rfl, rfl⟩ | ⟨-, hl'⟩
    · rw [DirectionLoop.direction, hh.launch]
      exact hd
    · exact h.direction d l' hl'
  · intro d l' hl'
    rcases hloop d l' hl' with ⟨-, rfl⟩ | ⟨-, hl'⟩
    · exact hh.orderly
    · exact h.orderly d l' hl'
  · intro d hne
    rw [afterWake_barrier]
    exact hh.marked d hne
  · intro d l' hl' hs
    rcases hloop d l' hl' with ⟨rfl, rfl⟩ | ⟨hdd, hl'⟩
    · rw [← hd]
      exact hh.spent hs
    · rw [(hh.others d (by rwa [hd])).1]
      exact h.spent d l' hl' hs
  · intro d l' hl' hp
    rcases hloop d l' hl' with ⟨rfl, rfl⟩ | ⟨hdd, hl'⟩
    · exact hstop ((hh.closing hp).elim (h.closing d l hl) id)
    · exact hstop (h.closing d l' hl' hp)
  · intro hs
    rcases afterWake_signals g direction ran with ⟨hf, hg⟩ | ⟨r, hf, -⟩
    · rw [hf]
      exact h.calm (hg ▸ hs)
    · simp [hf]
  · intro d hs hf
    rcases afterWake_signals g direction ran with ⟨hf', hg⟩ | ⟨r, hf', hr⟩
    · -- the peer had ended before: the direction has been idle since
      have hidle := h.idle d (hg ▸ hs) (hf' ▸ hf)
      by_cases hdd : d = direction
      · subst hdd
        rw [← hd] at hidle ⊢
        exact hh.grows (hg ▸ hs) hidle
      · rw [(hh.others d (by rwa [hd])).1, hidle]
    · -- the peer ends now, and the barrier says that the direction is idle
      obtain ⟨rfl, rfl⟩ : direction = peer d ∧ r = .ok .modeChanged := by
        rw [hf'] at hf
        cases hf
        exact ⟨rfl, rfl⟩
      obtain ⟨hnone, hquiet⟩ := hr rfl
      have hne : d ≠ peer d := Ne.symm (peer_ne d)
      have hpp : peer (peer d) = d := by cases d <;> rfl
      rw [(hh.others d (by rwa [hd])).1]
      by_contra hlive
      rcases hquiet hs with hs | hactive
      · exact h.calm hs hnone
      · rw [hpp, (hh.others d (by rwa [hd])).2, h.marked d hlive] at hactive
        cases hactive

/-- A step that touches no loop, no mark and no utterance. -/
theorem Spares.keep {g' : Generation} {log' : List (Op × List DuplexRuntimeEvent)} (h : Spares log g)
    (hlive : ∀ d, live d log' = live d log) (hloop : ∀ d, g'.loop d = g.loop d)
    (hb : g'.barrier = g.barrier)
    (hf : g'.finished = g.finished ∧ g'.generationStop = g.generationStop
      ∨ g'.finished = some .stop ∧ g'.generationStop = true) : Spares log' g' where
  direction := fun d l hl => h.direction d l (hloop d ▸ hl)
  orderly := fun d l hl => h.orderly d l (hloop d ▸ hl)
  marked := fun d hne => hb ▸ h.marked d (hlive d ▸ hne)
  spent := fun d l hl hs => (hlive d).trans (h.spent d l (hloop d ▸ hl) hs)
  closing := fun d l hl hp => by
    have := h.closing d l (hloop d ▸ hl) hp
    rcases hf with ⟨-, hg⟩ | ⟨-, hg⟩ <;> rw [hg]
    exact this
  calm := fun hs => by
    rcases hf with ⟨hf, hg⟩ | ⟨hf, -⟩ <;> rw [hf]
    · exact h.calm (hg ▸ hs)
    · exact nofun
  idle := fun d hs hp => by
    rcases hf with ⟨hf, hg⟩ | ⟨hf, -⟩
    · exact (hlive d).trans (h.idle d (hg ▸ hs) (hf ▸ hp))
    · rw [hf] at hp
      cases hp

theorem spares_step (h : Spares log g) (op : Op) (hov : overlaps log op = false) :
    Spares (log ++ [(op, (g.apply op).1)]) (g.apply op).2 := by
  have hlive : ∀ (op : Op) d, live d (log ++ [(op, [])]) = live d log := by
    intro op d
    rw [live_concat]
    rfl
  cases op with
  | policy d mode => exact h.keep (hlive _) (by rintro (_ | _) <;> rfl) rfl (.inl ⟨rfl, rfl⟩)
  | stop => exact h.keep (hlive _) (by rintro (_ | _) <;> rfl) rfl (.inl ⟨rfl, rfl⟩)
  | stopSeen =>
    simp only [apply]
    split
    · exact h.keep (hlive _) (by rintro (_ | _) <;> rfl) rfl (.inr ⟨rfl, rfl⟩)
    · exact h.keep (hlive _) (fun _ => rfl) rfl (.inl ⟨rfl, rfl⟩)
  | wake d w =>
    simp only [apply]
    split
    · exact h.keep (hlive _) (fun _ => rfl) rfl (.inl ⟨rfl, rfl⟩)
    · exact h.keep (hlive _) (fun _ => rfl) rfl (.inl ⟨rfl, rfl⟩)
    · next l hl _ => exact spares_wake h hl hov

/-- In a run in which no utterance is retired while another one of its direction is live, a
    direction that is closed for a new mode has no live utterance. -/
theorem policy_reopen_spares_live (microphone : Option (PreparedDirection .microphone))
    (speaker : Option (PreparedDirection .speaker))
    (requestedMode : AudioDirection → Option TranslationMode) (ops : List Op)
    (hov : AdmLog apply (fun log _ op => !overlaps log op)
      (new microphone speaker requestedMode) ops) (direction : AudioDirection)
    (hclosed : (exec apply (new microphone speaker requestedMode) ops).2.closedForPolicy direction
      = true) :
    live direction (exec apply (new microphone speaker requestedMode) ops).1 = ∅ := by
  have h : Spares _ _ := exec_log_invariant (I := Spares) (spares_new microphone speaker requestedMode)
    (fun log g op h hov => spares_step h op (by simpa using hov)) ops hov
  revert h hclosed
  generalize exec apply (new microphone speaker requestedMode) ops = run
  intro hclosed h
  unfold closedForPolicy at hclosed
  cases hl : run.2.loop direction with
  | none => rw [hl] at hclosed; cases hclosed
  | some l =>
    rw [hl, Option.map_some] at hclosed
    split at hclosed
    · next hp => exact h.spent direction l hl (by rw [Option.some.inj hp]; rfl)
    · next hp => exact h.spent direction l hl (by rw [Option.some.inj hp]; rfl)
    · next hp =>
      exact h.idle direction (h.closing direction l hl (Option.some.inj hp))
        (of_decide_eq_true hclosed)
    · cases hclosed

/-! ### Two utterances at once -/

/-- The microphone, with the shortest confirmation of speech. -/
def samplePrepared : PreparedDirection .microphone :=
  ⟨DirectionSession.sampleConfig, 1, 2, ⟨some 3, none, none, none⟩, rfl⟩

def sampleStart : Generation := new (some samplePrepared) none fun _ => none

/-- A frame for which the detector answers, sent on in `n` pieces. -/
def heard (voice : Bool) (freshId : Uuid) (n : Nat) : List Op :=
  .wake .microphone (.captured DirectionSession.silence (.ok voice) freshId)
    :: List.replicate n (.wake .microphone (.resumed true))

/-- An event of the provider, handled to its end. -/
def told (event : Wire.Event) : List Op :=
  [.wake .microphone (.providerEvent (some event) 0), .wake .microphone (.resumed true)]

/-- Speech of an utterance until it is confirmed. -/
def speech (u : Uuid) : List Op := heard true u 0 ++ heard true u 0 ++ heard true u 3

/-- Silence until the utterance is over. -/
def pause : List Op := (List.replicate 14 (heard false 0 0)).flatten ++ heard false 0 15

/-- Utterance 7 is dropped. -/
def dropped : List Op :=
  told (Wire.ProviderEventValidator.sampleOverflow 2 7)
    ++ told (Wire.ProviderEventValidator.sampleFinal 3 7 none .dropped)

/-- One utterance, and a mode change when it ends. -/
def quietRun : List Op :=
  told Wire.ProviderEventValidator.sampleOpened ++ speech 7 ++ pause
    ++ .policy .microphone (some .streamingFirst) :: dropped

theorem quietRun_spares_live :
    (exec apply sampleStart quietRun).2.closedForPolicy .microphone = true
      ∧ live .microphone (exec apply sampleStart quietRun).1 = ∅ :=
  have hclosed : (exec apply sampleStart quietRun).2.closedForPolicy .microphone = true := by
    decide +kernel
  ⟨hclosed, policy_reopen_spares_live (some samplePrepared) none (fun _ => none) quietRun
    (admLog_of_check (by decide +kernel)) .microphone hclosed⟩

/-- The same, with the next utterance begun before the first one ends. -/
def overlappingRun : List Op :=
  told Wire.ProviderEventValidator.sampleOpened ++ speech 7 ++ pause ++ speech 8
    ++ .policy .microphone (some .streamingFirst) :: dropped

/-- The direction is closed over utterance 8. -/
theorem overlappingRun_cuts_off_live :
    (exec apply sampleStart overlappingRun).2.closedForPolicy .microphone = true
      ∧ live .microphone (exec apply sampleStart overlappingRun).1 = {8} := by
  decide +kernel

end Generation

end Translator.Duplex
