import Translator.Latency.Observer

/-! Does every sample count in its own minute? The policy's windows and its cooldown compare the
    stamps it is given, so they mean something only when all its callers read one clock. The
    observer reads the machine's clock and the watcher the store's: the two agree exactly when the
    machine and the daemon started together. -/

namespace Translator.Latency
open Schemes Core
open Control (RuntimeStore LatencyPolicyPatch)
open Wire (Uuid)

/-! ### What a call does to one direction -/

/-- Everything a call stamped `atMs` may do to a policy: it keeps the direction, a transition names
    that direction and starts the cooldown at the stamp, and without one no sample from `end_` on is
    lost. -/
structure Call (p : DirectionPolicy) (atMs end_ : Nat) (r : Observed DirectionPolicy) : Prop where
  direction : r.2.state.directionId = p.state.directionId
  evaluated : r.2.lastEvaluatedEndMs = end_
  names : ∀ tr, r.1 = some tr → tr.direction = p.state.directionId
  cools : ∀ tr, r.1 = some tr → r.2.cooldownUntilMs = saturatingAdd atMs cooldownMs
  keeps : r.1 = none → ∀ sample ∈ p.samples, end_ ≤ sample.atMs → sample ∈ r.2.samples

namespace DirectionPolicy

variable {p q : DirectionPolicy} {atMs end_ : Nat} {r : Observed DirectionPolicy}

/-- A call that ends without a transition and with a policy that differs in counters only. -/
theorem call_none (hd : q.state.directionId = p.state.directionId) (he : q.lastEvaluatedEndMs = end_)
    (hk : ∀ sample ∈ p.samples, end_ ≤ sample.atMs → sample ∈ q.samples) :
    Call p atMs end_ (none, q) :=
  ⟨hd, he, by simp, by simp, fun _ => hk⟩

theorem call_transition (reason : LatencyTransitionReason) (degrade : Bool)
    (hd : q.state.directionId = p.state.directionId) (he : q.lastEvaluatedEndMs = end_)
    (hk : ∀ sample ∈ p.samples, end_ ≤ sample.atMs → sample ∈ q.samples) :
    Call p atMs end_ (q.transition atMs reason degrade) := by
  rw [transition]
  split
  · exact call_none hd he hk
  · refine ⟨hd, he, fun tr htr => ?_, fun _ _ => rfl, by simp⟩
    cases htr
    exact hd

theorem forceMode_call (p : DirectionPolicy) (atMs : Nat) (mode : TranslationMode) :
    Call p atMs p.lastEvaluatedEndMs (p.forceMode atMs mode) := by
  rw [forceMode]
  split
  · exact call_none rfl rfl fun _ h _ => h
  · refine ⟨rfl, rfl, fun tr htr => ?_, fun _ _ => rfl, by simp⟩
    cases htr
    rfl

/-- An utterance is either stale and ignored, or kept, and then it may trigger a transition. -/
theorem recordUtterance_cases (p : DirectionPolicy) (atMs : Nat) (sample : LatencySample) :
    p.staleUtterance atMs = true ∧ p.recordUtterance atMs sample = (none, p)
      ∨ ∃ n, p.recordUtterance atMs sample
            = (none, { p.keepSample atMs sample with consecutiveUtteranceBreaches := n })
          ∨ p.recordUtterance atMs sample
            = { p.keepSample atMs sample with consecutiveUtteranceBreaches := n }.transition atMs
                .consecutiveUtterances true := by
  rw [recordUtterance]
  by_cases hs : p.staleUtterance atMs = true
  · exact .inl ⟨hs, if_pos hs⟩
  right
  rw [if_neg hs]
  dsimp only
  split
  · exact ⟨0, .inl rfl⟩
  · generalize (if (thresholds (p.keepSample atMs sample).state.currentMode).1 < sample.firstAudioMs
      then (p.keepSample atMs sample).consecutiveUtteranceBreaches + 1 else 0) = n
    refine ⟨n, ?_⟩
    split
    · exact .inr rfl
    · exact .inl rfl

theorem recordUtterance_call (p : DirectionPolicy) (atMs : Nat) (sample : LatencySample) :
    Call p atMs p.lastEvaluatedEndMs (p.recordUtterance atMs sample) := by
  have hk : ∀ σ ∈ p.samples, p.lastEvaluatedEndMs ≤ σ.atMs → σ ∈ (p.keepSample atMs sample).samples :=
    fun σ h _ => List.mem_append_left _ h
  obtain ⟨-, h⟩ | ⟨n, h | h⟩ := p.recordUtterance_cases atMs sample <;> rw [h]
  · exact call_none rfl rfl fun _ h _ => h
  · exact call_none rfl rfl hk
  · exact call_transition _ _ rfl rfl hk

theorem observeQueueLag_call (p : DirectionPolicy) (atMs : Nat) (queueLagMs : Option Nat) :
    Call p atMs p.lastEvaluatedEndMs (p.observeQueueLag atMs queueLagMs) := by
  rw [observeQueueLag]
  dsimp only
  split
  · exact call_none rfl rfl fun _ h _ => h
  split
  · exact call_none rfl rfl fun _ h _ => h
  split
  · exact call_transition _ _ rfl rfl fun _ h _ => h
  · exact call_none rfl rfl fun _ h _ => h

theorem judgeWindow_call (hd : q.state.directionId = p.state.directionId)
    (he : q.lastEvaluatedEndMs = end_)
    (hk : ∀ sample ∈ p.samples, end_ ≤ sample.atMs → sample ∈ q.samples) :
    Call p end_ end_ (q.judgeWindow end_) := by
  rw [judgeWindow]
  dsimp only
  split
  · split
    · exact call_transition _ _ hd he hk
    · exact call_none hd he hk
  split
  · split
    · exact call_transition _ _ hd he hk
    · exact call_none hd he hk
  · exact call_none hd he hk

/-- An evaluation that the guard lets through drops what lies before the end of its minute. -/
theorem evaluateEpoch_call (h : p.evaluates end_ = true) :
    Call p end_ end_ (p.evaluateEpoch end_) := by
  have hk : ∀ sample ∈ p.samples, end_ ≤ sample.atMs → sample ∈ (p.prune end_).samples :=
    fun sample hs hend => List.mem_filter.mpr ⟨hs, by simpa using hend⟩
  rw [evaluateEpoch]
  simp only [h, Bool.not_true, Bool.false_eq_true, if_false]
  split
  · exact call_none rfl rfl hk
  · exact judgeWindow_call rfl rfl hk

end DirectionPolicy

namespace LatencyDaemon

variable {B : Nat} {d : LatencyDaemon}

/-- The policy of a direction. -/
def policy (d : LatencyDaemon) (dir : AudioDirection) : DirectionPolicy := d.store.latency.policy dir

/-! ### What one clock means -/

/-- No transition of the direction among these. -/
def Quiet (dir : AudioDirection) (transitions : List LatencyTransition) : Prop :=
  ∀ tr ∈ transitions, tr.direction ≠ dir

/-- The state after a run of the daemon. -/
def after (B : Nat) (ops : List Op) : LatencyDaemon := (exec (apply B) new ops).2

end LatencyDaemon

end Translator.Latency
