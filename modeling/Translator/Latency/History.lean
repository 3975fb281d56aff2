import Translator.Latency.Policy
import Translator.Schemes.Run
import Translator.Schemes.Trailing

/-! Why the policy changes a mode. `History` is what a direction has been told since its last
    transition, read off the calls and their answers alone; every transition is justified by it. -/

namespace Translator.Latency
open Schemes Core

/-- A call on the policy of one direction. -/
inductive PolicyCall where
  | recordUtterance (atMs : UInt64) (sample : LatencySample)
  | observeQueueLag (atMs : UInt64) (queueLagMs : Option Nat)
  | evaluateEpoch (epochEndMs : UInt64)
  | forceMode (atMs : UInt64) (mode : TranslationMode)

def DirectionPolicy.apply (p : DirectionPolicy) : PolicyCall → Observed DirectionPolicy
  | .recordUtterance atMs sample => p.recordUtterance atMs.toNat sample
  | .observeQueueLag atMs queueLagMs => p.observeQueueLag atMs.toNat queueLagMs
  | .evaluateEpoch epochEndMs => p.evaluateEpoch epochEndMs.toNat
  | .forceMode atMs mode => p.forceMode atMs.toNat mode

def DuplexLatencyPolicy.apply (p : DuplexLatencyPolicy) (op : AudioDirection × PolicyCall) :
    Observed DuplexLatencyPolicy :=
  match op.2 with
  | .recordUtterance atMs sample => p.recordUtterance op.1 atMs.toNat sample
  | .observeQueueLag atMs queueLagMs => p.observeQueueLag op.1 atMs.toNat queueLagMs
  | .evaluateEpoch epochEndMs => p.evaluateEpoch op.1 epochEndMs.toNat
  | .forceMode atMs mode => p.forceMode op.1 atMs.toNat mode

/-- What a direction has been told: which calls were accepted, and what came since its last
    transition. -/
structure History where
  mode : TranslationMode
  lastTransitionMs : Option Nat
  lastUtteranceMs : Option Nat
  lastObservationMs : Option Nat
  lastEpochEndMs : Nat
  utterances : List TimedSample
  observations : List (Nat × Option Nat)
  /-- The samples of each evaluated epoch. -/
  epochs : List (List LatencySample)

namespace History

def start : History := ⟨.qualityFirst, none, none, none, 0, [], [], []⟩

/-- The call is later than the last one accepted. -/
def Later (last : Option Nat) (atMs : Nat) : Prop := ∀ ms, last = some ms → ms < atMs

instance (last : Option Nat) (atMs : Nat) : Decidable (Later last atMs) :=
  decidable_of_iff (last.all (· < atMs)) (by cases last <;> simp [Later])

/-- The end of a minute after the last one evaluated. -/
def Evaluates (h : History) (epochEndMs : Nat) : Prop :=
  epochEndMs % epochMs = 0 ∧ h.lastEpochEndMs < epochEndMs

instance (h : History) (epochEndMs : Nat) : Decidable (h.Evaluates epochEndMs) :=
  inferInstanceAs (Decidable (_ ∧ _))

/-- The samples of the minute. -/
def epoch (h : History) (epochEndMs : Nat) : List LatencySample :=
  (h.utterances.filter (DirectionPolicy.inEpoch epochEndMs)).map TimedSample.value

/-- A call is heard when it is accepted. -/
def hear (h : History) : PolicyCall → History
  | .recordUtterance atMs sample =>
    if Later h.lastUtteranceMs atMs.toNat then
      { h with
        lastUtteranceMs := some atMs.toNat
        utterances := h.utterances ++ [⟨atMs.toNat, sample⟩] }
    else h
  | .observeQueueLag atMs queueLagMs =>
    if Later h.lastObservationMs atMs.toNat then
      { h with
        lastObservationMs := some atMs.toNat
        observations := h.observations ++ [(atMs.toNat, queueLagMs)] }
    else h
  | .evaluateEpoch epochEndMs =>
    if h.Evaluates epochEndMs.toNat then
      { h with
        lastEpochEndMs := epochEndMs.toNat
        epochs := h.epochs ++ [h.epoch epochEndMs.toNat] }
    else h
  | .forceMode _ _ => h

/-- After a transition everything starts anew. -/
def settle (h : History) : Option LatencyTransition → History
  | none => h
  | some transition =>
    { h with
      mode := transition.target
      lastTransitionMs := some transition.atMs
      utterances := []
      observations := []
      epochs := [] }

/-- What the calls and answers of a direction come to. -/
def ofLog (log : List (PolicyCall × Option LatencyTransition)) : History :=
  log.foldl (fun h entry => (h.hear entry.1).settle entry.2) start

theorem ofLog_concat (log : List (PolicyCall × Option LatencyTransition)) (call : PolicyCall)
    (answer : Option LatencyTransition) :
    ofLog (log ++ [(call, answer)]) = ((ofLog log).hear call).settle answer := by
  rw [ofLog, List.foldl_append]
  rfl

end History

/-! ### What justifies a transition -/

/-- The first audio is over the limit of the mode. -/
def SlowFirstAudio (mode : TranslationMode) (sample : TimedSample) : Prop :=
  (thresholds mode).1 < sample.value.firstAudioMs

/-- The queue lag is over the tripwire. -/
def TripsQueue (observation : Nat × Option Nat) : Prop :=
  ∃ lag, observation.2 = some lag ∧ queueTripwireMs < lag

/-- A percentile of the samples is over its limit. -/
def Breaches (mode : TranslationMode) (epoch : List LatencySample) : Prop :=
  (thresholds mode).1 < nearestRankP95 (epoch.map LatencySample.firstAudioMs)
    ∨ (thresholds mode).2 < nearestRankP95 (epoch.map LatencySample.queueLagMs)

def BreachedEpoch (mode : TranslationMode) (epoch : List LatencySample) : Prop :=
  minimumSamples ≤ epoch.length ∧ Breaches mode epoch

def SteadyEpoch (mode : TranslationMode) (epoch : List LatencySample) : Prop :=
  minimumSamples ≤ epoch.length ∧ ¬ Breaches mode epoch

/-- Why a call may answer with a transition, given what was heard before it. -/
structure Justified (h : History) (call : PolicyCall) (t : LatencyTransition) : Prop where
  source : t.source = h.mode
  oneStep : t.reason ≠ .manualPolicyChange → nextDegradedMode t.source = some t.target
    ∨ nextRecoveredMode t.source = some t.target
  manual : t.reason = .manualPolicyChange → ∃ atMs mode, call = .forceMode atMs mode
  recovery : t.reason = .stableRecovery → ∃ end_ : UInt64, call = .evaluateEpoch end_
    ∧ h.Evaluates end_.toNat ∧ t.atMs = end_.toNat
    ∧ nextRecoveredMode t.source = some t.target
    ∧ (∀ ms, h.lastTransitionMs = some ms → ms + cooldownMs ≤ end_.toNat)
    ∧ Trailing (SteadyEpoch h.mode) recoverWindows (h.hear call).epochs
  window : t.reason = .windowBreach → ∃ end_ : UInt64, call = .evaluateEpoch end_
    ∧ h.Evaluates end_.toNat ∧ t.atMs = end_.toNat
    ∧ nextDegradedMode t.source = some t.target
    ∧ Trailing (BreachedEpoch h.mode) degradeWindows (h.hear call).epochs
  utterances : t.reason = .consecutiveUtterances → ∃ (atMs : UInt64) (sample : LatencySample),
    call = .recordUtterance atMs sample ∧ History.Later h.lastUtteranceMs atMs.toNat
    ∧ t.atMs = atMs.toNat ∧ nextDegradedMode t.source = some t.target
    ∧ Streak (SlowFirstAudio h.mode) 3 (h.hear call).utterances
  queue : t.reason = .sustainedQueueLag → ∃ (atMs : UInt64) (lag : Option Nat),
    call = .observeQueueLag atMs lag ∧ History.Later h.lastObservationMs atMs.toNat
    ∧ t.atMs = atMs.toNat ∧ nextDegradedMode t.source = some t.target
    ∧ ∃ older first later, (h.hear call).observations = older ++ first :: later
      ∧ (∀ observation ∈ first :: later, TripsQueue observation)
      ∧ first.1 + queueTripwireDurationMs ≤ atMs.toNat

/-! ### The policy follows the history -/

/-- The policy has accepted what was heard. -/
structure Clocked (p : DirectionPolicy) (h : History) : Prop where
  utterance : p.lastUtteranceAtMs = h.lastUtteranceMs
  observation : p.lastQueueObservationAtMs = h.lastObservationMs
  evaluated : p.lastEvaluatedEndMs = h.lastEpochEndMs
  whole : h.lastEpochEndMs % epochMs = 0

/-- What the counters count. The third slow utterance in a row is never counted: it ends the mode. -/
structure Follows (p : DirectionPolicy) (h : History) : Prop extends Clocked p h where
  mode : p.state.currentMode = h.mode
  cooldown : ∀ ms, h.lastTransitionMs = some ms → p.cooldownUntilMs = saturatingAdd ms cooldownMs
  samples : p.samples.filter (fun sample => h.lastEpochEndMs ≤ sample.atMs)
    = h.utterances.filter fun sample => h.lastEpochEndMs ≤ sample.atMs
  recovery : Trailing (SteadyEpoch h.mode) p.recoveryWindows h.epochs
  window : Trailing (BreachedEpoch h.mode) p.breachWindows h.epochs
  utterances : (nextDegradedMode h.mode).isSome = true →
    Streak (SlowFirstAudio h.mode) p.consecutiveUtteranceBreaches h.utterances
      ∧ p.consecutiveUtteranceBreaches < 3
  queue : ∀ started, p.queueBreachStartedMs = some started → ∃ older first later,
    h.observations = older ++ first :: later ∧ first.1 = started
      ∧ ∀ observation ∈ first :: later, TripsQueue observation

variable {p : DirectionPolicy} {h : History} {atMs end_ : UInt64} {direction : AudioDirection}

theorem follows_new (direction : AudioDirection) : Follows (.new direction) .start where
  utterance := rfl
  observation := rfl
  evaluated := rfl
  whole := rfl
  mode := rfl
  cooldown := nofun
  samples := rfl
  recovery := trailing_zero _ _
  window := trailing_zero _ _
  utterances _ := ⟨streak_nil _, Nat.succ_pos 2⟩
  queue := nofun

/-- A transition starts anew. -/
theorem follows_switchTo (h' : Clocked p h) (ms : Nat) (source target : TranslationMode)
    (reason : LatencyTransitionReason) :
    Follows (p.switchTo ms target reason)
      (h.settle (some ⟨direction, source, target, reason, ms⟩)) where
  utterance := h'.utterance
  observation := h'.observation
  evaluated := h'.evaluated
  whole := h'.whole
  mode := rfl
  cooldown _ heq := by
    cases heq
    rfl
  samples := rfl
  recovery := trailing_zero _ _
  window := trailing_zero _ _
  utterances _ := ⟨streak_nil _, Nat.succ_pos 2⟩
  queue := nofun

/-- The outcome of a call that followed the history so far. -/
def Accounts (h : History) (call : PolicyCall) (r : Observed DirectionPolicy) : Prop :=
  Follows r.2 ((h.hear call).settle r.1) ∧ ∀ t, r.1 = some t → Justified h call t

theorem accounts_none {call : PolicyCall} (hf : Follows p (h.hear call)) :
    Accounts h call (none, p) := ⟨hf, nofun⟩

/-- A transition the history justifies. -/
theorem accounts_transition {call : PolicyCall} {target : TranslationMode} {degrade : Bool} {ms : Nat}
    {reason : LatencyTransitionReason} (hc : Clocked p (h.hear call))
    (hmode : p.state.currentMode = h.mode)
    (htarget : (if degrade then nextDegradedMode h.mode else nextRecoveredMode h.mode) = some target)
    (hj : ∀ direction, Justified h call ⟨direction, h.mode, target, reason, ms⟩) :
    Accounts h call (p.transition ms reason degrade) := by
  unfold DirectionPolicy.transition
  dsimp only
  rw [hmode, htarget]
  refine ⟨follows_switchTo hc ms h.mode target reason, fun t ht => ?_⟩
  cases ht
  exact hj p.state.directionId

theorem later_iff_not_stale {last : Option Nat} {ms : Nat} :
    History.Later last ms ↔ ¬ (match last with | none => false | some last => decide (ms ≤ last))
      = true := by
  cases last <;> simp [History.Later]

/-! ### Utterances -/

section Utterance

variable {sample : LatencySample}

theorem hear_stale_utterance (hstale : ¬ History.Later h.lastUtteranceMs atMs.toNat) :
    h.hear (.recordUtterance atMs sample) = h := if_neg hstale

variable (hlater : History.Later h.lastUtteranceMs atMs.toNat)

include hlater

theorem hear_utterance :
    h.hear (.recordUtterance atMs sample)
      = { h with
          lastUtteranceMs := some atMs.toNat
          utterances := h.utterances ++ [⟨atMs.toNat, sample⟩] } := if_pos hlater

theorem clocked_kept (hf : Follows p h) (n : Nat) :
    Clocked { p.keepSample atMs.toNat sample with consecutiveUtteranceBreaches := n }
      (h.hear (.recordUtterance atMs sample)) := by
  rw [hear_utterance hlater]
  exact ⟨rfl, hf.observation, hf.evaluated, hf.whole⟩

theorem follows_kept (hf : Follows p h) (n : Nat)
    (hn : (nextDegradedMode h.mode).isSome = true →
      Streak (SlowFirstAudio h.mode) n (h.utterances ++ [⟨atMs.toNat, sample⟩]) ∧ n < 3) :
    Follows { p.keepSample atMs.toNat sample with consecutiveUtteranceBreaches := n }
      (h.hear (.recordUtterance atMs sample)) := by
  have hc := @clocked_kept p h atMs sample hlater hf n
  rw [hear_utterance hlater] at hc ⊢
  refine ⟨hc, hf.mode, hf.cooldown, ?_, hf.recovery, hf.window, hn, hf.queue⟩
  show (p.samples ++ _).filter _ = (h.utterances ++ _).filter _
  rw [List.filter_append, List.filter_append, hf.samples]

end Utterance

theorem recordUtterance_accounts (hf : Follows p h) (sample : LatencySample) :
    Accounts h (.recordUtterance atMs sample) (p.recordUtterance atMs.toNat sample) := by
  have hstale : p.staleUtterance atMs.toNat = true ↔ ¬ History.Later h.lastUtteranceMs atMs.toNat := by
    rw [later_iff_not_stale, not_not, ← hf.utterance]
    rfl
  unfold DirectionPolicy.recordUtterance
  by_cases hlater : History.Later h.lastUtteranceMs atMs.toNat
  · rw [if_neg (by rw [hstale]; exact not_not.mpr hlater)]
    have hmode : (p.keepSample atMs.toNat sample).state.currentMode = h.mode := hf.mode
    have hbefore : (p.keepSample atMs.toNat sample).consecutiveUtteranceBreaches
      = p.consecutiveUtteranceBreaches := rfl
    dsimp only
    rw [hmode, hbefore]
    cases htarget : nextDegradedMode h.mode with
    | none => exact accounts_none (follows_kept hlater hf 0 (by simp [htarget]))
    | some target =>
      obtain ⟨hstreak, hfew⟩ := hf.utterances (by simp [htarget])
      simp only [Option.isNone_some, Bool.false_eq_true, if_false]
      by_cases hslow : SlowFirstAudio h.mode ⟨atMs.toNat, sample⟩
      · have hmore := streak_concat hstreak hslow
        rw [if_pos (show (thresholds h.mode).1 < sample.firstAudioMs from hslow)]
        split
        · next hthree =>
          -- the third in a row
          have hcount : p.consecutiveUtteranceBreaches + 1 = 3 := by omega
          rw [hcount] at hmore
          refine accounts_transition (clocked_kept hlater hf _) hf.mode htarget fun direction => ?_
          refine ⟨rfl, fun _ => .inl htarget, nofun, nofun, nofun, fun _ => ?_, nofun⟩
          exact ⟨atMs, sample, rfl, hlater, rfl, htarget, by rw [hear_utterance hlater]; exact hmore⟩
        · next hless =>
          exact accounts_none (follows_kept hlater hf _ fun _ => ⟨hmore, Nat.not_le.mp hless⟩)
      · rw [if_neg (show ¬ (thresholds h.mode).1 < sample.firstAudioMs from hslow), if_neg (by decide)]
        exact accounts_none
          (follows_kept hlater hf 0 fun _ => ⟨streak_broken _ hslow, Nat.succ_pos 2⟩)
  · rw [if_pos (hstale.mpr hlater)]
    exact accounts_none (by rw [hear_stale_utterance hlater]; exact hf)

/-! ### Queue observations -/

section Observation

variable {lag : Option Nat}

theorem hear_stale_observation (hstale : ¬ History.Later h.lastObservationMs atMs.toNat) :
    h.hear (.observeQueueLag atMs lag) = h := if_neg hstale

variable (hlater : History.Later h.lastObservationMs atMs.toNat)

include hlater

theorem hear_observation :
    h.hear (.observeQueueLag atMs lag)
      = { h with
          lastObservationMs := some atMs.toNat
          observations := h.observations ++ [(atMs.toNat, lag)] } := if_pos hlater

theorem follows_observed (hf : Follows p h) (started : Option Nat)
    (hs : ∀ ms, started = some ms → ∃ older first later,
      h.observations ++ [(atMs.toNat, lag)] = older ++ first :: later ∧ first.1 = ms
        ∧ ∀ observation ∈ first :: later, TripsQueue observation) :
    Follows
      { p with lastQueueObservationAtMs := some atMs.toNat, queueBreachStartedMs := started }
      (h.hear (.observeQueueLag atMs lag)) := by
  rw [hear_observation hlater]
  exact ⟨⟨hf.utterance, rfl, hf.evaluated, hf.whole⟩, hf.mode, hf.cooldown, hf.samples, hf.recovery,
    hf.window, hf.utterances, hs⟩

end Observation

/-- The observation carries on from the one the breach started with, or starts one. -/
theorem breach_carries_on {lag : Option Nat} (hf : Follows p h) (htrips : TripsQueue (atMs.toNat, lag)) :
    ∃ older first later, h.observations ++ [(atMs.toNat, lag)] = older ++ first :: later
      ∧ first.1 = p.queueBreachStartedMs.getD atMs.toNat
      ∧ ∀ observation ∈ first :: later, TripsQueue observation := by
  cases hstarted : p.queueBreachStartedMs with
  | none => exact ⟨h.observations, (atMs.toNat, lag), [], rfl, rfl, by simpa using htrips⟩
  | some started =>
    obtain ⟨older, first, later, hobs, hfirst, hall⟩ := hf.queue started hstarted
    refine ⟨older, first, later ++ [(atMs.toNat, lag)], by rw [hobs]; simp, hfirst, fun o ho => ?_⟩
    rw [← List.cons_append] at ho
    rcases List.mem_append.mp ho with hold | hnew
    · exact hall o hold
    · rw [List.mem_singleton.mp hnew]
      exact htrips

theorem trips_of_not_within {lag : Option Nat} (ms : Nat)
    (h : DirectionPolicy.withinTripwire lag = false) : TripsQueue (ms, lag) := by
  cases lag with
  | none => cases h
  | some lag => exact ⟨lag, rfl, by simpa [DirectionPolicy.withinTripwire] using h⟩

theorem observeQueueLag_accounts (hf : Follows p h) (lag : Option Nat) :
    Accounts h (.observeQueueLag atMs lag) (p.observeQueueLag atMs.toNat lag) := by
  have hstale : p.staleObservation atMs.toNat = true
      ↔ ¬ History.Later h.lastObservationMs atMs.toNat := by
    rw [later_iff_not_stale, not_not, ← hf.observation]
    rfl
  unfold DirectionPolicy.observeQueueLag
  by_cases hlater : History.Later h.lastObservationMs atMs.toNat
  · rw [if_neg (by rw [hstale]; exact not_not.mpr hlater)]
    dsimp only
    split
    · exact accounts_none (follows_observed hlater hf none nofun)
    · next hgo =>
      simp only [Bool.or_eq_true, not_or, Bool.not_eq_true] at hgo
      obtain ⟨hdegrade, htrips⟩ := hgo
      rw [hf.mode, Option.isNone_eq_false_iff, Option.isSome_iff_exists] at hdegrade
      obtain ⟨target, htarget⟩ := hdegrade
      have hcarries := breach_carries_on hf (trips_of_not_within atMs.toNat htrips)
      have hfollows := @follows_observed p h atMs lag hlater hf
        (some (p.queueBreachStartedMs.getD atMs.toNat)) (by rintro ms ⟨⟩; exact hcarries)
      split
      · next hlong =>
        refine accounts_transition hfollows.toClocked hf.mode htarget fun direction => ?_
        refine ⟨rfl, fun _ => .inl htarget, nofun, nofun, nofun, nofun, fun _ => ?_⟩
        obtain ⟨older, first, later, hobs, hfirst, hall⟩ := hcarries
        refine ⟨atMs, lag, rfl, hlater, rfl, htarget, older, first, later, ?_, hall, ?_⟩
        · rw [hear_observation hlater]
          exact hobs
        · have : 0 < queueTripwireDurationMs := by decide
          omega
      · exact accounts_none hfollows
  · rw [if_pos (hstale.mpr hlater)]
    exact accounts_none (by rw [hear_stale_observation hlater]; exact hf)

/-! ### Epochs -/

theorem evaluates_iff (hf : Follows p h) (ms : Nat) : p.evaluates ms = true ↔ h.Evaluates ms := by
  unfold DirectionPolicy.evaluates History.Evaluates
  rw [hf.evaluated]
  simp only [Bool.and_eq_true, decide_eq_true_eq]
  omega

/-- Two filters of which the stricter one counts. -/
theorem filter_of_stricter {α : Type*} {P Q : α → Bool} {l l' : List α}
    (h : l.filter P = l'.filter P) (hstrict : ∀ a, Q a = true → P a = true) :
    l.filter Q = l'.filter Q := by
  have hboth : ∀ l : List α, (l.filter P).filter Q = l.filter Q := by
    intro l
    rw [List.filter_filter]
    refine List.filter_congr fun a _ => ?_
    cases hq : Q a with
    | false => rfl
    | true => rw [hstrict a hq]; rfl
  rw [← hboth l, h, hboth l']

section Epoch

theorem hear_stale_epoch (hstale : ¬ h.Evaluates end_.toNat) : h.hear (.evaluateEpoch end_) = h :=
  if_neg hstale

/-- The policy evaluates the samples of the minute that were accepted since the last transition. -/
theorem epoch_eq (hf : Follows p h) {ms : Nat} (hev : h.Evaluates ms) :
    (p.epochSamples ms).map TimedSample.value = h.epoch ms := by
  unfold DirectionPolicy.epochSamples History.epoch
  rw [filter_of_stricter hf.samples]
  intro sample hin
  simp only [DirectionPolicy.inEpoch, Bool.and_eq_true, decide_eq_true_eq] at hin ⊢
  obtain ⟨hwhole, hlater⟩ := hev
  have hbefore := hf.whole
  unfold epochMs at hin hwhole hbefore
  omega

variable (hev : h.Evaluates end_.toNat)

include hev

theorem hear_epoch :
    h.hear (.evaluateEpoch end_)
      = { h with
          lastEpochEndMs := end_.toNat
          epochs := h.epochs ++ [h.epoch end_.toNat] } := if_pos hev

theorem follows_evaluated (hf : Follows p h) {state : LatencyPolicyState}
    (hstate : state.currentMode = h.mode) (breach recovery : Nat)
    (hb : Trailing (BreachedEpoch h.mode) breach (h.epochs ++ [h.epoch end_.toNat]))
    (hr : Trailing (SteadyEpoch h.mode) recovery (h.epochs ++ [h.epoch end_.toNat])) :
    Follows
      { p.prune end_.toNat with state := state, breachWindows := breach, recoveryWindows := recovery }
      (h.hear (.evaluateEpoch end_)) := by
  rw [hear_epoch hev]
  refine ⟨⟨hf.utterance, hf.observation, rfl, hev.1⟩, hstate, hf.cooldown, ?_, hr, hb, hf.utterances,
    hf.queue⟩
  show (p.samples.filter _).filter _ = _
  rw [List.filter_filter]
  simp only [Bool.and_self]
  refine filter_of_stricter hf.samples fun sample hin => ?_
  simp only [decide_eq_true_eq] at hin ⊢
  have := hev.2
  omega

/-- Once the cooldown is over, so are its two minutes: the cap is no whole minute. -/
theorem cooled_down (hf : Follows p h) (hcool : p.cooldownUntilMs ≤ end_.toNat) (ms : Nat)
    (hlast : h.lastTransitionMs = some ms) : ms + cooldownMs ≤ end_.toNat := by
  rw [hf.cooldown ms hlast] at hcool
  have hwhole := hev.1
  have hlt := end_.toNat_lt
  unfold saturatingAdd u64Max at hcool
  unfold epochMs at hwhole
  omega

theorem judgeWindow_accounts (hf : Follows p h)
    (hsize : minimumSamples ≤ (h.epoch end_.toNat).length) :
    Accounts h (.evaluateEpoch end_)
      (((p.prune end_.toNat).measure (h.epoch end_.toNat)).judgeWindow end_.toNat) := by
  have hmode : ((p.prune end_.toNat).measure (h.epoch end_.toNat)).state.currentMode = h.mode := hf.mode
  have hbreached : ((p.prune end_.toNat).measure (h.epoch end_.toNat)).breached = true
      ↔ Breaches h.mode (h.epoch end_.toNat) := by
    unfold DirectionPolicy.breached Breaches
    rw [hmode, Bool.or_eq_true, decide_eq_true_eq, decide_eq_true_eq]
    rfl
  unfold DirectionPolicy.judgeWindow
  rw [hmode]
  split
  · next hdown =>
    rw [Bool.and_eq_true, hbreached, Option.isSome_iff_exists] at hdown
    obtain ⟨hbreach, target, htarget⟩ := hdown
    have hmore := trailing_concat hf.window (show BreachedEpoch h.mode _ from ⟨hsize, hbreach⟩)
    have hfollows := @follows_evaluated p h end_ hev hf _ hmode _ 0 hmore (trailing_zero _ _)
    dsimp only
    split
    · next hwindows =>
      refine accounts_transition hfollows.toClocked hmode htarget fun direction => ?_
      refine ⟨rfl, fun _ => .inl htarget, nofun, nofun, fun _ => ?_, nofun, nofun⟩
      exact ⟨end_, rfl, hev, rfl, htarget, by rw [hear_epoch hev]; exact trailing_mono hmore hwindows⟩
    · exact accounts_none hfollows
  split
  · next hup =>
    rw [Bool.and_eq_true, Bool.not_eq_true', ← Bool.not_eq_true, hbreached, Option.isSome_iff_exists]
      at hup
    obtain ⟨hsteady, target, htarget⟩ := hup
    have hmore := trailing_concat hf.recovery (show SteadyEpoch h.mode _ from ⟨hsize, hsteady⟩)
    have hfollows := @follows_evaluated p h end_ hev hf _ hmode 0 _ (trailing_zero _ _) hmore
    dsimp only
    split
    · next hready =>
      rw [Bool.and_eq_true, decide_eq_true_eq, decide_eq_true_eq] at hready
      refine accounts_transition hfollows.toClocked hmode htarget fun direction => ?_
      refine ⟨rfl, fun _ => .inr htarget, nofun, fun _ => ?_, nofun, nofun, nofun⟩
      refine ⟨end_, rfl, hev, rfl, htarget, cooled_down hev hf hready.2, ?_⟩
      rw [hear_epoch hev]
      exact trailing_mono hmore hready.1
    · exact accounts_none hfollows
  · exact accounts_none
      (@follows_evaluated p h end_ hev hf _ hmode 0 0 (trailing_zero _ _) (trailing_zero _ _))

end Epoch

theorem evaluateEpoch_accounts (hf : Follows p h) :
    Accounts h (.evaluateEpoch end_) (p.evaluateEpoch end_.toNat) := by
  unfold DirectionPolicy.evaluateEpoch
  by_cases hev : h.Evaluates end_.toNat
  · simp only [(evaluates_iff hf _).mpr hev, Bool.not_true, Bool.false_eq_true, if_false]
    rw [epoch_eq hf hev]
    split
    · exact accounts_none
        (@follows_evaluated p h end_ hev hf _ hf.mode 0 0 (trailing_zero _ _) (trailing_zero _ _))
    · next hsize => exact judgeWindow_accounts hev hf (Nat.not_lt.mp hsize)
  · have hnot : p.evaluates end_.toNat = false := by
      rw [← Bool.not_eq_true, evaluates_iff hf]
      exact hev
    simp only [hnot, Bool.not_false, if_true]
    exact accounts_none (by rw [hear_stale_epoch hev]; exact hf)

/-! ### Every call, every run -/

theorem forceMode_accounts (hf : Follows p h) (mode : TranslationMode) :
    Accounts h (.forceMode atMs mode) (p.forceMode atMs.toNat mode) := by
  unfold DirectionPolicy.forceMode
  split
  · exact accounts_none hf
  · refine ⟨follows_switchTo hf.toClocked _ _ _ _, fun t ht => ?_⟩
    cases ht
    exact ⟨hf.mode, fun hne => absurd rfl hne, fun _ => ⟨atMs, mode, rfl⟩, nofun, nofun, nofun, nofun⟩

theorem apply_accounts (hf : Follows p h) (call : PolicyCall) : Accounts h call (p.apply call) := by
  cases call with
  | recordUtterance atMs sample => exact recordUtterance_accounts hf sample
  | observeQueueLag atMs lag => exact observeQueueLag_accounts hf lag
  | evaluateEpoch end_ => exact evaluateEpoch_accounts hf
  | forceMode atMs mode => exact forceMode_accounts hf mode

namespace DuplexLatencyPolicy

/-- The calls on one direction, with their answers. -/
def ofDirection (direction : AudioDirection)
    (log : List ((AudioDirection × PolicyCall) × Option LatencyTransition)) :
    List (PolicyCall × Option LatencyTransition) :=
  (log.filter fun entry => entry.1.1 = direction).map fun entry => (entry.1.2, entry.2)

theorem apply_eq_update (p : DuplexLatencyPolicy) (op : AudioDirection × PolicyCall) :
    p.apply op = p.update op.1 fun q => q.apply op.2 := by
  unfold apply
  cases op.2 <;> rfl

/-- In every run a call leaves the other direction alone, and every transition is justified by what its
    direction had been told since the one before. -/
theorem run_justified (ops : List (AudioDirection × PolicyCall)) :
    Adm apply (fun p op => ∀ other, other ≠ op.1 → (p.apply op).2.policy other = p.policy other)
        default ops
      ∧ AtEach (fun before entry => ∀ t, entry.2 = some t →
          Justified (.ofLog (ofDirection entry.1.1 before)) entry.1.2 t)
        (exec apply default ops).1 := by
  have hother : ∀ (p : DuplexLatencyPolicy) (op : AudioDirection × PolicyCall) (other : AudioDirection),
      other ≠ op.1 → (p.apply op).2.policy other = p.policy other := by
    intro p op other hne
    rw [apply_eq_update, update_policy, if_neg hne]
  refine ⟨adm_of_forall fun op _ p => hother p op, ?_⟩
  have hinv := exec_invariant (I := fun log (p : DuplexLatencyPolicy) =>
      (∀ direction, Follows (p.policy direction) (.ofLog (ofDirection direction log)))
        ∧ AtEach (fun before (entry : (AudioDirection × PolicyCall) × Option LatencyTransition) =>
          ∀ t, entry.2 = some t →
            Justified (.ofLog (ofDirection entry.1.1 before)) entry.1.2 t) log)
    ⟨fun direction => ?_, atEach_nil _⟩ ?_ ops (adm_true apply default ops)
  · exact hinv.2
  · cases direction <;> exact follows_new _
  rintro log p op ⟨hf, hlog⟩ -
  have haccounts := apply_accounts (hf op.1) op.2
  have hanswer : (p.apply op).1 = ((p.policy op.1).apply op.2).1 := by
    rw [apply_eq_update, update_fst]
  refine ⟨fun direction => ?_, atEach_concat hlog ?_⟩
  · by_cases hdir : direction = op.1
    · subst hdir
      have hstep := haccounts.1
      rw [← History.ofLog_concat, ← hanswer] at hstep
      rw [apply_eq_update, update_policy, if_pos rfl]
      simpa [ofDirection, apply_eq_update] using hstep
    · rw [hother p op direction hdir]
      simpa [ofDirection, Ne.symm hdir] using hf direction
  · rw [hanswer]
    exact haccounts.2

end DuplexLatencyPolicy

end Translator.Latency
