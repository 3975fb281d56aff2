import Translator.Sidecar.Scheduling

/-! The dispatcher is never left asleep while a job could start, an identity that was taken back never
    comes to be current again, and with that what a run of the scheduler keeps. -/

namespace Translator.Scheduler
open Schemes
open Wire (Uuid)
open Core (AudioDirection)

variable {V : Type}

/-! ### Waking the dispatcher -/

/-- A dispatcher that is not there has nothing to do, and one that waits will be woken where a job could
    start. -/
structure Awake (s : InferenceScheduler V) : Prop where
  idle : s.dispatcher = .absent ∨ s.dispatcher = .returned → ∀ d, s.queues d = []
  closed : s.dispatcher = .returned → s.closed = true
  signalled : s.dispatcher = .waiting → s.dispatchSignal.isSome
  woken : s.dispatcher = .waiting → ∀ d, s.active d = none → s.queues d ≠ [] → s.dispatchSignal = some true

theorem awake_new : Awake (.new : InferenceScheduler V) where
  idle _ _ := rfl
  closed h := nomatch h
  signalled h := nomatch h
  woken h := nomatch h

theorem Awake.runs {s : InferenceScheduler V} (h : Awake s) {d : AudioDirection} (hidle : s.active d = none)
    (hqueue : s.queues d ≠ []) : s.dispatcherRuns = true := by
  unfold InferenceScheduler.dispatcherRuns
  split
  · rfl
  next hwaiting => exact decide_eq_true (h.woken hwaiting d hidle hqueue)
  next habsent => exact absurd (h.idle (.inl habsent) d) hqueue
  next hreturned => exact absurd (h.idle (.inr hreturned) d) hqueue

section Moves

variable {s s' : InferenceScheduler V}

/-- The dispatcher, its signal and what it is to do are as they were. -/
theorem Awake.congr (h : Awake s) (hqueues : s'.queues = s.queues) (hactive : s'.active = s.active)
    (hdispatcher : s'.dispatcher = s.dispatcher) (hsignal : s'.dispatchSignal = s.dispatchSignal)
    (hclosed : s.closed = true → s'.closed = true) : Awake s' := by
  constructor
  · rw [hdispatcher, hqueues]
    exact h.idle
  · rw [hdispatcher]
    exact fun hreturned => hclosed (h.closed hreturned)
  · rw [hdispatcher, hsignal]
    exact h.signalled
  · rw [hdispatcher, hsignal, hqueues, hactive]
    exact h.woken

/-- The signal is set, whatever else happens to the active jobs. -/
theorem Awake.signal (h : Awake s) (hqueues : ∀ d, s.queues d = [] → s'.queues d = [])
    (hdispatcher : s'.dispatcher = s.dispatcher) (hclosed : s.closed = true → s'.closed = true)
    (hsignal : s'.dispatchSignal = s.dispatchSignal.map fun _ => true) : Awake s' := by
  constructor
  · rw [hdispatcher]
    exact fun hgone d => hqueues d (h.idle hgone d)
  · rw [hdispatcher]
    exact fun hreturned => hclosed (h.closed hreturned)
  · rw [hdispatcher, hsignal, Option.isSome_map]
    exact h.signalled
  · intro hwaiting d _ _
    obtain ⟨set, hset⟩ := Option.isSome_iff_exists.mp (h.signalled (hdispatcher ▸ hwaiting))
    rw [hsignal, hset]
    rfl

theorem Awake.submit (h : Awake s) (identity : JobIdentity) : Awake (s.submit identity).2 := by
  unfold InferenceScheduler.submit
  split
  · exact h
  next hopen =>
    split
    · exact h
    · rw [Bool.or_eq_true, not_or] at hopen
      dsimp only
      unfold InferenceScheduler.ensureDispatcher
      split
      next hthere =>
        have hthere : s.dispatcher ≠ .absent := hthere
        have hgone : ¬ (s.dispatcher = .absent ∨ s.dispatcher = .returned) := fun hgone =>
          hgone.elim hthere fun hreturned => hopen.1 (h.closed hreturned)
        refine ⟨fun hg => absurd hg hgone, fun hreturned => absurd (.inr hreturned) hgone, ?_, ?_⟩
        · intro hwaiting
          exact Option.isSome_map.trans (h.signalled hwaiting)
        · intro hwaiting d _ _
          obtain ⟨set, hset⟩ := Option.isSome_iff_exists.mp (h.signalled hwaiting)
          show s.dispatchSignal.map _ = _
          rw [hset]
          rfl
      next => exact ⟨fun hgone => hgone.elim nofun nofun, nofun, nofun, nofun⟩

theorem Awake.cancelMatching (h : Awake s) (predicate : JobIdentity → Bool) :
    Awake (s.cancelMatching predicate) :=
  h.signal (fun _ hd => (congrArg (List.filter _) hd).trans List.filter_nil) rfl id rfl

theorem Awake.cancelUtterance (h : Awake s) (sessionId utteranceId : Uuid) :
    Awake (s.cancelUtterance sessionId utteranceId).2 := by
  unfold InferenceScheduler.cancelUtterance
  split
  · exact h
  next session _ =>
    split
    · exact h
    · dsimp only
      exact Awake.cancelMatching (s := s.forget sessionId session utteranceId) (h.congr rfl rfl rfl rfl id) _

theorem Awake.closeSession (h : Awake s) (sessionId : Uuid) : Awake (s.closeSession sessionId).2 := by
  unfold InferenceScheduler.closeSession
  split
  · exact h
  · dsimp only
    exact Awake.cancelMatching (s := { s with sessions := s.sessions.erase sessionId })
      (h.congr rfl rfl rfl rfl id) _

/-! ### A pass of the dispatcher -/

/-- After a loop over a queue its direction has an active job, or the queue is empty and nothing else has
    changed for the next direction. -/
theorem dispatchQueue_serves {index : Nat} (queue : List Job) :
    ∀ {s : InferenceScheduler V}, s.queues (directionAt index) = queue →
      ((s.dispatchQueue index queue).active (directionAt index)).isSome
      ∨ ((s.dispatchQueue index queue).queues (directionAt index) = []
        ∧ (s.dispatchQueue index queue).roundRobinIndex = s.roundRobinIndex
        ∧ ∀ d, d ≠ directionAt index → (s.dispatchQueue index queue).queues d = s.queues d) := by
  induction queue with
  | nil => exact fun hqueue => .inr ⟨hqueue, rfl, fun _ _ => rfl⟩
  | cons job rest ih =>
    intro s hqueue
    unfold InferenceScheduler.dispatchQueue
    dsimp only
    split
    · left
      show (Function.update s.active _ _ _).isSome = true
      rw [Function.update_self]
      rfl
    · have hnext : ((s.popLeft (directionAt index) rest).resolve [job.number] (.error .stale)).queues
          (directionAt index) = rest := Function.update_self ..
      refine (ih hnext).imp_right ?_
      rintro ⟨hempty, hindex, hothers⟩
      refine ⟨hempty, hindex, fun d hd => (hothers d hd).trans ?_⟩
      exact Function.update_of_ne hd _ _

theorem dispatchQueue_active {index : Nat} (queue : List Job) :
    ∀ {s : InferenceScheduler V} (d : AudioDirection), (s.active d).isSome →
      ((s.dispatchQueue index queue).active d).isSome := by
  induction queue with
  | nil => exact fun _ h => h
  | cons job rest ih =>
    intro s d h
    unfold InferenceScheduler.dispatchQueue
    dsimp only
    split
    · show (Function.update s.active _ _ d).isSome = true
      by_cases hd : d = directionAt index
      · rw [hd, Function.update_self]
        rfl
      · rw [Function.update_of_ne hd]
        exact h
    · exact ih d h

theorem dispatchDirection_serves (s : InferenceScheduler V) (index : Nat) :
    ((s.dispatchDirection index).active (directionAt index)).isSome
      ∨ ((s.dispatchDirection index).queues (directionAt index) = []
        ∧ (s.dispatchDirection index).roundRobinIndex = s.roundRobinIndex
        ∧ ∀ d, d ≠ directionAt index → (s.dispatchDirection index).queues d = s.queues d) := by
  unfold InferenceScheduler.dispatchDirection
  split
  next hactive => exact .inl hactive
  next => exact dispatchQueue_serves _ rfl

theorem dispatchDirection_active (s : InferenceScheduler V) (index : Nat) {d : AudioDirection}
    (h : (s.active d).isSome) : ((s.dispatchDirection index).active d).isSome := by
  unfold InferenceScheduler.dispatchDirection
  split
  · exact h
  · exact dispatchQueue_active _ d h

/-- After a pass some direction has an active job, or no direction has a job. -/
theorem dispatchAvailable_serves (s : InferenceScheduler V) :
    (∃ d, (s.dispatchAvailable.active d).isSome) ∨ ∀ d, s.dispatchAvailable.queues d = [] := by
  obtain ⟨first, hfirst⟩ : ∃ first, s.dispatchDirection ((s.roundRobinIndex + 0) % directions.length) = first :=
    ⟨_, rfl⟩
  have hpass : s.dispatchAvailable
      = first.dispatchDirection ((first.roundRobinIndex + 1) % directions.length) := by rw [← hfirst]; rfl
  rw [hpass]
  rcases dispatchDirection_serves s ((s.roundRobinIndex + 0) % directions.length) with hactive | ⟨hempty, hindex, -⟩
  · rw [hfirst] at hactive
    exact .inl ⟨_, dispatchDirection_active first _ hactive⟩
  rw [hfirst] at hempty hindex
  rw [hindex]
  rcases dispatchDirection_serves first ((s.roundRobinIndex + 1) % directions.length) with
    hactive | ⟨hempty', -, hothers⟩
  · exact .inl ⟨_, hactive⟩
  · refine .inr fun d => ?_
    by_cases hd : d = directionAt ((s.roundRobinIndex + 1) % directions.length)
    · rw [hd]
      exact hempty'
    · rw [hothers d hd]
      -- there are two directions, and this one was the first of the pass
      have hfirstOne : d = directionAt ((s.roundRobinIndex + 0) % directions.length) := by
        rcases Nat.mod_two_eq_zero_or_one s.roundRobinIndex with heven | hodd
        · have hsecond : (s.roundRobinIndex + 1) % 2 = 1 := by omega
          simp only [directions, List.length_cons, List.length_nil, Nat.zero_add, Nat.add_zero, heven, hsecond]
            at hd ⊢
          cases d
          · rfl
          · exact absurd rfl hd
        · have hsecond : (s.roundRobinIndex + 1) % 2 = 0 := by omega
          simp only [directions, List.length_cons, List.length_nil, Nat.zero_add, Nat.add_zero, hodd, hsecond]
            at hd ⊢
          cases d
          · exact absurd rfl hd
          · rfl
      rw [hfirstOne]
      exact hempty

theorem Awake.dispatchLoop (hsound : Sound s) : Awake s.dispatchLoop := by
  have havailable : Sound s.dispatchAvailable :=
    List.foldlRecOn _ _ hsound fun _ hs _ _ => hs.dispatchDirection _
  unfold InferenceScheduler.dispatchLoop
  dsimp only
  split
  next hover =>
    rw [Bool.and_eq_true, List.isEmpty_iff] at hover
    refine ⟨fun _ => ?_, fun _ => hover.1, nofun, nofun⟩
    rcases dispatchAvailable_serves s with ⟨d, hactive⟩ | hempty
    · obtain ⟨job, hjob⟩ := Option.isSome_iff_exists.mp hactive
      obtain ⟨task, htask, -⟩ := havailable.attended d job hjob
      rw [hover.2] at htask
      cases htask
    · exact hempty
  next =>
    refine ⟨fun hgone => hgone.elim nofun nofun, nofun, fun _ => rfl, ?_⟩
    intro _ d hidle hqueue
    refine congrArg some (List.any_eq_true.mpr ⟨d, by cases d <;> simp [directions], ?_⟩)
    simpa using ⟨hidle, hqueue⟩

theorem Awake.apply (h : Awake s) (hsound : Sound s) (op : Op V) : Awake (s.apply op).2 := by
  cases op with
  | openSession sessionId direction =>
    show Awake (s.openSession sessionId direction).2
    unfold InferenceScheduler.openSession
    split
    · exact h
    · split
      · exact h
      · exact h.congr rfl rfl rfl rfl id
  | openUtterance sessionId utteranceId =>
    show Awake (s.openUtterance sessionId utteranceId).2
    unfold InferenceScheduler.openUtterance
    split
    · exact h
    · split
      · exact h
      · exact h.congr rfl rfl rfl rfl id
  | submit identity => exact h.submit identity
  | cancelUtterance sessionId utteranceId => exact h.cancelUtterance sessionId utteranceId
  | closeSession sessionId => exact h.closeSession sessionId
  | shutdown => exact h.congr rfl rfl rfl rfl fun _ => rfl
  | shutdownImpl =>
    show Awake s.shutdownImpl
    unfold InferenceScheduler.shutdownImpl
    split
    · have hclosed : Awake (s.sessions.keys.foldl (fun s sessionId => (s.closeSession sessionId).2) s) :=
        List.foldlRecOn _ _ h fun _ hs _ _ => hs.closeSession _
      exact hclosed.signal (fun _ hd => hd) rfl id rfl
    · exact h
  | dispatch =>
    show Awake (if s.dispatcherRuns then s.dispatchLoop else s)
    split
    · exact Awake.dispatchLoop hsound
    · exact h
  | begin number => exact run_rule (P := Awake) h fun _ _ => h.congr rfl rfl rfl rfl id
  | complete number outcome =>
    refine run_rule (P := Awake) (f := fun job => s.complete job outcome) h fun task _ => ?_
    have hterminalized : (s.terminalize task.job.identity).dispatcher = s.dispatcher
        ∧ (s.terminalize task.job.identity).closed = s.closed
        ∧ (s.terminalize task.job.identity).dispatchSignal = s.dispatchSignal := by
      unfold InferenceScheduler.terminalize
      split
      · exact ⟨rfl, rfl, rfl⟩
      · split <;> exact ⟨rfl, rfl, rfl⟩
    refine h.signal (fun d hd => ?_) hterminalized.1 (fun hc => hterminalized.2.1.trans hc) ?_
    · show (s.terminalize task.job.identity).queues d = []
      rw [(terminalize_same s task.job.identity).1]
      exact hd
    · exact congrArg (Option.map _) hterminalized.2.2
  | taskDone number =>
    exact run_rule (P := Awake) h fun _ _ => h.signal (fun _ hd => hd) rfl id rfl

/-! ### Generations -/

theorem isCurrent_iff {identity : JobIdentity} :
    s.isCurrent identity = true ↔ ∃ session, s.sessions.lookup identity.sessionId = some session
      ∧ session.direction = identity.direction ∧ session.generation = identity.sessionGeneration
      ∧ session.utterances.lookup identity.utteranceId = some identity.utteranceGeneration := by
  unfold InferenceScheduler.isCurrent
  split
  next hnone => simp [hnone]
  next session hsession => simp [hsession, and_assoc]

theorem isCurrent_congr (hsessions : s'.sessions = s.sessions) (identity : JobIdentity) :
    s'.isCurrent identity = s.isCurrent identity := by
  rw [InferenceScheduler.isCurrent, InferenceScheduler.isCurrent, hsessions]

/-- The generations the scheduler has given out are below the next one. -/
def Issued (s : InferenceScheduler V) : Prop :=
  ∀ sessionId session, s.sessions.lookup sessionId = some session →
    ∀ utteranceId generation, session.utterances.lookup utteranceId = some generation →
      generation < s.nextGeneration

/-- Time has passed: of the identities there were before, none has come to be current. -/
structure Elapsed (s s' : InferenceScheduler V) : Prop where
  next : s.nextGeneration ≤ s'.nextGeneration
  issued : Issued s → Issued s'
  current : ∀ identity, identity.utteranceGeneration < s.nextGeneration → s'.isCurrent identity = true →
    s.isCurrent identity = true

theorem Elapsed.refl (s : InferenceScheduler V) : Elapsed s s := ⟨Nat.le_refl _, id, fun _ _ h => h⟩

theorem Elapsed.trans {s'' : InferenceScheduler V} (h : Elapsed s s') (h' : Elapsed s' s'') : Elapsed s s'' :=
  ⟨Nat.le_trans h.next h'.next, fun hs => h'.issued (h.issued hs), fun identity hlt hcurrent =>
    h.current identity hlt (h'.current identity (Nat.lt_of_lt_of_le hlt h.next) hcurrent)⟩

theorem elapsed_same (hsessions : s'.sessions = s.sessions) (hnext : s'.nextGeneration = s.nextGeneration) :
    Elapsed s s' := by
  refine ⟨Nat.le_of_eq hnext.symm, ?_, fun identity _ hcurrent => (isCurrent_congr hsessions identity) ▸ hcurrent⟩
  unfold Issued
  rw [hsessions, hnext]
  exact id

theorem elapsed_forget {sessionId : Uuid} {session : Session} (hsession : s.sessions.lookup sessionId = some session)
    (utteranceId : Uuid) : Elapsed s (s.forget sessionId session utteranceId) := by
  have hlookup : ∀ other, (s.forget sessionId session utteranceId).sessions.lookup other
      = if other = sessionId then some { session with utterances := session.utterances.erase utteranceId }
        else s.sessions.lookup other := fun other => Table.lookup_insert_if ..
  refine ⟨Nat.le_refl _, fun hissued other found hfound id generation hgeneration => ?_,
    fun identity _ hcurrent => ?_⟩
  · rw [hlookup] at hfound
    split at hfound
    next =>
      cases hfound
      rw [Table.lookup_erase_if] at hgeneration
      split at hgeneration
      · cases hgeneration
      · exact hissued sessionId session hsession id generation hgeneration
    next => exact hissued other found hfound id generation hgeneration
  · obtain ⟨found, hfound, hdirection, hgeneration, hutterance⟩ := isCurrent_iff.mp hcurrent
    rw [hlookup] at hfound
    split at hfound
    next hsame =>
      cases hfound
      rw [Table.lookup_erase_if] at hutterance
      split at hutterance
      · cases hutterance
      · exact isCurrent_iff.mpr ⟨session, hsame ▸ hsession, hdirection, hgeneration, hutterance⟩
    next => exact isCurrent_iff.mpr ⟨found, hfound, hdirection, hgeneration, hutterance⟩

theorem elapsed_terminalize (s : InferenceScheduler V) (identity : JobIdentity) :
    Elapsed s (s.terminalize identity) := by
  unfold InferenceScheduler.terminalize
  split
  · exact .refl s
  next session hsession =>
    split
    · exact elapsed_forget hsession _
    · exact .refl s

theorem elapsed_erase (s : InferenceScheduler V) (sessionId : Uuid) :
    Elapsed s { s with sessions := s.sessions.erase sessionId } := by
  have hlookup : ∀ other found, (s.sessions.erase sessionId).lookup other = some found →
      s.sessions.lookup other = some found := by
    intro other found hfound
    rw [Table.lookup_erase_if] at hfound
    split at hfound
    · cases hfound
    · exact hfound
  refine ⟨Nat.le_refl _, fun hissued other found hfound => hissued other found (hlookup other found hfound),
    fun identity _ hcurrent => ?_⟩
  obtain ⟨found, hfound, hrest⟩ := isCurrent_iff.mp hcurrent
  exact isCurrent_iff.mpr ⟨found, hlookup _ found hfound, hrest⟩

theorem elapsed_openSession (s : InferenceScheduler V) (sessionId : Uuid) (direction : AudioDirection) :
    Elapsed s (s.openSession sessionId direction).2 := by
  unfold InferenceScheduler.openSession
  split
  · exact .refl s
  split
  · exact .refl s
  refine ⟨Nat.le_succ _, fun hissued other found hfound id generation hgeneration => ?_, fun identity _ hcurrent => ?_⟩
  · dsimp only at hfound
    rw [Table.lookup_insert_if] at hfound
    split at hfound
    · cases hfound
      cases hgeneration
    · exact Nat.lt_succ_of_lt (hissued other found hfound id generation hgeneration)
  · obtain ⟨found, hfound, hdirection, hgeneration, hutterance⟩ := isCurrent_iff.mp hcurrent
    dsimp only at hfound
    rw [Table.lookup_insert_if] at hfound
    split at hfound
    · cases hfound
      cases hutterance
    · exact isCurrent_iff.mpr ⟨found, hfound, hdirection, hgeneration, hutterance⟩

/-- A new utterance has a generation of its own, also where its id was there before. -/
theorem elapsed_openUtterance (s : InferenceScheduler V) (sessionId utteranceId : Uuid) :
    Elapsed s (s.openUtterance sessionId utteranceId).2 := by
  unfold InferenceScheduler.openUtterance
  split
  · exact .refl s
  next session hsession =>
    split
    · exact .refl s
    refine ⟨Nat.le_succ _, fun hissued other found hfound id generation hgeneration => ?_,
      fun identity hlt hcurrent => ?_⟩
    · dsimp only at hfound
      rw [Table.lookup_insert_if] at hfound
      split at hfound
      · cases hfound
        rw [Table.lookup_insert_if] at hgeneration
        split at hgeneration
        · cases hgeneration
          exact Nat.lt_succ_self _
        · exact Nat.lt_succ_of_lt (hissued sessionId session hsession id generation hgeneration)
      · exact Nat.lt_succ_of_lt (hissued other found hfound id generation hgeneration)
    · obtain ⟨found, hfound, hdirection, hgeneration, hutterance⟩ := isCurrent_iff.mp hcurrent
      dsimp only at hfound
      rw [Table.lookup_insert_if] at hfound
      split at hfound
      next hsame =>
        cases hfound
        rw [Table.lookup_insert_if] at hutterance
        split at hutterance
        · rw [← Option.some.inj hutterance] at hlt
          exact absurd hlt (Nat.lt_irrefl _)
        · exact isCurrent_iff.mpr ⟨session, hsame ▸ hsession, hdirection, hgeneration, hutterance⟩
      next => exact isCurrent_iff.mpr ⟨found, hfound, hdirection, hgeneration, hutterance⟩

/-! ### Results -/

/-- The future of a job with this identity has a result. -/
def HasResult (s : InferenceScheduler V) (identity : JobIdentity) (number : Nat) (value : V) : Prop :=
  s.submissions[number]? = some ⟨identity, some (.result value)⟩

/-- Time has passed, and no future has got a result. -/
structure Quiet (s s' : InferenceScheduler V) : Prop where
  elapsed : Elapsed s s'
  silent : ∀ identity number value, HasResult s' identity number value → HasResult s identity number value

theorem Quiet.trans {s'' : InferenceScheduler V} (h : Quiet s s') (h' : Quiet s' s'') : Quiet s s'' :=
  ⟨h.elapsed.trans h'.elapsed, fun identity number value hresult =>
    h.silent identity number value (h'.silent identity number value hresult)⟩

theorem Elapsed.quiet (h : Elapsed s s') (hsubmissions : s'.submissions = s.submissions) : Quiet s s' :=
  ⟨h, fun _ _ _ hresult => by rwa [HasResult, hsubmissions] at hresult⟩

theorem quiet_same (hsessions : s'.sessions = s.sessions) (hnext : s'.nextGeneration = s.nextGeneration)
    (hsubmissions : s'.submissions = s.submissions) : Quiet s s' :=
  (elapsed_same hsessions hnext).quiet hsubmissions

theorem quiet_setSignal (s : InferenceScheduler V) : Quiet s s.setSignal := quiet_same rfl rfl rfl

theorem Quiet.refl (s : InferenceScheduler V) : Quiet s s := quiet_same rfl rfl rfl

/-- A future that is resolved with an error gets no result. -/
theorem quiet_resolve (s : InferenceScheduler V) (numbers : List Nat) (error : SchedulerError) :
    Quiet s (s.resolve numbers (.error error)) := by
  refine ⟨elapsed_same rfl rfl, fun identity number value hresult => ?_⟩
  rw [HasResult, InferenceScheduler.getElem?_resolve, Option.map_eq_some_iff] at hresult
  obtain ⟨submission, hsubmission, heq⟩ := hresult
  split at heq
  · cases heq
  · subst heq
    exact hsubmission

theorem quiet_enqueue (s : InferenceScheduler V) (identity : JobIdentity) : Quiet s (s.enqueue identity) := by
  refine ⟨elapsed_same rfl rfl, fun other number value hresult => ?_⟩
  have hresult : (s.submissions ++ [⟨identity, none⟩])[number]? = some ⟨other, some (.result value)⟩ := hresult
  rw [List.getElem?_append] at hresult
  split at hresult
  · exact hresult
  · obtain ⟨hlt, heq⟩ := List.getElem?_eq_some_iff.mp hresult
    simp at heq

theorem quiet_cancelMatching (s : InferenceScheduler V) (predicate : JobIdentity → Bool) :
    Quiet s (s.cancelMatching predicate) :=
  (quiet_resolve s ((s.queuedJobs.filter fun job => predicate job.identity).map Job.number) .stale).trans
    (quiet_same rfl rfl rfl)

theorem quiet_cancelUtterance (s : InferenceScheduler V) (sessionId utteranceId : Uuid) :
    Quiet s (s.cancelUtterance sessionId utteranceId).2 := by
  unfold InferenceScheduler.cancelUtterance
  split
  · exact .refl s
  next session hsession =>
    split
    · exact .refl s
    · dsimp only
      exact ((elapsed_forget hsession utteranceId).quiet rfl).trans (quiet_cancelMatching _ _)

theorem quiet_closeSession (s : InferenceScheduler V) (sessionId : Uuid) :
    Quiet s (s.closeSession sessionId).2 := by
  unfold InferenceScheduler.closeSession
  split
  · exact .refl s
  · dsimp only
    exact ((elapsed_erase s sessionId).quiet rfl).trans (quiet_cancelMatching _ _)

theorem quiet_dispatchQueue {index : Nat} (queue : List Job) :
    ∀ s : InferenceScheduler V, Quiet s (s.dispatchQueue index queue) := by
  induction queue with
  | nil => exact .refl
  | cons job rest ih =>
    intro s
    unfold InferenceScheduler.dispatchQueue
    dsimp only
    split
    · exact quiet_same rfl rfl rfl
    · have hpopped : Quiet s (s.popLeft (directionAt index) rest) := quiet_same rfl rfl rfl
      exact (hpopped.trans (quiet_resolve _ [job.number] .stale)).trans (ih _)

theorem quiet_dispatchLoop (s : InferenceScheduler V) : Quiet s s.dispatchLoop := by
  have hpass : Quiet s s.dispatchAvailable := by
    refine List.foldlRecOn (motive := Quiet s) _ _ (.refl s) fun later hlater offset _ => hlater.trans ?_
    unfold InferenceScheduler.dispatchDirection
    split
    · exact .refl later
    · exact quiet_dispatchQueue _ later
  unfold InferenceScheduler.dispatchLoop
  dsimp only
  split
  · exact hpass.trans (quiet_same rfl rfl rfl)
  · exact hpass.trans (quiet_same rfl rfl rfl)

/-- Time has passed, and results are results of jobs that were current. -/
structure Moved (s s' : InferenceScheduler V) : Prop where
  elapsed : Elapsed s s'
  results : ∀ identity number value, HasResult s' identity number value →
    HasResult s identity number value ∨ s.isCurrent identity = true

theorem Quiet.moved (h : Quiet s s') : Moved s s' :=
  ⟨h.elapsed, fun identity number value hresult => .inl (h.silent identity number value hresult)⟩

theorem moved_same (hsessions : s'.sessions = s.sessions) (hnext : s'.nextGeneration = s.nextGeneration)
    (hsubmissions : s'.submissions = s.submissions) : Moved s s' :=
  (quiet_same hsessions hnext hsubmissions).moved

/-- Only the active job can get a result, and only while its identity is current. -/
theorem moved_complete (h : Sound s) {number : Nat} {task : RunTask}
    (htask : s.task number .working = some task) (outcome : Outcome V) :
    Moved s (s.complete task.job outcome) := by
  refine ⟨(elapsed_terminalize s task.job.identity).trans (elapsed_same rfl rfl),
    fun identity n value hresult => ?_⟩
  obtain ⟨hmem, -, hstage⟩ := task_some htask
  have hactive := h.tasks task hmem (by rw [hstage]; exact nofun)
  have hpending := (h.pending task.job.number task.job.identity).mpr ⟨_, Sound.active_mem hactive⟩
  have hresult : ((s.terminalize task.job.identity).resolve [task.job.number]
      (s.resolution task.job outcome)).submissions[n]? = some ⟨identity, some (.result value)⟩ := hresult
  rw [InferenceScheduler.getElem?_resolve, (terminalize_same s task.job.identity).2.2.2,
    Option.map_eq_some_iff] at hresult
  obtain ⟨submission, hsubmission, heq⟩ := hresult
  split at heq
  next hthis =>
    right
    rw [List.mem_singleton.mp hthis.1, hpending] at hsubmission
    cases hsubmission
    obtain ⟨hidentity, hresolution⟩ := Submission.mk.inj heq
    rw [← hidentity]
    unfold InferenceScheduler.resolution at hresolution
    split at hresolution
    · split at hresolution
      · cases hresolution
      next hcancelled =>
        rw [InferenceScheduler.isCancelled, Bool.or_eq_true, not_or, Bool.not_eq_true', Bool.not_eq_false]
          at hcancelled
        exact hcancelled.2
    · cases hresolution
    · cases hresolution
  next =>
    subst heq
    exact .inl hsubmission

theorem Moved.apply (h : Sound s) (op : Op V) : Moved s (s.apply op).2 := by
  cases op with
  | openSession sessionId direction =>
    refine ((elapsed_openSession s sessionId direction).quiet ?_).moved
    unfold InferenceScheduler.openSession
    split
    · rfl
    · split <;> rfl
  | openUtterance sessionId utteranceId =>
    refine ((elapsed_openUtterance s sessionId utteranceId).quiet ?_).moved
    unfold InferenceScheduler.openUtterance
    split
    · rfl
    · split <;> rfl
  | submit identity =>
    show Moved s (s.submit identity).2
    unfold InferenceScheduler.submit
    split
    · exact (Quiet.refl s).moved
    split
    · exact (Quiet.refl s).moved
    have hdispatcher : Quiet (s.enqueue identity) (s.enqueue identity).ensureDispatcher := by
      unfold InferenceScheduler.ensureDispatcher
      split <;> exact quiet_same rfl rfl rfl
    exact (((quiet_enqueue s identity).trans hdispatcher).trans (quiet_setSignal _)).moved
  | cancelUtterance sessionId utteranceId => exact (quiet_cancelUtterance s sessionId utteranceId).moved
  | closeSession sessionId => exact (quiet_closeSession s sessionId).moved
  | shutdown => exact moved_same rfl rfl rfl
  | shutdownImpl =>
    show Moved s s.shutdownImpl
    unfold InferenceScheduler.shutdownImpl
    split
    · have hclosed : Quiet s (s.sessions.keys.foldl (fun s sessionId => (s.closeSession sessionId).2) s) :=
        List.foldlRecOn (motive := Quiet s) _ _ (.refl s) fun later hlater _ _ =>
          hlater.trans (quiet_closeSession later _)
      exact (hclosed.trans (quiet_setSignal _)).moved
    · exact (Quiet.refl s).moved
  | dispatch =>
    show Moved s (if s.dispatcherRuns then s.dispatchLoop else s)
    split
    · exact (quiet_dispatchLoop s).moved
    · exact (Quiet.refl s).moved
  | begin number =>
    exact run_rule (P := Moved s) (Quiet.refl s).moved fun _ _ => moved_same rfl rfl rfl
  | complete number outcome =>
    exact run_rule (P := Moved s) (f := fun job => s.complete job outcome) (Quiet.refl s).moved
      fun _ htask => moved_complete h htask outcome
  | taskDone number =>
    exact run_rule (P := Moved s) (Quiet.refl s).moved fun _ _ => moved_same rfl rfl rfl

/-! ### Runs -/

/-- The operation takes an identity back, if that is current. -/
def Op.revokes : Op V → JobIdentity → Prop
  | .cancelUtterance sessionId utteranceId, identity =>
    sessionId = identity.sessionId ∧ utteranceId = identity.utteranceId
  | .closeSession sessionId, identity => sessionId = identity.sessionId
  | _, _ => False

theorem revokes_current {op : Op V} {identity : JobIdentity} (h : op.revokes identity) :
    (s.apply op).2.isCurrent identity = false := by
  rw [Bool.eq_false_iff]
  intro hcurrent
  cases op with
  | cancelUtterance sessionId utteranceId =>
    obtain ⟨rfl, rfl⟩ := h
    obtain ⟨found, hfound, -, -, hutterance⟩ := isCurrent_iff.mp hcurrent
    have hfound : (s.cancelUtterance identity.sessionId identity.utteranceId).2.sessions.lookup _ = _ := hfound
    unfold InferenceScheduler.cancelUtterance at hfound
    split at hfound
    next hnone =>
      rw [hnone] at hfound
      cases hfound
    next session hsession =>
      split at hfound
      next hunknown =>
        rw [hsession] at hfound
        cases hfound
        rw [Table.mem_iff_isSome, hutterance] at hunknown
        exact hunknown rfl
      next =>
        have hfound : (s.sessions.insert _ _).lookup _ = _ := hfound
        rw [Table.lookup_insert_if, if_pos rfl] at hfound
        cases hfound
        rw [Table.lookup_erase_if, if_pos rfl] at hutterance
        cases hutterance
  | closeSession sessionId =>
    obtain rfl := h
    obtain ⟨found, hfound, -⟩ := isCurrent_iff.mp hcurrent
    have hfound : (s.closeSession identity.sessionId).2.sessions.lookup _ = _ := hfound
    unfold InferenceScheduler.closeSession at hfound
    split at hfound
    next hunknown =>
      rw [Table.mem_iff_isSome, hfound] at hunknown
      exact hunknown rfl
    next =>
      have hfound : (s.sessions.erase _).lookup _ = _ := hfound
      rw [Table.lookup_erase_if, if_pos rfl] at hfound
      cases hfound
  | _ => exact h

theorem revokes_quiet {op : Op V} {identity : JobIdentity} (h : op.revokes identity) :
    Quiet s (s.apply op).2 := by
  cases op with
  | cancelUtterance sessionId utteranceId => exact quiet_cancelUtterance s sessionId utteranceId
  | closeSession sessionId => exact quiet_closeSession s sessionId
  | _ => exact h.elim

/-- Where a job can be. -/
inductive Place where | queued | active | resolved

def IsAt (s : InferenceScheduler V) (number : Nat) : Place → Prop
  | .queued => ∃ d, ∃ job ∈ s.queues d, job.number = number
  | .active => ∃ d job, s.active d = some job ∧ job.number = number
  | .resolved => ∃ submission, s.submissions[number]? = some submission ∧ submission.future.isSome

theorem Sound.not_resolved (h : Sound s) {d : AudioDirection} {job : Job} (hjob : job ∈ s.held d) :
    ¬ IsAt s job.number .resolved := by
  rintro ⟨submission, hsubmission, hdone⟩
  rw [(h.pending job.number job.identity).mpr ⟨d, hjob⟩] at hsubmission
  cases hsubmission
  cases hdone

/-- A job that was submitted is in one place. -/
theorem Sound.place (h : Sound s) {number : Nat} (hsubmitted : number < s.submissions.length) :
    ∃! place, IsAt s number place := by
  have hboth : ¬ (IsAt s number .queued ∧ IsAt s number .active) := by
    rintro ⟨⟨d, job, hjob, hnumber⟩, ⟨d', other, hother, hsame⟩⟩
    have hheld : job ∈ s.held d := List.mem_append_right _ hjob
    obtain rfl := h.unique hheld (Sound.active_mem hother) (hnumber.trans hsame.symm)
    have hdirection := (h.directed d job hheld).symm.trans (h.directed d' job (Sound.active_mem hother))
    exact h.active_notMem hother (hdirection ▸ hjob)
  have hqueued : ¬ (IsAt s number .queued ∧ IsAt s number .resolved) := by
    rintro ⟨⟨d, job, hjob, rfl⟩, hresolved⟩
    exact h.not_resolved (List.mem_append_right _ hjob) hresolved
  have hactive : ¬ (IsAt s number .active ∧ IsAt s number .resolved) := by
    rintro ⟨⟨d, job, hjob, rfl⟩, hresolved⟩
    exact h.not_resolved (Sound.active_mem hjob) hresolved
  have hsomewhere : ∃ place, IsAt s number place := by
    rcases hfuture : s.submissions[number] with ⟨identity, future | resolution⟩
    · obtain ⟨d, hd⟩ := (h.pending number identity).mp (List.getElem?_eq_some_iff.mpr ⟨hsubmitted, hfuture⟩)
      rcases List.mem_append.mp hd with hrunning | hwaiting
      · exact ⟨.active, d, _, Option.mem_toList.mp hrunning, rfl⟩
      · exact ⟨.queued, d, _, hwaiting, rfl⟩
    · exact ⟨.resolved, _, List.getElem?_eq_some_iff.mpr ⟨hsubmitted, hfuture⟩, rfl⟩
  obtain ⟨place, hplace⟩ := hsomewhere
  refine ⟨place, hplace, fun other hother => ?_⟩
  cases place <;> cases other
  case queued.queued | active.active | resolved.resolved => rfl
  case queued.active => exact (hboth ⟨hplace, hother⟩).elim
  case active.queued => exact (hboth ⟨hother, hplace⟩).elim
  case queued.resolved => exact (hqueued ⟨hplace, hother⟩).elim
  case resolved.queued => exact (hqueued ⟨hother, hplace⟩).elim
  case active.resolved => exact (hactive ⟨hplace, hother⟩).elim
  case resolved.active => exact (hactive ⟨hother, hplace⟩).elim

end Moves

namespace InferenceScheduler

/-- The tasks of a direction that have not come to their end. -/
def working (s : InferenceScheduler V) (d : AudioDirection) : List RunTask :=
  s.runningTasks.filter fun task => task.stage ≠ .finished && task.job.identity.direction = d

end InferenceScheduler

open InferenceScheduler (after)

/-- What a run of the scheduler keeps, at its end. -/
structure Scheduled (ops : List (Op V)) : Prop where
  oneActive : ∀ d, ((after ops).working d).length ≤ 1
  room : ∀ d, ((after ops).working d).length + ((after ops).queues d).length ≤ 3
  inOrder : ∀ d, (((after ops).startedOf d).map Job.number).Pairwise (· < ·)
  somewhere : ∀ number < (after ops).submissions.length, ∃! place, IsAt (after ops) number place
  unrevoked : ∀ pre op post, ops = pre ++ op :: post → ∀ identity, (after pre).isCurrent identity = true →
    op.revokes identity → ∀ number value, HasResult (after ops) identity number value →
      HasResult (after pre) identity number value
  awake : ∀ d, (after ops).active d = none → (after ops).queues d ≠ [] → (after ops).dispatcherRuns = true

theorem after_append (ops more : List (Op V)) :
    after (ops ++ more) = (exec InferenceScheduler.apply (after ops) more).2 := exec_append_state ..

theorem sound_after (ops : List (Op V)) : Sound (after ops) :=
  exec_state_invariant sound_new (fun _ op h => h.apply op) ops

theorem inOrder_after (ops : List (Op V)) : InOrder (after ops) :=
  (exec_state_invariant (I := fun s => Sound s ∧ InOrder s) ⟨sound_new, inOrder_new⟩
    (fun _ op h => ⟨h.1.apply op, h.2.apply h.1 op⟩) ops).2

theorem awake_after (ops : List (Op V)) : Awake (after ops) :=
  (exec_state_invariant (I := fun s => Sound s ∧ Awake s) ⟨sound_new, awake_new⟩
    (fun _ op h => ⟨h.1.apply op, h.2.apply h.1 op⟩) ops).2

theorem issued_after (ops : List (Op V)) : Issued (after ops) :=
  (exec_state_invariant (I := fun s => Sound s ∧ Issued s)
    ⟨sound_new, fun _ _ h => by cases (AList.lookup_empty _).symm.trans h⟩
    (fun _ op h => ⟨h.1.apply op, (Moved.apply h.1 op).elapsed.issued h.2⟩) ops).2

/-- No job gets a result under an identity that is not current any more. -/
theorem run_stale {s : InferenceScheduler V} (hsound : Sound s) {identity : JobIdentity}
    (hissued : identity.utteranceGeneration < s.nextGeneration) (hstale : s.isCurrent identity = false)
    (ops : List (Op V)) {number : Nat} {value : V}
    (hresult : HasResult (exec InferenceScheduler.apply s ops).2 identity number value) :
    HasResult s identity number value := by
  let I : InferenceScheduler V → Prop := fun s' =>
    Sound s' ∧ identity.utteranceGeneration < s'.nextGeneration ∧ s'.isCurrent identity = false
      ∧ ∀ number value, HasResult s' identity number value → HasResult s identity number value
  have hkept : I (exec InferenceScheduler.apply s ops).2 :=
    exec_state_invariant ⟨hsound, hissued, hstale, fun _ _ h => h⟩ ?_ ops
  · exact hkept.2.2.2 number value hresult
  · rintro s' op ⟨hsound, hissued, hstale, hresults⟩
    have hmoved := Moved.apply hsound op
    refine ⟨hsound.apply op, Nat.lt_of_lt_of_le hissued hmoved.elapsed.next, ?_, fun number value hresult => ?_⟩
    · rw [Bool.eq_false_iff]
      intro hcurrent
      rw [hmoved.elapsed.current identity hissued hcurrent] at hstale
      cases hstale
    · rcases hmoved.results identity number value hresult with hbefore | hcurrent
      · exact hresults number value hbefore
      · rw [hcurrent] at hstale
        cases hstale

theorem Sound.working_length {s : InferenceScheduler V} (h : Sound s) (d : AudioDirection) :
    (s.working d).length ≤ (s.active d).toList.length := by
  have hjobs : (s.working d).map RunTask.job ⊆ (s.active d).toList := by
    intro job hjob
    obtain ⟨task, htask, rfl⟩ := List.mem_map.mp hjob
    obtain ⟨hmem, hworking⟩ := List.mem_filter.mp htask
    rw [Bool.and_eq_true, decide_eq_true_eq, decide_eq_true_eq] at hworking
    rw [Option.mem_toList, ← hworking.2]
    exact h.tasks task hmem hworking.1
  have hnodup : ((s.working d).map RunTask.job).Nodup := by
    refine List.Nodup.of_map Job.number ?_
    rw [List.map_map]
    exact h.numbered.sublist (List.filter_sublist.map _)
  rw [← List.length_map (f := RunTask.job)]
  exact (hnodup.subperm hjobs).length_le

/-- Whatever the order of the operations. -/
theorem run_scheduled (ops : List (Op V)) : Scheduled ops := by
  have hsound := sound_after ops
  have hone : ∀ d, ((after ops).active d).toList.length ≤ 1 := by
    intro d
    cases (after ops).active d <;> simp
  constructor
  · exact fun d => Nat.le_trans (hsound.working_length d) (hone d)
  · intro d
    have hroom := hsound.room d
    rw [InferenceScheduler.held, List.length_append] at hroom
    have hworking := hsound.working_length d
    have hqueued : queuedPerDirection + 1 = 3 := rfl
    omega
  · exact (inOrder_after ops).sorted
  · exact fun number hsubmitted => hsound.place hsubmitted
  · rintro pre op post rfl identity hcurrent hrevokes number value hresult
    have hsoundPre := sound_after pre
    have hmoved := Moved.apply hsoundPre op
    have hissued : identity.utteranceGeneration < (after pre).nextGeneration := by
      obtain ⟨session, hsession, -, -, hutterance⟩ := isCurrent_iff.mp hcurrent
      exact issued_after pre _ session hsession _ _ hutterance
    rw [after_append, exec_cons_state] at hresult
    have hafter := run_stale (hsoundPre.apply op) (Nat.lt_of_lt_of_le hissued hmoved.elapsed.next)
      (revokes_current hrevokes) post hresult
    exact (revokes_quiet hrevokes).silent identity number value hafter
  · exact fun d hidle hqueue => (awake_after ops).runs hidle hqueue

example : (after [.openSession 1 .microphone, .openUtterance 1 2, .submit ⟨1, 2, .microphone, 1, 2⟩, .dispatch,
    .begin 0, .complete 0 (.returned 7)]).submissions = [⟨⟨1, 2, .microphone, 1, 2⟩, some (.result 7)⟩] := by
  decide +kernel

end Translator.Scheduler
