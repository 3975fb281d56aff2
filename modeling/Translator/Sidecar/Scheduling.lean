import Translator.Sidecar.InferenceScheduler

/-! Every job of the scheduler is queued, active or resolved, whatever the order of the operations, and
    what happens in one direction never leaves the other one asleep. -/

namespace Translator.Scheduler
open Schemes
open Wire (Uuid)
open Core (AudioDirection)

variable {V : Type}

namespace InferenceScheduler

variable (s : InferenceScheduler V)

/-- The active job of a direction and the queued ones, in the order in which they are to run. -/
def held (d : AudioDirection) : List Job := (s.active d).toList ++ s.queues d

/-- The jobs of a direction whose work was begun. -/
def startedOf (d : AudioDirection) : List Job := s.started.filter fun job => job.identity.direction = d

theorem getElem?_resolve (numbers : List Nat) (resolution : Resolution V) (n : Nat) :
    (s.resolve numbers resolution).submissions[n]?
      = (s.submissions[n]?).map fun submission =>
        if n ∈ numbers ∧ submission.future.isNone then { submission with future := some resolution }
        else submission := List.getElem?_mapIdx

/-- What is pending after some jobs were resolved. -/
theorem pending_resolve (numbers : List Nat) (resolution : Resolution V) (n : Nat) (identity : JobIdentity) :
    (s.resolve numbers resolution).submissions[n]? = some ⟨identity, none⟩
      ↔ s.submissions[n]? = some ⟨identity, none⟩ ∧ n ∉ numbers := by
  rw [getElem?_resolve, Option.map_eq_some_iff]
  constructor
  · rintro ⟨submission, hsubmission, heq⟩
    split at heq
    next => cases heq
    next hnot =>
      subst heq
      exact ⟨hsubmission, fun hmem => hnot ⟨hmem, rfl⟩⟩
  · rintro ⟨hsubmission, hmem⟩
    exact ⟨_, hsubmission, if_neg fun h => hmem h.1⟩

/-- A future is resolved once. -/
theorem resolve_done (numbers : List Nat) (resolution : Resolution V) {n : Nat} {submission : Submission V}
    (h : s.submissions[n]? = some submission) (hdone : submission.future.isSome) :
    (s.resolve numbers resolution).submissions[n]? = some submission := by
  rw [getElem?_resolve, h, Option.map_some, if_neg]
  rintro ⟨-, hnone⟩
  rw [Option.isNone_iff_eq_none] at hnone
  rw [hnone] at hdone
  cases hdone

theorem resolve_length (numbers : List Nat) (resolution : Resolution V) :
    (s.resolve numbers resolution).submissions.length = s.submissions.length := List.length_mapIdx

theorem mem_queuedJobs {job : Job} : job ∈ s.queuedJobs ↔ ∃ d, job ∈ s.queues d := by
  refine List.mem_flatMap.trans ⟨fun ⟨d, _, h⟩ => ⟨d, h⟩, fun ⟨d, h⟩ => ⟨d, ?_, h⟩⟩
  cases d <;> simp [directions]

end InferenceScheduler

/-! ### Where the jobs are -/

/-- The pending futures are those of the active and the queued jobs, each direction has its jobs in the
    order of submission, and the active one has a task of its own. -/
structure Sound (s : InferenceScheduler V) : Prop where
  directed : ∀ d, ∀ job ∈ s.held d, job.identity.direction = d
  ordered : ∀ d, ((s.held d).map Job.number).Pairwise (· < ·)
  room : ∀ d, (s.held d).length ≤ queuedPerDirection + 1
  pending : ∀ number identity,
    s.submissions[number]? = some ⟨identity, none⟩ ↔ ∃ d, ⟨number, identity⟩ ∈ s.held d
  tasks : ∀ task ∈ s.runningTasks, task.stage ≠ .finished →
    s.active task.job.identity.direction = some task.job
  finished : ∀ task ∈ s.runningTasks, task.stage = .finished →
    ∃ submission, s.submissions[task.job.number]? = some submission ∧ submission.future.isSome
  attended : ∀ d job, s.active d = some job → ∃ task ∈ s.runningTasks, task.job = job ∧ task.stage ≠ .finished
  numbered : (s.runningTasks.map fun task => task.job.number).Nodup

theorem sound_new : Sound (.new : InferenceScheduler V) where
  directed _ _ h := nomatch h
  ordered _ := .nil
  room _ := Nat.zero_le _
  pending _ _ := ⟨fun h => (nomatch h), fun ⟨_, h⟩ => (nomatch h)⟩
  tasks _ h := nomatch h
  finished _ h := nomatch h
  attended _ _ h := nomatch h
  numbered := .nil

section Moves

variable {s s' : InferenceScheduler V}

/-- Only the queues, the active jobs, the tasks and the futures count. -/
theorem Sound.congr (h : Sound s) (hqueues : s'.queues = s.queues) (hactive : s'.active = s.active)
    (htasks : s'.runningTasks = s.runningTasks) (hsubmissions : s'.submissions = s.submissions) :
    Sound s' := by
  have hheld : s'.held = s.held := by
    funext d
    rw [InferenceScheduler.held, InferenceScheduler.held, hqueues, hactive]
  constructor
  · rw [hheld]
    exact h.directed
  · rw [hheld]
    exact h.ordered
  · rw [hheld]
    exact h.room
  · rw [hheld, hsubmissions]
    exact h.pending
  · rw [htasks, hactive]
    exact h.tasks
  · rw [htasks, hsubmissions]
    exact h.finished
  · rw [htasks, hactive]
    exact h.attended
  · rw [htasks]
    exact h.numbered

theorem Sound.setSignal (h : Sound s) : Sound s.setSignal := h.congr rfl rfl rfl rfl

theorem Sound.ensureDispatcher (h : Sound s) : Sound s.ensureDispatcher := by
  unfold InferenceScheduler.ensureDispatcher
  split
  · exact h
  · exact h.congr rfl rfl rfl rfl

theorem Sound.terminalize (h : Sound s) (identity : JobIdentity) : Sound (s.terminalize identity) := by
  unfold InferenceScheduler.terminalize
  split
  · exact h
  · split
    · exact h.congr rfl rfl rfl rfl
    · exact h

/-- A job that is held is the only one with its number. -/
theorem Sound.unique (h : Sound s) {d d' : AudioDirection} {job other : Job} (hjob : job ∈ s.held d)
    (hother : other ∈ s.held d') (hnumber : job.number = other.number) : job = other := by
  have hpending := (h.pending job.number job.identity).mpr ⟨d, hjob⟩
  have hpending' := (h.pending other.number other.identity).mpr ⟨d', hother⟩
  rw [hnumber, hpending'] at hpending
  obtain ⟨number, identity⟩ := job
  obtain ⟨number', identity'⟩ := other
  cases hpending
  cases hnumber
  rfl

theorem Sound.active_notMem (h : Sound s) {d : AudioDirection} {job : Job} (hactive : s.active d = some job) :
    job ∉ s.queues d := by
  intro hqueue
  have hordered := h.ordered d
  rw [InferenceScheduler.held, hactive, Option.toList_some, List.singleton_append, List.map_cons,
    List.pairwise_cons] at hordered
  exact Nat.lt_irrefl _ (hordered.1 _ (List.mem_map_of_mem hqueue))

theorem Sound.number_lt (h : Sound s) {d : AudioDirection} {job : Job} (hjob : job ∈ s.held d) :
    job.number < s.submissions.length := by
  have hpending := (h.pending job.number job.identity).mpr ⟨d, hjob⟩
  exact (List.getElem?_eq_some_iff.mp hpending).1

theorem Sound.active_mem {d : AudioDirection} {job : Job} (hactive : s.active d = some job) :
    job ∈ s.held d := by
  rw [InferenceScheduler.held, hactive]
  exact List.mem_append_left _ (List.mem_singleton_self _)

/-- A job joins the queue of its direction. -/
theorem Sound.enqueue (h : Sound s) {identity : JobIdentity}
    (hroom : (s.queues identity.direction).length < s.admissionCapacity identity.direction) :
    Sound (s.enqueue identity) := by
  have hheld : ∀ d, (s.enqueue identity).held d
      = if d = identity.direction then s.held d ++ [⟨s.submissions.length, identity⟩] else s.held d := by
    intro d
    rw [InferenceScheduler.held, InferenceScheduler.held, InferenceScheduler.enqueue]
    dsimp only
    split
    next hd =>
      subst hd
      rw [Function.update_self, List.append_assoc]
    next hd => rw [Function.update_of_ne hd]
  constructor
  · intro d job hjob
    rw [hheld] at hjob
    split at hjob
    next hd =>
      rcases List.mem_append.mp hjob with hold | hnew
      · exact h.directed d job hold
      · rw [List.mem_singleton.mp hnew, hd]
    next => exact h.directed d job hjob
  · intro d
    rw [hheld]
    split
    next =>
      rw [List.map_append, List.pairwise_append]
      refine ⟨h.ordered d, List.pairwise_singleton .., ?_⟩
      intro n hn m hm
      obtain ⟨job, hjob, rfl⟩ := List.mem_map.mp hn
      rw [List.map_singleton, List.mem_singleton] at hm
      rw [hm]
      exact h.number_lt hjob
    next => exact h.ordered d
  · intro d
    rw [hheld]
    split
    next hd =>
      unfold InferenceScheduler.admissionCapacity at hroom
      rw [List.length_append, List.length_singleton, InferenceScheduler.held, List.length_append]
      subst hd
      cases hactive : s.active identity.direction with
      | none =>
        simp only [hactive, Option.isNone_none, if_true, Option.toList_none, List.length_nil] at hroom ⊢
        omega
      | some job =>
        simp only [hactive, Option.isNone_some, Bool.false_eq_true, if_false, Option.toList_some,
          List.length_singleton] at hroom ⊢
        omega
    next => exact h.room d
  · intro number other
    show (s.submissions ++ [⟨identity, none⟩])[number]? = _ ↔ _
    rw [List.getElem?_append]
    split
    next hlt =>
      rw [h.pending]
      constructor
      · rintro ⟨d, hd⟩
        refine ⟨d, ?_⟩
        rw [hheld]
        split
        · exact List.mem_append_left _ hd
        · exact hd
      · rintro ⟨d, hd⟩
        rw [hheld] at hd
        split at hd
        next =>
          rcases List.mem_append.mp hd with hold | hnew
          · exact ⟨d, hold⟩
          · cases List.mem_singleton.mp hnew
            exact absurd hlt (Nat.lt_irrefl _)
        next => exact ⟨d, hd⟩
    next hge =>
      constructor
      · intro hget
        obtain ⟨hlt, heq⟩ := List.getElem?_eq_some_iff.mp hget
        rw [List.length_singleton] at hlt
        obtain rfl : number = s.submissions.length := by omega
        simp only [List.getElem_singleton, Submission.mk.injEq, and_true] at heq
        subst heq
        refine ⟨identity.direction, ?_⟩
        rw [hheld, if_pos rfl]
        exact List.mem_append_right _ (List.mem_singleton_self _)
      · rintro ⟨d, hd⟩
        rw [hheld] at hd
        split at hd
        next =>
          rcases List.mem_append.mp hd with hold | hnew
          · exact absurd (h.number_lt hold) hge
          · cases List.mem_singleton.mp hnew
            rw [Nat.sub_self]
            rfl
        next => exact absurd (h.number_lt hd) hge
  · exact h.tasks
  · intro task htask hfinished
    obtain ⟨submission, hsubmission, hdone⟩ := h.finished task htask hfinished
    exact ⟨submission, (List.getElem?_append_left (List.getElem?_eq_some_iff.mp hsubmission).1).trans
      hsubmission, hdone⟩
  · exact h.attended
  · exact h.numbered

/-- Some queued jobs are dropped, and their futures resolved. -/
theorem Sound.drop (h : Sound s) (gone : Job → Bool) (numbers : List Nat) (resolution : Resolution V)
    (hqueues : ∀ d, s'.queues d = (s.queues d).filter fun job => !gone job) (hactive : s'.active = s.active)
    (htasks : s'.runningTasks = s.runningTasks)
    (hnumbers : ∀ n, n ∈ numbers ↔ ∃ d, ∃ job ∈ s.queues d, gone job = true ∧ job.number = n)
    (hsubmissions : s'.submissions = (s.resolve numbers resolution).submissions) : Sound s' := by
  have hsublist : ∀ d, (s'.held d).Sublist (s.held d) := by
    intro d
    rw [InferenceScheduler.held, InferenceScheduler.held, hqueues, hactive]
    exact (List.Sublist.refl _).append List.filter_sublist
  constructor
  · exact fun d job hjob => h.directed d job ((hsublist d).subset hjob)
  · exact fun d => (h.ordered d).sublist ((hsublist d).map _)
  · exact fun d => Nat.le_trans (hsublist d).length_le (h.room d)
  · intro number identity
    rw [hsubmissions, InferenceScheduler.pending_resolve, h.pending]
    constructor
    · rintro ⟨⟨d, hd⟩, hnumber⟩
      refine ⟨d, ?_⟩
      rw [InferenceScheduler.held, hqueues, hactive]
      rcases List.mem_append.mp hd with hrunning | hqueued
      · exact List.mem_append_left _ hrunning
      · refine List.mem_append_right _ (List.mem_filter.mpr ⟨hqueued, ?_⟩)
        by_cases hgone : gone ⟨number, identity⟩ = true
        · exact absurd ((hnumbers number).mpr ⟨d, _, hqueued, hgone, rfl⟩) hnumber
        · simpa using hgone
    · rintro ⟨d, hd⟩
      refine ⟨⟨d, (hsublist d).subset hd⟩, fun hnumber => ?_⟩
      obtain ⟨d', job, hjob, hgone, heq⟩ := (hnumbers number).mp hnumber
      obtain rfl := h.unique (List.mem_append_right _ hjob) ((hsublist d).subset hd) heq
      rw [InferenceScheduler.held, hqueues, hactive] at hd
      rcases List.mem_append.mp hd with hrunning | hqueued
      · have hdirection := h.directed d _ (List.mem_append_left _ hrunning)
        rw [← h.directed d' _ (List.mem_append_right _ hjob), hdirection] at hjob
        exact h.active_notMem (Option.mem_toList.mp hrunning) hjob
      · have hkept := (List.mem_filter.mp hqueued).2
        rw [hgone] at hkept
        cases hkept
  · rw [htasks, hactive]
    exact h.tasks
  · rw [htasks, hsubmissions]
    intro task htask hfinished
    obtain ⟨submission, hsubmission, hdone⟩ := h.finished task htask hfinished
    exact ⟨submission, s.resolve_done _ _ hsubmission hdone, hdone⟩
  · rw [htasks, hactive]
    exact h.attended
  · rw [htasks]
    exact h.numbered

theorem Sound.cancelMatching (h : Sound s) (predicate : JobIdentity → Bool) :
    Sound (s.cancelMatching predicate) := by
  refine h.drop (fun job => predicate job.identity)
    ((s.queuedJobs.filter fun job => predicate job.identity).map Job.number)
    (.error .stale) (fun _ => rfl) rfl rfl (fun n => ?_) rfl
  simp only [List.mem_map, List.mem_filter, InferenceScheduler.mem_queuedJobs]
  constructor
  · rintro ⟨job, ⟨⟨d, hjob⟩, hgone⟩, hnumber⟩
    exact ⟨d, job, hjob, hgone, hnumber⟩
  · rintro ⟨d, job, hjob, hgone, hnumber⟩
    exact ⟨job, ⟨⟨d, hjob⟩, hgone⟩, hnumber⟩

/-- The head of a queue that is not current any more is dropped. -/
theorem Sound.dropHead (h : Sound s) {d : AudioDirection} {job : Job} {rest : List Job}
    (hqueue : s.queues d = job :: rest) :
    Sound ((s.popLeft d rest).resolve [job.number] (.error .stale)) := by
  have hjob : job ∈ s.queues d := by rw [hqueue]; exact List.mem_cons_self ..
  have hheld : job ∈ s.held d := List.mem_append_right _ hjob
  refine h.drop (fun other => decide (other = job)) [job.number]
    (.error .stale) (fun d' => ?_) rfl rfl (fun n => ?_) rfl
  · show Function.update s.queues d rest d' = _
    by_cases hd : d' = d
    · subst hd
      rw [Function.update_self, hqueue, List.filter_cons_of_neg (by simp), List.filter_eq_self.mpr]
      intro other hother
      have hordered := (h.ordered d').sublist ((List.sublist_append_right _ _).map _)
      rw [hqueue, List.map_cons, List.pairwise_cons] at hordered
      have hlt := hordered.1 _ (List.mem_map_of_mem hother)
      have hne : other ≠ job := fun heq => Nat.lt_irrefl _ (heq ▸ hlt)
      simpa using hne
    · rw [Function.update_of_ne hd, List.filter_eq_self.mpr]
      intro other hother
      have hne : other ≠ job := by
        rintro rfl
        have hdirection := h.directed d' _ (List.mem_append_right _ hother)
        exact hd (hdirection.symm.trans (h.directed d _ hheld))
      simpa using hne
  · simp only [List.mem_singleton, decide_eq_true_eq]
    constructor
    · rintro rfl
      exact ⟨d, job, hjob, rfl, rfl⟩
    · rintro ⟨d', other, -, rfl, rfl⟩
      rfl

/-- The head of a queue becomes the active job. -/
theorem Sound.start (h : Sound s) {index : Nat} {job : Job} {rest : List Job}
    (hqueue : s.queues (directionAt index) = job :: rest) (hidle : s.active (directionAt index) = none) :
    Sound ((s.popLeft (directionAt index) rest).start index job) := by
  have hheld : ((s.popLeft (directionAt index) rest).start index job).held = s.held := by
    funext d
    show (Function.update s.active _ _ d).toList ++ Function.update s.queues _ _ d = _
    by_cases hd : d = directionAt index
    · subst hd
      rw [Function.update_self, Function.update_self, InferenceScheduler.held, hidle, hqueue]
      rfl
    · rw [Function.update_of_ne hd, Function.update_of_ne hd]
      rfl
  have hjob : job ∈ s.held (directionAt index) := by
    rw [InferenceScheduler.held, hqueue]
    exact List.mem_append_right _ (List.mem_cons_self ..)
  have hdirection := h.directed _ _ hjob
  have hpending := (h.pending job.number job.identity).mpr ⟨_, hjob⟩
  constructor
  · rw [hheld]
    exact h.directed
  · rw [hheld]
    exact h.ordered
  · rw [hheld]
    exact h.room
  · rw [hheld]
    exact h.pending
  · intro task htask hunfinished
    show Function.update s.active _ _ _ = _
    rcases List.mem_append.mp htask with hold | hnew
    · have hactive := h.tasks task hold hunfinished
      rw [Function.update_of_ne, hactive]
      intro heq
      rw [heq, hidle] at hactive
      cases hactive
    · rw [List.mem_singleton.mp hnew, hdirection, Function.update_self]
  · intro task htask hfinished
    rcases List.mem_append.mp htask with hold | hnew
    · exact h.finished task hold hfinished
    · rw [List.mem_singleton.mp hnew] at hfinished
      cases hfinished
  · intro d other hother
    have hother : Function.update s.active (directionAt index) (some job) d = some other := hother
    by_cases hd : d = directionAt index
    · subst hd
      rw [Function.update_self] at hother
      cases hother
      exact ⟨⟨job, .created⟩, List.mem_append_right _ (List.mem_singleton_self _), rfl, nofun⟩
    · rw [Function.update_of_ne hd] at hother
      obtain ⟨task, htask, hdone⟩ := h.attended d other hother
      exact ⟨task, List.mem_append_left _ htask, hdone⟩
  · show ((s.runningTasks ++ [(⟨job, .created⟩ : RunTask)]).map _).Nodup
    rw [List.map_append, List.nodup_append]
    refine ⟨h.numbered, List.nodup_singleton _, ?_⟩
    intro n hn m hm
    obtain ⟨task, htask, rfl⟩ := List.mem_map.mp hn
    rw [List.map_singleton, List.mem_singleton] at hm
    rintro hnumber
    rw [hm] at hnumber
    by_cases hfinished : task.stage = .finished
    · obtain ⟨submission, hsubmission, hdone⟩ := h.finished task htask hfinished
      rw [hnumber, hpending] at hsubmission
      cases hsubmission
      cases hdone
    · have hactive := h.tasks task htask hfinished
      have hsame := h.unique (Sound.active_mem hactive) hjob hnumber
      rw [hsame, hdirection, hidle] at hactive
      cases hactive

/-- A loop over a queue, one job after the other. -/
theorem Sound.dispatchQueue {index : Nat} (queue : List Job) :
    ∀ {s : InferenceScheduler V}, Sound s → s.queues (directionAt index) = queue →
      s.active (directionAt index) = none → Sound (s.dispatchQueue index queue) := by
  induction queue with
  | nil => exact fun h _ _ => h
  | cons job rest ih =>
    intro s h hqueue hidle
    unfold InferenceScheduler.dispatchQueue
    dsimp only
    split
    · exact h.start hqueue hidle
    · exact ih (h.dropHead hqueue) (Function.update_self ..) hidle

theorem Sound.dispatchDirection (h : Sound s) (index : Nat) : Sound (s.dispatchDirection index) := by
  unfold InferenceScheduler.dispatchDirection
  split
  · exact h
  next hidle => exact Sound.dispatchQueue _ h rfl (Option.not_isSome_iff_eq_none.mp hidle)

theorem Sound.dispatchLoop (h : Sound s) : Sound s.dispatchLoop := by
  have havailable : Sound s.dispatchAvailable :=
    List.foldlRecOn _ _ h fun _ hs _ _ => hs.dispatchDirection _
  unfold InferenceScheduler.dispatchLoop
  dsimp only
  split
  · exact havailable.congr rfl rfl rfl rfl
  · exact havailable.congr rfl rfl rfl rfl

/-! ### The tasks -/

theorem task_some {number : Nat} {stage : TaskStage} {task : RunTask} (h : s.task number stage = some task) :
    task ∈ s.runningTasks ∧ task.job.number = number ∧ task.stage = stage := by
  have hfound := List.find?_some h
  rw [Bool.and_eq_true, decide_eq_true_eq, decide_eq_true_eq] at hfound
  exact ⟨List.mem_of_find?_eq_some h, hfound⟩

/-- A task is the only one with its number. -/
theorem Sound.task_unique (h : Sound s) {task other : RunTask} (htask : task ∈ s.runningTasks)
    (hother : other ∈ s.runningTasks) (hnumber : task.job.number = other.job.number) : task = other :=
  List.inj_on_of_nodup_map h.numbered htask hother hnumber

/-- A task after one of them has changed its stage. -/
theorem mem_setStage {number : Nat} {stage : TaskStage} {task : RunTask}
    (h : task ∈ (s.setStage number stage).runningTasks) :
    ∃ old ∈ s.runningTasks, task.job = old.job
      ∧ task.stage = if old.job.number = number then stage else old.stage := by
  obtain ⟨old, hold, rfl⟩ := List.mem_map.mp h
  refine ⟨old, hold, ?_⟩
  split <;> exact ⟨rfl, rfl⟩

theorem setStage_mem {task : RunTask} (number : Nat) (stage : TaskStage) (h : task ∈ s.runningTasks) :
    ∃ later ∈ (s.setStage number stage).runningTasks, later.job = task.job
      ∧ later.stage = if task.job.number = number then stage else task.stage := by
  refine ⟨_, List.mem_map_of_mem h, ?_⟩
  split <;> exact ⟨rfl, rfl⟩

theorem setStage_numbers (number : Nat) (stage : TaskStage) :
    ((s.setStage number stage).runningTasks.map fun task => task.job.number)
      = s.runningTasks.map fun task => task.job.number := by
  show (List.map _ (List.map _ _)) = _
  rw [List.map_map]
  refine List.map_congr_left fun task _ => ?_
  show (if task.job.number = number then _ else _ : RunTask).job.number = _
  split <;> rfl

theorem Sound.begin (h : Sound s) {number : Nat} {task : RunTask} (htask : s.task number .created = some task) :
    Sound (s.begin task.job) := by
  obtain ⟨hmem, -, hstage⟩ := task_some htask
  refine ⟨h.directed, h.ordered, h.room, h.pending, ?_, ?_, ?_, ?_⟩
  · intro other hother hunfinished
    obtain ⟨old, hold, hjob, holdStage⟩ := mem_setStage hother
    rw [hjob]
    refine h.tasks old hold fun hfinished => hunfinished ?_
    rw [holdStage, hfinished, ite_eq_right_iff]
    intro hnumber
    rw [h.task_unique hold hmem hnumber, hstage] at hfinished
    cases hfinished
  · intro other hother hfinished
    obtain ⟨old, hold, hjob, holdStage⟩ := mem_setStage hother
    rw [hjob]
    refine h.finished old hold ?_
    rw [hfinished] at holdStage
    split at holdStage
    · cases holdStage
    · exact holdStage.symm
  · intro d job hjob
    obtain ⟨old, hold, hjob, hunfinished⟩ := h.attended d job hjob
    obtain ⟨later, hlater, hsame, hlaterStage⟩ := setStage_mem task.job.number .working hold
    refine ⟨later, hlater, hsame.trans hjob, ?_⟩
    rw [hlaterStage]
    split
    · exact nofun
    · exact hunfinished
  · show (((s.setStage task.job.number .working).runningTasks).map _).Nodup
    rw [setStage_numbers]
    exact h.numbered

/-- The active job of a direction is done: its future is resolved and its place given back. -/
theorem Sound.finish (h : Sound s) {task : RunTask}
    (hactive : s.active task.job.identity.direction = some task.job) (resolution : Resolution V) :
    Sound (((s.resolve [task.job.number] resolution).release task.job).setStage task.job.number .finished) := by
  obtain ⟨s', hs'⟩ : ∃ s', ((s.resolve [task.job.number] resolution).release task.job).setStage
    task.job.number .finished = s' := ⟨_, rfl⟩
  have hafter : s'.active = Function.update s.active task.job.identity.direction none := by
    rw [← hs']
    exact if_pos hactive
  have hheld : ∀ d, s'.held d = if d = task.job.identity.direction then s.queues d else s.held d := by
    intro d
    rw [InferenceScheduler.held, hafter, show s'.queues = s.queues by rw [← hs']; rfl]
    split
    next hd => rw [hd, Function.update_self]; rfl
    next hd => rw [Function.update_of_ne hd]; rfl
  have hsublist : ∀ d, (s'.held d).Sublist (s.held d) := by
    intro d
    rw [hheld]
    split
    · exact List.sublist_append_right _ _
    · exact List.Sublist.refl _
  have hjob := Sound.active_mem hactive
  rw [hs']
  constructor
  · exact fun d job hd => h.directed d job ((hsublist d).subset hd)
  · exact fun d => (h.ordered d).sublist ((hsublist d).map _)
  · exact fun d => Nat.le_trans (hsublist d).length_le (h.room d)
  · intro number identity
    rw [show s'.submissions = (s.resolve [task.job.number] resolution).submissions by rw [← hs']; rfl,
      InferenceScheduler.pending_resolve, h.pending, List.mem_singleton]
    constructor
    · rintro ⟨⟨d, hd⟩, hnumber⟩
      refine ⟨d, ?_⟩
      rw [hheld]
      split
      next hdirection =>
        rcases List.mem_append.mp hd with hrunning | hqueued
        · rw [Option.mem_toList, hdirection, hactive] at hrunning
          exact absurd (by rw [Option.some.inj hrunning]) hnumber
        · exact hqueued
      next => exact hd
    · rintro ⟨d, hd⟩
      refine ⟨⟨d, (hsublist d).subset hd⟩, fun hnumber => ?_⟩
      have hsame := h.unique ((hsublist d).subset hd) hjob hnumber
      have hdirection := h.directed d _ ((hsublist d).subset hd)
      rw [hheld, hsame, if_pos (by rw [← hsame]; exact hdirection.symm)] at hd
      rw [hsame] at hdirection
      exact h.active_notMem hactive (hdirection ▸ hd)
  · intro other hother hunfinished
    rw [← hs'] at hother
    obtain ⟨old, hold, hsame, hstage⟩ := mem_setStage hother
    have hold : old ∈ s.runningTasks := hold
    split at hstage
    · exact absurd hstage hunfinished
    next hnumber =>
      have holdActive := h.tasks old hold (by rw [← hstage]; exact hunfinished)
      have hdirection : old.job.identity.direction ≠ task.job.identity.direction := by
        intro heq
        rw [heq, hactive] at holdActive
        exact hnumber (by rw [Option.some.inj holdActive])
      rw [hsame, hafter, Function.update_of_ne hdirection, holdActive]
  · intro other hother hfinished
    rw [← hs'] at hother
    obtain ⟨old, hold, hsame, hstage⟩ := mem_setStage hother
    have hold : old ∈ s.runningTasks := hold
    rw [hsame, show s'.submissions = (s.resolve [task.job.number] resolution).submissions by rw [← hs']; rfl]
    split at hstage
    next hnumber =>
      have hpending := (h.pending task.job.number task.job.identity).mpr ⟨_, hjob⟩
      refine ⟨⟨task.job.identity, some resolution⟩, ?_, rfl⟩
      rw [hnumber, InferenceScheduler.getElem?_resolve, hpending, Option.map_some,
        if_pos ⟨List.mem_singleton_self _, rfl⟩]
    next =>
      obtain ⟨submission, hsubmission, hdone⟩ := h.finished old hold (hstage.symm.trans hfinished)
      exact ⟨submission, s.resolve_done _ _ hsubmission hdone, hdone⟩
  · intro d job hd
    rw [hafter] at hd
    by_cases hdirection : d = task.job.identity.direction
    · rw [hdirection, Function.update_self] at hd
      cases hd
    · rw [Function.update_of_ne hdirection] at hd
      obtain ⟨old, hold, hsame, hunfinished⟩ := h.attended d job hd
      obtain ⟨later, hlater, hlaterJob, hlaterStage⟩ := setStage_mem
        (s := (s.resolve [task.job.number] resolution).release task.job) task.job.number .finished hold
      refine ⟨later, hs' ▸ hlater, hlaterJob.trans hsame, ?_⟩
      rw [hlaterStage, if_neg]
      · exact hunfinished
      · intro hnumber
        rw [hsame] at hnumber
        have hother := h.unique (Sound.active_mem hd) hjob hnumber
        exact hdirection ((h.directed d _ (Sound.active_mem hd)).symm.trans (by rw [hother]))
  · rw [← hs', setStage_numbers]
    exact h.numbered

theorem terminalize_same (s : InferenceScheduler V) (identity : JobIdentity) :
    (s.terminalize identity).queues = s.queues ∧ (s.terminalize identity).active = s.active
      ∧ (s.terminalize identity).runningTasks = s.runningTasks
      ∧ (s.terminalize identity).submissions = s.submissions := by
  unfold InferenceScheduler.terminalize
  split
  · exact ⟨rfl, rfl, rfl, rfl⟩
  · split <;> exact ⟨rfl, rfl, rfl, rfl⟩

theorem Sound.complete (h : Sound s) {number : Nat} {task : RunTask}
    (htask : s.task number .working = some task) (outcome : Outcome V) : Sound (s.complete task.job outcome) := by
  obtain ⟨hmem, -, hstage⟩ := task_some htask
  have hactive := h.tasks task hmem (by rw [hstage]; exact nofun)
  exact ((h.terminalize task.job.identity).finish
    (by rw [(terminalize_same s task.job.identity).2.1]; exact hactive) _).setSignal

theorem Sound.taskDone (h : Sound s) {number : Nat} {task : RunTask}
    (htask : s.task number .finished = some task) : Sound (s.taskDone task.job) := by
  obtain ⟨hmem, -, hstage⟩ := task_some htask
  refine ⟨h.directed, h.ordered, h.room, h.pending, ?_, ?_, ?_, ?_⟩
  · exact fun other hother => h.tasks other (List.mem_of_mem_filter hother)
  · exact fun other hother => h.finished other (List.mem_of_mem_filter hother)
  · intro d job hjob
    obtain ⟨other, hother, hsame, hunfinished⟩ := h.attended d job hjob
    refine ⟨other, List.mem_filter.mpr ⟨hother, ?_⟩, hsame, hunfinished⟩
    rw [decide_eq_true_eq]
    intro hnumber
    rw [h.task_unique hother hmem hnumber] at hunfinished
    exact hunfinished hstage
  · exact h.numbered.sublist (List.filter_sublist.map _)

theorem Sound.cancelUtterance (h : Sound s) (sessionId utteranceId : Uuid) :
    Sound (s.cancelUtterance sessionId utteranceId).2 := by
  unfold InferenceScheduler.cancelUtterance
  split
  · exact h
  next session _ =>
    split
    · exact h
    · dsimp only
      exact Sound.cancelMatching (s := s.forget sessionId session utteranceId) (h.congr rfl rfl rfl rfl) _

theorem Sound.closeSession (h : Sound s) (sessionId : Uuid) : Sound (s.closeSession sessionId).2 := by
  unfold InferenceScheduler.closeSession
  split
  · exact h
  · dsimp only
    exact Sound.cancelMatching (s := { s with sessions := s.sessions.erase sessionId }) (h.congr rfl rfl rfl rfl) _

theorem Sound.submit (h : Sound s) (identity : JobIdentity) : Sound (s.submit identity).2 := by
  unfold InferenceScheduler.submit
  split
  · exact h
  · split
    · exact h
    next hroom => exact (h.enqueue (Nat.lt_of_not_le hroom)).ensureDispatcher.setSignal

/-- What holds if a task goes on, or is not there to go on. -/
theorem run_rule {P : InferenceScheduler V → Prop} (h : P s) {number : Nat} {stage : TaskStage}
    {f : Job → InferenceScheduler V} (hf : ∀ task, s.task number stage = some task → P (f task.job)) :
    P (s.run number stage f) := by
  unfold InferenceScheduler.run
  split
  next task htask => exact hf task htask
  next => exact h

theorem Sound.apply (h : Sound s) (op : Op V) : Sound (s.apply op).2 := by
  cases op with
  | openSession sessionId direction =>
    show Sound (s.openSession sessionId direction).2
    unfold InferenceScheduler.openSession
    split
    · exact h
    · split
      · exact h
      · exact h.congr rfl rfl rfl rfl
  | openUtterance sessionId utteranceId =>
    show Sound (s.openUtterance sessionId utteranceId).2
    unfold InferenceScheduler.openUtterance
    split
    · exact h
    · split
      · exact h
      · exact h.congr rfl rfl rfl rfl
  | submit identity => exact h.submit identity
  | cancelUtterance sessionId utteranceId => exact h.cancelUtterance sessionId utteranceId
  | closeSession sessionId => exact h.closeSession sessionId
  | shutdown => exact h.congr rfl rfl rfl rfl
  | shutdownImpl =>
    show Sound s.shutdownImpl
    unfold InferenceScheduler.shutdownImpl
    split
    · exact Sound.setSignal (List.foldlRecOn _ _ h fun _ hs _ _ => hs.closeSession _)
    · exact h
  | dispatch =>
    show Sound (if s.dispatcherRuns then s.dispatchLoop else s)
    split
    · exact h.dispatchLoop
    · exact h
  | begin number => exact run_rule (P := Sound) h fun _ htask => h.begin htask
  | complete number outcome =>
    exact run_rule (P := Sound) (f := fun job => s.complete job outcome) h fun _ htask => h.complete htask outcome
  | taskDone number => exact run_rule (P := Sound) h fun _ htask => h.taskDone htask

/-! ### The order of starting -/

/-- The jobs of a direction were started in the order of submission, and before all that wait. -/
structure InOrder (s : InferenceScheduler V) : Prop where
  sorted : ∀ d, ((s.startedOf d).map Job.number).Pairwise (· < ·)
  queued : ∀ job ∈ s.started, ∀ other ∈ s.queues job.identity.direction, job.number < other.number
  created : ∀ job ∈ s.started, ∀ task ∈ s.runningTasks, task.stage = .created →
    task.job.identity.direction = job.identity.direction → job.number < task.job.number
  known : ∀ job ∈ s.started, job.number < s.submissions.length

theorem inOrder_new : InOrder (.new : InferenceScheduler V) where
  sorted _ := .nil
  queued _ h := nomatch h
  created _ h := nomatch h
  known _ h := nomatch h

/-- Nothing starts, and nothing new waits. -/
theorem InOrder.shrink (h : InOrder s) (hstarted : s'.started = s.started)
    (hqueues : ∀ d, s'.queues d ⊆ s.queues d)
    (htasks : ∀ task ∈ s'.runningTasks, task.stage = .created → task ∈ s.runningTasks)
    (hlength : s.submissions.length ≤ s'.submissions.length) : InOrder s' := by
  constructor
  · intro d
    rw [InferenceScheduler.startedOf, hstarted]
    exact h.sorted d
  · rw [hstarted]
    exact fun job hjob other hother => h.queued job hjob other (hqueues _ hother)
  · rw [hstarted]
    exact fun job hjob task htask hcreated => h.created job hjob task (htasks task htask hcreated) hcreated
  · rw [hstarted]
    exact fun job hjob => Nat.lt_of_lt_of_le (h.known job hjob) hlength

theorem InOrder.enqueue (h : InOrder s) (identity : JobIdentity) : InOrder (s.enqueue identity) := by
  refine ⟨h.sorted, ?_, h.created, fun job hjob => ?_⟩
  · intro job hjob other hother
    have hother : other ∈ Function.update s.queues _ _ _ := hother
    by_cases hdirection : job.identity.direction = identity.direction
    · rw [hdirection, Function.update_self] at hother
      rcases List.mem_append.mp hother with hold | hnew
      · exact h.queued job hjob other (hdirection ▸ hold)
      · rw [List.mem_singleton.mp hnew]
        exact h.known job hjob
    · rw [Function.update_of_ne hdirection] at hother
      exact h.queued job hjob other hother
  · show _ < (s.submissions ++ [_]).length
    rw [List.length_append]
    exact Nat.lt_add_right _ (h.known job hjob)

theorem InOrder.ensureDispatcher (h : InOrder s) : InOrder s.ensureDispatcher := by
  unfold InferenceScheduler.ensureDispatcher
  split
  · exact h
  · exact h.shrink rfl (fun _ => List.Subset.refl _) (fun _ htask _ => htask) (Nat.le_refl _)

theorem InOrder.setSignal (h : InOrder s) : InOrder s.setSignal :=
  h.shrink rfl (fun _ => List.Subset.refl _) (fun _ htask _ => htask) (Nat.le_refl _)

theorem InOrder.cancelMatching (h : InOrder s) (predicate : JobIdentity → Bool) :
    InOrder (s.cancelMatching predicate) :=
  h.shrink rfl (fun _ => List.filter_sublist.subset) (fun _ htask _ => htask)
    (Nat.le_of_eq (InferenceScheduler.resolve_length ..).symm)

theorem InOrder.cancelUtterance (h : InOrder s) (sessionId utteranceId : Uuid) :
    InOrder (s.cancelUtterance sessionId utteranceId).2 := by
  unfold InferenceScheduler.cancelUtterance
  split
  · exact h
  next session _ =>
    split
    · exact h
    · dsimp only
      exact InOrder.cancelMatching (s := s.forget sessionId session utteranceId)
        (h.shrink rfl (fun _ => List.Subset.refl _) (fun _ htask _ => htask) (Nat.le_refl _)) _

theorem InOrder.closeSession (h : InOrder s) (sessionId : Uuid) : InOrder (s.closeSession sessionId).2 := by
  unfold InferenceScheduler.closeSession
  split
  · exact h
  · dsimp only
    exact InOrder.cancelMatching (s := { s with sessions := s.sessions.erase sessionId })
      (h.shrink rfl (fun _ => List.Subset.refl _) (fun _ htask _ => htask) (Nat.le_refl _)) _

theorem popLeft_subset {d : AudioDirection} {job : Job} {rest : List Job} (hqueue : s.queues d = job :: rest)
    (d' : AudioDirection) : (s.popLeft d rest).queues d' ⊆ s.queues d' := by
  show Function.update s.queues d rest d' ⊆ _
  by_cases hd : d' = d
  · rw [hd, Function.update_self, hqueue]
    exact List.subset_cons_self _ _
  · rw [Function.update_of_ne hd]
    exact List.Subset.refl _

/-- The head of a queue is started after all that were started before. -/
theorem InOrder.start (h : InOrder s) (hsound : Sound s) {index : Nat} {job : Job} {rest : List Job}
    (hqueue : s.queues (directionAt index) = job :: rest) :
    InOrder ((s.popLeft (directionAt index) rest).start index job) := by
  have hjob : job ∈ s.queues (directionAt index) := by rw [hqueue]; exact List.mem_cons_self ..
  have hdirection := hsound.directed _ _ (List.mem_append_right _ hjob)
  refine ⟨h.sorted, ?_, ?_, h.known⟩
  · exact fun other hother later hlater => h.queued other hother later (popLeft_subset hqueue _ hlater)
  · intro other hother task htask hcreated hsame
    rcases List.mem_append.mp htask with hold | hnew
    · exact h.created other hother task hold hcreated hsame
    · rw [List.mem_singleton.mp hnew] at hsame ⊢
      exact h.queued other hother job (by rw [← hsame, hdirection]; exact hjob)

theorem InOrder.dispatchQueue {index : Nat} (queue : List Job) :
    ∀ {s : InferenceScheduler V}, Sound s → InOrder s → s.queues (directionAt index) = queue →
      InOrder (s.dispatchQueue index queue) := by
  induction queue with
  | nil => exact fun _ h _ => h
  | cons job rest ih =>
    intro s hsound h hqueue
    unfold InferenceScheduler.dispatchQueue
    dsimp only
    split
    · exact h.start hsound hqueue
    · refine ih (hsound.dropHead hqueue) ?_ (Function.update_self ..)
      exact h.shrink rfl (popLeft_subset hqueue) (fun _ htask _ => htask)
        (Nat.le_of_eq (InferenceScheduler.resolve_length (s.popLeft _ _) ..).symm)

theorem InOrder.dispatchDirection (h : InOrder s) (hsound : Sound s) (index : Nat) :
    InOrder (s.dispatchDirection index) := by
  unfold InferenceScheduler.dispatchDirection
  split
  · exact h
  · exact InOrder.dispatchQueue _ hsound h rfl

theorem InOrder.dispatchLoop (h : InOrder s) (hsound : Sound s) : InOrder s.dispatchLoop := by
  have havailable : Sound s.dispatchAvailable ∧ InOrder s.dispatchAvailable := by
    refine List.foldlRecOn (motive := fun s => Sound s ∧ InOrder s) _ _ ⟨hsound, h⟩ ?_
    exact fun _ hs _ _ => ⟨hs.1.dispatchDirection _, hs.2.dispatchDirection hs.1 _⟩
  unfold InferenceScheduler.dispatchLoop
  dsimp only
  split
  all_goals
    exact havailable.2.shrink rfl (fun _ => List.Subset.refl _) (fun _ htask _ => htask) (Nat.le_refl _)

/-- The work of a job begins after that of all the jobs of its direction before it. -/
theorem InOrder.begin (h : InOrder s) (hsound : Sound s) {number : Nat} {task : RunTask}
    (htask : s.task number .created = some task) : InOrder (s.begin task.job) := by
  obtain ⟨hmem, -, hstage⟩ := task_some htask
  have hactive := hsound.tasks task hmem (by rw [hstage]; exact nofun)
  have hheld := Sound.active_mem hactive
  have hnew : ∀ job ∈ (s.begin task.job).started, job ∈ s.started ∨ job = task.job := fun job hjob =>
    (List.mem_append.mp hjob).imp_right List.mem_singleton.mp
  constructor
  · intro d
    show (((s.started ++ [task.job]).filter _).map _).Pairwise _
    rw [List.filter_append, List.map_append, List.pairwise_append]
    refine ⟨h.sorted d, ?_, ?_⟩
    · exact List.Pairwise.sublist (List.filter_sublist.map _) (List.pairwise_singleton ..)
    · intro n hn m hm
      obtain ⟨job, hjob, rfl⟩ := List.mem_map.mp hn
      obtain ⟨other, hother, rfl⟩ := List.mem_map.mp hm
      rw [List.mem_filter, List.mem_singleton, decide_eq_true_eq] at hother
      rw [List.mem_filter, decide_eq_true_eq] at hjob
      obtain ⟨rfl, hdirection⟩ := hother
      exact h.created job hjob.1 task hmem hstage (hdirection.trans hjob.2.symm)
  · intro job hjob other hother
    rcases hnew job hjob with hold | rfl
    · exact h.queued job hold other hother
    · have hordered := hsound.ordered task.job.identity.direction
      rw [InferenceScheduler.held, hactive, Option.toList_some, List.singleton_append, List.map_cons,
        List.pairwise_cons] at hordered
      exact hordered.1 _ (List.mem_map_of_mem hother)
  · intro job hjob other hother hcreated hdirection
    obtain ⟨old, hold, hsame, holdStage⟩ := mem_setStage hother
    rw [hcreated] at holdStage
    split at holdStage
    · cases holdStage
    next hnumber =>
      rw [hsame] at hdirection ⊢
      rcases hnew job hjob with hbefore | rfl
      · exact h.created job hbefore old hold holdStage.symm hdirection
      · have holdActive := hsound.tasks old hold (by rw [← holdStage]; exact nofun)
        rw [hdirection, hactive] at holdActive
        exact absurd (by rw [Option.some.inj holdActive]) hnumber
  · intro job hjob
    rcases hnew job hjob with hold | rfl
    · exact h.known job hold
    · exact hsound.number_lt hheld

theorem InOrder.complete (h : InOrder s) (job : Job) (outcome : Outcome V) : InOrder (s.complete job outcome) := by
  obtain ⟨hqueues, -, htasks, hsubmissions⟩ := terminalize_same s job.identity
  refine h.shrink ?_ (fun d => ?_) (fun task htask hcreated => ?_) ?_
  · show (s.terminalize job.identity).started = _
    unfold InferenceScheduler.terminalize
    split
    · rfl
    · split <;> rfl
  · show (s.terminalize job.identity).queues d ⊆ _
    rw [hqueues]
    exact List.Subset.refl _
  · obtain ⟨old, hold, hsame, holdStage⟩ := mem_setStage htask
    rw [hcreated] at holdStage
    split at holdStage
    · cases holdStage
    · obtain ⟨taskJob, stage⟩ := task
      cases hsame
      cases hcreated
      rw [show (⟨old.job, .created⟩ : RunTask) = old by rw [holdStage]]
      rw [← htasks]
      exact hold
  · exact Nat.le_of_eq ((InferenceScheduler.resolve_length ..).trans (congrArg List.length hsubmissions)).symm

theorem InOrder.apply (h : InOrder s) (hsound : Sound s) (op : Op V) : InOrder (s.apply op).2 := by
  have hsame : ∀ {s' : InferenceScheduler V}, s'.started = s.started → s'.queues = s.queues →
      s'.runningTasks = s.runningTasks → s'.submissions = s.submissions → InOrder s' := by
    intro s' hstarted hqueues htasks hsubmissions
    exact h.shrink hstarted (fun _ => hqueues ▸ List.Subset.refl _) (fun _ htask _ => htasks ▸ htask)
      (by rw [hsubmissions])
  cases op with
  | openSession sessionId direction =>
    show InOrder (s.openSession sessionId direction).2
    unfold InferenceScheduler.openSession
    split
    · exact h
    · split
      · exact h
      · exact hsame rfl rfl rfl rfl
  | openUtterance sessionId utteranceId =>
    show InOrder (s.openUtterance sessionId utteranceId).2
    unfold InferenceScheduler.openUtterance
    split
    · exact h
    · split
      · exact h
      · exact hsame rfl rfl rfl rfl
  | submit identity =>
    show InOrder (s.submit identity).2
    unfold InferenceScheduler.submit
    split
    · exact h
    · split
      · exact h
      · exact (h.enqueue identity).ensureDispatcher.setSignal
  | cancelUtterance sessionId utteranceId => exact h.cancelUtterance sessionId utteranceId
  | closeSession sessionId => exact h.closeSession sessionId
  | shutdown => exact hsame rfl rfl rfl rfl
  | shutdownImpl =>
    show InOrder s.shutdownImpl
    unfold InferenceScheduler.shutdownImpl
    split
    · exact InOrder.setSignal (List.foldlRecOn _ _ h fun _ hs _ _ => hs.closeSession _)
    · exact h
  | dispatch =>
    show InOrder (if s.dispatcherRuns then s.dispatchLoop else s)
    split
    · exact h.dispatchLoop hsound
    · exact h
  | begin number => exact run_rule (P := InOrder) h fun _ htask => h.begin hsound htask
  | complete number outcome =>
    exact run_rule (P := InOrder) (f := fun job => s.complete job outcome) h fun task _ => h.complete task.job outcome
  | taskDone number =>
    refine run_rule (P := InOrder) h fun task _ => ?_
    exact h.shrink rfl (fun _ => List.Subset.refl _) (fun _ htask _ => List.mem_of_mem_filter htask)
      (Nat.le_refl _)

end Moves

end Translator.Scheduler
