import Translator.Schemes.Coroutine
import Translator.Schemes.Run

/-! An event loop: the tasks that are suspended, the one of them that holds the lock, and the turns in
    which one of them goes on until it is suspended again or ends. Between two turns the world outside
    may change what is waited for.

    `turns_free` is the rule everything goes through: where every program keeps the lock discipline, the
    invariant of the free lock holds after every run in which nobody holds the lock. -/

namespace Translator.Schemes

variable {C σ ω ξ ε α : Type}

/-- The programs of an event loop and what they wait for. -/
structure Programs (C σ ω ξ ε α : Type) where
  program : C → Coro σ ω ε α
  /-- Waiting for this does not suspend. -/
  ready : ω → σ → Bool
  /-- A suspended wait may end so. -/
  wakes : ω → Wake → σ → Bool
  /-- The task of this call has been cancelled. -/
  cancelled : C → σ → Bool
  /-- A call may begin, given the state, the calls in progress and those that have ended. -/
  begins : σ → List C → List (C × Except (Raised ε) α) → C → Bool
  outside : ξ → σ → σ

/-- The suspended tasks, apart from the one that holds the lock, and how the others ended. -/
structure EventLoop (C σ ω ε α : Type) where
  shared : σ
  holder : Option (C × Coro σ ω ε α)
  tasks : List (C × Coro σ ω ε α)
  finished : List (C × Except (Raised ε) α)

inductive EventLoop.Turn (C ξ : Type) where
  | begin (call : C)
  /-- A task that does not hold the lock goes on. -/
  | resume (place : Nat) (wake : Wake)
  /-- The task that holds the lock goes on. -/
  | proceed (wake : Wake)
  | outside (change : ξ)
  deriving DecidableEq

namespace EventLoop

/-- No task yet. -/
def start (s : σ) : EventLoop C σ ω ε α := ⟨s, none, [], []⟩

/-- Nobody holds the lock. -/
def Free (w : EventLoop C σ ω ε α) : Prop := w.holder = none

variable (p : Programs C σ ω ξ ε α)

/-- A task whose cancellation is asked for ends its wait with it, and no other does. -/
def mayWake (call : C) (on : ω) (wake : Wake) (s : σ) : Bool :=
  match wake with
  | .cancelled => p.cancelled call s
  | wake => !p.cancelled call s && p.wakes on wake s

/-- The calls in progress. -/
def calls (w : EventLoop C σ ω ε α) : List C := w.holder.toList.map Prod.fst ++ w.tasks.map Prod.fst

/-- A task has run as far as it can. -/
def settle (w : EventLoop C σ ω ε α) (call : C) :
    Coro σ ω ε α × Bool × σ → EventLoop C σ ω ε α
  | (.done result, _, s) => { w with shared := s, finished := w.finished ++ [(call, result)] }
  | (rest, true, s) => { w with shared := s, holder := some (call, rest) }
  | (rest, false, s) => { w with shared := s, tasks := w.tasks ++ [(call, rest)] }

def turn (w : EventLoop C σ ω ε α) : Turn C ξ → Unit × EventLoop C σ ω ε α
  | .begin call =>
    if p.begins w.shared w.calls w.finished call then
      ((), w.settle call ((p.program call).run p.ready w.holder.isNone false w.shared))
    else ((), w)
  | .resume place wake =>
    match w.tasks[place]? with
    | some (call, .wait on rest) =>
      if mayWake p call on wake w.shared then
        ((), { w with tasks := w.tasks.eraseIdx place }.settle call
          ((rest wake).run p.ready w.holder.isNone false w.shared))
      else ((), w)
    | some (call, .acquire rest) =>
      match wake with
      | .cancelled =>
        if p.cancelled call w.shared then
          ((), { w with tasks := w.tasks.eraseIdx place }.settle call
            ((rest .cancelled).run p.ready w.holder.isNone false w.shared))
        else ((), w)
      | .failed => ((), w)
      | .ready =>
        if !p.cancelled call w.shared && w.holder.isNone then
          ((), { w with tasks := w.tasks.eraseIdx place }.settle call
            ((rest .ready).run p.ready true true w.shared))
        else ((), w)
    | _ => ((), w)
  | .proceed wake =>
    match w.holder with
    | some (call, .wait on rest) =>
      if mayWake p call on wake w.shared then
        ((), { w with holder := none }.settle call ((rest wake).run p.ready true true w.shared))
      else ((), w)
    | _ => ((), w)
  | .outside change => ((), { w with shared := p.outside change w.shared })

/-- A task that is about to take the free lock does so for something that suits the state. -/
def meets (ok : C → σ → Bool) (w : EventLoop C σ ω ε α) : Turn C ξ → Bool
  | .begin call =>
    w.holder.isSome || !p.begins w.shared w.calls w.finished call
      || !(p.program call).takes p.ready w.shared || ok call w.shared
  | .resume place wake =>
    match w.tasks[place]? with
    | some (call, .wait _ rest) =>
      w.holder.isSome || wake = .cancelled || !(rest wake).takes p.ready w.shared || ok call w.shared
    | some (call, .acquire _) => w.holder.isSome || wake ≠ .ready || ok call w.shared
    | _ => true
  | _ => true

end EventLoop

/-! ### The rule of the free lock -/

section Rule

variable (p : Programs C σ ω ξ ε α) (ok : C → σ → Bool) (free : σ → Prop) (meanwhile : σ → σ → Prop)

/-- The discipline of a call. -/
def discipline (call : C) : Coro.Discipline σ ω where
  ready := p.ready
  free := free
  meanwhile := meanwhile
  taken := fun s => ok call s = true
  wakes := fun on wake s => EventLoop.mayWake p call on wake s = true
  cancelled := fun s => p.cancelled call s = true

/-- How a task that has come to its end must have ended. -/
def ended (ends : C → Except (Raised ε) α → σ → Prop) (call : C) (result : Except (Raised ε) α)
    (stage : Coro.Stage) (s : σ) : Prop := stage ≠ .inside ∧ ends call result s

/-- What is known of a suspended task that does not hold the lock. -/
def Suspended (ends : C → Except (Raised ε) α → σ → Prop) (call : C) : Coro σ ω ε α → Prop
  | .wait on rest => ∀ wake s, EventLoop.mayWake p call on wake s = true →
      (rest wake).wp (discipline p ok free meanwhile call) (ended ends call) (.woken wake) s
  | .acquire rest =>
    (∀ s, free s → ok call s = true → p.cancelled call s = false →
      (rest .ready).wp (discipline p ok free meanwhile call) (ended ends call) .inside s)
    ∧ ∀ s, p.cancelled call s = true →
      (rest .cancelled).wp (discipline p ok free meanwhile call) (ended ends call) .left s
  | _ => False

/-- What is known of the task that holds the lock. -/
def Holding (ends : C → Except (Raised ε) α → σ → Prop) (call : C) (s : σ) : Coro σ ω ε α → Prop
  | .wait on rest => ∀ wake s', meanwhile s s' → EventLoop.mayWake p call on wake s' = true →
      (rest wake).wp (discipline p ok free meanwhile call) (ended ends call) .inside s'
  | _ => False

structure Disciplined (ends : C → Except (Raised ε) α → σ → Prop) (w : EventLoop C σ ω ε α) : Prop where
  unheld : w.holder = none → free w.shared
  holding : ∀ call c, w.holder = some (call, c) → Holding p ok free meanwhile ends call w.shared c
  suspended : ∀ call c, (call, c) ∈ w.tasks → Suspended p ok free meanwhile ends call c

variable {p ok free meanwhile} {ends : C → Except (Raised ε) α → σ → Prop}

/-- What has become of a task that was run: it has ended outside the lock, it waits and holds the lock, or
    it waits and does not. Only a task that could take the lock has changed anything. -/
def Ran (p : Programs C σ ω ξ ε α) (ok : C → σ → Bool) (free : σ → Prop) (meanwhile : σ → σ → Prop)
    (ends : C → Except (Raised ε) α → σ → Prop) (call : C) (lockFree : Bool) (s : σ) :
    Coro σ ω ε α × Bool × σ → Prop
  | (.done result, held, s') =>
    held = false ∧ ends call result s' ∧ (lockFree = true → free s') ∧ (lockFree = false → s' = s)
  | (rest, true, s') => lockFree = true ∧ Holding p ok free meanwhile ends call s' rest
  | (rest, false, s') => Suspended p ok free meanwhile ends call rest ∧ (lockFree = true → free s')
      ∧ (lockFree = false → s' = s)

theorem run_ran {call : C} {c : Coro σ ω ε α} {stage : Coro.Stage} {held lockFree : Bool} {s s₀ : σ}
    (hwp : c.wp (discipline p ok free meanwhile call) (ended ends call) stage s)
    (hheld : held = true ↔ stage = .inside) (hlock : held = true → lockFree = true)
    (hfree : lockFree = true → held = false → free s) (hkept : lockFree = false → s = s₀)
    (hok : lockFree = true → stage = .outside → c.takes p.ready s = true →
      ok call s = true ∧ p.cancelled call s = false) :
    Ran p ok free meanwhile ends call lockFree s₀ (c.run p.ready lockFree held s) := by
  induction c generalizing stage held s with
  | done result =>
    have hnot : held = false := by
      rcases held with _ | _
      · rfl
      · exact absurd (hheld.mp rfl) hwp.1
    exact ⟨hnot, hwp.2, fun h => hfree h hnot, hkept⟩
  | look rest ih => exact ih s hwp hheld hlock hfree hkept hok
  | put f rest ih =>
    obtain ⟨rfl, hwp⟩ := hwp
    obtain rfl : held = true := hheld.mpr rfl
    refine ih hwp hheld hlock (fun _ h => by cases h) (fun h => ?_) (fun _ h => by cases h)
    rw [hlock rfl] at h
    cases h
  | wait on rest ih =>
    rw [Coro.run]
    split
    next hready =>
      refine ih .ready (s := s) ?_ hheld hlock hfree hkept fun hl hs htakes =>
        hok hl hs (by simp [Coro.takes, hready, htakes])
      cases stage with
      | inside =>
        simp only [Coro.wp, discipline, hready, if_true] at hwp
        exact hwp
      | outside | left => exact hwp.1 hready
    next hready =>
      rcases held with _ | _
      · refine ⟨?_, fun h => hfree h rfl, hkept⟩
        cases stage with
        | inside => exact absurd (hheld.mpr rfl) (by simp)
        | outside | left => exact hwp.2
      · obtain rfl : stage = .inside := hheld.mp rfl
        refine ⟨hlock rfl, ?_⟩
        simp only [Coro.wp, discipline, hready] at hwp
        exact hwp
  | acquire rest ih =>
    obtain ⟨rfl, hready, hcancelled⟩ := hwp
    obtain rfl : held = false := by
      rcases held with _ | _
      · rfl
      · exact absurd (hheld.mp rfl) (by simp)
    rw [Coro.run]
    split
    next hcan =>
      have hl : lockFree = true := by simpa using hcan
      obtain ⟨hok, hnot⟩ := hok hl rfl rfl
      refine ih .ready (hready s (hfree hl rfl) hok ?_) (by simp) (fun _ => hl)
        (fun _ h => by cases h) (fun h => by rw [hl] at h; cases h) (fun _ h => by cases h)
      simp [discipline, hnot]
    next =>
      refine ⟨⟨fun s' hf hok hnot => hready s' hf hok (by simp [discipline, hnot]), hcancelled⟩,
        fun h => hfree h rfl, hkept⟩
  | release rest ih =>
    obtain ⟨rfl, hf, hwp⟩ := hwp
    have hl : lockFree = true := hlock (hheld.mpr rfl)
    exact ih hwp (by simp) (fun h => by cases h) (fun _ _ => hf) (fun h => by rw [hl] at h; cases h)
      (fun _ h => by cases h)

/-- Programs that keep the discipline, in a world that does not disturb what the lock protects. -/
structure Keeping (p : Programs C σ ω ξ ε α) (ok : C → σ → Bool) (free : σ → Prop)
    (meanwhile : σ → σ → Prop) (ends : C → Except (Raised ε) α → σ → Prop) : Prop where
  programs : ∀ call s, (p.program call).wp (discipline p ok free meanwhile call) (ended ends call) .outside s
  /-- A task has not been cancelled when it takes the lock at once. -/
  fresh : ∀ call s, (p.program call).takes p.ready s = true → p.cancelled call s = false
  refl : ∀ s, meanwhile s s
  trans : ∀ s s' s'', meanwhile s s' → meanwhile s' s'' → meanwhile s s''
  outside : ∀ change s, meanwhile s (p.outside change s) ∧ (free s → free (p.outside change s))

/-- The tasks that are left alone stay what they were, and the one that was run is what it has become. -/
theorem settle_disciplined {w : EventLoop C σ ω ε α} {call : C} {x : Coro σ ω ε α × Bool × σ}
    (hran : Ran p ok free meanwhile ends call w.holder.isNone w.shared x)
    (hholding : ∀ call c, w.holder = some (call, c) → Holding p ok free meanwhile ends call w.shared c)
    (hsuspended : ∀ call c, (call, c) ∈ w.tasks → Suspended p ok free meanwhile ends call c) :
    Disciplined p ok free meanwhile ends (w.settle call x)
      ∧ ((w.settle call x).finished = w.finished
        ∨ ∃ result, (w.settle call x).finished = w.finished ++ [(call, result)]
          ∧ ends call result (w.settle call x).shared) := by
  have hkept : ∀ s', (w.holder.isNone = false → s' = w.shared) → ∀ call c, w.holder = some (call, c) →
      Holding p ok free meanwhile ends call s' c := by
    intro s' hs call c hc
    rw [hs (by rw [hc]; rfl)]
    exact hholding call c hc
  have hwait : ∀ rest s', Suspended p ok free meanwhile ends call rest →
      (w.holder.isNone = true → free s') → (w.holder.isNone = false → s' = w.shared) →
      Disciplined p ok free meanwhile ends { w with shared := s', tasks := w.tasks ++ [(call, rest)] } := by
    intro rest s' hrest hf hs
    refine ⟨fun h => hf (by rw [h]; rfl), hkept s' hs, fun call' c hc => ?_⟩
    rcases List.mem_append.mp hc with hold | hnew
    · exact hsuspended call' c hold
    · cases List.mem_singleton.mp hnew
      exact hrest
  have hhold : ∀ rest s', w.holder.isNone = true → Holding p ok free meanwhile ends call s' rest →
      Disciplined p ok free meanwhile ends { w with shared := s', holder := some (call, rest) } := by
    intro rest s' _ hrest
    exact ⟨fun h => (nomatch h), fun call' c hc => by cases hc; exact hrest, hsuspended⟩
  obtain ⟨c, held, s'⟩ := x
  cases c with
  | done result =>
    obtain ⟨-, hends, hf, hs⟩ := hran
    exact ⟨⟨fun h => hf (by rw [show w.holder = none from h]; rfl), hkept s' hs, hsuspended⟩,
      .inr ⟨result, rfl, hends⟩⟩
  | wait on rest | acquire rest | look rest | put f rest | release rest =>
    cases held with
    | false => exact ⟨hwait _ s' hran.1 hran.2.1 hran.2.2, .inl rfl⟩
    | true => exact ⟨hhold _ s' hran.1 hran.2, .inl rfl⟩

/-- What a turn leaves behind, and how the task ended that ended in it. -/
theorem turn_disciplined (h : Keeping p ok free meanwhile ends) {w : EventLoop C σ ω ε α}
    (hw : Disciplined p ok free meanwhile ends w) (t : EventLoop.Turn C ξ) (hmeets : w.meets p ok t = true) :
    Disciplined p ok free meanwhile ends (w.turn p t).2
      ∧ ((w.turn p t).2.finished = w.finished
        ∨ ∃ call result, (w.turn p t).2.finished = w.finished ++ [(call, result)]
          ∧ ends call result (w.turn p t).2.shared) := by
  have hunheld : w.holder.isNone = true → free w.shared := fun hn => hw.unheld (Option.isNone_iff_eq_none.mp hn)
  have herase : ∀ place call c, (call, c) ∈ w.tasks.eraseIdx place →
      Suspended p ok free meanwhile ends call c := fun place call c hc =>
    hw.suspended call c (List.mem_of_mem_eraseIdx hc)
  have hsame : Disciplined p ok free meanwhile ends w ∧ (w.finished = w.finished ∨ ∃ call result,
      w.finished = w.finished ++ [(call, result)] ∧ ends call result w.shared) := ⟨hw, .inl rfl⟩
  have hone : ∀ {w₀ w' : EventLoop C σ ω ε α} {call : C}, w₀.finished = w.finished →
      (Disciplined p ok free meanwhile ends w' ∧ (w'.finished = w₀.finished
        ∨ ∃ result, w'.finished = w₀.finished ++ [(call, result)] ∧ ends call result w'.shared)) →
      Disciplined p ok free meanwhile ends w' ∧ (w'.finished = w.finished
        ∨ ∃ call result, w'.finished = w.finished ++ [(call, result)] ∧ ends call result w'.shared) := by
    rintro w₀ w' call hover ⟨hw', hend⟩
    rw [hover] at hend
    exact ⟨hw', hend.imp_right fun ⟨result, hr⟩ => ⟨call, result, hr⟩⟩
  cases t with
  | begin call =>
    rw [EventLoop.turn]
    split
    next hbegins =>
      refine hone rfl (settle_disciplined (w := w) ?_ hw.holding hw.suspended)
      refine run_ran (h.programs call w.shared) (by simp) (fun h => by cases h) (fun hl _ => hunheld hl)
        (fun _ => rfl) fun hl _ htakes => ⟨?_, h.fresh call _ htakes⟩
      have hnone : w.holder.isSome = false := by simpa using hl
      simpa [EventLoop.meets, hnone, hbegins, htakes] using hmeets
    · exact hsame
  | resume place wake =>
    rw [EventLoop.turn]
    rw [EventLoop.meets] at hmeets
    split
    next call on rest hget =>
      rw [hget] at hmeets
      split
      next hwake =>
        refine hone rfl (settle_disciplined (w := { w with tasks := w.tasks.eraseIdx place }) ?_ hw.holding
          (herase place))
        have hsusp := hw.suspended call _ (List.mem_of_getElem? hget) wake w.shared hwake
        refine run_ran hsusp (by cases wake <;> simp [Coro.Stage.woken]) (fun h => by cases h)
          (fun hl _ => hunheld hl) (fun _ => rfl) fun hl hstage htakes => ?_
        have hnone : w.holder.isSome = false := by simpa using hl
        have hne : wake ≠ .cancelled := by rintro rfl; cases hstage
        refine ⟨by simpa [hnone, hne, htakes] using hmeets, ?_⟩
        revert hwake
        cases wake <;> simp [EventLoop.mayWake] at hne ⊢ <;> exact fun h _ => h
      · exact hsame
    next call rest hget =>
      rw [hget] at hmeets
      obtain ⟨hready, hcancelled⟩ := hw.suspended call _ (List.mem_of_getElem? hget)
      split
      · split
        next hasked =>
          refine hone rfl (settle_disciplined (w := { w with tasks := w.tasks.eraseIdx place }) ?_
            hw.holding (herase place))
          exact run_ran (hcancelled w.shared hasked) (by simp) (fun h => by cases h) (fun hl _ => hunheld hl)
            (fun _ => rfl) fun _ hstage => by cases hstage
        · exact hsame
      · exact hsame
      · split
        next hcan =>
          rw [Bool.and_eq_true, Bool.not_eq_true'] at hcan
          obtain ⟨hnot, hl⟩ := hcan
          refine hone rfl (settle_disciplined (w := { w with tasks := w.tasks.eraseIdx place }) ?_
            hw.holding (herase place))
          have hnone : w.holder.isSome = false := by simpa using hl
          have hok : ok call w.shared = true := by simpa [hnone] using hmeets
          rw [show ({ w with tasks := w.tasks.eraseIdx place } : EventLoop C σ ω ε α).holder.isNone = true
            from hl]
          exact run_ran (hready w.shared (hunheld hl) hok hnot) (by simp) (fun _ => rfl)
            (fun _ h => by cases h) (fun h => by cases h) fun _ hstage => by cases hstage
        · exact hsame
    · exact hsame
  | proceed wake =>
    rw [EventLoop.turn]
    split
    next call on rest hholder =>
      split
      next hwake =>
        refine hone rfl (settle_disciplined (w := { w with holder := none }) ?_ (fun _ _ h => by cases h)
          hw.suspended)
        exact run_ran (hw.holding call _ hholder wake w.shared (h.refl _) hwake) (by simp) (fun _ => rfl)
          (fun _ h => by cases h) (fun h => by cases h) fun _ hstage => by cases hstage
      · exact hsame
    · exact hsame
  | outside change =>
    refine ⟨⟨fun hn => (h.outside change w.shared).2 (hw.unheld hn), fun call c hc => ?_, hw.suspended⟩,
      .inl rfl⟩
    have := hw.holding call c hc
    cases c with
    | wait on rest =>
      exact fun wake s' hs => this wake s' (h.trans _ _ _ (h.outside change w.shared).1 hs)
    | _ => exact this

/-- Every run in which each task takes the lock for something that suits the state keeps the
    discipline. -/
theorem turns_disciplined (h : Keeping p ok free meanwhile ends) {s₀ : σ} (h0 : free s₀)
    (turns : List (EventLoop.Turn C ξ))
    (hadm : Adm (EventLoop.turn p) (fun w t => w.meets p ok t = true) (.start s₀) turns) :
    Disciplined p ok free meanwhile ends (exec (EventLoop.turn p) (.start s₀) turns).2 :=
  exec_invariant (I := fun _ (w : EventLoop C σ ω ε α) => Disciplined p ok free meanwhile ends w)
    ⟨fun _ => h0, fun _ _ hc => (by cases hc), fun _ _ hc => (by cases hc)⟩
    (fun _ _ t hw hmeets => (turn_disciplined h hw t hmeets).1) turns hadm

/-- The rule of the free lock. -/
theorem turns_free (h : Keeping p ok free meanwhile ends) {s₀ : σ} (h0 : free s₀)
    (turns : List (EventLoop.Turn C ξ))
    (hadm : Adm (EventLoop.turn p) (fun w t => w.meets p ok t = true) (.start s₀) turns)
    (hfree : (exec (EventLoop.turn p) (.start s₀) turns).2.holder = none) :
    free (exec (EventLoop.turn p) (.start s₀) turns).2.shared :=
  (turns_disciplined h h0 turns hadm).unheld hfree

/-- Every task that has ended came to its end at some point of the run, as its program says. -/
theorem mem_turns_over (h : Keeping p ok free meanwhile ends) {s₀ : σ} (h0 : free s₀)
    (turns : List (EventLoop.Turn C ξ))
    (hadm : Adm (EventLoop.turn p) (fun w t => w.meets p ok t = true) (.start s₀) turns) {call : C}
    {result : Except (Raised ε) α} (hover : (call, result) ∈ (exec (EventLoop.turn p) (.start s₀) turns).2.finished) :
    ∃ pre more, turns = pre ++ more ∧ ends call result (exec (EventLoop.turn p) (.start s₀) pre).2.shared := by
  induction turns using List.reverseRecOn with
  | nil => cases hover
  | append_singleton turns t ih =>
    obtain ⟨hadm, hmeets⟩ := adm_concat hadm
    have hafter : (exec (EventLoop.turn p) (.start s₀) (turns ++ [t])).2
        = ((exec (EventLoop.turn p) (.start s₀) turns).2.turn p t).2 := by
      rw [exec_concat]
      rfl
    rw [hafter] at hover
    rcases (turn_disciplined h (turns_disciplined h h0 turns hadm) t hmeets).2 with
      hsame | ⟨other, ending, hnew, hends⟩
    · rw [hsame] at hover
      obtain ⟨pre, more, rfl, hended⟩ := ih hadm hover
      exact ⟨pre, more ++ [t], List.append_assoc .., hended⟩
    · rw [hnew] at hover
      rcases List.mem_append.mp hover with hold | hlast
      · obtain ⟨pre, more, rfl, hended⟩ := ih hadm hold
        exact ⟨pre, more ++ [t], List.append_assoc .., hended⟩
      · cases List.mem_singleton.mp hlast
        exact ⟨turns ++ [t], [], (List.append_nil _).symm, hafter ▸ hends⟩

/-- Past the lock a coroutine does not come to hold it again before it waits. -/
theorem run_left {call : C} {post : Except (Raised ε) α → Coro.Stage → σ → Prop} {c : Coro σ ω ε α} {s : σ}
    (hwp : c.wp (discipline p ok free meanwhile call) post .left s) :
    (c.run p.ready true false s).2.1 = false := by
  induction c generalizing s with
  | done result => rfl
  | look rest ih => exact ih s hwp
  | put f rest ih => cases hwp.1
  | wait on rest ih =>
    rw [Coro.run]
    split
    next hready => exact ih .ready (hwp.1 hready)
    next => rfl
  | acquire rest ih => cases hwp.1
  | release rest ih => cases hwp.1

/-- The task that holds the lock can go on until it gives the lock back. -/
theorem settle_frees (hrefl : ∀ s, meanwhile s s) {call : C}
    (hwake : ∀ on s, ∃ wake, EventLoop.mayWake p call on wake s = true) {c : Coro σ ω ε α} {s : σ}
    (hwp : c.wp (discipline p ok free meanwhile call) (ended ends call) .inside s)
    (w : EventLoop C σ ω ε α) (hw : w.holder = none) :
    ∃ wakes : List Wake, (exec (EventLoop.turn p) (w.settle call (c.run p.ready true true s))
      (wakes.map EventLoop.Turn.proceed)).2.holder = none := by
  induction c generalizing s w with
  | done result => exact absurd rfl hwp.1
  | look rest ih => exact ih s hwp w hw
  | put f rest ih => exact ih hwp.2 w hw
  | wait on rest ih =>
    rw [Coro.run]
    split
    next hready =>
      simp only [Coro.wp, discipline, hready, if_true] at hwp
      exact ih .ready hwp w hw
    next hready =>
      simp only [Coro.wp, discipline, hready] at hwp
      obtain ⟨wake, hwake⟩ := hwake on s
      obtain ⟨wakes, hfree⟩ := ih wake (hwp wake s (hrefl s) hwake) { w with shared := s } hw
      refine ⟨wake :: wakes, ?_⟩
      rw [List.map_cons, exec_cons_state]
      have hturn : ((w.settle call (.wait on rest, true, s)).turn p (.proceed wake)).2
          = ({ w with shared := s } : EventLoop C σ ω ε α).settle call
            ((rest wake).run p.ready true true s) := by
        have hheld : w.settle call (.wait on rest, true, s)
            = { w with shared := s, holder := some (call, .wait on rest) } := rfl
        rw [hheld, EventLoop.turn]
        simp [hwake, hw]
      rw [hturn]
      exact hfree
  | acquire rest ih => cases hwp.1
  | release rest ih =>
    refine ⟨[], ?_⟩
    have hheld := run_left hwp.2.2
    show (w.settle call (rest.run p.ready true false s)).holder = none
    revert hheld
    generalize rest.run p.ready true false s = x
    obtain ⟨c, held, s'⟩ := x
    rintro (rfl : held = false)
    cases c <;> exact hw

/-- From everywhere in a run the task that holds the lock, if any, can go on until the lock is free. -/
theorem exists_free (h : Keeping p ok free meanwhile ends)
    (hwake : ∀ call on s, ∃ wake, EventLoop.mayWake p call on wake s = true) {w : EventLoop C σ ω ε α}
    (hw : Disciplined p ok free meanwhile ends w) :
    ∃ wakes : List Wake,
      (exec (EventLoop.turn p) w (wakes.map EventLoop.Turn.proceed)).2.holder = none := by
  rcases hholder : w.holder with _ | ⟨call, c⟩
  · exact ⟨[], hholder⟩
  have hc := hw.holding call c hholder
  cases c with
  | wait on rest =>
    obtain ⟨wake, hwaken⟩ := hwake call on w.shared
    obtain ⟨wakes, hfree⟩ := settle_frees h.refl (hwake call) (hc wake w.shared (h.refl _) hwaken)
      { w with holder := none } rfl
    refine ⟨wake :: wakes, ?_⟩
    rw [List.map_cons, exec_cons_state]
    have hturn : (w.turn p (.proceed wake)).2 = ({ w with holder := none } : EventLoop C σ ω ε α).settle call
        ((rest wake).run p.ready true true w.shared) := by
      rw [EventLoop.turn, hholder]
      simp [hwaken]
    rw [hturn]
    exact hfree
  | done _ | look _ | put _ _ | acquire _ | release _ => exact hc.elim

end Rule

/-! ### What a run writes -/

section Writing

variable {p : Programs C σ ω ξ ε α} {R : σ → σ → Prop}

/-- What is left of every task writes steps of `R`. -/
def EventLoop.Writing (R : σ → σ → Prop) (w : EventLoop C σ ω ε α) : Prop :=
  (∀ call c, w.holder = some (call, c) → c.Writes R) ∧ ∀ call c, (call, c) ∈ w.tasks → c.Writes R

theorem writing_start (s : σ) : (EventLoop.start s : EventLoop C σ ω ε α).Writing R :=
  ⟨fun _ _ h => (nomatch h), fun _ _ h => (nomatch h)⟩

theorem settle_writes {w : EventLoop C σ ω ε α} (hw : w.Writing R) (call : C)
    {x : Coro σ ω ε α × Bool × σ} (hx : x.1.Writes R) :
    (w.settle call x).Writing R ∧ (w.settle call x).shared = x.2.2 := by
  have hsuspended : ∀ rest : Coro σ ω ε α, rest.Writes R →
      ∀ call' c, (call', c) ∈ w.tasks ++ [(call, rest)] → c.Writes R := by
    intro rest hrest call' c hc
    rcases List.mem_append.mp hc with hold | hnew
    · exact hw.2 call' c hold
    · cases List.mem_singleton.mp hnew
      exact hrest
  obtain ⟨c, held, s'⟩ := x
  cases c with
  | done result => exact ⟨hw, rfl⟩
  | wait on rest | acquire rest | look rest | put f rest | release rest =>
    cases held with
    | false => exact ⟨⟨hw.1, hsuspended _ hx⟩, rfl⟩
    | true => exact ⟨⟨fun call' c hc => by cases hc; exact hx, hw.2⟩, rfl⟩

variable (hrefl : ∀ s, R s s) (htrans : ∀ s s' s'', R s s' → R s' s'' → R s s'')
  (hprograms : ∀ call, (p.program call).Writes R) (houtside : ∀ change s, R s (p.outside change s))

include hrefl htrans hprograms houtside

theorem turn_writes {w : EventLoop C σ ω ε α} (hw : w.Writing R) (t : EventLoop.Turn C ξ) :
    R w.shared (w.turn p t).2.shared ∧ (w.turn p t).2.Writing R := by
  have hrun : ∀ {w' : EventLoop C σ ω ε α} (call : C) {c : Coro σ ω ε α} (held free : Bool),
      w'.Writing R → c.Writes R → R w.shared (w'.settle call (c.run p.ready free held w.shared)).shared
        ∧ (w'.settle call (c.run p.ready free held w.shared)).Writing R := by
    intro w' call c held free hw' hc
    obtain ⟨hstep, hrest⟩ := Coro.run_writes hrefl htrans p.ready free hc held w.shared
    obtain ⟨hwriting, hshared⟩ := settle_writes hw' call hrest
    rw [hshared]
    exact ⟨hstep, hwriting⟩
  have hsame : R w.shared w.shared ∧ w.Writing R := ⟨hrefl _, hw⟩
  have herase : ∀ place, ({ w with tasks := w.tasks.eraseIdx place } : EventLoop C σ ω ε α).Writing R :=
    fun place => ⟨hw.1, fun call c hc => hw.2 call c (List.mem_of_mem_eraseIdx hc)⟩
  cases t with
  | begin call =>
    rw [EventLoop.turn]
    split
    · exact hrun call _ _ hw (hprograms call)
    · exact hsame
  | resume place wake =>
    rw [EventLoop.turn]
    split
    next call on rest hget =>
      split
      · exact hrun call _ _ (herase place) (hw.2 call _ (List.mem_of_getElem? hget) wake)
      · exact hsame
    next call rest hget =>
      have hrest := hw.2 call _ (List.mem_of_getElem? hget)
      split
      · split
        · exact hrun call _ _ (herase place) (hrest .cancelled)
        · exact hsame
      · exact hsame
      · split
        · exact hrun call _ _ (herase place) (hrest .ready)
        · exact hsame
    · exact hsame
  | proceed wake =>
    rw [EventLoop.turn]
    split
    next call on rest hholder =>
      split
      · exact hrun call _ _ ⟨fun _ _ h => (nomatch h), hw.2⟩ (hw.1 call _ hholder wake)
      · exact hsame
    · exact hsame
  | outside change => exact ⟨houtside change w.shared, hw⟩

/-- Later states are steps of `R` away from earlier ones. -/
theorem turns_writes {w : EventLoop C σ ω ε α} (hw : w.Writing R) (turns : List (EventLoop.Turn C ξ)) :
    R w.shared (exec (EventLoop.turn p) w turns).2.shared
      ∧ (exec (EventLoop.turn p) w turns).2.Writing R := by
  induction turns generalizing w with
  | nil => exact ⟨hrefl _, hw⟩
  | cons t turns ih =>
    obtain ⟨hstep, hwriting⟩ := turn_writes hrefl htrans hprograms houtside hw t
    obtain ⟨hrest, hdone⟩ := ih hwriting
    rw [exec_cons_state]
    exact ⟨htrans _ _ _ hstep hrest, hdone⟩

omit hrefl htrans hprograms houtside

/-- The calls in progress and those that have ended. -/
def EventLoop.begun (w : EventLoop C σ ω ε α) : List C := w.calls ++ w.finished.map Prod.fst

theorem mem_settle_begun {w : EventLoop C σ ω ε α} {call other : C} {x : Coro σ ω ε α × Bool × σ}
    (h : other ∈ (w.settle call x).begun) : other = call ∨ other ∈ w.begun := by
  obtain ⟨c, held, s'⟩ := x
  cases c with
  | done result =>
    simp only [EventLoop.settle, EventLoop.begun, EventLoop.calls, List.map_append, List.mem_append,
      List.map_cons, List.map_nil, List.mem_singleton] at h ⊢
    tauto
  | wait on rest | acquire rest | look rest | put f rest | release rest =>
    cases held with
    | false =>
      simp only [EventLoop.settle, EventLoop.begun, EventLoop.calls, List.map_append, List.mem_append,
        List.map_cons, List.map_nil, List.mem_singleton] at h ⊢
      tauto
    | true =>
      simp only [EventLoop.settle, EventLoop.begun, EventLoop.calls, Option.toList, List.map_cons,
        List.map_nil, List.mem_append, List.mem_singleton] at h ⊢
      tauto

/-- A turn begins at most the call it says. -/
theorem mem_turn_begun {w : EventLoop C σ ω ε α} {t : EventLoop.Turn C ξ} {call : C}
    (h : call ∈ (w.turn p t).2.begun) :
    call ∈ w.begun ∨ t = .begin call ∧ p.begins w.shared w.calls w.finished call = true := by
  have hplace : ∀ {place : Nat} {other : C} {c : Coro σ ω ε α} {x : Coro σ ω ε α × Bool × σ},
      w.tasks[place]? = some (other, c) →
      call ∈ (EventLoop.settle { w with tasks := w.tasks.eraseIdx place } other x).begun →
      call ∈ w.begun := by
    intro place other c x hget hcall
    rcases mem_settle_begun hcall with rfl | hold
    · exact List.mem_append_left _ (List.mem_append_right _ (List.mem_map_of_mem (List.mem_of_getElem? hget)))
    · refine (List.mem_append.mp hold).elim (fun hcalls => List.mem_append_left _ ?_) (List.mem_append_right _)
      rcases List.mem_append.mp hcalls with hholder | htask
      · exact List.mem_append_left _ hholder
      · obtain ⟨y, hy, rfl⟩ := List.mem_map.mp htask
        exact List.mem_append_right _ (List.mem_map_of_mem (List.mem_of_mem_eraseIdx hy))
  cases t with
  | begin other =>
    rw [EventLoop.turn] at h
    split at h
    next hbegins =>
      rcases mem_settle_begun h with rfl | hold
      · exact .inr ⟨rfl, hbegins⟩
      · exact .inl hold
    next => exact .inl h
  | resume place wake =>
    left
    rw [EventLoop.turn] at h
    split at h
    next other on rest hget =>
      split at h
      · exact hplace hget h
      · exact h
    next other rest hget =>
      split at h
      · split at h
        · exact hplace hget h
        · exact h
      · exact h
      · split at h
        · exact hplace hget h
        · exact h
    · exact h
  | proceed wake =>
    left
    rw [EventLoop.turn] at h
    split at h
    next other on rest hholder =>
      split at h
      · rcases mem_settle_begun h with rfl | hold
        · simp [EventLoop.begun, EventLoop.calls, hholder]
        · simp only [EventLoop.begun, EventLoop.calls, hholder, Option.toList, List.map_cons, List.map_nil,
            List.mem_append, List.mem_singleton] at hold ⊢
          tauto
      · exact h
    · exact h
  | outside change => exact .inl h

/-- Every call of a run was begun in it. -/
theorem mem_turns_begun {s₀ : σ} (turns : List (EventLoop.Turn C ξ)) {call : C}
    (h : call ∈ (exec (EventLoop.turn p) (.start s₀) turns).2.begun) : .begin call ∈ turns := by
  induction turns using List.reverseRecOn with
  | nil => cases h
  | append_singleton turns t ih =>
    rw [exec_concat] at h
    rcases mem_turn_begun h with hold | ⟨rfl, -⟩
    · exact List.mem_append_left _ (ih hold)
    · exact List.mem_append_right _ (List.mem_singleton_self _)

/-- What held of every call when it began, and is not undone. -/
def EventLoop.Knowing (known : C → σ → Bool) (w : EventLoop C σ ω ε α) : Prop :=
  ∀ call ∈ w.begun, known call w.shared = true

variable {known : C → σ → Bool} (hmono : ∀ call s s', R s s' → known call s = true → known call s' = true)
  (hbegins : ∀ s calls finished call, p.begins s calls finished call = true → known call s = true)

include hrefl htrans hprograms houtside hmono hbegins

theorem turn_knowing {w : EventLoop C σ ω ε α} (hw : w.Writing R) (hknown : w.Knowing known)
    (t : EventLoop.Turn C ξ) : (w.turn p t).2.Knowing known := by
  intro call hcall
  refine hmono call _ _ (turn_writes hrefl htrans hprograms houtside hw t).1 ?_
  rcases mem_turn_begun hcall with hold | ⟨-, hbegun⟩
  · exact hknown call hold
  · exact hbegins _ _ _ _ hbegun

omit hrefl htrans hprograms houtside hmono in
/-- A turn that meets a condition also meets what is known of every call in progress. -/
theorem meets_known {ok : C → σ → Bool} {w : EventLoop C σ ω ε α} (hknown : w.Knowing known)
    {t : EventLoop.Turn C ξ} (h : w.meets p ok t = true) :
    w.meets p (fun call s => ok call s && known call s) t = true := by
  have hplace : ∀ {place : Nat} {call : C} {c : Coro σ ω ε α}, w.tasks[place]? = some (call, c) →
      known call w.shared = true := fun hget =>
    hknown _ (List.mem_append_left _ (List.mem_append_right _
      (List.mem_map_of_mem (List.mem_of_getElem? hget))))
  cases t with
  | begin call =>
    have hcall := hbegins w.shared w.calls w.finished call
    revert h hcall
    simp only [EventLoop.meets, Bool.or_eq_true, Bool.not_eq_true', Bool.and_eq_true]
    cases p.begins w.shared w.calls w.finished call <;> simp +contextual
  | resume place wake =>
    rw [EventLoop.meets] at h ⊢
    split
    next call on rest hget =>
      rw [hget] at h
      rw [hplace hget, Bool.and_true]
      exact h
    next call rest hget =>
      rw [hget] at h
      rw [hplace hget, Bool.and_true]
      exact h
    next => rfl
  | proceed wake | outside change => rfl

/-- What is known of every call in progress may be taken as part of any condition a run meets. -/
theorem adm_known {ok : C → σ → Bool} {s₀ : σ} {turns : List (EventLoop.Turn C ξ)}
    (h : Adm (EventLoop.turn p) (fun w t => w.meets p ok t = true) (.start s₀) turns) :
    Adm (EventLoop.turn p) (fun w t => w.meets p (fun call s => ok call s && known call s) t = true)
      (.start s₀) turns := by
  have hknown : ∀ pre : List (EventLoop.Turn C ξ), (exec (EventLoop.turn p) (.start s₀) pre).2.Writing R
      ∧ (exec (EventLoop.turn p) (.start s₀) pre).2.Knowing known := by
    intro pre
    exact exec_state_invariant (I := fun w : EventLoop C σ ω ε α => w.Writing R ∧ w.Knowing known)
      ⟨writing_start s₀, fun _ h => (nomatch h)⟩
      (fun _ t hw => ⟨(turn_writes hrefl htrans hprograms houtside hw.1 t).2,
        turn_knowing hrefl htrans hprograms houtside hmono hbegins hw.1 hw.2 t⟩) pre
  exact fun pre t hp => meets_known hbegins (hknown pre).2 (h pre t hp)

end Writing

end Translator.Schemes
