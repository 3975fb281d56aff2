import Mathlib.Data.List.Basic

/-! Coroutines of one event loop that share a state under one lock.

    A coroutine computes on the state, waits, takes the lock and gives it back. It is written in a monad:
    `await` may end in a cancellation, which is raised where the coroutine waits and unwinds it, giving
    the lock back on the way. `run` goes on until something that is waited for is not there. `wp` says
    that a coroutine keeps a lock discipline: it writes only while it holds the lock, and where it gives
    the lock back the invariant of the free lock holds again. -/

namespace Translator.Schemes

/-- How a wait ends: what was waited for is there, it failed, or the task was cancelled. -/
inductive Wake where | ready | failed | cancelled
  deriving DecidableEq, Repr

/-- What ends a coroutine early. -/
inductive Raised (ε : Type) where
  | cancelled
  | error (error : ε)
  deriving DecidableEq, Repr

/-- What is left of a coroutine that waits for `ω`s. -/
inductive Coro (σ ω ε α : Type) where
  | done (result : Except (Raised ε) α)
  | look (rest : σ → Coro σ ω ε α)
  | put (f : σ → σ) (rest : Coro σ ω ε α)
  | wait (on : ω) (rest : Wake → Coro σ ω ε α)
  | acquire (rest : Wake → Coro σ ω ε α)
  | release (rest : Coro σ ω ε α)

namespace Coro

variable {σ ω ε α β : Type}

/-- Go on with the result of a coroutine, whatever it is. -/
def andThen (next : Except (Raised ε) α → Coro σ ω ε β) : Coro σ ω ε α → Coro σ ω ε β
  | done result => next result
  | look rest => look fun s => andThen next (rest s)
  | put f rest => put f (andThen next rest)
  | wait on rest => wait on fun wake => andThen next (rest wake)
  | acquire rest => acquire fun wake => andThen next (rest wake)
  | release rest => release (andThen next rest)

/-- Go on with a value; what was raised stays raised. -/
def orRaise (next : α → Coro σ ω ε β) : Except (Raised ε) α → Coro σ ω ε β
  | .ok a => next a
  | .error e => done (.error e)

instance : Monad (Coro σ ω ε) where
  pure a := done (.ok a)
  bind c next := andThen (orRaise next) c

def throw (error : ε) : Coro σ ω ε α := done (.error (.error error))

def get : Coro σ ω ε σ := look fun s => done (.ok s)

def modify (f : σ → σ) : Coro σ ω ε Unit := put f (done (.ok ()))

/-- Wait; a failure is for the coroutine to look at. -/
def await (on : ω) : Coro σ ω ε Bool :=
  wait on fun
    | .ready => done (.ok true)
    | .failed => done (.ok false)
    | .cancelled => done (.error .cancelled)

/-- `async with lock`: the lock is given back however the body ends. -/
def withLock (body : Coro σ ω ε α) : Coro σ ω ε α :=
  acquire fun
    | .cancelled => done (.error .cancelled)
    | _ => andThen (fun result => release (done result)) body

/-- Run until the coroutine ends or what it waits for is not there. `free` says that no other task
    holds the lock, `held` that this one does. -/
def run (ready : ω → σ → Bool) (free : Bool) : Coro σ ω ε α → Bool → σ → Coro σ ω ε α × Bool × σ
  | done result, held, s => (done result, held, s)
  | look rest, held, s => run ready free (rest s) held s
  | put f rest, held, s => run ready free rest held (f s)
  | wait on rest, held, s =>
    if ready on s then run ready free (rest .ready) held s else (wait on rest, held, s)
  | acquire rest, held, s =>
    if free && !held then run ready free (rest .ready) true s else (acquire rest, held, s)
  | release rest, _, s => run ready free rest false s

/-- Running on, the coroutine comes to take the lock. -/
def takes (ready : ω → σ → Bool) : Coro σ ω ε α → σ → Bool
  | done _, _ | release _, _ => false
  | look rest, s => takes ready (rest s) s
  | put f rest, s => takes ready rest (f s)
  | wait on rest, s => ready on s && takes ready (rest .ready) s
  | acquire _, _ => true

/-! ### The lock discipline -/

/-- Where a coroutine is: it may take the lock, it holds it, or it is past it until it waits again. -/
inductive Stage where | outside | inside | left
  deriving DecidableEq

/-- Where a coroutine is that has been woken outside the lock. -/
def Stage.woken : Wake → Stage
  | .cancelled => .left
  | _ => .outside

/-- What a lock discipline is about: the invariant `free` of the free lock, what others may do to the
    state in the meantime, in which states the lock may be taken, and how waits may end. -/
structure Discipline (σ ω : Type) where
  ready : ω → σ → Bool
  free : σ → Prop
  meanwhile : σ → σ → Prop
  taken : σ → Prop
  wakes : ω → Wake → σ → Prop
  cancelled : σ → Prop

/-- The coroutine keeps the discipline when it goes on from this state, and ends as `post` says. -/
def wp (d : Discipline σ ω) (post : Except (Raised ε) α → Stage → σ → Prop) :
    Coro σ ω ε α → Stage → σ → Prop
  | done result, stage, s => post result stage s
  | look rest, stage, s => wp d post (rest s) stage s
  | put f rest, stage, s => stage = .inside ∧ wp d post rest stage (f s)
  | wait on rest, .inside, s =>
    if d.ready on s then wp d post (rest .ready) .inside s
    else ∀ wake s', d.meanwhile s s' → d.wakes on wake s' → wp d post (rest wake) .inside s'
  | wait on rest, stage, s =>
    (d.ready on s = true → wp d post (rest .ready) stage s)
      ∧ ∀ wake s', d.wakes on wake s' → wp d post (rest wake) (.woken wake) s'
  | acquire rest, stage, _ =>
    stage = .outside ∧ (∀ s', d.free s' → d.taken s' → ¬ d.cancelled s' →
        wp d post (rest .ready) .inside s')
      ∧ ∀ s', d.cancelled s' → wp d post (rest .cancelled) .left s'
  | release rest, stage, s => stage = .inside ∧ d.free s ∧ wp d post rest .left s

section Rules

variable {d : Discipline σ ω} {s : σ} {stage : Stage}

theorem wp_andThen (post : Except (Raised ε) β → Stage → σ → Prop)
    (next : Except (Raised ε) α → Coro σ ω ε β) (c : Coro σ ω ε α) :
    wp d post (andThen next c) stage s
      ↔ wp d (fun result stage s => wp d post (next result) stage s) c stage s := by
  induction c generalizing stage s with
  | done result => exact Iff.rfl
  | look rest ih => exact ih s
  | put f rest ih => exact and_congr_right fun _ => ih
  | wait on rest ih =>
    cases stage with
    | inside =>
      simp only [andThen, wp]
      split
      · exact ih .ready
      · exact forall_congr' fun wake => forall_congr' fun s' => imp_congr_right fun _ =>
          imp_congr_right fun _ => ih wake
    | outside | left =>
      exact and_congr (imp_congr_right fun _ => ih .ready)
        (forall_congr' fun wake => forall_congr' fun s' => imp_congr_right fun _ => ih wake)
  | acquire rest ih =>
    exact and_congr_right fun _ => and_congr
      (forall_congr' fun s' => imp_congr_right fun _ => imp_congr_right fun _ =>
        imp_congr_right fun _ => ih .ready)
      (forall_congr' fun s' => imp_congr_right fun _ => ih .cancelled)
  | release rest ih => exact and_congr_right fun _ => and_congr_right fun _ => ih

@[simp] theorem wp_pure (post : Except (Raised ε) α → Stage → σ → Prop) (a : α) :
    wp d post (pure a) stage s ↔ post (.ok a) stage s := Iff.rfl

@[simp] theorem wp_throw (post : Except (Raised ε) α → Stage → σ → Prop) (e : ε) :
    wp d post (throw e) stage s ↔ post (.error (.error e)) stage s := Iff.rfl

@[simp] theorem wp_get (post : Except (Raised ε) σ → Stage → σ → Prop) :
    wp d post get stage s ↔ post (.ok s) stage s := Iff.rfl

@[simp] theorem wp_modify (post : Except (Raised ε) Unit → Stage → σ → Prop) (f : σ → σ) :
    wp d post (modify f) stage s ↔ stage = .inside ∧ post (.ok ()) stage (f s) := Iff.rfl

/-- What must hold after a part of a coroutine so that the rest of it does what is wanted. -/
def thenWp (d : Discipline σ ω) (post : Except (Raised ε) β → Stage → σ → Prop)
    (next : α → Coro σ ω ε β) : Except (Raised ε) α → Stage → σ → Prop
  | .ok a, stage, s => wp d post (next a) stage s
  | .error e, stage, s => post (.error e) stage s

@[simp] theorem thenWp_ok (post : Except (Raised ε) β → Stage → σ → Prop) (next : α → Coro σ ω ε β)
    (a : α) : thenWp d post next (.ok a) stage s ↔ wp d post (next a) stage s := Iff.rfl

@[simp] theorem thenWp_error (post : Except (Raised ε) β → Stage → σ → Prop)
    (next : α → Coro σ ω ε β) (e : Raised ε) :
    thenWp d post next (.error e) stage s ↔ post (.error e) stage s := Iff.rfl

@[simp] theorem wp_bind (post : Except (Raised ε) β → Stage → σ → Prop) (c : Coro σ ω ε α)
    (next : α → Coro σ ω ε β) :
    wp d post (c >>= next) stage s ↔ wp d (thenWp d post next) c stage s := by
  refine (wp_andThen post (orRaise next) c).trans (Eq.to_iff ?_)
  congr 1
  funext result stage s
  cases result <;> rfl

/-- A discipline kept for one purpose is kept for every weaker one. -/
theorem wp_mono {post post' : Except (Raised ε) α → Stage → σ → Prop} {c : Coro σ ω ε α}
    (h : wp d post c stage s) (hpost : ∀ result stage s, post result stage s → post' result stage s) :
    wp d post' c stage s := by
  induction c generalizing stage s with
  | done result => exact hpost _ _ _ h
  | look rest ih => exact ih s h
  | put f rest ih => exact ⟨h.1, ih h.2⟩
  | wait on rest ih =>
    cases stage with
    | inside =>
      simp only [wp] at h ⊢
      split at h
      next hready => rw [if_pos hready]; exact ih .ready h
      next hready =>
        rw [if_neg hready]
        exact fun wake s' hs hwakes => ih wake (h wake s' hs hwakes)
    | outside | left =>
      exact ⟨fun hready => ih .ready (h.1 hready), fun wake s' hwakes => ih wake (h.2 wake s' hwakes)⟩
  | acquire rest ih =>
    exact ⟨h.1, fun s' hfree htaken hnot => ih .ready (h.2.1 s' hfree htaken hnot),
      fun s' hcancelled => ih .cancelled (h.2.2 s' hcancelled)⟩
  | release rest ih => exact ⟨h.1, h.2.1, ih h.2.2⟩

/-- Waiting inside the lock. -/
theorem wp_await_inside {post : Except (Raised ε) Bool → Stage → σ → Prop} {on : ω} :
    wp d post (await on) .inside s
      ↔ if d.ready on s then post (.ok true) .inside s
        else ∀ wake s', d.meanwhile s s' → d.wakes on wake s' →
          post (match wake with
            | .ready => .ok true | .failed => .ok false | .cancelled => .error .cancelled) .inside s' := by
  simp only [await, wp]
  split
  · exact Iff.rfl
  · refine forall_congr' fun wake => forall_congr' fun s' => imp_congr_right fun _ =>
      imp_congr_right fun _ => ?_
    cases wake <;> exact Iff.rfl

/-- Waiting outside the lock. -/
theorem wp_await_beside {post : Except (Raised ε) Bool → Stage → σ → Prop} {on : ω}
    (hstage : stage ≠ .inside) (hready : post (.ok true) stage s)
    (hwoken : ∀ s', post (.ok true) .outside s') (hfailed : ∀ s', post (.ok false) .outside s')
    (hcancelled : ∀ s', post (.error .cancelled) .left s') :
    wp d post (await on) stage s := by
  cases stage with
  | inside => exact absurd rfl hstage
  | outside | left =>
    refine ⟨fun _ => hready, fun wake s' _ => ?_⟩
    cases wake with
    | ready => exact hwoken s'
    | failed => exact hfailed s'
    | cancelled => exact hcancelled s'

/-- The body of `async with lock` starts wherever the lock may be taken, and ends where the invariant
    holds again. -/
theorem wp_withLock {post : Except (Raised ε) α → Stage → σ → Prop} {body : Coro σ ω ε α}
    (hbody : ∀ s', d.free s' → d.taken s' → ¬ d.cancelled s' →
      wp d (fun result stage s => stage = .inside ∧ d.free s ∧ post result .left s) body .inside s')
    (hcancelled : ∀ s', d.cancelled s' → post (.error .cancelled) .left s') :
    wp d post (withLock body) .outside s :=
  ⟨rfl, fun s' hfree htaken hnot => (wp_andThen _ _ _).mpr (hbody s' hfree htaken hnot), hcancelled⟩

end Rules

/-! ### What a coroutine writes -/

/-- Whatever the coroutine writes, and wherever, is a step of `R`. -/
def Writes (R : σ → σ → Prop) : Coro σ ω ε α → Prop
  | done _ => True
  | look rest => ∀ s, (rest s).Writes R
  | put f rest => (∀ s, R s (f s)) ∧ rest.Writes R
  | wait _ rest | acquire rest => ∀ wake, (rest wake).Writes R
  | release rest => rest.Writes R

section Writing

variable {R : σ → σ → Prop}

theorem writes_andThen {next : Except (Raised ε) α → Coro σ ω ε β} {c : Coro σ ω ε α} (hc : c.Writes R)
    (hnext : ∀ result, (next result).Writes R) : (andThen next c).Writes R := by
  induction c with
  | done result => exact hnext result
  | look rest ih => exact fun s => ih s (hc s)
  | put f rest ih => exact ⟨hc.1, ih hc.2⟩
  | wait on rest ih | acquire rest ih => exact fun wake => ih wake (hc wake)
  | release rest ih => exact ih hc

theorem writes_bind {c : Coro σ ω ε α} {next : α → Coro σ ω ε β} (hc : c.Writes R)
    (hnext : ∀ a, (next a).Writes R) : (c >>= next).Writes R :=
  writes_andThen hc fun result => by
    cases result with
    | ok a => exact hnext a
    | error e => exact trivial

theorem writes_await (on : ω) : (await on : Coro σ ω ε Bool).Writes R := by
  intro wake
  cases wake <;> exact trivial

theorem writes_withLock {body : Coro σ ω ε α} (hbody : body.Writes R) : (withLock body).Writes R := by
  intro wake
  cases wake with
  | cancelled => exact trivial
  | ready | failed => exact writes_andThen hbody fun _ => trivial

/-- What a run of it does to the state is a step of `R`, and so is what the rest of it will do. -/
theorem run_writes (hrefl : ∀ s, R s s) (htrans : ∀ s s' s'', R s s' → R s' s'' → R s s'')
    (ready : ω → σ → Bool) (free : Bool) {c : Coro σ ω ε α} (hc : c.Writes R) (held : Bool) (s : σ) :
    R s (c.run ready free held s).2.2 ∧ (c.run ready free held s).1.Writes R := by
  induction c generalizing held s with
  | done result => exact ⟨hrefl s, hc⟩
  | look rest ih => exact ih s (hc s) held s
  | put f rest ih =>
    obtain ⟨hrun, hrest⟩ := ih hc.2 held (f s)
    exact ⟨htrans _ _ _ (hc.1 s) hrun, hrest⟩
  | wait on rest ih =>
    rw [run]
    split
    · exact ih .ready (hc .ready) held s
    · exact ⟨hrefl s, hc⟩
  | acquire rest ih =>
    rw [run]
    split
    · exact ih .ready (hc .ready) true s
    · exact ⟨hrefl s, hc⟩
  | release rest ih => exact ih hc false s

end Writing

end Coro

end Translator.Schemes
