import Translator.Schemes.Run

/-! Calls that are in progress at the same time. A call goes through sections; a section runs whole, and
    between two sections of one call any other call may run. `first` is the first section of a call and
    `next` one of the later ones: what it does to the shared state, and what is then left of the call.
    A call that has not run its first section has not begun. -/

namespace Translator.Schemes

variable {S C K : Type*}

/-- The shared state, and what is left of every call in progress. -/
structure Interleave (S K : Type*) where
  shared : S
  calls : List K

/-- A call begins with its first section, or the call at a place runs its next one. -/
inductive Interleave.Turn (C : Type*) where
  | begin (call : C)
  | resume (place : Nat)
  deriving DecidableEq

namespace Interleave

variable (first : C → S → Option K × S) (next : K → S → Option K × S) (ok : S → List K → C → Bool)

/-- No call is in progress. -/
def Quiescent (w : Interleave S K) : Prop := w.calls = []

def turn (w : Interleave S K) : Turn C → Unit × Interleave S K
  | .begin call =>
    ((), {
      shared := (first call w.shared).2
      calls := w.calls ++ (first call w.shared).1.toList })
  | .resume place =>
    match w.calls[place]? with
    | none => ((), w)
    | some rest =>
      ((), {
        shared := (next rest w.shared).2
        calls := w.calls.take place ++ (next rest w.shared).1.toList ++ w.calls.drop (place + 1) })

/-- A condition on the calls that begin, given the shared state and the calls in progress. -/
def meets (w : Interleave S K) : Turn C → Bool
  | .begin call => ok w.shared w.calls call
  | .resume _ => true

variable {first next ok}

theorem take_cons_drop {calls : List K} {place : Nat} {rest : K} (h : calls[place]? = some rest) :
    calls = calls.take place ++ rest :: calls.drop (place + 1) := by
  obtain ⟨hlt, hget⟩ := List.getElem?_eq_some_iff.mp h
  rw [← hget, ← List.drop_eq_getElem_cons hlt, List.take_append_drop]

/-- The invariant rule: what holds with no call in progress, is kept by the first section of a call that
    meets the condition, and by every later section among the calls it runs between. -/
theorem exec_invariant {I : S → List K → Prop} {s₀ : S} (h0 : I s₀ [])
    (hfirst : ∀ s calls call, I s calls → ok s calls call = true →
      I (first call s).2 (calls ++ (first call s).1.toList))
    (hnext : ∀ s before rest after, I s (before ++ rest :: after) →
      I (next rest s).2 (before ++ (next rest s).1.toList ++ after))
    (turns : List (Turn C))
    (hadm : Adm (turn first next) (fun w t => w.meets ok t = true) ⟨s₀, []⟩ turns) :
    I (exec (turn first next) ⟨s₀, []⟩ turns).2.shared
      (exec (turn first next) ⟨s₀, []⟩ turns).2.calls := by
  refine Schemes.exec_invariant (I := fun _ (w : Interleave S K) => I w.shared w.calls) h0 ?_ turns hadm
  intro _ w t hw hok
  cases t with
  | begin call => exact hfirst _ _ _ hw hok
  | resume place =>
    simp only [turn]
    cases hrest : w.calls[place]? with
    | none => exact hw
    | some rest =>
      rw [take_cons_drop hrest] at hw
      exact hnext _ _ _ _ hw

end Interleave

end Translator.Schemes
