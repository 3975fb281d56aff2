import Translator.Control.DebugText
import Translator.Schemes.Run

/-! What a debug text buffer holds after any sequence of its calls: of all the events it took since it was
    last cleared, as many of the newest as its two limits allow. -/

namespace Translator.Control
open Schemes

/-- The calls of a buffer. -/
inductive DebugTextOp where
  | setEnabled (enabled : Bool)
  | push (event : DebugTextEvent)
  | clearForProviderSwitch
  | clearForSessionStop
  deriving DecidableEq, Repr

namespace DebugTextBuffer

/-- One call; a push answers whether it took its event. -/
def step (buffer : DebugTextBuffer) : DebugTextOp → Bool × DebugTextBuffer
  | .setEnabled enabled => (true, buffer.setEnabled enabled)
  | .push event => buffer.push event
  | .clearForProviderSwitch => (true, buffer.clear)
  | .clearForSessionStop => (true, buffer.clear)

/-- The events that were taken since the last clearing, after one more answered call. -/
def taken (history : List DebugTextEvent) : DebugTextOp × Bool → List DebugTextEvent
  | (.setEnabled true, _) => history
  | (.push event, true) => history ++ [event]
  | (.push _, false) => history
  | _ => []

/-- The events that were taken since the last clearing. -/
def history (log : List (DebugTextOp × Bool)) : List DebugTextEvent := log.foldl taken []

/-- Some events are within both limits. -/
def Fits (events : List DebugTextEvent) : Prop :=
  events.length ≤ maxDebugTextEvents
    ∧ (events.map DebugTextEvent.bytes).sum ≤ maxDebugTextBytes

/-- The longest suffix of some events that is within both limits. -/
structure IsLongestSuffix (kept events : List DebugTextEvent) : Prop where
  suffix : kept <:+ events
  fits : Fits kept
  longest : ∀ other, other <:+ events → Fits other → other.length ≤ kept.length

/-- Every subtraction of an eviction is from at least as much. -/
def EvictsExactly (eventBytes : Nat) : List DebugTextEvent → Nat → Prop
  | [], _ => True
  | removed :: events, bytesUsed =>
    maxDebugTextEvents ≤ (removed :: events).length ∨ maxDebugTextBytes < bytesUsed + eventBytes →
      removed.bytes ≤ bytesUsed ∧ EvictsExactly eventBytes events (bytesUsed - removed.bytes)

/-! ### Evictions -/

/-- A buffer that counts its bytes never takes off more than it has. -/
theorem evictsExactly_of_counted (eventBytes : Nat) (events : List DebugTextEvent) (bytesUsed : Nat)
    (h : bytesUsed = (events.map DebugTextEvent.bytes).sum) :
    EvictsExactly eventBytes events bytesUsed := by
  induction events generalizing bytesUsed with
  | nil => trivial
  | cons removed events ih =>
    intro _
    rw [List.map_cons, List.sum_cons] at h
    exact ⟨by omega, ih _ (by omega)⟩

theorem evict_suffix (eventBytes : Nat) (events : List DebugTextEvent) (bytesUsed : Nat) :
    (evict eventBytes events bytesUsed).1 <:+ events := by
  induction events generalizing bytesUsed with
  | nil => exact List.suffix_rfl
  | cons removed events ih =>
    unfold evict
    split
    · exact (ih _).trans (List.suffix_cons _ _)
    · exact List.suffix_rfl

/-- No longer suffix than the one an eviction leaves has room for one more. -/
theorem evict_longest {eventBytes : Nat} {events other : List DebugTextEvent} {bytesUsed : Nat}
    (hcounted : bytesUsed = (events.map DebugTextEvent.bytes).sum) (hsuffix : other <:+ events)
    (hfew : other.length < maxDebugTextEvents)
    (hsmall : (other.map DebugTextEvent.bytes).sum + eventBytes ≤ maxDebugTextBytes) :
    other.length ≤ (evict eventBytes events bytesUsed).1.length := by
  induction events generalizing bytesUsed with
  | nil => exact hsuffix.length_le
  | cons removed events ih =>
    unfold evict
    split
    · next hfull =>
      rw [List.map_cons, List.sum_cons] at hcounted
      rcases List.suffix_cons_iff.mp hsuffix with rfl | hsuffix
      · -- the whole list has no room, so it is no candidate
        rw [List.map_cons, List.sum_cons] at hsmall
        omega
      · exact ih (by omega) hsuffix
    · exact hsuffix.length_le

/-! ### A push -/

theorem isLongestSuffix_nil : IsLongestSuffix [] [] :=
  ⟨List.suffix_rfl, ⟨Nat.zero_le _, Nat.zero_le _⟩, fun _ h _ => h.length_le⟩

variable {buffer : DebugTextBuffer}

/-- A push that is taken keeps the longest suffix of what was taken before and its event. -/
theorem push_longest (hkept : Kept buffer) {events : List DebugTextEvent}
    (h : IsLongestSuffix buffer.events events) {event : DebugTextEvent}
    (htaken : (buffer.push event).1 = true) :
    IsLongestSuffix (buffer.push event).2.events (events ++ [event]) := by
  unfold push at htaken ⊢
  split at htaken
  · cases htaken
  · next hgo =>
    rw [if_neg hgo]
    simp only [Bool.or_eq_true, Bool.not_eq_true', decide_eq_true_eq, not_or, Nat.not_lt] at hgo
    obtain ⟨hcounted, hfew, hsmall⟩ := evict_room event.bytes hgo.2 buffer.events buffer.bytesUsed
      hkept.counted
    refine ⟨?_, ?_, ?_⟩
    · exact List.suffix_concat_iff.mpr (.inr ⟨_, rfl, (evict_suffix _ _ _).trans h.suffix⟩)
    · refine ⟨?_, ?_⟩
      · rw [List.length_append]
        exact hfew
      · rw [List.map_append, List.sum_append, ← hcounted]
        simpa using hsmall
    · intro other hsuffix hfits
      rcases List.suffix_concat_iff.mp hsuffix with rfl | ⟨front, rfl, hfront⟩
      · exact Nat.zero_le _
      · -- what fits with the event in it fits without it, so the buffer still had it
        obtain ⟨hcount, hbytes⟩ := hfits
        rw [List.length_append, List.length_singleton] at hcount
        rw [List.map_append, List.sum_append] at hbytes
        simp only [List.map_cons, List.map_nil, List.sum_cons, List.sum_nil, Nat.add_zero] at hbytes
        have hshort := h.longest front hfront ⟨by omega, by omega⟩
        have hheld := List.suffix_of_suffix_length_le hfront h.suffix hshort
        have hlong := evict_longest hkept.counted hheld (by omega) hbytes
        rw [List.length_append, List.length_append]
        exact Nat.add_le_add_right hlong 1

/-! ### Any sequence of calls -/

/-- A call keeps the counts, and the longest suffix of what was taken. -/
theorem step_longest {buffer : DebugTextBuffer} (hkept : Kept buffer) {events : List DebugTextEvent}
    (h : IsLongestSuffix buffer.events events) (op : DebugTextOp) :
    Kept (buffer.step op).2
      ∧ IsLongestSuffix (buffer.step op).2.events (taken events (op, (buffer.step op).1)) := by
  cases op with
  | setEnabled enabled =>
    refine ⟨kept_setEnabled hkept enabled, ?_⟩
    cases enabled with
    | true => exact h
    | false => exact isLongestSuffix_nil
  | push event =>
    refine ⟨kept_push hkept event, ?_⟩
    cases htaken : (buffer.push event).1 with
    | true =>
      have hpush := push_longest hkept h htaken
      simp only [step, htaken, taken]
      exact hpush
    | false =>
      have hsame : (buffer.push event).2 = buffer := by
        unfold push at htaken ⊢
        split at htaken
        · next hno => rw [if_pos hno]
        · cases htaken
      simp only [step, htaken, taken, hsame]
      exact h
  | clearForProviderSwitch => exact ⟨kept_clear, isLongestSuffix_nil⟩
  | clearForSessionStop => exact ⟨kept_clear, isLongestSuffix_nil⟩

/-- After any sequence of calls a buffer counts its bytes and can take them off again, holds nothing
    while it is off, and holds the longest suffix of what it took since it was last cleared. -/
theorem kept_suffix (ops : List DebugTextOp) :
    let buffer := (exec step default ops).2
    buffer.bytesUsed = (buffer.events.map DebugTextEvent.bytes).sum
      ∧ (∀ event : DebugTextEvent, EvictsExactly event.bytes buffer.events buffer.bytesUsed)
      ∧ (buffer.enabled = false → buffer.events = [])
      ∧ IsLongestSuffix buffer.events (history (exec step default ops).1) := by
  have hinv : Kept (exec step default ops).2
      ∧ IsLongestSuffix (exec step default ops).2.events (history (exec step default ops).1) := by
    refine exec_invariant
      (I := fun log buffer => Kept buffer ∧ IsLongestSuffix buffer.events (history log))
      ⟨kept_default, isLongestSuffix_nil⟩ ?_ ops (adm_true step default ops)
    rintro log buffer op ⟨hkept, h⟩ -
    rw [history, List.foldl_append]
    exact step_longest hkept h op
  obtain ⟨hkept, hlongest⟩ := hinv
  exact ⟨hkept.counted, fun event => evictsExactly_of_counted _ _ _ hkept.counted, hkept.off, hlongest⟩

end DebugTextBuffer
end Translator.Control
