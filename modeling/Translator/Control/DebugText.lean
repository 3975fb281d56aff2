import Mathlib.Algebra.Ring.Int.Defs
import Mathlib.Algebra.Ring.Nat
import Mathlib.Data.List.Basic

/-! `DebugTextBuffer`: the last transcripts and translations, kept while debug text is enabled, at most
    200 of them and at most a mebibyte. -/

namespace Translator.Control

def maxDebugTextEvents : Nat := 200
def maxDebugTextBytes : Nat := 1024 * 1024

structure DebugTextEvent where
  transcript : String
  translation : String
  deriving DecidableEq, Repr

def DebugTextEvent.bytes (event : DebugTextEvent) : Nat :=
  event.transcript.utf8ByteSize + event.translation.utf8ByteSize

structure DebugTextStatus where
  enabled : Bool
  eventCount : Nat
  bytesUsed : Nat
  deriving DecidableEq, Repr

structure DebugTextBuffer where
  enabled : Bool
  events : List DebugTextEvent
  bytesUsed : Nat
  deriving DecidableEq, Repr

namespace DebugTextBuffer

def default : DebugTextBuffer := ⟨false, [], 0⟩

variable (buffer : DebugTextBuffer)

/-- `clear`, which is also what a provider switch and the end of a session do. -/
def clear : DebugTextBuffer := { buffer with events := [], bytesUsed := 0 }

def setEnabled (enabled : Bool) : DebugTextBuffer :=
  if enabled then { buffer with enabled := true } else { buffer with enabled := false }.clear

/-- The oldest events go until there is room for one more. -/
def evict (eventBytes : Nat) : List DebugTextEvent → Nat → List DebugTextEvent × Nat
  | [], bytesUsed => ([], bytesUsed)
  | removed :: events, bytesUsed =>
    if maxDebugTextEvents ≤ (removed :: events).length ∨ maxDebugTextBytes < bytesUsed + eventBytes then
      evict eventBytes events (bytesUsed - removed.bytes)
    else (removed :: events, bytesUsed)

def push (event : DebugTextEvent) : Bool × DebugTextBuffer :=
  if !buffer.enabled || maxDebugTextBytes < event.bytes then (false, buffer)
  else
    let (events, bytesUsed) := evict event.bytes buffer.events buffer.bytesUsed
    (true, { buffer with events := events ++ [event], bytesUsed := bytesUsed + event.bytes })

def safeStatus : DebugTextStatus := ⟨buffer.enabled, buffer.events.length, buffer.bytesUsed⟩

variable {buffer}

@[simp] theorem setEnabled_enabled (enabled : Bool) : (buffer.setEnabled enabled).enabled = enabled := by
  cases enabled <;> rfl

/-- A push does not switch the buffer. -/
@[simp] theorem push_enabled (event : DebugTextEvent) :
    (buffer.push event).2.enabled = buffer.enabled := by
  unfold push
  split <;> rfl

/-! ### What the buffer holds -/

/-- The buffer counts its bytes and is within both limits, and nothing is kept while it is off. -/
structure Kept (buffer : DebugTextBuffer) : Prop where
  counted : buffer.bytesUsed = (buffer.events.map DebugTextEvent.bytes).sum
  few : buffer.events.length ≤ maxDebugTextEvents
  small : buffer.bytesUsed ≤ maxDebugTextBytes
  off : buffer.enabled = false → buffer.events = []

theorem kept_default : Kept default := ⟨rfl, Nat.zero_le _, Nat.zero_le _, fun _ => rfl⟩

theorem kept_clear : Kept buffer.clear := ⟨rfl, Nat.zero_le _, Nat.zero_le _, fun _ => rfl⟩

theorem kept_setEnabled (h : Kept buffer) (enabled : Bool) : Kept (buffer.setEnabled enabled) := by
  unfold setEnabled
  split
  · exact ⟨h.counted, h.few, h.small, nofun⟩
  · exact kept_clear

/-- What is left after the eviction: the newest events, with room for one more. -/
theorem evict_room (eventBytes : Nat) (hbytes : eventBytes ≤ maxDebugTextBytes)
    (events : List DebugTextEvent) (bytesUsed : Nat)
    (hcounted : bytesUsed = (events.map DebugTextEvent.bytes).sum) :
    (evict eventBytes events bytesUsed).2
        = ((evict eventBytes events bytesUsed).1.map DebugTextEvent.bytes).sum
      ∧ (evict eventBytes events bytesUsed).1.length < maxDebugTextEvents
      ∧ (evict eventBytes events bytesUsed).2 + eventBytes ≤ maxDebugTextBytes := by
  induction events generalizing bytesUsed with
  | nil =>
    subst hcounted
    exact ⟨rfl, Nat.succ_pos 199, by simpa [evict] using hbytes⟩
  | cons removed events ih =>
    unfold evict
    split
    · refine ih _ ?_
      rw [hcounted, List.map_cons, List.sum_cons, Nat.add_sub_cancel_left]
    · next hroom =>
      rw [not_or, Nat.not_le, Nat.not_lt] at hroom
      exact ⟨hcounted, hroom.1, hroom.2⟩

/-- A push keeps the buffer within its limits. -/
theorem kept_push (h : Kept buffer) (event : DebugTextEvent) : Kept (buffer.push event).2 := by
  unfold push
  split
  · exact h
  · next hgo =>
    simp only [Bool.or_eq_true, Bool.not_eq_true', decide_eq_true_eq, not_or, Nat.not_lt,
      Bool.not_eq_false] at hgo
    obtain ⟨hcounted, hfew, hsmall⟩ := evict_room event.bytes hgo.2 buffer.events buffer.bytesUsed
      h.counted
    refine ⟨?_, ?_, hsmall, fun hoff => ?_⟩
    · simp [hcounted]
    · simp only [List.length_append, List.length_singleton]
      omega
    · rw [show buffer.enabled = false from hoff] at hgo
      cases hgo.1

end DebugTextBuffer

end Translator.Control
