import Translator.Control.Settings
import Translator.Schemes.Interleave

/-! The debug text is switched in two places: the buffer, behind its own mutex, and then the flag of the
    snapshot, behind the lock of the snapshot. Between the two another call may run. -/

namespace Translator.Control
open Schemes

namespace RuntimeSettings

variable (s : RuntimeSettings)

/-- The first section of `setDebugTextEnabled`: the buffer. -/
def switchDebugText (enabled : Bool) : RuntimeSettings :=
  { s with debugText := s.debugText.setEnabled enabled }

/-- The second section: the flag that is reported, and the text of the self test. -/
def reportDebugText (enabled : Bool) : RuntimeSettings :=
  let s := s.withStore (s.toRuntimeStore.setDebugTextEnabled enabled)
  if enabled then s else { s with selfTest := s.selfTest.withoutDebugText }

def recordDebugText (event : DebugTextEvent) : Bool × RuntimeSettings :=
  let (recorded, debugText) := s.debugText.push event
  (recorded, { s with debugText := debugText })

/-- Alone, a call runs its two sections one after the other. -/
theorem setDebugTextEnabled_sections (enabled : Bool) :
    s.setDebugTextEnabled enabled = (s.switchDebugText enabled).reportDebugText enabled := rfl

/-- The buffer is on exactly when it is reported on, and nothing is kept while it is reported off. -/
structure DebugTextReported : Prop where
  enabled : s.debugText.enabled = s.snapshot.debugTextEnabled
  off : s.snapshot.debugTextEnabled = false → s.debugText.events = []

variable {s}

@[simp] theorem reportDebugText_debugText (enabled : Bool) :
    (s.reportDebugText enabled).debugText = s.debugText := by
  unfold reportDebugText
  split <;> rfl

@[simp] theorem reportDebugText_reported (enabled : Bool) :
    (s.reportDebugText enabled).snapshot.debugTextEnabled = enabled := by
  unfold reportDebugText
  split <;> rfl

end RuntimeSettings

inductive DebugTextCall where
  | setDebugTextEnabled (enabled : Bool)
  | recordDebugText (event : DebugTextEvent)
  deriving DecidableEq

/-- What is left of a `setDebugTextEnabled` that has switched the buffer: to write the flag. -/
structure DebugTextReport where
  enabled : Bool
  deriving DecidableEq

namespace DebugTextCall

def first : DebugTextCall → RuntimeSettings → Option DebugTextReport × RuntimeSettings
  | .setDebugTextEnabled enabled, s => (some ⟨enabled⟩, s.switchDebugText enabled)
  | .recordDebugText event, s => (none, (s.recordDebugText event).2)

def next (report : DebugTextReport) (s : RuntimeSettings) : Option DebugTextReport × RuntimeSettings :=
  (none, s.reportDebugText report.enabled)

/-- Calls on the debug text, interleaved. -/
def run (s : RuntimeSettings) (turns : List (Interleave.Turn DebugTextCall)) :
    Interleave RuntimeSettings DebugTextReport :=
  (exec (Interleave.turn first next) ⟨s, []⟩ turns).2

/-- No call that has its flag still to write switched the buffer the other way. -/
def inOrder (_ : RuntimeSettings) (reports : List DebugTextReport) : DebugTextCall → Bool
  | .setDebugTextEnabled enabled => reports.all fun report => report.enabled == enabled
  | .recordDebugText _ => true

/-- Every call that switches the buffer does so in order. -/
def InOrder (s : RuntimeSettings) (turns : List (Interleave.Turn DebugTextCall)) : Prop :=
  Adm (Interleave.turn first next) (fun w turn => w.meets inOrder turn = true) ⟨s, []⟩ turns

/-- A call that has its flag still to write will write what the buffer is, and when there is none the
    flag says it already. -/
structure Tracked (s : RuntimeSettings) (reports : List DebugTextReport) : Prop where
  kept : s.debugText.Kept
  pending : ∀ report ∈ reports, report.enabled = s.debugText.enabled
  settled : reports = [] → s.debugText.enabled = s.snapshot.debugTextEnabled

variable {s : RuntimeSettings} {reports before after : List DebugTextReport}

theorem tracked_first (h : Tracked s reports) (call : DebugTextCall)
    (hok : inOrder s reports call = true) :
    Tracked (first call s).2 (reports ++ (first call s).1.toList) := by
  cases call with
  | setDebugTextEnabled enabled =>
    refine ⟨DebugTextBuffer.kept_setEnabled h.kept enabled, ?_, fun hnil => by simp [first] at hnil⟩
    intro report hmem
    rcases List.mem_append.mp hmem with hold | hnew
    · have hsame := List.all_eq_true.mp hok report hold
      simpa [first, RuntimeSettings.switchDebugText] using hsame
    · rw [List.mem_singleton.mp hnew]
      simp [first, RuntimeSettings.switchDebugText]
  | recordDebugText event =>
    simp only [first, RuntimeSettings.recordDebugText, Option.toList_none, List.append_nil]
    exact ⟨DebugTextBuffer.kept_push h.kept event, by simpa using h.pending, by simpa using h.settled⟩

/-- Writing the flag: it becomes what the buffer is, whatever other calls are still to write. -/
theorem tracked_next {report : DebugTextReport} (h : Tracked s (before ++ report :: after)) :
    Tracked (next report s).2 (before ++ (next report s).1.toList ++ after) := by
  have hreport : report.enabled = s.debugText.enabled := h.pending report (by simp)
  refine ⟨by simpa [next] using h.kept, ?_, fun _ => by simp [next, hreport]⟩
  intro other hmem
  simp only [next, Option.toList_none, List.append_nil, RuntimeSettings.reportDebugText_debugText]
    at hmem ⊢
  refine h.pending other ?_
  rcases List.mem_append.mp hmem with hbefore | hafter
  · exact List.mem_append_left _ hbefore
  · exact List.mem_append_right _ (List.mem_cons_of_mem _ hafter)

/-- When every call switches the buffer in order, the buffer is as reported whenever no call is in
    progress. -/
theorem run_debugTextReported (h : s.DebugTextReported) (hkept : s.debugText.Kept)
    (turns : List (Interleave.Turn DebugTextCall)) (horder : InOrder s turns)
    (hquiet : (run s turns).Quiescent) : (run s turns).shared.DebugTextReported := by
  have htracked : Tracked (run s turns).shared (run s turns).calls :=
    Interleave.exec_invariant (I := Tracked)
      ⟨hkept, fun _ hmem => absurd hmem List.not_mem_nil, fun _ => h.enabled⟩
      (fun _ _ call ht hok => tracked_first ht call hok) (fun _ _ _ _ ht => tracked_next ht)
      turns horder
  have henabled := htracked.settled hquiet
  exact ⟨henabled, fun hoff => htracked.kept.off (henabled.trans hoff)⟩

def someEvent : DebugTextEvent := ⟨"hello", "hallo"⟩

/-- On and off again, with the switches of the second call within the first. -/
def overlapped : List (Interleave.Turn DebugTextCall) :=
  [.begin (.setDebugTextEnabled true), .begin (.setDebugTextEnabled true), .resume 0, .resume 0,
    .begin (.recordDebugText someEvent), .begin (.setDebugTextEnabled false), .resume 0]

theorem run_debugTextReported_overlapped :
    (run .default overlapped).Quiescent ∧ (run .default overlapped).shared.DebugTextReported := by
  have hquiet : (run .default overlapped).Quiescent := by
    unfold Interleave.Quiescent
    decide +kernel
  refine ⟨hquiet, run_debugTextReported ⟨rfl, fun _ => rfl⟩ DebugTextBuffer.kept_default overlapped
    (adm_of_walk ?_) hquiet⟩
  decide +kernel

/-- On overtakes off: it switches the buffer and reports it before the flag of the other call is written,
    and what is said from then on is kept while the debug text is reported off. -/
def overtaken : List (Interleave.Turn DebugTextCall) :=
  [.begin (.setDebugTextEnabled false), .begin (.setDebugTextEnabled true), .resume 1, .resume 0,
    .begin (.recordDebugText someEvent)]

theorem debugText_overtaken :
    ¬ ∀ turns, (run .default turns).Quiescent → (run .default turns).shared.DebugTextReported := by
  intro h
  have hquiet : (run .default overtaken).Quiescent := by
    unfold Interleave.Quiescent
    decide +kernel
  have hreported : (run .default overtaken).shared.snapshot.debugTextEnabled = false := by
    decide +kernel
  have hkept : (run .default overtaken).shared.debugText.events = [someEvent] := by
    decide +kernel
  have hoff := (h overtaken hquiet).off hreported
  rw [hkept] at hoff
  cases hoff

end DebugTextCall

end Translator.Control
