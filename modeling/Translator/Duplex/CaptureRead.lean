import Translator.Duplex.Generation
import Translator.Schemes.Run
import Translator.Wire.ValidatorRuns

/-! How captured bytes become frames. The capture process writes into a pipe; `read_frame` fills a
    buffer of its own with `read_exact` and returns a frame when the buffer is full. `run_direction`
    builds that future anew in every turn of its `select!`, and a turn that another branch wins drops
    it: what it had read by then is gone from the pipe and from everywhere else.

    So the frames that reach the segmenter continue the captured stream exactly as long as no
    provider event and no watchdog tick wins over a frame that is half read. -/

namespace Translator.Duplex
open Schemes Core
open Audio (VadError)
open Wire (Uuid)

/-! ### The queue between the read and the segmenter -/

def maxBufferedMs : Nat := 400

structure BoundedPcmQueue where
  frames : List PcmFrame
  bufferedMs : Nat
  droppedFrames : Nat
  deriving DecidableEq

namespace BoundedPcmQueue

def default : BoundedPcmQueue := ⟨[], 0, 0⟩

def push (q : BoundedPcmQueue) (frame : PcmFrame) : Except PcmFrame Unit × BoundedPcmQueue :=
  let durationMs := frame.format.frameDurationMs
  if maxBufferedMs < q.bufferedMs + durationMs then
    (.error frame, { q with droppedFrames := q.droppedFrames + 1 })
  else
    (.ok (), { q with frames := q.frames ++ [frame], bufferedMs := q.bufferedMs + durationMs })

def pop (q : BoundedPcmQueue) : Option PcmFrame × BoundedPcmQueue :=
  match q.frames with
  | [] => (none, q)
  | frame :: frames =>
    (some frame,
      { q with frames := frames, bufferedMs := q.bufferedMs - frame.format.frameDurationMs })

/-- A frame of the capture that is pushed into the empty queue comes out at once and leaves it
    empty. -/
theorem push_pop (frame : PcmFrame) (hf : frame.format = .providerDefault) :
    ∃ q, default.push frame = (.ok (), q) ∧ q.pop = (some frame, default) := by
  refine ⟨⟨[frame], 20, 0⟩, ?_, ?_⟩
  · simp [push, default, hf, StreamPcmFormat.providerDefault, maxBufferedMs]
  · simp [pop, default, hf, StreamPcmFormat.providerDefault]

end BoundedPcmQueue

/-! ### The loop and its pipe -/

structure CaptureLoop where
  loop : DirectionLoop
  barrier : GenerationPolicyBarrier
  captureSequence : Nat
  captureQueue : BoundedPcmQueue
  /-- Written into the pipe and not read yet. -/
  unread : List UInt8
  /-- What the live `read_frame` has read of its frame. -/
  buffer : List UInt8
  /-- The frames handed to the segmenter. -/
  handed : List PcmFrame
  /-- Everything the capture process has written. -/
  written : List UInt8

namespace CaptureLoop

def new {direction : AudioDirection} (p : PreparedDirection direction) : CaptureLoop :=
  ⟨.new p, .default, 0, .default, [], [], [], []⟩

variable (c : CaptureLoop)

/-- The PCM the segmenter has been given, end to end. -/
def delivered : List UInt8 := c.handed.flatMap PcmFrame.pcm

/-- A branch of the `select!` has won: the read future is gone. -/
def enter (ran : Ran) : CaptureLoop :=
  { c with loop := ran.loop, barrier := ran.barrier, buffer := [] }

/-- A frame has been read in full: the body of the capture branch. -/
def capture (pcm : List UInt8) (startedNs : Nat) (voice : Except VadError Bool) (freshId : Uuid) :
    CaptureLoop :=
  match PcmFrame.tryNew (UInt64.ofNat c.captureSequence) startedNs .providerDefault pcm with
  | .error _ => c.enter (c.loop.fail c.barrier)
  | .ok frame =>
    let c := { c with captureSequence := saturatingAdd c.captureSequence 1 }
    match c.captureQueue.push frame with
    | (.error _, captureQueue) =>
      { c with captureQueue := captureQueue }.enter (c.loop.fail c.barrier)
    | (.ok (), captureQueue) =>
      match captureQueue.pop with
      | (none, captureQueue) => { c with captureQueue := captureQueue, buffer := [] }
      | (some frame, captureQueue) =>
        { c with
          captureQueue := captureQueue
          handed := c.handed ++ [frame] }.enter (c.loop.capture c.barrier frame voice freshId)

/-- The read future is polled with up to `count` bytes to be had. -/
def poll (count startedNs : Nat) (voice : Except VadError Bool) (freshId : Uuid) : CaptureLoop :=
  let missing := StreamPcmFormat.providerDefault.frameBytes - c.buffer.length
  let read := c.unread.take (min count missing)
  let c := { c with unread := c.unread.drop (min count missing), buffer := c.buffer ++ read }
  if c.buffer.length = StreamPcmFormat.providerDefault.frameBytes then
    c.capture c.buffer startedNs voice freshId
  else c

inductive Op where
  /-- The capture process writes. -/
  | write (chunk : List UInt8)
  /-- The `select!` comes to the capture branch. -/
  | poll (signals : Signals) (count startedNs : Nat) (voice : Except VadError Bool) (freshId : Uuid)
  /-- Another branch is ready, or what the loop waits for inside a branch is done. -/
  | wake (signals : Signals) (w : Wake)

/-- Another branch than the capture wins the `select!`. -/
def wins (signals : Signals) : Wake → Bool
  | .stop => signals.stop
  | .generationStop => !signals.stop && signals.generationStop
  | .providerEvent .. | .providerLost | .captureLost | .tick .. =>
    !(signals.stop || signals.generationStop)
  | .captured .. | .resumed _ => false

def step : Op → CaptureLoop
  | .write chunk => { c with unread := c.unread ++ chunk, written := c.written ++ chunk }
  | .poll signals count startedNs voice freshId =>
    match c.loop.phase with
    | .selecting =>
      if signals.stop || signals.generationStop then c else c.poll count startedNs voice freshId
    | _ => c
  | .wake signals w =>
    match c.loop.phase, w with
    | _, .captured .. => c
    | .selecting, w =>
      if wins signals w then c.enter (c.loop.wake c.barrier signals w) else c
    | _, w =>
      let ran := c.loop.wake c.barrier signals w
      { c with loop := ran.loop, barrier := ran.barrier }

def apply (c : CaptureLoop) (op : Op) : Unit × CaptureLoop := ((), c.step op)

/-- A provider event or a tick wins over a frame that is half read. -/
def DropsHalfFrame (op : Op) : Prop :=
  ∃ signals w, op = .wake signals w ∧ c.loop.phase = .selecting ∧ wins signals w = true
    ∧ ((∃ event nowNs, w = .providerEvent event nowNs) ∨ ∃ nowNs, w = .tick nowNs) ∧ c.buffer ≠ []

/-! ### No byte is lost -/

/-- The loop will read no more. -/
def Over : Phase → Prop
  | .closing _ | .exited _ => True
  | _ => False

/-- The bytes written are the bytes delivered, the bytes in the buffer and the bytes in the pipe; a
    loop that is over may have thrown some away. -/
structure Aligned : Prop where
  queue : c.captureQueue = .default
  stream : (Over c.loop.phase ∧ c.delivered <+: c.written)
    ∨ c.written = c.delivered ++ c.buffer ++ c.unread

variable {c} {l : DirectionLoop} {b : GenerationPolicyBarrier} {signals : Signals} {w : Wake}

theorem aligned_prefix (h : Aligned c) : c.delivered <+: c.written := by
  rcases h.stream with ⟨-, hp⟩ | heq
  · exact hp
  · rw [heq, List.append_assoc]
    exact List.prefix_append ..

/-- A loop that closes or has ended never selects again. -/
theorem over_wake (h : Over l.phase) : Over (l.wake b signals w).loop.phase := by
  unfold DirectionLoop.wake
  cases hp : l.phase with
  | closing exit =>
    cases w with
    | providerEvent event nowNs =>
      simp only [DirectionLoop.closeEvent]
      split
      · split <;> exact trivial
      · exact trivial
      · exact trivial
    | providerLost => exact trivial
    | resumed done =>
      cases done with
      | false => exact trivial
      | true => rw [hp] at h; simpa [hp] using h
    | _ => simpa [hp] using h
  | exited exit => simpa [hp] using h
  | _ => rw [hp] at h; exact h.elim

/-- A branch that is neither the provider's nor the watchdog's ends the loop. -/
theorem over_select (hsel : l.phase = .selecting) (hwins : wins signals w = true)
    (hp : ∀ event nowNs, w ≠ .providerEvent event nowNs) (ht : ∀ nowNs, w ≠ .tick nowNs) :
    Over (l.wake b signals w).loop.phase := by
  simp only [DirectionLoop.wake, hsel]
  cases w with
  | stop =>
    have hstop : signals.stop = true := hwins
    simp [DirectionLoop.select, hstop, DirectionLoop.goTo, Over]
  | generationStop =>
    have hgen : (!signals.stop && signals.generationStop) = true := hwins
    simp only [DirectionLoop.select, hgen, if_true]
    trivial
  | providerEvent event nowNs => exact absurd rfl (hp event nowNs)
  | tick nowNs => exact absurd rfl (ht nowNs)
  | captured frame voice freshId => cases hwins
  | resumed done => cases hwins
  | providerLost =>
    have hgo : (signals.stop || signals.generationStop) = false := by simpa [wins] using hwins
    simp only [DirectionLoop.select, hgo]
    trivial
  | captureLost =>
    have hgo : (signals.stop || signals.generationStop) = false := by simpa [wins] using hwins
    simp only [DirectionLoop.select, hgo]
    trivial

/-- A full buffer is handed on as one frame. -/
theorem capture_full (hq : c.captureQueue = .default)
    (hlen : c.buffer.length = StreamPcmFormat.providerDefault.frameBytes) (startedNs : Nat)
    (voice : Except VadError Bool) (freshId : Uuid) :
    let c' := c.capture c.buffer startedNs voice freshId
    c'.captureQueue = .default ∧ c'.delivered = c.delivered ++ c.buffer ∧ c'.buffer = []
      ∧ c'.unread = c.unread ∧ c'.written = c.written := by
  have hnew : PcmFrame.tryNew (UInt64.ofNat c.captureSequence) startedNs .providerDefault c.buffer
      = .ok ⟨UInt64.ofNat c.captureSequence, startedNs, .providerDefault, c.buffer, hlen⟩ := by
    unfold PcmFrame.tryNew
    rw [dif_pos hlen]
  obtain ⟨q, hpush, hpop⟩ := BoundedPcmQueue.push_pop
    ⟨UInt64.ofNat c.captureSequence, startedNs, .providerDefault, c.buffer, hlen⟩ rfl
  simp only [capture, hnew, hq, hpush, hpop]
  refine ⟨rfl, ?_, rfl, rfl, rfl⟩
  simp [delivered, enter]

theorem aligned_poll (h : Aligned c) (hsel : c.loop.phase = .selecting) (count startedNs : Nat)
    (voice : Except VadError Bool) (freshId : Uuid) :
    Aligned (c.poll count startedNs voice freshId) := by
  have hstream : c.written = c.delivered ++ c.buffer ++ c.unread := by
    rcases h.stream with ⟨hover, -⟩ | heq
    · rw [hsel] at hover
      exact hover.elim
    · exact heq
  unfold poll
  dsimp only
  generalize min count _ = n
  -- reading moves bytes from the pipe to the buffer
  have hmoved : c.written = c.delivered ++ (c.buffer ++ c.unread.take n) ++ c.unread.drop n := by
    rw [hstream]
    simp
  split
  · next hfull =>
    obtain ⟨hq, hd, hb, hu, hw⟩ := capture_full
      (c := { c with unread := c.unread.drop n, buffer := c.buffer ++ c.unread.take n })
      h.queue hfull startedNs voice freshId
    refine ⟨hq, .inr ?_⟩
    rw [hw, hd, hb, hu, List.append_nil]
    exact hmoved
  · exact ⟨h.queue, .inr hmoved⟩

theorem step_wake_selecting (hsel : c.loop.phase = .selecting) :
    c.step (.wake signals w)
      = if wins signals w then c.enter (c.loop.wake c.barrier signals w) else c := by
  cases w <;> simp [step, hsel, wins]

theorem step_wake_other (hsel : c.loop.phase ≠ .selecting) :
    c.step (.wake signals w) = c ∨ c.step (.wake signals w) =
      { c with
        loop := (c.loop.wake c.barrier signals w).loop
        barrier := (c.loop.wake c.barrier signals w).barrier } := by
  simp only [step]
  split
  · exact .inl rfl
  · next hphase _ => exact absurd hphase hsel
  · exact .inr rfl

/-- Every step that drops no half-read frame keeps the bytes aligned. -/
theorem aligned_step (h : Aligned c) (op : Op) (hok : ¬ c.DropsHalfFrame op) : Aligned (c.step op) := by
  cases op with
  | write chunk =>
    refine ⟨h.queue, ?_⟩
    rcases h.stream with ⟨hover, hp⟩ | heq
    · exact .inl ⟨hover, hp.trans (List.prefix_append ..)⟩
    · right
      simp [step, delivered, heq]
  | poll signals count startedNs voice freshId =>
    simp only [step]
    split
    · next hsel =>
      split
      · exact h
      · exact aligned_poll h hsel count startedNs voice freshId
    · exact h
  | wake signals w =>
    by_cases hsel : c.loop.phase = .selecting
    · rw [step_wake_selecting hsel]
      split
      case isFalse => exact h
      next hwins =>
      have hstream : c.written = c.delivered ++ c.buffer ++ c.unread := by
        rcases h.stream with ⟨hover, -⟩ | heq
        · rw [hsel] at hover
          exact hover.elim
        · exact heq
      refine ⟨h.queue, ?_⟩
      by_cases hkind : (∃ event nowNs, w = .providerEvent event nowNs) ∨ ∃ nowNs, w = .tick nowNs
      · have hempty : c.buffer = [] := by
          by_contra hne
          exact hok ⟨signals, w, rfl, hsel, hwins, hkind, hne⟩
        right
        rw [hempty] at hstream
        exact hstream
      · left
        have hprefix : c.delivered <+: c.written := aligned_prefix h
        refine ⟨over_select hsel hwins ?_ ?_, hprefix⟩
        · rintro event nowNs rfl
          exact hkind (.inl ⟨event, nowNs, rfl⟩)
        · rintro nowNs rfl
          exact hkind (.inr ⟨nowNs, rfl⟩)
    · rcases @step_wake_other c signals w hsel with heq | heq
      · rw [heq]
        exact h
      · -- there is no read future, and the buffer stays as it is
        rw [heq]
        refine ⟨h.queue, ?_⟩
        rcases h.stream with ⟨hover, hp⟩ | hstream
        · exact .inl ⟨over_wake hover, hp⟩
        · exact .inr hstream

/-- As long as no provider event and no tick wins over a half-read frame, what the segmenter gets is
    the captured stream from its beginning. -/
theorem run_delivers_prefix {direction : AudioDirection} (p : PreparedDirection direction)
    (ops : List Op) (hadm : Adm apply (fun c op => ¬ c.DropsHalfFrame op) (new p) ops) :
    (exec apply (new p) ops).2.delivered <+: (exec apply (new p) ops).2.written :=
  aligned_prefix (exec_invariant (I := fun _ c => Aligned c) ⟨rfl, .inr rfl⟩
    (fun _ _ op h hok => aligned_step h op hok) ops hadm)

/-- A microphone direction with the default settings. -/
def plainDirection : PreparedDirection .microphone :=
  ⟨⟨.local, .microphone, .ru, .en, .balanced, .male, .piper, false⟩, 1, 2,
    ⟨none, none, none, none⟩, rfl⟩

/-- Nothing asks the loop to stop. -/
def calm : Signals := ⟨false, false, none⟩

/-- The opening of the session arrives before the first frame. -/
def openedFirst : List Op :=
  [.wake calm (.providerEvent (some Wire.ProviderEventValidator.sampleOpened) 0),
    .wake calm (.resumed true)]

/-- A tick falls between two frames, one of which arrives in two pieces. -/
def steadyRun : List Op :=
  openedFirst ++ [.write (List.replicate 600 1), .poll calm 640 0 (.ok false) 5,
    .write (List.replicate 40 2), .poll calm 640 0 (.ok false) 5, .wake calm (.tick 1),
    .write (List.replicate 640 3), .poll calm 640 0 (.ok false) 6]

theorem steadyRun_delivers_prefix :
    (exec apply (new plainDirection) steadyRun).2.delivered.length = 1280
      ∧ (exec apply (new plainDirection) steadyRun).2.delivered
        <+: (exec apply (new plainDirection) steadyRun).2.written := by
  refine ⟨by decide +kernel, run_delivers_prefix plainDirection steadyRun ?_⟩
  refine adm_cons ?_ (adm_cons ?_ (adm_cons ?_ (adm_cons ?_ (adm_cons ?_ (adm_cons ?_ (adm_cons ?_
    (adm_cons ?_ (adm_cons ?_ (adm_of_forall (by simp))))))))))
  · rintro ⟨_, _, -, -, -, -, hne⟩
    exact hne rfl
  · rintro ⟨_, _, ⟨⟩, -, hwins, -⟩
    cases hwins
  · rintro ⟨_, _, ⟨⟩, -⟩
  · rintro ⟨_, _, ⟨⟩, -⟩
  · rintro ⟨_, _, ⟨⟩, -⟩
  · rintro ⟨_, _, ⟨⟩, -⟩
  · rintro ⟨_, _, -, -, -, -, hne⟩
    exact hne (by decide +kernel)
  · rintro ⟨_, _, ⟨⟩, -⟩
  · rintro ⟨_, _, ⟨⟩, -⟩

/-- One byte has been read when the watchdog ticks. -/
def shiftedRun : List Op :=
  openedFirst ++ [.write [1], .poll calm 640 0 (.ok false) 5, .wake calm (.tick 1),
    .write (List.replicate 640 0), .poll calm 640 0 (.ok false) 6]

/-- The byte is lost, and the frame after it is shifted by one. -/
theorem shiftedRun_loses_byte :
    ¬ ∀ (p : PreparedDirection .microphone) (ops : List Op),
      (exec apply (new p) ops).2.delivered <+: (exec apply (new p) ops).2.written := by
  intro h
  have hp := h plainDirection shiftedRun
  revert hp
  decide +kernel

end CaptureLoop

end Translator.Duplex
