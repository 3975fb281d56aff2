import Translator.Control.Launch
import Translator.Latency.Observer
import Translator.Stream.DirectionSession

/-! One generation of the duplex runtime: the two direction loops of `run_direction`, the policy
    barrier they share, and the part of `run_process_duplex` that waits for them.

    Both loops are futures of one task, so a step below is what a future does between two `await`s,
    or one turn of a `select!`. A loop that has been waited for is dealt with in the very step in
    which it ends: no other future is polled in between. The audio written to the playback device,
    the messages sent to the provider and the logging are left out; whether a write or a send
    succeeds is part of the operation. -/

namespace Translator.Duplex
open Schemes Core
open Audio (CaptureEvent SpeechSegmenter VadEnvironment VadError)
open Control (DuplexRuntimeError)
open Latency (DuplexRuntimeEvent)
open Wire (Uuid ProviderEvent)
open Translator.Stream (DirectionSession DirectionRuntimeConfig DirectionEffect DirectionWatchdogEffect)

inductive DirectionExit where | stopped | restartRequired | modeChanged
  deriving DecidableEq, Repr

/-- How a direction loop ends. -/
abbrev Exit := Outcome DuplexRuntimeError DirectionExit

/-- The direction that shares the generation. -/
def peer : AudioDirection → AudioDirection
  | .microphone => .speaker
  | .speaker => .microphone

structure GenerationPolicyBarrier where
  reopenRequested : Bool
  microphoneActive : Bool
  speakerActive : Bool
  deriving DecidableEq, Repr

namespace GenerationPolicyBarrier

def default : GenerationPolicyBarrier := ⟨false, false, false⟩

variable (b : GenerationPolicyBarrier)

def requestReopen : GenerationPolicyBarrier := { b with reopenRequested := true }

def setActive (direction : AudioDirection) (active : Bool) : GenerationPolicyBarrier :=
  match direction with
  | .microphone => { b with microphoneActive := active }
  | .speaker => { b with speakerActive := active }

def isActive : AudioDirection → Bool
  | .microphone => b.microphoneActive
  | .speaker => b.speakerActive

@[simp]
theorem setActive_isActive (direction other : AudioDirection) (active : Bool) :
    (b.setActive direction active).isActive other
      = if other = direction then active else b.isActive other := by
  cases direction <;> cases other <;> rfl

@[simp]
theorem requestReopen_isActive (direction : AudioDirection) :
    b.requestReopen.isActive direction = b.isActive direction := by
  cases direction <;> rfl

end GenerationPolicyBarrier

/-- Where a direction loop is suspended. -/
inductive Phase where
  /-- At the `select!`. -/
  | selecting
  /-- Sending a captured frame, with the rest of its batch to go. -/
  | sending (rest : List CaptureEvent)
  /-- Sending what the watchdog asked for. -/
  | acting (rest : List DirectionWatchdogEffect)
  /-- Writing the queued audio after a provider event, and letting it play out when the direction
      is to be reopened. -/
  | playing (modeChangeRequested : Bool)
  /-- In `close_direction`, to end as given. -/
  | closing (exit : DirectionExit)
  | exited (exit : Exit)

/-- What a direction is started with. -/
structure PreparedDirection (direction : AudioDirection) where
  launch : DirectionRuntimeConfig
  sessionId : Uuid
  streamId : Uuid
  env : VadEnvironment
  isFor : launch.direction = direction

structure DirectionLoop where
  launch : DirectionRuntimeConfig
  session : DirectionSession
  segmenter : SpeechSegmenter
  phase : Phase

/-- What a loop sees of the others when it is polled. -/
structure Signals where
  stop : Bool
  generationStop : Bool
  /-- `requested_mode` of the observer, for this direction. -/
  requestedMode : Option TranslationMode

/-- What wakes a loop. -/
inductive Wake where
  | stop
  | generationStop
  | providerEvent (event : ProviderEvent) (nowNs : Nat)
  | providerLost
  | captured (frame : PcmFrame) (voice : Except VadError Bool) (freshId : Uuid)
  | captureLost
  | tick (nowNs : Nat)
  /-- What the loop was waiting for inside a branch is done, or has failed. -/
  | resumed (done : Bool)

/-- What a loop told the observer, and what it left. -/
structure Ran where
  observed : List DuplexRuntimeEvent
  barrier : GenerationPolicyBarrier
  loop : DirectionLoop

namespace DirectionLoop

def new {direction : AudioDirection} (p : PreparedDirection direction) : DirectionLoop where
  launch := p.launch
  session := .new p.launch p.sessionId p.streamId
  segmenter := .new p.streamId p.env
  phase := .selecting

variable (l : DirectionLoop)

def direction : AudioDirection := l.launch.direction

/-- The loop in another phase, with nothing told and the barrier as it was. -/
def goTo (b : GenerationPolicyBarrier) (phase : Phase) : Ran := ⟨[], b, { l with phase := phase }⟩

/-- The loop ends with an error. -/
def fail (b : GenerationPolicyBarrier) : Ran := l.goTo b (.exited (.err .startFailed))

/-! ### Captured frames -/

/-- The barrier and the observer hear of an utterance before the session does. -/
def announce (b : GenerationPolicyBarrier) :
    CaptureEvent → List DuplexRuntimeEvent × GenerationPolicyBarrier
  | .speechStarted _ u ns => ([.speechStarted l.direction u ns], b.setActive l.direction true)
  | .frame .. => ([], b)

/-- The `for event in events` of the capture branch, up to the next frame to send. -/
def handleCaptured (l : DirectionLoop) (b : GenerationPolicyBarrier) : List CaptureEvent → Ran
  | [] => l.goTo b .selecting
  | event :: rest =>
    let (observed, b) := l.announce b event
    match l.session.handleCapture event with
    | (.ok none, session) =>
      let ran := handleCaptured { l with session := session } b rest
      { ran with observed := observed ++ ran.observed }
    | (.ok (some _), session) => ⟨observed, b, { l with session := session, phase := .sending rest }⟩
    | (.err _, session) =>
      ⟨observed, b, { l with session := session, phase := .exited (.err .startFailed) }⟩
    | (.panic, session) => ⟨observed, b, { l with session := session, phase := .exited .panic }⟩

/-- The capture branch. -/
def capture (b : GenerationPolicyBarrier) (frame : PcmFrame) (voice : Except VadError Bool)
    (freshId : Uuid) : Ran :=
  match l.segmenter.process frame voice freshId with
  | (.ok events, segmenter) => { l with segmenter := segmenter }.handleCaptured b events
  | (.err _, segmenter) => { l with segmenter := segmenter }.fail b
  | (.panic, segmenter) => { l with segmenter := segmenter }.goTo b (.exited .panic)

/-! ### Provider events -/

/-- `mode_change_after_event` at a terminal: the observer asks for another mode. -/
def modeChanged (requestedMode : Option TranslationMode) : Bool :=
  match requestedMode with
  | none => false
  | some mode => mode ≠ l.launch.mode

/-- The barrier after a terminal. -/
def settle (b : GenerationPolicyBarrier) (requestedMode : Option TranslationMode) :
    GenerationPolicyBarrier :=
  let b := b.setActive l.direction false
  if l.modeChanged requestedMode then b.requestReopen else b

/-- One effect: what the observer is told, the barrier, and `mode_change_requested`. -/
def effect (requestedMode : Option TranslationMode) (nowNs : Nat)
    (acc : List DuplexRuntimeEvent × GenerationPolicyBarrier × Bool) :
    DirectionEffect → List DuplexRuntimeEvent × GenerationPolicyBarrier × Bool
  | .playback .. => acc
  | .transcriptFinal u => (acc.1 ++ [.transcriptFinal l.direction u], acc.2)
  | .translationFinal u => (acc.1 ++ [.translationFinal l.direction u], acc.2)
  | .latency u _ _ => (acc.1 ++ [.providerLatency l.direction u], acc.2)
  | .providerError u _ _ => (acc.1 ++ [.providerError l.direction u], acc.2)
  | .utteranceTerminalOutcome u _ =>
    (acc.1 ++ [.utteranceTerminalOutcome l.direction u], acc.2)
  | .utteranceTerminal u =>
    (acc.1 ++ [.utteranceTerminal l.direction u], l.settle acc.2.1 requestedMode,
      (l.settle acc.2.1 requestedMode).reopenRequested)
  | .expiredAudio u _ => (acc.1 ++ [.firstAudioExpired l.direction u nowNs], acc.2)
  | .sessionClosed => acc

/-- The provider branch, up to the writing of the queued audio. -/
def handleEvent (b : GenerationPolicyBarrier) (requestedMode : Option TranslationMode)
    (event : ProviderEvent) (nowNs : Nat) : Ran :=
  match l.session.handleProviderEvent event nowNs with
  | (.ok effects, session) =>
    let l := { l with session := session }
    let (observed, b, changed) := effects.foldl (l.effect requestedMode nowNs) ([], b, false)
    ⟨observed, b, { l with phase := .playing changed }⟩
  | (.err _, session) => { l with session := session }.fail b
  | (.panic, session) => { l with session := session }.goTo b (.exited .panic)

/-! ### The watchdog and the close -/

/-- The `for effect in effects` of the watchdog branch. -/
def act (b : GenerationPolicyBarrier) : List DirectionWatchdogEffect → Ran
  | [] => l.goTo b .selecting
  | .restartSidecar :: _ => l.goTo b (.exited (.ok .restartRequired))
  | .send _ :: rest | .purgeAndSend _ :: rest => l.goTo b (.acting rest)

def tick (b : GenerationPolicyBarrier) (nowNs : Nat) : Ran :=
  match l.session.poll nowNs with
  | (.ok effects, session) => { l with session := session }.act b effects
  | (.err _, session) => { l with session := session }.fail b
  | (.panic, session) => { l with session := session }.goTo b (.exited .panic)

/-- What a failure inside `close_direction` comes to: at a shutdown it is ignored. -/
def closeFailure (exit : DirectionExit) : Exit :=
  if exit = .stopped then .ok .stopped else .err .startFailed

/-- An event that arrives while the direction closes; its effects are not reported. -/
def closeEvent (b : GenerationPolicyBarrier) (exit : DirectionExit) (event : ProviderEvent)
    (nowNs : Nat) : Ran :=
  match l.session.handleProviderEvent event nowNs with
  | (.ok effects, session) =>
    if .sessionClosed ∈ effects then { l with session := session }.goTo b (.exited (.ok exit))
    else { l with session := session }.goTo b (.closing exit)
  | (.err _, session) => { l with session := session }.goTo b (.exited (closeFailure exit))
  | (.panic, session) => { l with session := session }.goTo b (.exited .panic)

/-! ### One turn of a loop -/

/-- The branches of the `select!`. It is biased, so an event, a frame or a tick is looked at only
    when neither stop is pending. -/
def select (b : GenerationPolicyBarrier) (signals : Signals) : Wake → Ran
  | .stop => if signals.stop then l.goTo b (.closing .stopped) else ⟨[], b, l⟩
  | .generationStop =>
    if !signals.stop && signals.generationStop then l.goTo b (.closing .restartRequired)
    else ⟨[], b, l⟩
  | wake =>
    if signals.stop || signals.generationStop then ⟨[], b, l⟩
    else
      match wake with
      | .providerEvent event nowNs => l.handleEvent b signals.requestedMode event nowNs
      | .captured frame voice freshId => l.capture b frame voice freshId
      | .tick nowNs => l.tick b nowNs
      | .providerLost | .captureLost => l.fail b
      | _ => ⟨[], b, l⟩

/-- A loop is woken. What does not concern its phase leaves it as it is. -/
def wake (b : GenerationPolicyBarrier) (signals : Signals) (w : Wake) : Ran :=
  match l.phase with
  | .selecting => l.select b signals w
  | .sending rest =>
    match w with
    | .resumed true => l.handleCaptured b rest
    | .resumed false => l.fail b
    | _ => ⟨[], b, l⟩
  | .acting rest =>
    match w with
    | .resumed true => l.act b rest
    | .resumed false => l.fail b
    | _ => ⟨[], b, l⟩
  | .playing changed =>
    match w with
    | .resumed true => l.goTo b (if changed then .closing .modeChanged else .selecting)
    | .resumed false => l.fail b
    | _ => ⟨[], b, l⟩
  | .closing exit =>
    match w with
    | .providerEvent event nowNs => l.closeEvent b exit event nowNs
    | .providerLost | .resumed false => l.goTo b (.exited (closeFailure exit))
    | _ => ⟨[], b, l⟩
  | .exited _ => ⟨[], b, l⟩

end DirectionLoop

/-! ### The generation -/

/-- What `run_process_duplex` was woken by. -/
inductive Finished where
  | stop
  | direction (direction : AudioDirection) (result : Exit)
  deriving DecidableEq

structure Generation where
  microphone : Option DirectionLoop
  speaker : Option DirectionLoop
  barrier : GenerationPolicyBarrier
  stop : Bool
  generationStop : Bool
  finished : Option Finished
  /-- The modes the latency policy asks for. -/
  requestedMode : AudioDirection → Option TranslationMode

namespace Generation

/-- The sessions are taken from their creation on: the events that open them come first. -/
def new (microphone : Option (PreparedDirection .microphone))
    (speaker : Option (PreparedDirection .speaker))
    (requestedMode : AudioDirection → Option TranslationMode) : Generation where
  microphone := microphone.map .new
  speaker := speaker.map .new
  barrier := .default
  stop := false
  generationStop := false
  finished := none
  requestedMode := requestedMode

variable (g : Generation)

def loop : AudioDirection → Option DirectionLoop
  | .microphone => g.microphone
  | .speaker => g.speaker

def setLoop (l : DirectionLoop) : AudioDirection → Generation
  | .microphone => { g with microphone := some l }
  | .speaker => { g with speaker := some l }

def shouldWaitForPolicyPeer (result : Exit) (peerDirection : AudioDirection)
    (b : GenerationPolicyBarrier) : Bool :=
  result = .ok .modeChanged && b.isActive peerDirection

/-- The loop that ends first: unless its peer is to be waited for, the peer is stopped. A loop that
    ends later is only awaited. -/
def finish (direction : AudioDirection) (result : Exit) : Generation :=
  match g.finished with
  | some _ => g
  | none =>
    { g with
      finished := some (.direction direction result)
      generationStop :=
        g.generationStop ||
          (g.loop (peer direction)).isSome &&
            !shouldWaitForPolicyPeer result (peer direction) g.barrier }

inductive Op where
  /-- The latency policy changes the mode of a direction. -/
  | policy (direction : AudioDirection) (mode : Option TranslationMode)
  /-- The daemon asks the runtime to stop, and `run_process_duplex` notices. -/
  | stop
  | stopSeen
  | wake (direction : AudioDirection) (wake : Wake)

/-- What a woken loop leaves behind. A loop that panics takes the task with it. -/
def afterWake (direction : AudioDirection) (ran : Ran) : Generation :=
  let g := { g with barrier := ran.barrier }.setLoop ran.loop direction
  match ran.loop.phase with
  | .exited .panic => { g with finished := some (.direction direction .panic) }
  | .exited result => g.finish direction result
  | _ => g

def panicked : Bool :=
  match g.finished with
  | some (.direction _ .panic) => true
  | _ => false

def apply (g : Generation) : Op → List DuplexRuntimeEvent × Generation
  | .policy direction mode =>
    ([], { g with requestedMode := Function.update g.requestedMode direction mode })
  | .stop => ([], { g with stop := true })
  | .stopSeen =>
    if g.stop && g.finished.isNone then
      ([], { g with finished := some .stop, generationStop := true })
    else ([], g)
  | .wake direction w =>
    match g.loop direction, g.panicked with
    | none, _ | _, true => ([], g)
    | some l, false =>
      let ran := l.wake g.barrier ⟨g.stop, g.generationStop, g.requestedMode direction⟩ w
      (ran.observed, g.afterWake direction ran)

end Generation

end Translator.Duplex
