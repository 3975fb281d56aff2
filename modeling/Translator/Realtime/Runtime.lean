import Translator.Realtime.Session
import Translator.Schemes.EventLoop

/-! The methods of `OpenAIRealtimeProvider` as coroutines of one event loop, over one session.

    What they wait for is the session's lock, the transport to be drained, a call in another thread, the
    close event, or time. A publication waits for the transport when it is not drained, is put on the
    wire as a whole and leaves the transport undrained; it never fails. Each message of the websocket is
    handled by a task of its own, which begins when the one before it has gone back for another.

    The session is there until it is removed. Opening it and the cancellation of the receiver by
    `wait_publications` are left out. -/

namespace Translator.Realtime
open Schemes
open Wire (Uuid)
open Sidecar (OpenProviderSession ProviderInputFrame SafeErrorCode UtteranceOutcome)
open OpenAISession (ProtocolError)

structure World where
  session : OpenAISession
  /-- `event_drained`. -/
  drained : Bool
  /-- The provider does not know the session any more. -/
  removed : Bool

/-- What a method waits for, the lock apart. -/
inductive Awaited where
  | drained
  /-- `ws.send` and `ws.close`, in a thread. -/
  | send
  | socketClose
  | sleep
  /-- The close event, for two seconds at most. -/
  | closedEvent
  deriving DecidableEq

inductive RuntimeError where
  | protocol (error : ProtocolError)
  | sendFailed
  | adapter (error : AdapterError)
  /-- What `json.loads` raised is not a `JSONDecodeError`. -/
  | undecodable
  deriving DecidableEq, Repr

/-- A method returns, or the receiver goes back for another message. -/
inductive Flow where | returned | again
  deriving DecidableEq, Repr

abbrev Method (α : Type) : Type := Coro World Awaited RuntimeError α

def session : Method OpenAISession := do return (← Coro.get).session

def updateSession (f : OpenAISession → OpenAISession) : Method Unit :=
  Coro.modify fun w => { w with session := f w.session }

/-- `_active_session`. -/
def requireActive : Method Unit := do
  let w ← Coro.get
  if w.removed || w.session.closed then Coro.throw (.protocol .openSessionRequired)

/-! ### Publication -/

/-- `_publish_locked`, with `publish_local` as the publisher. -/
def publishLocked (batch : List ProviderEvent) : Method Unit := do
  let _ ← Coro.await .drained
  Coro.modify fun w => { w with session := w.session.commit batch, drained := false }

/-- Number some events and publish them. -/
def publishBodies (bodies : List Body) : Method Unit := do
  let s ← session
  updateSession (·.takeNumbers bodies.length)
  publishLocked (s.number bodies)

def publishPendingAudioLocked (utteranceId : Uuid) : Method Unit := do
  let s ← session
  match s.utterance utteranceId with
  | none => pure ()
  | some u =>
    if u.pendingAudio.isEmpty then pure ()
    else
      updateSession (·.takePending utteranceId)
      publishBodies (u.pendingAudio.map .audioDelta)

def publishOverflowDropLocked (utteranceId : Uuid) : Method Unit := do
  let s ← session
  match s.utterance utteranceId with
  | none => pure ()
  | some u =>
    if u.finalSent then pure ()
    else
      updateSession (·.markFinal utteranceId)
      publishBodies [.error (some u.streamId) (some utteranceId) .queueOverflow true,
        .utteranceFinal u.streamId utteranceId none .dropped]

def publishFinalLocked (utteranceId : Uuid) (outcome : UtteranceOutcome) : Method Unit := do
  updateSession (·.cancelFinalTask utteranceId)
  let s ← session
  match s.utterance utteranceId with
  | none => pure ()
  | some u =>
    if u.finalSent then pure ()
    else
      updateSession fun s => (s.markFinal utteranceId).retire utteranceId
      publishBodies [.utteranceFinal u.streamId utteranceId u.lastAudioSequence outcome]

def publishClosedLocked (reason : SessionCloseReason) : Method Unit := do
  let s ← session
  if s.closedPublished then updateSession (·.closedEventSet)
  else
    updateSession (·.markClosed)
    publishBodies [.sessionClosed reason]
    updateSession (·.closedEventSet)

def publishProviderErrorLocked : Method Unit :=
  publishBodies [.error none none .providerUnavailable true]

/-! ### The methods of the contract -/

variable (codec : Codec)

def submitFrame (frame : ProviderInputFrame) : Method Flow := do
  requireActive
  Coro.withLock do
    let s ← session
    match s.validateFrame frame with
    | some error => Coro.throw (.protocol error)
    | none =>
      updateSession (·.hear frame)
      if s.blocks frame.utteranceId then
        updateSession (·.noteDropped frame)
        if frame.endOfUtterance then publishOverflowDropLocked frame.utteranceId else pure ()
      else
        updateSession fun s => (s.takeFrame frame).forward codec frame
        let sent ← Coro.await .send
        if !sent then Coro.throw .sendFailed
        else if frame.endOfUtterance then do
          updateSession (·.completeInput frame.utteranceId)
          publishPendingAudioLocked frame.utteranceId
          updateSession (·.scheduleAfterInput frame.utteranceId)
        else pure ()
  return .returned

def cancelUtterance (utteranceId : Uuid) : Method Flow := do
  requireActive
  Coro.withLock do
    let s ← session
    match s.utterance utteranceId with
    | none => pure ()
    | some u =>
      if u.finalSent then pure ()
      else publishFinalLocked utteranceId .cancelled
  return .returned

def updateDebugText (enabled : Bool) : Method Flow := do
  requireActive
  Coro.withLock (updateSession fun s => { s with debugTextEnabled := enabled })
  return .returned

/-- The first part of `close_session`: whether the close is still to be asked for, or nothing where the
    session is closed already. -/
def requestClose (reason : SessionCloseReason) : Method (Option Bool) :=
  Coro.withLock do
    let s ← session
    if s.closedPublished then return none
    else
      updateSession (·.closeRequest reason)
      return some !s.closeRequested

/-- The close that was not acknowledged. -/
def closeTimedOut : Method Unit :=
  Coro.withLock do
    let s ← session
    if s.closedPublished then pure ()
    else
      updateSession fun s => { s with closed := true }
      let _ ← Coro.await .socketClose
      publishClosedLocked .closeTimeout

def closeSession (reason : CloseRequestReason) : Method Flow := do
  let w ← Coro.get
  if w.removed then return .returned
  else
    match ← requestClose (closeReason reason) with
    | none => return .returned
    | some sendClose =>
      let _ ← if sendClose then Coro.await .send else pure true
      let acknowledged ← Coro.await .closedEvent
      if acknowledged then
        let _ ← Coro.await .socketClose
        return .returned
      else
        closeTimedOut
        return .returned

/-! ### The receiver -/

def handleRealtimeEventLocked (event : List (PyStr × Json)) (nowNs : Nat) : Method Unit := do
  let s ← session
  match s.currentStreamId, s.currentUtteranceId with
  | some streamId, some utteranceId =>
    let mapped := s.adapter.mapRealtimeEvents codec s.debugTextEnabled event streamId utteranceId nowNs
    updateSession fun s => { s with adapter := mapped.2 }
    match mapped.1 with
    | .error error => Coro.throw (.adapter error)
    | .ok items =>
      if items.isEmpty then pure ()
      else
        updateSession (·.setDefault (.new streamId utteranceId false))
        let s ← session
        if ((s.utterance utteranceId).map UtteranceState.finalSent).getD false then pure ()
        else
          let converted := (s.takeItems codec utteranceId items).1
          updateSession fun s => (s.takeItems codec utteranceId items).2
          if converted.isEmpty then pure ()
          else
            publishBodies converted
            if converted.any fun body => match body with | .audioDelta _ => true | _ => false then
              updateSession (·.scheduleFinal utteranceId finalIdleMs .completed)
            else pure ()
  | _, _ => pure ()

/-- The receiver looks for its session again before the next message. -/
def nextMessage : Method Flow := do
  let w ← Coro.get
  return if w.removed then .returned else .again

def publishReceiveFailure : Method Unit :=
  Coro.withLock do
    let s ← session
    if s.closed then pure ()
    else
      updateSession fun s => { s with closed := true }
      publishProviderErrorLocked
      publishClosedLocked .providerFailure

/-- A message of the session, under the lock: whether it closed the session. -/
def handleMessage (event : List (PyStr × Json)) (nowNs : Nat) : Method Bool :=
  Coro.withLock do
    let eventType := (Json.get event (pyStr "type")).bind Json.string?
    if eventType = some (pyStr "session.closed") then
      updateSession fun s => { s with closed := true }
      let s ← session
      publishClosedLocked (s.requestedCloseReason.getD .userStop)
      return true
    else if eventType = some (pyStr "error") then
      publishProviderErrorLocked
      return false
    else
      handleRealtimeEventLocked codec event nowNs
      return false

/-- One turn of `_receive_loop`, once `ws.recv` has returned a message. -/
def receiveMessage (raw : RawMessage) (nowNs : Nat) : Method Flow :=
  match codec.loads raw with
  | .decodeError => nextMessage
  | .raised => Coro.throw .undecodable
  | .value (.object event) => do
    if ← handleMessage codec event nowNs then return .returned
    else nextMessage
  | .value _ => nextMessage

/-- The last turn of `_receive_loop`, when `ws.recv` has raised. -/
def receiveFailed : Method Flow := do
  publishReceiveFailure
  return .returned

/-- `_delayed_final`. -/
def delayedFinal (task : FinalTask) : Method Flow := do
  let _ ← Coro.await .sleep
  let w ← Coro.get
  if w.removed then return .returned
  else
    Coro.withLock do
      let s ← session
      match s.utterance task.utteranceId with
      | none => pure ()
      | some u =>
        if u.finalSent || !u.inputComplete then pure ()
        else
          publishPendingAudioLocked task.utteranceId
          publishFinalLocked task.utteranceId task.outcome
    return .returned

/-! ### The event loop -/

inductive Call where
  | submitFrame (frame : ProviderInputFrame)
  | cancelUtterance (utteranceId : Uuid)
  | updateDebugText (enabled : Bool)
  | closeSession (reason : CloseRequestReason)
  | receiveMessage (raw : RawMessage) (nowNs : Nat)
  | receiveFailed
  | delayedFinal (number : Nat) (task : FinalTask)

/-- A turn of the receiver. -/
def Call.isReceive : Call → Bool
  | .receiveMessage .. | .receiveFailed => true
  | _ => false

def Call.isDelayedFinal (number : Nat) : Call → Bool
  | .delayedFinal other _ => other = number
  | _ => false

inductive Change where
  /-- The transport is drained, or another stream has filled it. -/
  | transport (drained : Bool)
  | removed

def Call.method : Call → Method Flow
  | .submitFrame frame => Realtime.submitFrame codec frame
  | .cancelUtterance utteranceId => Realtime.cancelUtterance utteranceId
  | .updateDebugText enabled => Realtime.updateDebugText enabled
  | .closeSession reason => Realtime.closeSession reason
  | .receiveMessage raw nowNs => Realtime.receiveMessage codec raw nowNs
  | .receiveFailed => Realtime.receiveFailed
  | .delayedFinal _ task => Realtime.delayedFinal task

/-- The receiver has one turn at a time and none after its last one; a final task is the one that was
    created, and runs once. -/
def begins (w : World) (calls : List Call) (finished : List (Call × Except (Raised RuntimeError) Flow)) :
    Call → Bool
  | .receiveMessage .. | .receiveFailed =>
    !calls.any Call.isReceive
      && finished.all fun (call, result) => !call.isReceive || match result with | .ok .again => true | _ => false
  | .delayedFinal number task =>
    w.session.finalTasks[number]? = some task && !calls.any (Call.isDelayedFinal number)
      && !finished.any fun (call, _) => call.isDelayedFinal number
  | _ => true

def programs : Programs Call World Awaited Change RuntimeError Flow where
  program call := call.method codec
  ready on w :=
    match on with
    | .drained => w.drained
    | .closedEvent => w.session.closedEvent
    | .send | .socketClose | .sleep => false
  -- a wait for the transport that has begun may end when others have filled it again
  wakes on wake w :=
    match on, wake with
    | .drained, wake | .sleep, wake => wake = .ready
    | .send, _ | .socketClose, _ => true
    | .closedEvent, wake => wake = .failed || w.session.closedEvent
  cancelled call w :=
    match call with
    | .delayedFinal number _ => w.session.cancelledTasks.contains number
    | _ => false
  begins w calls finished call := begins w calls finished call
  outside change w :=
    match change with
    | .transport drained => { w with drained := drained }
    | .removed => { w with removed := true }

/-- The loop of a session that has just been opened. -/
def opened (request : OpenProviderSession) : EventLoop Call World Awaited RuntimeError Flow :=
  .start ⟨.opened request, true, false⟩

/-- The loop after some turns. -/
abbrev after (request : OpenProviderSession) (turns : List (EventLoop.Turn Call Change)) :
    EventLoop Call World Awaited RuntimeError Flow :=
  (exec (EventLoop.turn (programs codec)) (opened request) turns).2

/-- Every task that takes the lock in these turns takes it in a world that suits its call. -/
abbrev Admitted (ok : Call → World → Bool) (request : OpenProviderSession)
    (turns : List (EventLoop.Turn Call Change)) : Prop :=
  Adm (EventLoop.turn (programs codec)) (fun w t => w.meets (programs codec) ok t = true) (opened request) turns

/-! ### A session to look at -/

theorem sampleRate_ok : 24000 = 16000 ∨ 24000 = 24000 ∨ 24000 = 48000 := by decide

theorem sampleChannels_ok : 1 = 1 ∨ 1 = 2 := by decide

theorem sampleDuration_ok : 20 = 20 ∨ 20 = 40 ∨ 20 = 60 ∨ 20 = 80 ∨ 20 = 100 := by decide

def sampleFormat : Sidecar.PcmFormat :=
  ⟨24000, 1, 20, sampleRate_ok, sampleChannels_ok, sampleDuration_ok⟩

def sampleRequest : OpenProviderSession where
  sessionId := 1
  providerId := .openai
  directionId := .microphone
  sourceLanguage := .ru
  targetLanguage := .en
  mode := .balanced
  requestedInputFormat := sampleFormat
  requestedOutputFormat := sampleFormat
  voiceProfile := ⟨.en, .male, .openai, none, none⟩
  debugTextEnabled := false

/-- A frame of silence. -/
def sampleFrame (utteranceId : Uuid) (sequence : Nat) (endOfUtterance : Bool) : ProviderInputFrame where
  sessionId := 1
  directionId := .microphone
  streamId := 2
  utteranceId := utteranceId
  sequence := sequence
  captureMonotonicNs := sequence
  sampleRateHz := 24000
  channels := 1
  frameDurationMs := 20
  sourceLanguage := .ru
  targetLanguage := .en
  mode := .balanced
  pcm := List.replicate 960 0
  endOfUtterance := endOfUtterance

/-- A codec for runs without messages. -/
def silentCodec : Codec := ⟨fun _ => .decodeError, fun _ => none, fun _ _ pcm => pcm, fun _ => true⟩

/-- The base64 text of a frame of silence. -/
def sampleDelta : PyStr := List.replicate 1280 65

/-- Some messages of the service, as they are written and as they are loaded. -/
def sampleMessages : List (PyStr × List (PyStr × Json)) :=
  [(pyStr "\x7b\"type\": \"error\"\x7d", [(pyStr "type", .string (pyStr "error"))]),
    (pyStr "\x7b\"type\": \"session.closed\"\x7d", [(pyStr "type", .string (pyStr "session.closed"))]),
    (pyStr "\x7b\"type\": \"session.output_audio.delta\", \"delta\": \"?\"\x7d",
      [(pyStr "type", .string (pyStr "session.output_audio.delta")), (pyStr "delta", .string (pyStr "?"))]),
    (pyStr "\x7b\"type\": \"session.output_audio.delta\", \"delta\": \"" ++ sampleDelta ++ pyStr "\"\x7d",
      [(pyStr "type", .string (pyStr "session.output_audio.delta")), (pyStr "delta", .string sampleDelta)])]

def sampleText (i : Nat) : RawMessage := .text ((sampleMessages[i]?.map Prod.fst).getD [])

/-- A codec that knows these messages. -/
def sampleCodec : Codec where
  loads raw :=
    match raw with
    | .text text =>
      match sampleMessages.find? fun message => message.1 = text with
      | some message => .value (.object message.2)
      | none => .decodeError
    | .binary _ => .raised
  b64decode delta := if delta = sampleDelta then some (List.replicate 960 0) else none
  resample _ _ pcm := pcm
  acceptsText _ := true

end Translator.Realtime
