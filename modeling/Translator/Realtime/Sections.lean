import Translator.Realtime.Runtime

/-! What a task does to the session from taking the lock to giving it back. Nobody else writes to the
    session in the meantime, so however often the task is suspended in between, it comes to one of a few
    functions of the session it found: the `Move`s. The one place where the suspension matters is a
    final task that publishes its final: it has cancelled itself just before, so it is only safe while
    it is not suspended again. -/

namespace Translator.Realtime
open Schemes
open Wire (Uuid)
open Sidecar (ProviderInputFrame UtteranceOutcome)

namespace OpenAISession

variable (s : OpenAISession)

/-- Some events, numbered and on the wire. -/
def publish (bodies : List Body) : OpenAISession := (s.takeNumbers bodies.length).commit (s.number bodies)

def flushPending (utteranceId : Uuid) : OpenAISession :=
  match s.utterance utteranceId with
  | none => s
  | some u =>
    if u.pendingAudio.isEmpty then s
    else (s.takePending utteranceId).publish (u.pendingAudio.map .audioDelta)

def overflowDrop (utteranceId : Uuid) : OpenAISession :=
  match s.utterance utteranceId with
  | none => s
  | some u =>
    if u.finalSent then s
    else (s.markFinal utteranceId).publish
      [.error (some u.streamId) (some utteranceId) .queueOverflow true,
        .utteranceFinal u.streamId utteranceId none .dropped]

/-- A frame of an utterance that another one is in the way of. -/
def drop (frame : ProviderInputFrame) : OpenAISession :=
  if frame.endOfUtterance then ((s.hear frame).noteDropped frame).overflowDrop frame.utteranceId
  else (s.hear frame).noteDropped frame

/-- A frame on its way to the websocket. -/
def send (codec : Codec) (frame : ProviderInputFrame) : OpenAISession :=
  ((s.hear frame).takeFrame frame).forward codec frame

/-- The last frame of an utterance has been sent. -/
def finishInput (utteranceId : Uuid) : OpenAISession :=
  ((s.completeInput utteranceId).flushPending utteranceId).scheduleAfterInput utteranceId

/-- The final of an utterance is decided on, and waits to be published. -/
def beginFinal (utteranceId : Uuid) : OpenAISession :=
  ((s.cancelFinalTask utteranceId).markFinal utteranceId).retire utteranceId

/-- `_publish_final_locked` for an utterance without a final. -/
def finish (u : UtteranceState) (utteranceId : Uuid) (outcome : UtteranceOutcome) : OpenAISession :=
  (s.beginFinal utteranceId).publish
    [.utteranceFinal u.streamId utteranceId u.lastAudioSequence outcome]

/-- The final is decided on and takes its number, and is never published. -/
def loseFinal (utteranceId : Uuid) : OpenAISession := (s.beginFinal utteranceId).takeNumbers 1

/-- `_publish_closed_locked`. -/
def close (reason : SessionCloseReason) : OpenAISession :=
  if s.closedPublished then s.closedEventSet
  else (s.markClosed.publish [.sessionClosed reason]).closedEventSet

def markEnding : OpenAISession := { s with closed := true }

def providerError : OpenAISession := s.publish [.error none none .providerUnavailable true]

/-- The session with the adapter's tables after an event, and what the event says. -/
def mapEvent (codec : Codec) (event : List (PyStr × Json)) (streamId utteranceId : Uuid) (nowNs : Nat) :
    Except AdapterError (List ProviderEvent) × OpenAISession :=
  let mapped :=
    s.adapter.mapRealtimeEvents codec s.debugTextEnabled event streamId utteranceId nowNs
  (mapped.1, { s with adapter := mapped.2 })

/-- What there is to publish is published, and audio puts the final off. -/
def publishConverted (utteranceId : Uuid) (bodies : List Body) : OpenAISession :=
  if bodies.isEmpty then s
  else if bodies.any fun body => match body with | .audioDelta _ => true | _ => false then
    (s.publish bodies).scheduleFinal utteranceId finalIdleMs .completed
  else s.publish bodies

/-- The items of an event for an utterance that may have had its final. -/
def takeEvent (codec : Codec) (streamId utteranceId : Uuid) (items : List ProviderEvent) :
    OpenAISession :=
  let s := s.setDefault (.new streamId utteranceId false)
  if ((s.utterance utteranceId).map UtteranceState.finalSent).getD false then s
  else (s.takeItems codec utteranceId items).2.publishConverted utteranceId
    (s.takeItems codec utteranceId items).1

/-- `_handle_realtime_event_locked`, and whether it raised. -/
def realtimeEvent (codec : Codec) (event : List (PyStr × Json)) (nowNs : Nat) :
    Option AdapterError × OpenAISession :=
  match s.currentStreamId, s.currentUtteranceId with
  | some streamId, some utteranceId =>
    match s.mapEvent codec event streamId utteranceId nowNs with
    | (.error error, s) => (some error, s)
    | (.ok items, s) =>
      (none, if items.isEmpty then s else s.takeEvent codec streamId utteranceId items)
  | _, _ => (none, s)

def eventType (event : List (PyStr × Json)) : Option PyStr :=
  (Json.get event (pyStr "type")).bind Json.string?

/-- A message under the lock, and whether handling it raised. -/
def message (codec : Codec) (event : List (PyStr × Json)) (nowNs : Nat) :
    Option AdapterError × OpenAISession :=
  if eventType event = some (pyStr "session.closed") then
    (none, s.markEnding.close (s.requestedCloseReason.getD .userStop))
  else if eventType event = some (pyStr "error") then (none, s.providerError)
  else s.realtimeEvent codec event nowNs

end OpenAISession

/-- The ways from the session a call finds under the lock to the one it leaves. `drained` is whether the
    transport was drained when it took the lock. -/
inductive Move (codec : Codec) : Call → Bool → OpenAISession → OpenAISession → Prop
  | rejected {frame drained s error} (h : s.validateFrame frame = some error) :
    Move codec (.submitFrame frame) drained s s
  | dropped {frame drained s} (h : s.validateFrame frame = none)
    (hblocks : s.blocks frame.utteranceId = true) :
    Move codec (.submitFrame frame) drained s (s.drop frame)
  | sent {frame drained s} (h : s.validateFrame frame = none)
    (hblocks : s.blocks frame.utteranceId = false) :
    Move codec (.submitFrame frame) drained s (s.send codec frame)
  | finished {frame drained s} (h : s.validateFrame frame = none)
    (hblocks : s.blocks frame.utteranceId = false) (hend : frame.endOfUtterance = true) :
    Move codec (.submitFrame frame) drained s ((s.send codec frame).finishInput frame.utteranceId)
  | spared {utteranceId drained s} : Move codec (.cancelUtterance utteranceId) drained s s
  | cancelled {utteranceId drained s u} (h : s.utterance utteranceId = some u)
    (hfinal : u.finalSent = false) :
    Move codec (.cancelUtterance utteranceId) drained s (s.finish u utteranceId .cancelled)
  | debug {enabled drained s} :
    Move codec (.updateDebugText enabled) drained s { s with debugTextEnabled := enabled }
  | closeKnown {reason drained s} : Move codec (.closeSession reason) drained s s
  | closeAsked {reason drained s} (h : s.closedPublished = false) :
    Move codec (.closeSession reason) drained s (s.closeRequest (closeReason reason))
  | closeTimedOut {reason drained s} (h : s.closedPublished = false) :
    Move codec (.closeSession reason) drained s (s.markEnding.close .closeTimeout)
  | message {raw nowNs drained s event} (h : codec.loads raw = .value (.object event)) :
    Move codec (.receiveMessage raw nowNs) drained s (s.message codec event nowNs).2
  | failedClosed {drained s} (h : s.closed = true) : Move codec .receiveFailed drained s s
  | failed {drained s} (h : s.closed = false) :
    Move codec .receiveFailed drained s (s.markEnding.providerError.close .providerFailure)
  | late {number task drained s} : Move codec (.delayedFinal number task) drained s s
  | final {number task drained s u} (h : (s.flushPending task.utteranceId).utterance task.utteranceId = some u)
    (hfinal : u.finalSent = false) (hinput : u.inputComplete = true) :
    Move codec (.delayedFinal number task) drained s
      ((s.flushPending task.utteranceId).finish u task.utteranceId task.outcome)
  | lost {number task drained s u} (h : (s.flushPending task.utteranceId).utterance task.utteranceId = some u)
    (hfinal : u.finalSent = false) (hinput : u.inputComplete = true)
    (hsuspended : drained = false ∨ ∃ u, s.utterance task.utteranceId = some u ∧ u.pendingAudio ≠ [])
    (htask : number ∈ ((s.flushPending task.utteranceId).beginFinal task.utteranceId).cancelledTasks) :
    Move codec (.delayedFinal number task) drained s
      ((s.flushPending task.utteranceId).loseFinal task.utteranceId)

/-! ### Every section is a move -/

section Sections

variable (codec : Codec) (free : OpenAISession → Prop) (ok : Call → World → Bool)

/-- The invariant of the free lock is about the session alone, and the session is what the lock
    protects. -/
abbrev sectionDiscipline (call : Call) : Coro.Discipline World Awaited :=
  discipline (programs codec) ok (fun w => free w.session) (fun w w' => w'.session = w.session) call

variable {codec free ok} {call : Call} {w : World} {stage : Coro.Stage}

@[simp] theorem wp_session (post : Except (Raised RuntimeError) OpenAISession → Coro.Stage → World → Prop) :
    session.wp (sectionDiscipline codec free ok call) post stage w ↔ post (.ok w.session) stage w :=
  Iff.rfl

@[simp] theorem wp_updateSession (post : Except (Raised RuntimeError) Unit → Coro.Stage → World → Prop)
    (f : OpenAISession → OpenAISession) :
    (updateSession f).wp (sectionDiscipline codec free ok call) post stage w
      ↔ stage = .inside ∧ post (.ok ()) stage { w with session := f w.session } := Iff.rfl

theorem close_closedPublished (s : OpenAISession) (reason : SessionCloseReason) :
    (s.close reason).closedPublished = true := by
  unfold OpenAISession.close
  split
  next h => exact h
  next => rfl

theorem close_closed (s : OpenAISession) (reason : SessionCloseReason) :
    (s.close reason).closed = s.closed := by
  unfold OpenAISession.close
  split <;> rfl

theorem flushPending_utterance {s : OpenAISession} {utteranceId : Uuid} {u : UtteranceState}
    (hu : s.utterance utteranceId = some u) (hfinal : u.finalSent = false) (hinput : u.inputComplete = true) :
    ∃ u', (s.flushPending utteranceId).utterance utteranceId = some u' ∧ u'.finalSent = false
      ∧ u'.inputComplete = true := by
  unfold OpenAISession.flushPending
  rw [hu]
  dsimp only
  split
  · exact ⟨u, hu, hfinal, hinput⟩
  · have htaken : (s.takePending utteranceId).utterance utteranceId = some { u with
        pendingAudio := []
        lastAudioSequence := OpenAISession.lastSequence u.pendingAudio u.lastAudioSequence } := by
      rw [OpenAISession.takePending, OpenAISession.utterance_update, if_pos rfl, hu]
      rfl
    exact ⟨_, htaken, hfinal, hinput⟩

/-- The events are published, unless the task waits for that and has been cancelled. -/
theorem publishBodies_section {bodies : List Body}
    {post : Except (Raised RuntimeError) Unit → Coro.Stage → World → Prop}
    (hpublished : ∀ w', w'.session = w.session.publish bodies → w'.drained = false →
      post (.ok ()) .inside w')
    (hcancelled : w.drained = false → ∀ w', w'.session = w.session.takeNumbers bodies.length →
      (programs codec).cancelled call w' = true → post (.error .cancelled) .inside w') :
    (publishBodies bodies).wp (sectionDiscipline codec free ok call) post .inside w := by
  rw [publishBodies, Coro.wp_bind, wp_session, Coro.thenWp_ok, Coro.wp_bind, wp_updateSession]
  refine ⟨rfl, ?_⟩
  rw [Coro.thenWp_ok, publishLocked, Coro.wp_bind, Coro.wp_await_inside]
  split
  next => exact ⟨rfl, hpublished _ rfl rfl⟩
  next hready =>
    intro wake w' hsession hwake
    cases wake with
    | ready =>
      refine ⟨rfl, hpublished _ ?_ rfl⟩
      show w'.session.commit _ = _
      rw [hsession]
      rfl
    | failed => simp [discipline, EventLoop.mayWake, programs] at hwake
    | cancelled => exact hcancelled (Bool.eq_false_iff.mpr hready) w' hsession hwake

/-- A task that is no final task is not cancelled. -/
theorem publishBodies_uncancelled {bodies : List Body}
    {post : Except (Raised RuntimeError) Unit → Coro.Stage → World → Prop}
    (hcall : ∀ w, (programs codec).cancelled call w = false)
    (hpublished : ∀ w', w'.session = w.session.publish bodies → post (.ok ()) .inside w') :
    (publishBodies bodies).wp (sectionDiscipline codec free ok call) post .inside w :=
  publishBodies_section (fun w' h _ => hpublished w' h) fun _ w' _ h => by rw [hcall w'] at h; cases h

theorem flushPending_section {utteranceId : Uuid}
    {post : Except (Raised RuntimeError) Unit → Coro.Stage → World → Prop}
    (hcall : ∀ w', w'.session.cancelledTasks = w.session.cancelledTasks →
      (programs codec).cancelled call w' = false)
    (hdone : ∀ w', w'.session = w.session.flushPending utteranceId →
      ((∀ u, w.session.utterance utteranceId = some u → u.pendingAudio = []) → w' = w) →
      post (.ok ()) .inside w') :
    (publishPendingAudioLocked utteranceId).wp (sectionDiscipline codec free ok call) post .inside w := by
  rw [publishPendingAudioLocked, Coro.wp_bind, wp_session, Coro.thenWp_ok]
  unfold OpenAISession.flushPending at hdone
  split
  next hnone => exact hdone w (by rw [hnone]) fun _ => rfl
  next u hu =>
    rw [hu] at hdone
    dsimp only at hdone ⊢
    split
    next hempty => exact hdone w (by rw [if_pos hempty]) fun _ => rfl
    next hempty =>
      rw [Coro.wp_bind, wp_updateSession]
      refine ⟨rfl, publishBodies_section (fun w' hw' _ => hdone w' (by rw [if_neg hempty]; exact hw') ?_) ?_⟩
      · intro hall
        rw [hall u rfl] at hempty
        exact absurd rfl hempty
      · intro _ w' hw' hcancelled
        rw [hcall w' ?_] at hcancelled
        · cases hcancelled
        · rw [hw']
          rfl

/-- How a task ends. A turn of the receiver that is the last one has ended the session, unless the session
    was removed or what the turn received made it raise. -/
def Ended (codec : Codec) (free : OpenAISession → Prop) (ok : Call → World → Bool) (call : Call)
    (result : Except (Raised RuntimeError) Flow) (w : World) : Prop :=
  match call with
  | .receiveMessage raw nowNs =>
    result = .ok .again ∨ w.removed = true ∨ (w.session.closedPublished = true ∧ free w.session)
      ∨ codec.loads raw = .raised
      ∨ ∃ event w', codec.loads raw = .value (.object event) ∧ ok call w' = true
        ∧ (w'.session.message codec event nowNs).1.isSome
  | .receiveFailed => w.session.closed = true ∧ free w.session
  | _ => True

/-- Every move that may be made keeps the invariant. -/
def Preserved (codec : Codec) (free : OpenAISession → Prop) (ok : Call → World → Bool) : Prop :=
  ∀ call w s', free w.session → ok call w = true → (programs codec).cancelled call w = false →
    Move codec call w.drained w.session s' → free s'

/-- What a section has come to: the lock is given back where the session is one the call may leave. -/
abbrev AtRelease {α : Type} (free : OpenAISession → Prop)
    (post : Except (Raised RuntimeError) α → Coro.Stage → World → Prop)
    (result : Except (Raised RuntimeError) α) (stage : Coro.Stage) (w : World) : Prop :=
  stage = .inside ∧ free w.session ∧ post result .left w

theorem requireActive_section {post : Except (Raised RuntimeError) Unit → Coro.Stage → World → Prop}
    (hactive : post (.ok ()) .outside w)
    (hclosed : post (.error (.error (.protocol .openSessionRequired))) .outside w) :
    requireActive.wp (sectionDiscipline codec free ok call) post .outside w := by
  rw [requireActive, Coro.wp_bind, Coro.wp_get, Coro.thenWp_ok]
  split
  · exact hclosed
  · exact hactive

theorem overflowDrop_section {utteranceId : Uuid}
    {post : Except (Raised RuntimeError) Unit → Coro.Stage → World → Prop}
    (hcall : ∀ w, (programs codec).cancelled call w = false)
    (hdone : ∀ w', w'.session = w.session.overflowDrop utteranceId → post (.ok ()) .inside w') :
    (publishOverflowDropLocked utteranceId).wp (sectionDiscipline codec free ok call) post .inside w := by
  rw [publishOverflowDropLocked, Coro.wp_bind, wp_session, Coro.thenWp_ok]
  unfold OpenAISession.overflowDrop at hdone
  split
  next hnone => exact hdone w (by rw [hnone])
  next u hu =>
    rw [hu] at hdone
    dsimp only at hdone ⊢
    split
    next hfinal => exact hdone w (by rw [if_pos hfinal])
    next hfinal =>
      rw [Coro.wp_bind, wp_updateSession]
      refine ⟨rfl, publishBodies_uncancelled hcall fun w' hw' => hdone w' ?_⟩
      rw [if_neg hfinal]
      exact hw'

theorem publishClosed_section {reason : SessionCloseReason}
    {post : Except (Raised RuntimeError) Unit → Coro.Stage → World → Prop}
    (hcall : ∀ w, (programs codec).cancelled call w = false)
    (hdone : ∀ w', w'.session = w.session.close reason → post (.ok ()) .inside w') :
    (publishClosedLocked reason).wp (sectionDiscipline codec free ok call) post .inside w := by
  rw [publishClosedLocked, Coro.wp_bind, wp_session, Coro.thenWp_ok]
  unfold OpenAISession.close at hdone
  split
  next hclosed => exact ⟨rfl, hdone _ (by rw [if_pos hclosed])⟩
  next hclosed =>
    rw [if_neg hclosed] at hdone
    rw [Coro.wp_bind, wp_updateSession]
    refine ⟨rfl, ?_⟩
    rw [Coro.thenWp_ok, Coro.wp_bind]
    refine publishBodies_uncancelled hcall fun w' hw' => ⟨rfl, hdone _ ?_⟩
    show w'.session.closedEventSet = _
    rw [hw']

/-- `_publish_final_locked` for an utterance without a final, by a task that is not cancelled before. -/
theorem publishFinal_section {u : UtteranceState} {utteranceId : Uuid} {outcome : UtteranceOutcome}
    {post : Except (Raised RuntimeError) Unit → Coro.Stage → World → Prop}
    (hu : w.session.utterance utteranceId = some u) (hfinal : u.finalSent = false)
    (hpublished : ∀ w', w'.session = w.session.finish u utteranceId outcome → post (.ok ()) .inside w')
    (hlost : w.drained = false → ∀ w', w'.session = w.session.loseFinal utteranceId →
      (programs codec).cancelled call w' = true → post (.error .cancelled) .inside w') :
    (publishFinalLocked utteranceId outcome).wp (sectionDiscipline codec free ok call) post .inside w := by
  have hcancel : (w.session.cancelFinalTask utteranceId).utterance utteranceId
      = some { u with finalTask := none } := by
    rw [OpenAISession.cancelFinalTask, OpenAISession.utterance_update, if_pos rfl]
    show (w.session.utterance utteranceId).map _ = _
    rw [hu]
    rfl
  rw [publishFinalLocked, Coro.wp_bind, wp_updateSession]
  refine ⟨rfl, ?_⟩
  rw [Coro.thenWp_ok, Coro.wp_bind, wp_session, Coro.thenWp_ok]
  dsimp only
  rw [hcancel]
  dsimp only
  rw [if_neg (by simp [hfinal]), Coro.wp_bind, wp_updateSession]
  exact ⟨rfl, publishBodies_section (fun w' hw' _ => hpublished w' hw') hlost⟩

theorem nextMessage_section {post : Except (Raised RuntimeError) Flow → Coro.Stage → World → Prop}
    (hagain : post (.ok .again) stage w) (hremoved : w.removed = true → post (.ok .returned) stage w) :
    nextMessage.wp (sectionDiscipline codec free ok call) post stage w := by
  rw [nextMessage, Coro.wp_bind, Coro.wp_get, Coro.thenWp_ok]
  show post (.ok (if w.removed = true then .returned else .again)) stage w
  split
  next hr => exact hremoved hr
  next => exact hagain

/-- The events an item list is worth are published, and audio puts the final off. -/
theorem publishConverted_section {utteranceId : Uuid} {bodies : List Body}
    {post : Except (Raised RuntimeError) Unit → Coro.Stage → World → Prop}
    (hcall : ∀ w, (programs codec).cancelled call w = false)
    (hdone : ∀ w', w'.session = w.session.publishConverted utteranceId bodies → post (.ok ()) .inside w') :
    (if bodies.isEmpty then pure ()
      else do
        publishBodies bodies
        if bodies.any fun body => match body with | .audioDelta _ => true | _ => false then
          updateSession (·.scheduleFinal utteranceId finalIdleMs .completed)
        else pure () : Method Unit).wp (sectionDiscipline codec free ok call) post .inside w := by
  unfold OpenAISession.publishConverted at hdone
  split
  next hempty => exact hdone w (by rw [if_pos hempty])
  next hempty =>
    rw [if_neg hempty] at hdone
    rw [Coro.wp_bind]
    refine publishBodies_uncancelled hcall fun w' hw' => ?_
    rw [Coro.thenWp_ok]
    split
    next haudio =>
      rw [if_pos haudio] at hdone
      refine ⟨rfl, hdone _ ?_⟩
      show w'.session.scheduleFinal _ _ _ = _
      rw [hw']
    next haudio =>
      rw [if_neg haudio] at hdone
      exact hdone w' hw'

theorem realtimeEvent_section {event : List (PyStr × Json)} {nowNs : Nat}
    {post : Except (Raised RuntimeError) Unit → Coro.Stage → World → Prop}
    (hcall : ∀ w, (programs codec).cancelled call w = false)
    (hdone : ∀ w', w'.session = (w.session.realtimeEvent codec event nowNs).2 →
      (w.session.realtimeEvent codec event nowNs).1 = none → post (.ok ()) .inside w')
    (hraised : ∀ w' error, w'.session = (w.session.realtimeEvent codec event nowNs).2 →
      (w.session.realtimeEvent codec event nowNs).1 = some error →
      post (.error (.error (.adapter error))) .inside w') :
    (handleRealtimeEventLocked codec event nowNs).wp (sectionDiscipline codec free ok call) post
      .inside w := by
  rw [handleRealtimeEventLocked, Coro.wp_bind, wp_session, Coro.thenWp_ok]
  unfold OpenAISession.realtimeEvent at hdone hraised
  split
  next streamId utteranceId hstream hutterance =>
    rw [hstream, hutterance] at hdone hraised
    dsimp only [OpenAISession.mapEvent] at hdone hraised
    rw [Coro.wp_bind, wp_updateSession]
    refine ⟨rfl, ?_⟩
    rw [Coro.thenWp_ok]
    cases hmapped : (w.session.adapter.mapRealtimeEvents codec w.session.debugTextEnabled event streamId
      utteranceId nowNs).1 with
    | error error =>
      rw [hmapped] at hraised
      exact hraised _ error rfl rfl
    | ok items =>
      rw [hmapped] at hdone
      dsimp only at hdone ⊢
      split
      next hempty => exact hdone _ (by rw [if_pos hempty]) rfl
      next hempty =>
        rw [if_neg hempty] at hdone
        rw [Coro.wp_bind, wp_updateSession]
        refine ⟨rfl, ?_⟩
        rw [Coro.thenWp_ok, Coro.wp_bind, wp_session, Coro.thenWp_ok]
        unfold OpenAISession.takeEvent at hdone
        dsimp only at hdone ⊢
        split
        next hfinal => exact hdone _ (by rw [if_pos hfinal]) rfl
        next hfinal =>
          rw [if_neg hfinal] at hdone
          rw [Coro.wp_bind, wp_updateSession]
          refine ⟨rfl, ?_⟩
          rw [Coro.thenWp_ok]
          exact publishConverted_section hcall fun w' hw' => hdone w' hw' rfl
  next hnone =>
    refine hdone w ?_ ?_
    · split
      next streamId utteranceId hstream hutterance => exact absurd hutterance (hnone _ _ hstream)
      next => rfl
    · split
      next streamId utteranceId hstream hutterance => exact absurd hutterance (hnone _ _ hstream)
      next => rfl

section Methods

variable (h : Preserved codec free ok)
include h

/-- A move that suits the state ends in a session with the invariant. -/
theorem release {α : Type} {post : Except (Raised RuntimeError) α → Coro.Stage → World → Prop}
    {result : Except (Raised RuntimeError) α} {w w' : World} (hfree : free w.session)
    (hok : ok call w = true) (hnot : ¬ (programs codec).cancelled call w = true)
    (hmove : Move codec call w.drained w.session w'.session) (hpost : post result .left w') :
    AtRelease free post result .inside w' :=
  ⟨rfl, h call w _ hfree hok (Bool.eq_false_iff.mpr hnot) hmove, hpost⟩

theorem submitFrame_section (frame : ProviderInputFrame) (w : World) :
    (submitFrame codec frame).wp (sectionDiscipline codec free ok (.submitFrame frame))
      (ended (Ended codec free ok) (.submitFrame frame)) .outside w := by
  have hcall : ∀ w, (programs codec).cancelled (.submitFrame frame) w = false := fun _ => rfl
  rw [submitFrame, Coro.wp_bind]
  refine requireActive_section ?_ ⟨by simp, trivial⟩
  rw [Coro.thenWp_ok, Coro.wp_bind]
  refine Coro.wp_withLock (fun w hfree hok hnot => ?_) fun w _ => ⟨by simp, trivial⟩
  have hdone : ∀ {result : Except (Raised RuntimeError) Unit} {w' : World},
      Move codec (.submitFrame frame) w.drained w.session w'.session →
      AtRelease free (Coro.thenWp (sectionDiscipline codec free ok (.submitFrame frame))
        (ended (Ended codec free ok) (.submitFrame frame)) fun _ => pure Flow.returned) result .inside w' := by
    intro result w' hm
    refine release h hfree hok hnot hm ?_
    cases result <;> exact ⟨by simp, trivial⟩
  rw [Coro.wp_bind, wp_session, Coro.thenWp_ok]
  cases hvalid : w.session.validateFrame frame with
  | some error => exact hdone (.rejected hvalid)
  | none =>
    dsimp only
    rw [Coro.wp_bind, wp_updateSession]
    refine ⟨rfl, ?_⟩
    rw [Coro.thenWp_ok]
    split
    next hblocks =>
      have hdropped : Move codec (.submitFrame frame) w.drained w.session (w.session.drop frame) :=
        .dropped hvalid hblocks
      unfold OpenAISession.drop at hdropped
      rw [Coro.wp_bind, wp_updateSession]
      refine ⟨rfl, ?_⟩
      rw [Coro.thenWp_ok]
      split
      next hend =>
        rw [if_pos hend] at hdropped
        refine overflowDrop_section hcall fun w' hw' => hdone ?_
        rw [hw']
        exact hdropped
      next hend =>
        rw [if_neg hend] at hdropped
        exact hdone hdropped
    next hblocks =>
      have hblocks : w.session.blocks frame.utteranceId = false := Bool.eq_false_iff.mpr hblocks
      have hsent : Move codec (.submitFrame frame) w.drained w.session (w.session.send codec frame) :=
        .sent hvalid hblocks
      rw [Coro.wp_bind, wp_updateSession]
      refine ⟨rfl, ?_⟩
      rw [Coro.thenWp_ok, Coro.wp_bind, Coro.wp_await_inside, if_neg (by simp [discipline, programs])]
      intro wake w' hsession hwake
      have hsession : w'.session = w.session.send codec frame := hsession
      cases wake with
      | cancelled => simp [discipline, EventLoop.mayWake, programs] at hwake
      | failed => exact hdone (by rw [hsession]; exact hsent)
      | ready =>
        simp only [Coro.thenWp_ok, Bool.not_true, Bool.false_eq_true, if_false]
        split
        next hend =>
          have hfinished : Move codec (.submitFrame frame) w.drained w.session
              ((w.session.send codec frame).finishInput frame.utteranceId) := .finished hvalid hblocks hend
          unfold OpenAISession.finishInput at hfinished
          rw [Coro.wp_bind, wp_updateSession]
          refine ⟨rfl, ?_⟩
          rw [Coro.thenWp_ok, Coro.wp_bind]
          refine flushPending_section (fun w _ => hcall w) fun w'' hw'' _ => ⟨rfl, hdone ?_⟩
          show Move codec _ _ _ (w''.session.scheduleAfterInput frame.utteranceId)
          rw [hw'', hsession]
          exact hfinished
        next => exact hdone (by rw [hsession]; exact hsent)

theorem cancelUtterance_section (utteranceId : Uuid) (w : World) :
    (cancelUtterance utteranceId).wp (sectionDiscipline codec free ok (.cancelUtterance utteranceId))
      (ended (Ended codec free ok) (.cancelUtterance utteranceId)) .outside w := by
  rw [cancelUtterance, Coro.wp_bind]
  refine requireActive_section ?_ ⟨by simp, trivial⟩
  rw [Coro.thenWp_ok, Coro.wp_bind]
  refine Coro.wp_withLock (fun w hfree hok hnot => ?_) fun w _ => ⟨by simp, trivial⟩
  have hdone : ∀ {result : Except (Raised RuntimeError) Unit} {w' : World},
      Move codec (.cancelUtterance utteranceId) w.drained w.session w'.session →
      AtRelease free (Coro.thenWp (sectionDiscipline codec free ok (.cancelUtterance utteranceId))
        (ended (Ended codec free ok) (.cancelUtterance utteranceId)) fun _ => pure Flow.returned)
        result .inside w' := by
    intro result w' hm
    refine release h hfree hok hnot hm ?_
    cases result <;> exact ⟨by simp, trivial⟩
  rw [Coro.wp_bind, wp_session, Coro.thenWp_ok]
  split
  · exact hdone .spared
  next u hu =>
    split
    · exact hdone .spared
    next hfinal =>
      have hfinal : u.finalSent = false := Bool.eq_false_iff.mpr hfinal
      refine publishFinal_section hu hfinal (fun w' hw' => hdone ?_) fun _ w' _ hcancelled => by
        cases hcancelled
      rw [hw']
      exact .cancelled hu hfinal

theorem updateDebugText_section (enabled : Bool) (w : World) :
    (updateDebugText enabled).wp (sectionDiscipline codec free ok (.updateDebugText enabled))
      (ended (Ended codec free ok) (.updateDebugText enabled)) .outside w := by
  rw [updateDebugText, Coro.wp_bind]
  refine requireActive_section ?_ ⟨by simp, trivial⟩
  rw [Coro.thenWp_ok, Coro.wp_bind]
  refine Coro.wp_withLock (fun w hfree hok hnot => ?_) fun w _ => ⟨by simp, trivial⟩
  exact ⟨rfl, release h hfree hok hnot .debug ⟨by simp, trivial⟩⟩

theorem closeTimedOut_section (reason : CloseRequestReason)
    {post : Except (Raised RuntimeError) Unit → Coro.Stage → World → Prop}
    (hpost : ∀ result w, post result .left w) (w : World) :
    closeTimedOut.wp (sectionDiscipline codec free ok (.closeSession reason)) post .outside w := by
  refine Coro.wp_withLock (fun w hfree hok hnot => ?_) fun w _ => hpost _ w
  rw [Coro.wp_bind, wp_session, Coro.thenWp_ok]
  split
  · exact release h hfree hok hnot .closeKnown (hpost _ _)
  next hopen =>
    have hopen : w.session.closedPublished = false := Bool.eq_false_iff.mpr hopen
    rw [Coro.wp_bind, wp_updateSession]
    refine ⟨rfl, ?_⟩
    rw [Coro.thenWp_ok, Coro.wp_bind, Coro.wp_await_inside, if_neg (by simp [discipline, programs])]
    intro wake w' hsession hwake
    have hclosed : (publishClosedLocked .closeTimeout).wp
        (sectionDiscipline codec free ok (.closeSession reason)) (AtRelease free post) .inside w' :=
      publishClosed_section (fun _ => rfl) fun w'' hw'' => by
        refine release h hfree hok hnot ?_ (hpost _ _)
        rw [hw'', hsession]
        exact .closeTimedOut hopen
    cases wake with
    | cancelled => simp [discipline, EventLoop.mayWake, programs] at hwake
    | failed | ready => exact hclosed

theorem closeSession_section (reason : CloseRequestReason) (w : World) :
    (closeSession reason).wp (sectionDiscipline codec free ok (.closeSession reason))
      (ended (Ended codec free ok) (.closeSession reason)) .outside w := by
  have hend : ∀ result stage w, stage ≠ .inside →
      ended (Ended codec free ok) (.closeSession reason) result stage w := fun _ _ _ hs => ⟨hs, trivial⟩
  rw [closeSession, Coro.wp_bind, Coro.wp_get, Coro.thenWp_ok]
  split
  · exact hend _ _ _ (by simp)
  rw [Coro.wp_bind]
  refine Coro.wp_withLock (fun w hfree hok hnot => ?_) fun w _ => hend _ _ _ (by simp)
  rw [Coro.wp_bind, wp_session, Coro.thenWp_ok]
  split
  next => exact release h hfree hok hnot .closeKnown (hend _ _ _ (by simp))
  next hopen =>
    rw [Coro.wp_bind, wp_updateSession]
    refine ⟨rfl, ?_⟩
    refine release h hfree hok hnot (.closeAsked (Bool.eq_false_iff.mpr hopen)) ?_
    have hrest : ∀ w stage, stage ≠ .inside →
        (do
          let acknowledged ← Coro.await .closedEvent
          if acknowledged then
            let _ ← Coro.await .socketClose
            return .returned
          else
            closeTimedOut
            return .returned : Method Flow).wp
          (sectionDiscipline codec free ok (.closeSession reason))
          (ended (Ended codec free ok) (.closeSession reason)) stage w := by
      intro w stage hstage
      rw [Coro.wp_bind]
      have hacknowledged : ∀ w stage, stage ≠ .inside →
          (do
            let _ ← Coro.await .socketClose
            return .returned : Method Flow).wp
            (sectionDiscipline codec free ok (.closeSession reason))
            (ended (Ended codec free ok) (.closeSession reason)) stage w := by
        intro w stage hstage
        rw [Coro.wp_bind]
        exact Coro.wp_await_beside hstage (hend _ _ _ hstage) (fun _ => hend _ _ _ (by simp))
          (fun _ => hend _ _ _ (by simp)) fun _ => hend _ _ _ (by simp)
      refine Coro.wp_await_beside hstage (hacknowledged w stage hstage)
        (fun w' => hacknowledged w' .outside (by simp)) (fun w' => ?_) fun _ => hend _ _ _ (by simp)
      simp only [Coro.thenWp_ok, Bool.false_eq_true, if_false, Coro.wp_bind]
      refine closeTimedOut_section h reason (fun result w => ?_) w'
      cases result <;> exact hend _ _ _ (by simp)
    have hasked : ∀ {sent : Bool} w stage, stage ≠ .inside → Coro.thenWp
        (sectionDiscipline codec free ok (.closeSession reason))
        (ended (Ended codec free ok) (.closeSession reason)) (fun _ : Bool => do
          let acknowledged ← Coro.await .closedEvent
          if acknowledged then
            let _ ← Coro.await .socketClose
            return .returned
          else
            closeTimedOut
            return .returned) (.ok sent) stage w := fun w stage hstage => hrest w stage hstage
    rw [Coro.thenWp_ok]
    dsimp only
    split
    · rw [Coro.wp_bind]
      exact Coro.wp_await_beside (by simp) (hasked _ .left (by simp)) (fun _ => hasked _ .outside (by simp))
        (fun _ => hasked _ .outside (by simp)) fun _ => hend _ _ _ (by simp)
    · exact hrest _ .left (by simp)

theorem receiveMessage_section (raw : RawMessage) (nowNs : Nat) (w : World) :
    (receiveMessage codec raw nowNs).wp (sectionDiscipline codec free ok (.receiveMessage raw nowNs))
      (ended (Ended codec free ok) (.receiveMessage raw nowNs)) .outside w := by
  have hcall : ∀ w, (programs codec).cancelled (.receiveMessage raw nowNs) w = false := fun _ => rfl
  have hnext : ∀ (w : World) (stage : Coro.Stage), stage ≠ .inside →
      nextMessage.wp (sectionDiscipline codec free ok (.receiveMessage raw nowNs))
        (ended (Ended codec free ok) (.receiveMessage raw nowNs)) stage w := fun w stage hstage =>
    nextMessage_section ⟨hstage, .inl rfl⟩ fun hr => ⟨hstage, .inr (.inl hr)⟩
  unfold receiveMessage
  split
  · exact hnext w .outside (by simp)
  next hraised => exact ⟨by simp, .inr (.inr (.inr (.inl hraised)))⟩
  next event hevent =>
    rw [Coro.wp_bind]
    refine Coro.wp_withLock (fun w hfree hok hnot => ?_) fun w hasked => by cases hasked
    have hmove : ∀ {s'}, (w.session.message codec event nowNs).2 = s' →
        Move codec (.receiveMessage raw nowNs) w.drained w.session s' := fun hs => hs ▸ .message hevent
    have hsome : ∀ {error}, (w.session.message codec event nowNs).1 = some error → ∃ event w',
        codec.loads raw = .value (.object event) ∧ ok (.receiveMessage raw nowNs) w' = true
          ∧ (w'.session.message codec event nowNs).1.isSome := fun hs =>
      ⟨event, w, hevent, hok, by rw [hs]; rfl⟩
    unfold OpenAISession.message OpenAISession.eventType at hmove hsome
    dsimp only
    split
    next hclosed =>
      rw [if_pos hclosed] at hmove
      rw [Coro.wp_bind, wp_updateSession]
      refine ⟨rfl, ?_⟩
      rw [Coro.thenWp_ok, Coro.wp_bind, wp_session, Coro.thenWp_ok, Coro.wp_bind]
      refine publishClosed_section hcall fun w' hw' => ?_
      refine release h hfree hok hnot (hmove hw'.symm) ⟨by simp, .inr (.inr (.inl ⟨?_, ?_⟩))⟩
      · rw [hw']
        exact close_closedPublished _ _
      · exact h _ w _ hfree hok (Bool.eq_false_iff.mpr hnot) (hmove hw'.symm)
    next hnotClosed =>
      rw [if_neg hnotClosed] at hmove hsome
      split
      next herror =>
        rw [if_pos herror] at hmove
        rw [Coro.wp_bind]
        refine publishBodies_uncancelled hcall fun w' hw' => ?_
        exact release h hfree hok hnot (hmove hw'.symm) (hnext w' .left (by simp))
      next herror =>
        rw [if_neg herror] at hmove hsome
        rw [Coro.wp_bind]
        refine realtimeEvent_section hcall (fun w' hw' _ => ?_) fun w' error hw' hraised => ?_
        · exact release h hfree hok hnot (hmove hw'.symm) (hnext w' .left (by simp))
        · exact release h hfree hok hnot (hmove hw'.symm)
            ⟨by simp, .inr (.inr (.inr (.inr (hsome hraised))))⟩
  · exact hnext w .outside (by simp)

theorem receiveFailed_section (w : World) :
    receiveFailed.wp (sectionDiscipline codec free ok .receiveFailed) (ended (Ended codec free ok) .receiveFailed)
      .outside w := by
  have hcall : ∀ w, (programs codec).cancelled .receiveFailed w = false := fun _ => rfl
  rw [receiveFailed, Coro.wp_bind]
  refine Coro.wp_withLock (fun w hfree hok hnot => ?_) fun w hasked => by cases hasked
  rw [Coro.wp_bind, wp_session, Coro.thenWp_ok]
  split
  next hclosed => exact release h hfree hok hnot (.failedClosed hclosed) ⟨by simp, hclosed, hfree⟩
  next hopen =>
    rw [Coro.wp_bind, wp_updateSession]
    refine ⟨rfl, ?_⟩
    rw [Coro.thenWp_ok, Coro.wp_bind]
    refine publishBodies_uncancelled hcall fun w' hw' => ?_
    refine publishClosed_section hcall fun w'' hw'' => ?_
    have hsession : w''.session = w.session.markEnding.providerError.close .providerFailure := by
      rw [hw'', hw']
      rfl
    have hmove : Move codec .receiveFailed w.drained w.session w''.session := by
      rw [hsession]
      exact .failed (Bool.eq_false_iff.mpr hopen)
    refine release h hfree hok hnot hmove ⟨by simp, ?_, ?_⟩
    · rw [hsession, close_closed]
      rfl
    · exact h _ w _ hfree hok (Bool.eq_false_iff.mpr hnot) hmove

/-- A final task is only run while it is not cancelled. -/
theorem delayedFinal_section (number : Nat) (task : FinalTask) (w : World) :
    (delayedFinal task).wp (sectionDiscipline codec free ok (.delayedFinal number task))
      (ended (Ended codec free ok) (.delayedFinal number task)) .outside w := by
  have hend : ∀ result stage w, stage ≠ .inside →
      ended (Ended codec free ok) (.delayedFinal number task) result stage w := fun _ _ _ hs => ⟨hs, trivial⟩
  rw [delayedFinal, Coro.wp_bind]
  have hawake : ∀ (slept : Bool) w, Coro.thenWp (sectionDiscipline codec free ok (.delayedFinal number task))
      (ended (Ended codec free ok) (.delayedFinal number task)) (fun _ : Bool => do
        let w ← Coro.get
        if w.removed then return .returned
        else
          Coro.withLock do
            let s ← session
            match s.utterance task.utteranceId with
            | none => pure ()
            | some u =>
              if u.finalSent || !u.inputComplete then pure ()
              else
                publishPendingAudioLocked task.utteranceId
                publishFinalLocked task.utteranceId task.outcome
          return .returned) (.ok slept) .outside w := by
    intro slept w
    rw [Coro.thenWp_ok, Coro.wp_bind, Coro.wp_get, Coro.thenWp_ok]
    split
    · exact hend _ _ _ (by simp)
    rw [Coro.wp_bind]
    refine Coro.wp_withLock (fun w hfree hok hnot => ?_) fun w _ => hend _ _ _ (by simp)
    have hdone : ∀ {result : Except (Raised RuntimeError) Unit} {w' : World},
        Move codec (.delayedFinal number task) w.drained w.session w'.session →
        AtRelease free (Coro.thenWp (sectionDiscipline codec free ok (.delayedFinal number task))
          (ended (Ended codec free ok) (.delayedFinal number task)) fun _ => pure Flow.returned)
          result .inside w' := by
      intro result w' hm
      refine release h hfree hok hnot hm ?_
      cases result <;> exact hend _ _ _ (by simp)
    rw [Coro.wp_bind, wp_session, Coro.thenWp_ok]
    split
    · exact hdone .late
    next u hu =>
      split
      · exact hdone .late
      next hwaits =>
        simp only [Bool.or_eq_true, Bool.not_eq_true', not_or, Bool.not_eq_true, Bool.not_eq_false] at hwaits
        obtain ⟨u', hu', hfinal, hinput⟩ : ∃ u', (w.session.flushPending task.utteranceId).utterance
            task.utteranceId = some u' ∧ u'.finalSent = false ∧ u'.inputComplete = true :=
          flushPending_utterance hu hwaits.1 hwaits.2
        rw [Coro.wp_bind]
        refine flushPending_section (fun w' hw' => ?_) fun w' hw' hkept => ?_
        · show w'.session.cancelledTasks.contains number = false
          rw [hw']
          exact Bool.eq_false_iff.mpr hnot
        · rw [← hw'] at hu'
          refine publishFinal_section hu' hfinal (fun w'' hw'' => hdone ?_) fun hdrained w'' hw'' hlost =>
            hdone ?_
          · rw [hw'', hw']
            exact .final (hw' ▸ hu') hfinal hinput
          · rw [hw'', hw']
            refine .lost (hw' ▸ hu') hfinal hinput ?_ ?_
            · by_cases hpending : u.pendingAudio = []
              · left
                rw [hkept fun v hv => by rw [hu] at hv; cases hv; exact hpending] at hdrained
                exact hdrained
              · exact .inr ⟨u, hu, hpending⟩
            · have : w''.session.cancelledTasks.contains number = true := hlost
              rw [hw'', hw'] at this
              exact List.contains_iff_mem.mp this
  refine Coro.wp_await_beside (by simp) ?_ ?_ ?_ ?_
  · exact hawake true w
  · exact fun w => hawake true w
  · exact fun w => hawake false w
  · exact fun w => hend _ _ _ (by simp)

theorem methods_section (call : Call) (w : World) :
    (call.method codec).wp (sectionDiscipline codec free ok call) (ended (Ended codec free ok) call) .outside w := by
  cases call with
  | submitFrame frame => exact submitFrame_section h frame w
  | cancelUtterance utteranceId => exact cancelUtterance_section h utteranceId w
  | updateDebugText enabled => exact updateDebugText_section h enabled w
  | closeSession reason => exact closeSession_section h reason w
  | receiveMessage raw nowNs => exact receiveMessage_section h raw nowNs w
  | receiveFailed => exact receiveFailed_section h w
  | delayedFinal number task => exact delayedFinal_section h number task w

/-- Where every move keeps an invariant of the session, the programs keep the lock discipline. -/
theorem sections_keeping : Keeping (programs codec) ok (fun w => free w.session)
    (fun w w' => w'.session = w.session) (Ended codec free ok) where
  programs := methods_section h
  fresh call w htakes := by
    cases call with
    | delayedFinal number task => cases htakes
    | _ => rfl
  refl _ := rfl
  trans _ _ _ h h' := h'.trans h
  outside change w := by cases change <;> exact ⟨rfl, id⟩

end Methods

end Sections

end Translator.Realtime
