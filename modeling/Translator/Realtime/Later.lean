import Translator.Realtime.Effects

/-! What is published stays published: nothing a task writes takes anything off the wire, and a session
    that was removed stays removed. So what holds of the wire whenever the lock is free holds of it at
    every moment, where it is a matter of what comes after what. -/

namespace Translator.Realtime
open Schemes
open Wire (Uuid)
open Sidecar (OpenProviderSession ProviderInputFrame UtteranceOutcome)

/-- More is on the wire, and more final tasks were created. -/
def Grown (s s' : OpenAISession) : Prop := s.wire <+: s'.wire ∧ s.finalTasks <+: s'.finalTasks

/-- What the world can come to: the session has grown, and if it was removed it stays removed. -/
def Later (w w' : World) : Prop := Grown w.session w'.session ∧ (w.removed = true → w'.removed = true)

theorem Grown.refl (s : OpenAISession) : Grown s s := ⟨List.prefix_rfl, List.prefix_rfl⟩

theorem Grown.trans {s s' s'' : OpenAISession} (h : Grown s s') (h' : Grown s' s'') : Grown s s'' :=
  ⟨h.1.trans h'.1, h.2.trans h'.2⟩

theorem later_refl (w : World) : Later w w := ⟨.refl _, id⟩

theorem Later.trans {w w' w'' : World} (h : Later w w') (h' : Later w' w'') : Later w w'' :=
  ⟨h.1.trans h'.1, h'.2 ∘ h.2⟩

theorem scheduleFinal_grown (s : OpenAISession) (utteranceId : Uuid) (delayMs : Nat)
    (outcome : UtteranceOutcome) : Grown s (s.scheduleFinal utteranceId delayMs outcome) := by
  unfold OpenAISession.scheduleFinal
  split
  · exact .refl s
  · split
    · exact .refl s
    · exact ⟨List.prefix_rfl, List.prefix_append _ _⟩

theorem scheduleAfterInput_grown (s : OpenAISession) (utteranceId : Uuid) :
    Grown s (s.scheduleAfterInput utteranceId) := by
  obtain ⟨delayMs, outcome, h⟩ := s.scheduleAfterInput_eq utteranceId
  rw [h]
  exact scheduleFinal_grown ..

theorem takeItems_grown (s : OpenAISession) (codec : Codec) (utteranceId : Uuid) (items : List ProviderEvent) :
    Grown s (s.takeItems codec utteranceId items).2 := by
  induction items generalizing s with
  | nil => exact .refl s
  | cons item rest ih =>
    refine Grown.trans ?_ (ih (s.takeItem codec utteranceId item).2)
    unfold OpenAISession.takeItem
    split
    · split <;> exact ⟨List.prefix_rfl, List.prefix_rfl⟩
    all_goals exact .refl s

section Growing

variable {codec : Codec}

theorem updateSession_grown {f : OpenAISession → OpenAISession} (h : ∀ s, Grown s (f s)) :
    (updateSession f).Writes Later :=
  ⟨fun w => ⟨h w.session, id⟩, trivial⟩

theorem updateSession_later {f : OpenAISession → OpenAISession}
    (h : ∀ s, (f s).wire = s.wire ∧ (f s).finalTasks = s.finalTasks) : (updateSession f).Writes Later :=
  updateSession_grown fun s => ⟨by rw [(h s).1], by rw [(h s).2]⟩

theorem session_later : session.Writes Later := fun _ => trivial

theorem publishBodies_later (bodies : List Body) : (publishBodies bodies).Writes Later := by
  refine Coro.writes_bind session_later fun s => Coro.writes_bind (updateSession_later fun _ => ⟨rfl, rfl⟩)
    fun _ => Coro.writes_bind (Coro.writes_await _) fun _ => ⟨fun w => ⟨?_, id⟩, trivial⟩
  exact ⟨List.prefix_append _ _, List.prefix_rfl⟩

theorem requireActive_later : requireActive.Writes Later := by
  refine Coro.writes_bind (fun _ => trivial) fun w => ?_
  split <;> exact trivial

theorem publishPendingAudio_later (utteranceId : Uuid) :
    (publishPendingAudioLocked utteranceId).Writes Later := by
  refine Coro.writes_bind session_later fun s => ?_
  split
  · exact trivial
  · split
    · exact trivial
    · exact Coro.writes_bind (updateSession_later fun _ => ⟨rfl, rfl⟩) fun _ => publishBodies_later _

theorem publishOverflowDrop_later (utteranceId : Uuid) :
    (publishOverflowDropLocked utteranceId).Writes Later := by
  refine Coro.writes_bind session_later fun s => ?_
  split
  · exact trivial
  · split
    · exact trivial
    · exact Coro.writes_bind (updateSession_later fun _ => ⟨rfl, rfl⟩) fun _ => publishBodies_later _

theorem publishFinal_later (utteranceId : Uuid) (outcome : UtteranceOutcome) :
    (publishFinalLocked utteranceId outcome).Writes Later := by
  refine Coro.writes_bind (updateSession_later fun _ => ⟨rfl, rfl⟩) fun _ => Coro.writes_bind session_later fun s => ?_
  split
  · exact trivial
  · split
    · exact trivial
    · exact Coro.writes_bind (updateSession_later fun _ => ⟨rfl, rfl⟩) fun _ => publishBodies_later _

theorem publishClosed_later (reason : SessionCloseReason) : (publishClosedLocked reason).Writes Later := by
  refine Coro.writes_bind session_later fun s => ?_
  split
  · exact updateSession_later fun _ => ⟨rfl, rfl⟩
  · exact Coro.writes_bind (updateSession_later fun _ => ⟨rfl, rfl⟩) fun _ =>
      Coro.writes_bind (publishBodies_later _) fun _ => updateSession_later fun _ => ⟨rfl, rfl⟩

theorem submitFrame_later (frame : ProviderInputFrame) : (submitFrame codec frame).Writes Later := by
  refine Coro.writes_bind requireActive_later fun _ => Coro.writes_bind (Coro.writes_withLock ?_) fun _ => trivial
  refine Coro.writes_bind session_later fun s => ?_
  split
  · exact trivial
  refine Coro.writes_bind (updateSession_later fun _ => ⟨rfl, rfl⟩) fun _ => ?_
  split
  · refine Coro.writes_bind (updateSession_later fun _ => ⟨rfl, rfl⟩) fun _ => ?_
    split
    · exact publishOverflowDrop_later _
    · exact trivial
  · refine Coro.writes_bind (updateSession_later fun _ => ⟨rfl, rfl⟩) fun _ =>
      Coro.writes_bind (Coro.writes_await _) fun sent => ?_
    split
    · exact trivial
    split
    · exact Coro.writes_bind (updateSession_later fun _ => ⟨rfl, rfl⟩) fun _ =>
        Coro.writes_bind (publishPendingAudio_later _) fun _ =>
          updateSession_grown fun s => scheduleAfterInput_grown s _
    · exact trivial

theorem cancelUtterance_later (utteranceId : Uuid) : (cancelUtterance utteranceId).Writes Later := by
  refine Coro.writes_bind requireActive_later fun _ => Coro.writes_bind (Coro.writes_withLock ?_) fun _ => trivial
  refine Coro.writes_bind session_later fun s => ?_
  split
  · exact trivial
  · split
    · exact trivial
    · exact publishFinal_later _ _

theorem closeTimedOut_later : closeTimedOut.Writes Later := by
  refine Coro.writes_withLock (Coro.writes_bind session_later fun s => ?_)
  split
  · exact trivial
  · exact Coro.writes_bind (updateSession_later fun _ => ⟨rfl, rfl⟩) fun _ =>
      Coro.writes_bind (Coro.writes_await _) fun _ => publishClosed_later _

theorem closeSession_later (reason : CloseRequestReason) : (closeSession reason).Writes Later := by
  refine Coro.writes_bind (fun _ => trivial) fun w => ?_
  split
  · exact trivial
  refine Coro.writes_bind (Coro.writes_withLock (Coro.writes_bind session_later fun s => ?_)) fun asked => ?_
  · split
    · exact trivial
    · exact Coro.writes_bind (updateSession_later fun _ => ⟨rfl, rfl⟩) fun _ => trivial
  split
  · exact trivial
  have hwait : ∀ _ : Bool, (do
      let acknowledged ← Coro.await .closedEvent
      if acknowledged then
        let _ ← Coro.await .socketClose
        return .returned
      else
        closeTimedOut
        return .returned : Method Flow).Writes Later := by
    refine fun _ => Coro.writes_bind (Coro.writes_await _) fun acknowledged => ?_
    split
    · exact Coro.writes_bind (Coro.writes_await _) fun _ => trivial
    · exact Coro.writes_bind closeTimedOut_later fun _ => trivial
  dsimp only
  split
  · exact Coro.writes_bind (Coro.writes_await _) hwait
  · exact Coro.writes_bind trivial hwait

theorem realtimeEvent_later (event : List (PyStr × Json)) (nowNs : Nat) :
    (handleRealtimeEventLocked codec event nowNs).Writes Later := by
  refine Coro.writes_bind session_later fun s => ?_
  split
  next => 
    refine Coro.writes_bind (updateSession_later fun _ => ⟨rfl, rfl⟩) fun _ => ?_
    split
    · exact trivial
    split
    · exact trivial
    refine Coro.writes_bind (updateSession_later fun _ => ⟨rfl, rfl⟩) fun _ => Coro.writes_bind session_later fun s => ?_
    split
    · exact trivial
    refine Coro.writes_bind (updateSession_grown fun s => takeItems_grown s ..) fun _ => ?_
    split
    · exact trivial
    refine Coro.writes_bind (publishBodies_later _) fun _ => ?_
    split
    · exact updateSession_grown fun s => scheduleFinal_grown s ..
    · exact trivial
  · exact trivial

theorem nextMessage_later : nextMessage.Writes Later :=
  Coro.writes_bind (fun _ => trivial) fun _ => trivial

theorem receiveMessage_later (raw : RawMessage) (nowNs : Nat) :
    (receiveMessage codec raw nowNs).Writes Later := by
  unfold receiveMessage
  split
  · exact nextMessage_later
  · exact trivial
  · refine Coro.writes_bind (Coro.writes_withLock ?_) fun closed => ?_
    · dsimp only
      split
      · exact Coro.writes_bind (updateSession_later fun _ => ⟨rfl, rfl⟩) fun _ => Coro.writes_bind session_later
          fun s => Coro.writes_bind (publishClosed_later _) fun _ => trivial
      split
      · exact Coro.writes_bind (publishBodies_later _) fun _ => trivial
      · exact Coro.writes_bind (realtimeEvent_later _ _) fun _ => trivial
    · split
      · exact trivial
      · exact nextMessage_later
  · exact nextMessage_later

theorem receiveFailed_later : receiveFailed.Writes Later := by
  refine Coro.writes_bind (Coro.writes_withLock (Coro.writes_bind session_later fun s => ?_)) fun _ => trivial
  split
  · exact trivial
  · exact Coro.writes_bind (updateSession_later fun _ => ⟨rfl, rfl⟩) fun _ =>
      Coro.writes_bind (publishBodies_later _) fun _ => publishClosed_later _

theorem delayedFinal_later (task : FinalTask) : (delayedFinal task).Writes Later := by
  refine Coro.writes_bind (Coro.writes_await _) fun _ => Coro.writes_bind (fun _ => trivial) fun w => ?_
  split
  · exact trivial
  refine Coro.writes_bind (Coro.writes_withLock (Coro.writes_bind session_later fun s => ?_)) fun _ => trivial
  split
  · exact trivial
  · split
    · exact trivial
    · exact Coro.writes_bind (publishPendingAudio_later _) fun _ => publishFinal_later _ _

theorem methods_later (call : Call) : (call.method codec).Writes Later := by
  cases call with
  | submitFrame frame => exact submitFrame_later frame
  | cancelUtterance utteranceId => exact cancelUtterance_later utteranceId
  | updateDebugText enabled =>
    exact Coro.writes_bind requireActive_later fun _ =>
      Coro.writes_bind (Coro.writes_withLock (updateSession_later fun _ => ⟨rfl, rfl⟩)) fun _ => trivial
  | closeSession reason => exact closeSession_later reason
  | receiveMessage raw nowNs => exact receiveMessage_later raw nowNs
  | receiveFailed => exact receiveFailed_later
  | delayedFinal number task => exact delayedFinal_later task

theorem outside_later (change : Change) (w : World) : Later w ((programs codec).outside change w) := by
  cases change with
  | transport drained => exact later_refl w
  | removed => exact ⟨.refl _, fun _ => rfl⟩

/-- Nothing that is published is taken back. -/
theorem turns_later (request : OpenProviderSession) (turns more : List (EventLoop.Turn Call Change)) :
    Later (after codec request turns).shared (after codec request (turns ++ more)).shared := by
  rw [after, after, exec_append_state]
  exact (turns_writes later_refl (fun _ _ _ => Later.trans) methods_later outside_later
    (turns_writes later_refl (fun _ _ _ => Later.trans) methods_later outside_later (writing_start _)
      turns).2 more).1

/-- The final task of a call is the one that was created under its number. -/
def created (call : Call) (w : World) : Bool :=
  match call with
  | .delayedFinal number task => w.session.finalTasks[number]? = some task
  | _ => true

theorem admitted_created {ok : Call → World → Bool} {request : OpenProviderSession}
    {turns : List (EventLoop.Turn Call Change)} (h : Admitted codec ok request turns) :
    Admitted codec (fun call w => ok call w && created call w) request turns := by
  refine adm_known later_refl (fun _ _ _ => Later.trans) methods_later outside_later ?_ ?_ h
  · intro call w w' hlater hcreated
    cases call with
    | delayedFinal number task =>
      obtain ⟨rest, hrest⟩ := hlater.1.2
      have hget : w.session.finalTasks[number]? = some task := of_decide_eq_true hcreated
      refine decide_eq_true ?_
      rw [← hrest, List.getElem?_append_left (List.getElem?_eq_some_iff.mp hget).1, hget]
    | _ => rfl
  · intro w calls finished call hbegins
    cases call with
    | delayedFinal number task =>
      simp only [programs, begins, Bool.and_eq_true] at hbegins
      exact hbegins.1.1
    | _ => rfl

variable {free : OpenAISession → Prop} {ok : Call → World → Bool} (h : Preserved codec free ok)
  {request : OpenProviderSession} (h0 : free (.opened request)) {turns : List (EventLoop.Turn Call Change)}
  (hadm : Admitted codec ok request turns)

include h h0 hadm

/-- What every move keeps holds whenever the lock is free. -/
theorem run_free (hfree : (after codec request turns).holder = none) :
    free (after codec request turns).shared.session :=
  turns_free (sections_keeping h) h0 turns hadm hfree

/-- What is known of a session at every moment of a run: the run can go on, the lock's holder alone
    taking turns, to where the lock is free. -/
theorem run_toFree :
    ∃ s, free s ∧ (after codec request turns).shared.session.wire <+: s.wire := by
  have hkeeping := sections_keeping h
  have hwake : ∀ call on w, ∃ wake, EventLoop.mayWake (programs codec) call on wake w = true := by
    intro call on w
    by_cases hcancelled : (programs codec).cancelled call w = true
    · exact ⟨.cancelled, hcancelled⟩
    · rw [Bool.not_eq_true] at hcancelled
      cases on with
      | closedEvent => exact ⟨.failed, by rw [EventLoop.mayWake, hcancelled] <;> first | rfl | (intro h; cases h)⟩
      | drained | send | socketClose | sleep =>
        exact ⟨.ready, by rw [EventLoop.mayWake, hcancelled] <;> first | rfl | (intro h; cases h)⟩
  obtain ⟨wakes, hfree⟩ := exists_free hkeeping hwake (turns_disciplined hkeeping h0 turns hadm)
  have hmore : Admitted codec ok request (turns ++ wakes.map .proceed) := by
    refine adm_append_forall hadm fun t ht w => ?_
    obtain ⟨wake, -, rfl⟩ := List.mem_map.mp ht
    rfl
  refine ⟨_, run_free h h0 hmore ?_, (turns_later request turns _).1.1⟩
  rw [after, exec_append_state]
  exact hfree

end Growing

/-- A final task that has a final to publish finds the transport drained. -/
def unhindered (task : FinalTask) (w : World) : Bool :=
  w.drained || match w.session.utterance task.utteranceId with
    | none => true
    | some u => u.finalSent || !u.inputComplete

end Translator.Realtime
