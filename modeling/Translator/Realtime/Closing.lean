import Translator.Realtime.Pending

/-! A session is closed once and last.

    Who closes a session does so under the lock, cancels every final task there is and publishes the
    closing event. A task that has waited for the lock in the meantime looks at nothing of this: a last
    frame, a cancellation or a message of the service then still publishes, or sets another final task.
    Where that does not happen, the closing event is the last one, at every moment. -/

namespace Translator.Realtime
open Schemes
open Wire (Uuid)
open Sidecar (OpenProviderSession ProviderInputFrame UtteranceOutcome)

/-! ### Final tasks -/

/-- Every final task that was created is cancelled, or it is the one its utterance waits for. -/
def Timers (s : OpenAISession) : Prop :=
  ∀ n task, s.finalTasks[n]? = some task → n ∈ s.cancelledTasks
    ∨ ∃ u, s.utterance task.utteranceId = some u ∧ u.finalTask = some n

section Tasks

variable {s s' : OpenAISession}

/-- No final task is created, and none is forgotten without being cancelled. -/
theorem Timers.step (h : Timers s) (htasks : s'.finalTasks = s.finalTasks)
    (hcancelled : ∀ n ∈ s.cancelledTasks, n ∈ s'.cancelledTasks)
    (hkept : ∀ utteranceId u n, s.utterance utteranceId = some u → u.finalTask = some n →
      n ∈ s'.cancelledTasks ∨ ∃ u', s'.utterance utteranceId = some u' ∧ u'.finalTask = some n) : Timers s' := by
  intro n task hget
  rw [htasks] at hget
  rcases h n task hget with hold | ⟨u, hu, htask⟩
  · exact .inl (hcancelled n hold)
  · exact hkept task.utteranceId u n hu htask

theorem Timers.same (h : Timers s) (htasks : s'.finalTasks = s.finalTasks)
    (hcancelled : s'.cancelledTasks = s.cancelledTasks)
    (hutterance : ∀ utteranceId, s'.utterance utteranceId = s.utterance utteranceId) : Timers s' :=
  h.step htasks (fun _ hn => hcancelled ▸ hn) fun utteranceId u _ hu htask =>
    .inr ⟨u, (hutterance utteranceId).trans hu, htask⟩

theorem Timers.setDefault (h : Timers s) (state : UtteranceState) : Timers (s.setDefault state) := by
  refine h.step rfl (fun _ hn => hn) fun utteranceId u n hu htask => .inr ⟨u, ?_, htask⟩
  rw [OpenAISession.utterance_setDefault, hu]
  split <;> rfl

theorem Timers.update (h : Timers s) (utteranceId : Uuid) {f : UtteranceState → UtteranceState}
    (hf : ∀ u, (f u).finalTask = u.finalTask) : Timers (s.update utteranceId f) := by
  refine h.step rfl (fun _ hn => hn) fun other u n hu htask => .inr ?_
  rw [OpenAISession.utterance_update, hu]
  split
  · exact ⟨f u, rfl, (hf u).trans htask⟩
  · exact ⟨u, rfl, htask⟩

theorem Timers.publish (h : Timers s) (bodies : List Body) : Timers (s.publish bodies) :=
  h.same rfl rfl fun _ => rfl

theorem Timers.flushPending (h : Timers s) (utteranceId : Uuid) : Timers (s.flushPending utteranceId) := by
  unfold OpenAISession.flushPending
  split
  · exact h
  · split
    · exact h
    · have htaken : Timers (s.takePending utteranceId) := h.update utteranceId fun _ => rfl
      exact htaken.publish _

/-- The final task that is replaced is cancelled. -/
theorem Timers.scheduleFinal (h : Timers s) (utteranceId : Uuid) (delayMs : Nat) (outcome : UtteranceOutcome) :
    Timers (s.scheduleFinal utteranceId delayMs outcome) := by
  have hafter := s.utterance_scheduleFinal utteranceId
  unfold OpenAISession.scheduleFinal at hafter ⊢
  split
  · exact h
  next u hu =>
    split
    · exact h
    next hfinal =>
      simp only [hu, if_neg hfinal] at hafter
      intro n task hget
      have hget : (s.finalTasks ++ [(⟨utteranceId, delayMs, outcome⟩ : FinalTask)])[n]? = some task := hget
      rcases Nat.lt_or_ge n s.finalTasks.length with hlt | hge
      · rw [List.getElem?_append_left hlt] at hget
        rcases h n task hget with hold | ⟨v, hv, htask⟩
        · exact .inl (List.mem_append_left _ hold)
        · by_cases hsame : task.utteranceId = utteranceId
          · rw [hsame, hu] at hv
            cases hv
            exact .inl (List.mem_append_right _ (by rw [htask]; exact List.mem_singleton_self n))
          · refine .inr ⟨v, ?_, htask⟩
            rw [hafter task.utteranceId delayMs outcome, if_neg hsame, hv]
      · rw [List.getElem?_append_right hge] at hget
        obtain ⟨hzero, rfl⟩ : n - s.finalTasks.length = 0 ∧ task = ⟨utteranceId, delayMs, outcome⟩ := by
          rcases hsub : n - s.finalTasks.length with _ | k
          · rw [hsub] at hget
            exact ⟨rfl, (Option.some.inj hget).symm⟩
          · rw [hsub] at hget
            cases hget
        refine .inr ⟨u.scheduled s.finalTasks.length, ?_, ?_⟩
        · rw [hafter utteranceId delayMs outcome, if_pos rfl, hu]
          rfl
        · rw [UtteranceState.scheduled, if_neg hfinal, show n = s.finalTasks.length by omega]

theorem Timers.finishInput (h : Timers s) (utteranceId : Uuid) : Timers (s.finishInput utteranceId) := by
  obtain ⟨delayMs, outcome, hafter⟩ :=
    ((s.completeInput utteranceId).flushPending utteranceId).scheduleAfterInput_eq utteranceId
  rw [OpenAISession.finishInput, hafter]
  have hcomplete : Timers (s.completeInput utteranceId) := h.update utteranceId fun _ => rfl
  exact (hcomplete.flushPending utteranceId).scheduleFinal _ _ _

theorem Timers.send (h : Timers s) (codec : Codec) (frame : ProviderInputFrame) : Timers (s.send codec frame) :=
  Timers.same (s := s.setDefault (.new frame.streamId frame.utteranceId false)) (h.setDefault _) rfl rfl
    fun _ => rfl

theorem overflowDrop_tasks (s : OpenAISession) (utteranceId : Uuid) :
    (s.overflowDrop utteranceId).finalTasks = s.finalTasks
      ∧ (s.overflowDrop utteranceId).cancelledTasks = s.cancelledTasks := by
  unfold OpenAISession.overflowDrop
  split
  · exact ⟨rfl, rfl⟩
  · split <;> exact ⟨rfl, rfl⟩

theorem Timers.drop (h : Timers s) (frame : ProviderInputFrame) : Timers (s.drop frame) := by
  have hheard : Timers (s.hear frame) := h.same rfl rfl fun _ => rfl
  have hnoted : Timers ((s.hear frame).noteDropped frame) := (hheard.setDefault _).update _ fun _ => rfl
  unfold OpenAISession.drop OpenAISession.overflowDrop
  split
  · split
    · exact hnoted
    · split
      · exact hnoted
      · have hmarked : Timers (((s.hear frame).noteDropped frame).markFinal frame.utteranceId) :=
          hnoted.update frame.utteranceId fun _ => rfl
        exact hmarked.publish _
  · exact hnoted

/-- An utterance that has its final forgets its final task, which is cancelled. -/
theorem Timers.beginFinal (h : Timers s) (utteranceId : Uuid) : Timers (s.beginFinal utteranceId) := by
  refine h.step rfl (fun n hn => List.mem_append_left _ hn) fun other u n hu htask => ?_
  by_cases hother : other = utteranceId
  · refine .inl (List.mem_append_right _ ?_)
    rw [← hother, hu, Option.bind_some, htask]
    exact List.mem_singleton_self n
  · exact .inr ⟨u, (s.utterance_beginFinal utteranceId other).trans ((if_neg hother).trans hu), htask⟩

theorem takeItem_tasks (s : OpenAISession) (codec : Codec) (utteranceId : Uuid) (item : ProviderEvent)
    (h : Timers s) : Timers (s.takeItem codec utteranceId item).2
      ∧ (s.takeItem codec utteranceId item).2.finalTasks = s.finalTasks
      ∧ (s.takeItem codec utteranceId item).2.cancelledTasks = s.cancelledTasks := by
  unfold OpenAISession.takeItem
  split
  · split <;> exact ⟨h.update utteranceId fun _ => rfl, rfl, rfl⟩
  all_goals exact ⟨h, rfl, rfl⟩

theorem takeItems_tasks (codec : Codec) (utteranceId : Uuid) (items : List ProviderEvent)
    (h : Timers s) : Timers (s.takeItems codec utteranceId items).2
      ∧ (s.takeItems codec utteranceId items).2.finalTasks = s.finalTasks
      ∧ (s.takeItems codec utteranceId items).2.cancelledTasks = s.cancelledTasks := by
  induction items generalizing s with
  | nil => exact ⟨h, rfl, rfl⟩
  | cons item rest ih =>
    obtain ⟨hone, htasks, hcancelled⟩ := takeItem_tasks s codec utteranceId item h
    obtain ⟨hrest, hrestTasks, hrestCancelled⟩ := ih hone
    exact ⟨hrest, hrestTasks.trans htasks, hrestCancelled.trans hcancelled⟩

theorem Timers.takeEvent (h : Timers s) (codec : Codec) (streamId utteranceId : Uuid)
    (items : List ProviderEvent) : Timers (s.takeEvent codec streamId utteranceId items) := by
  unfold OpenAISession.takeEvent OpenAISession.publishConverted
  dsimp only
  have hset := h.setDefault (.new streamId utteranceId false)
  have htaken := (takeItems_tasks codec utteranceId items hset).1
  split
  · exact hset
  · split
    · exact htaken
    · split
      · exact (htaken.publish _).scheduleFinal _ _ _
      · exact htaken.publish _

end Tasks

/-! ### Before and after the close -/

def Body.isClosed : Body → Bool
  | .sessionClosed _ => true
  | _ => false

/-- The closing event is the last one, and the only one. -/
def ClosedLast (bodies : List Body) : Prop :=
  ∃ before reason, bodies = before ++ [.sessionClosed reason] ∧ ∀ body ∈ before, body.isClosed = false

/-- A session that is closed has told so as its last word, and no final task of it is left to run. -/
structure Closing (s : OpenAISession) : Prop where
  closed : s.closed = s.closedPublished
  timers : Timers s
  telling : s.closedPublished = false → ∀ body ∈ s.published, body.isClosed = false
  told : s.closedPublished = true → ClosedLast s.published
  ended : s.closedPublished = true → ∀ n < s.finalTasks.length, n ∈ s.cancelledTasks

section Moves

variable {s s' : OpenAISession}

/-- An open session goes on. -/
theorem Closing.goOn (h : Closing s) (hopen : s.closedPublished = false) (hclosed : s'.closed = s.closed)
    (hpublishedClosed : s'.closedPublished = s.closedPublished) (htimers : Timers s') {bodies : List Body}
    (hpublished : s'.published = s.published ++ bodies) (hbodies : ∀ body ∈ bodies, body.isClosed = false) :
    Closing s' := by
  have hstill : s'.closedPublished ≠ true := by
    rw [hpublishedClosed, hopen]
    exact Bool.false_ne_true
  refine ⟨by rw [hclosed, hpublishedClosed, h.closed], htimers, fun _ body hbody => ?_,
    fun hc => absurd hc hstill, fun hc => absurd hc hstill⟩
  rw [hpublished] at hbody
  exact (List.mem_append.mp hbody).elim (h.telling hopen body) (hbodies body)

/-- Nothing is told and no final task is created. -/
theorem Closing.quiet (h : Closing s) (hclosed : s'.closed = s'.closedPublished)
    (hpublishedClosed : s'.closedPublished = s.closedPublished) (htimers : Timers s')
    (hpublished : s'.published = s.published) (htasks : s'.finalTasks = s.finalTasks)
    (hcancelled : ∀ n ∈ s.cancelledTasks, n ∈ s'.cancelledTasks) : Closing s' := by
  refine ⟨hclosed, htimers, fun hc => ?_, fun hc => ?_, fun hc n hn => ?_⟩
  · rw [hpublished]
    exact h.telling (hpublishedClosed.symm.trans hc)
  · rw [hpublished]
    exact h.told (hpublishedClosed.symm.trans hc)
  · rw [htasks] at hn
    exact hcancelled n (h.ended (hpublishedClosed.symm.trans hc) n hn)

/-- Closing an open session tells so last and cancels every final task. -/
theorem Closing.close (htimers : Timers s) (hopen : s.closedPublished = false)
    (htelling : ∀ body ∈ s.published, body.isClosed = false) (reason : SessionCloseReason) :
    Closing (s.markEnding.close reason) := by
  have hclose : s.markEnding.close reason
      = (s.markEnding.markClosed.publish [.sessionClosed reason]).closedEventSet :=
    if_neg (by rw [show s.markEnding.closedPublished = false from hopen]; exact Bool.false_ne_true)
  have hpublished : (s.markEnding.close reason).published = s.published ++ [.sessionClosed reason] := by
    rw [hclose]
    exact OpenAISession.published_publish s.markEnding.markClosed _
  have htasks : (s.markEnding.close reason).finalTasks = s.finalTasks := by rw [hclose]; rfl
  have hcancelled : (s.markEnding.close reason).cancelledTasks
      = s.cancelledTasks ++ s.utterances.entries.filterMap fun entry => entry.2.finalTask := by
    rw [hclose]
    rfl
  have hclosed : (s.markEnding.close reason).closed = true := by rw [hclose]; rfl
  have hmarked : (s.markEnding.close reason).closedPublished = true := by rw [hclose]; rfl
  have hall : ∀ n task, s.finalTasks[n]? = some task → n ∈ (s.markEnding.close reason).cancelledTasks := by
    intro n task hget
    rw [hcancelled]
    rcases htimers n task hget with hold | ⟨u, hu, htask⟩
    · exact List.mem_append_left _ hold
    · exact List.mem_append_right _ (List.mem_filterMap.mpr
        ⟨⟨task.utteranceId, u⟩, AList.mem_lookup_iff.mp hu, htask⟩)
  refine ⟨hclosed.trans hmarked.symm, fun n task hget => .inl (hall n task (htasks ▸ hget)), fun hc => ?_,
    fun _ => ⟨s.published, reason, hpublished, htelling⟩, fun _ n hn => ?_⟩
  · rw [hmarked] at hc
    cases hc
  · rw [htasks] at hn
    exact hall n _ (List.getElem?_eq_getElem hn)

/-- A last frame that comes late tells nothing where its utterance is final and nothing is pending. -/
theorem finishInput_idle {utteranceId : Uuid} {u : UtteranceState} (hu : s.utterance utteranceId = some u)
    (hfinal : u.finalSent = true) (hpending : u.pendingAudio = []) :
    s.finishInput utteranceId = s.completeInput utteranceId := by
  have hcomplete : (s.completeInput utteranceId).utterance utteranceId = some { u with inputComplete := true } := by
    rw [OpenAISession.completeInput, OpenAISession.utterance_update, if_pos rfl, hu]
    rfl
  obtain ⟨delayMs, outcome, hafter⟩ :=
    ((s.completeInput utteranceId).flushPending utteranceId).scheduleAfterInput_eq utteranceId
  rw [OpenAISession.finishInput, hafter, OpenAISession.flushPending_of_nil _ hcomplete hpending]
  exact OpenAISession.scheduleFinal_of_final _ hcomplete hfinal delayMs outcome

/-- What an event tells is told of an utterance. -/
theorem takeEvent_tells (codec : Codec) (streamId : Uuid) {utteranceId : Uuid} {items : List ProviderEvent}
    {a a' : OpenAIRealtimeAdapter} (hmapped : a.Mapped utteranceId items a') :
    ∃ bodies, (s.takeEvent codec streamId utteranceId items).published = s.published ++ bodies
      ∧ ∀ body ∈ bodies, body.isClosed = false := by
  have hnamed : ∀ {body : Body}, body.utterance? = some utteranceId → body.isClosed = false := by
    intro body hname
    cases body <;> first | rfl | cases hname
  obtain ⟨u, hu⟩ : ∃ u, (s.utterance utteranceId).getD (.new streamId utteranceId false) = u := ⟨_, rfl⟩
  by_cases hfinal : u.finalSent = true
  · have hknown := OpenAISession.utterance_of_final hu rfl hfinal
    exact ⟨[], (OpenAISession.takeEvent_final codec streamId items hknown hfinal).1.trans (List.append_nil _).symm, by simp⟩
  · obtain ⟨f, hf, hpublished, -⟩ := OpenAISession.takeEvent_open codec items hu
      (Bool.eq_false_iff.mpr hfinal)
    refine ⟨_, hpublished, fun body hbody => ?_⟩
    split at hbody
    · exact hnamed ((OpenAISession.told_mapped codec hmapped).1 body hbody).1
    · exact hnamed (OpenAISession.toldEarly_mapped hmapped body hbody).1

/-- An event tells nothing of an utterance that is final, nor anything but text of one whose input goes on. -/
theorem takeEvent_idle (codec : Codec) {streamId utteranceId : Uuid} (items : List ProviderEvent)
    {u : UtteranceState} (htimers : Timers s)
    (hu : (s.utterance utteranceId).getD (.new streamId utteranceId false) = u)
    (hidle : u.finalSent = true ∨ u.inputComplete = false ∧ ∀ item ∈ items, item.body.isText = false) :
    (s.takeEvent codec streamId utteranceId items).published = s.published
      ∧ (s.takeEvent codec streamId utteranceId items).finalTasks = s.finalTasks
      ∧ (s.takeEvent codec streamId utteranceId items).cancelledTasks = s.cancelledTasks := by
  have hset : (s.setDefault (.new streamId utteranceId false)).utterance utteranceId = some u := by
    rw [OpenAISession.utterance_setDefault]
    exact (if_pos rfl).trans (congrArg some hu)
  rw [OpenAISession.takeEvent, hset]
  by_cases hfinal : u.finalSent = true
  · rw [if_pos (by simpa using hfinal)]
    exact ⟨rfl, rfl, rfl⟩
  obtain ⟨hinput, htexts⟩ := hidle.resolve_left hfinal
  rw [if_neg (by simpa using hfinal)]
  have hnone : ((s.setDefault (.new streamId utteranceId false)).takeItems codec utteranceId items).1 = [] := by
    rw [(OpenAISession.takeItems_waiting codec items hset hinput).1]
    refine List.filterMap_eq_nil_iff.mpr fun item hitem => ?_
    rw [OpenAISession.toldEarly, htexts item hitem]
    rfl
  obtain ⟨-, htasks, hcancelled⟩ := takeItems_tasks codec utteranceId items
    (htimers.setDefault (.new streamId utteranceId false))
  have hwire := (OpenAISession.takeItems_untouched (s.setDefault (.new streamId utteranceId false)) codec
    utteranceId items).2
  rw [hnone]
  refine ⟨?_, htasks, hcancelled⟩
  show (OpenAISession.takeItems codec utteranceId items _).2.published = s.published
  rw [OpenAISession.published, hwire]
  rfl

end Moves

/-! ### Every run -/

/-- An event of the service that would tell nothing of the session. -/
def tellsNothing (codec : Codec) (s : OpenAISession) (event : List (PyStr × Json)) (nowNs : Nat) : Bool :=
  match s.currentStreamId, s.currentUtteranceId with
  | some streamId, some utteranceId =>
    match (s.adapter.mapRealtimeEvents codec s.debugTextEnabled event streamId utteranceId nowNs).1 with
    | .error _ => true
    | .ok items =>
      let u := (s.utterance utteranceId).getD (.new streamId utteranceId false)
      items.isEmpty || u.finalSent || !u.inputComplete && items.all fun item => !item.body.isText
  | _, _ => true

/-- The calls that leave a closed session alone: after the closing event no last frame comes that would
    publish or set a final task, no utterance without a final is cancelled, and no message is taken that is
    an error or tells anything. -/
def discreet (codec : Codec) (call : Call) (w : World) : Bool :=
  !w.session.closedPublished || match call with
  | .submitFrame frame =>
    (w.session.validateFrame frame).isSome || !frame.endOfUtterance
      || match w.session.utterance frame.utteranceId with
        | none => false
        | some u => u.finalSent && (w.session.blocks frame.utteranceId || u.pendingAudio.isEmpty)
  | .cancelUtterance utteranceId => (w.session.utterance utteranceId).all UtteranceState.finalSent
  | .receiveMessage raw nowNs =>
    match codec.loads raw with
    | .value (.object event) =>
      OpenAISession.eventType event = some (pyStr "session.closed")
        || (OpenAISession.eventType event ≠ some (pyStr "error") && tellsNothing codec w.session event nowNs)
    | _ => true
  | _ => true

section Moves

variable {codec : Codec} {w : World}

theorem Closing.drop {s : OpenAISession} (h : Closing s) {frame : ProviderInputFrame}
    (hidle : s.closedPublished = true → frame.endOfUtterance = true →
      ∃ u, s.utterance frame.utteranceId = some u ∧ u.finalSent = true) : Closing (s.drop frame) := by
  obtain ⟨u₀, hu₀⟩ : ∃ u, (s.utterance frame.utteranceId).getD (.new frame.streamId frame.utteranceId true) = u :=
    ⟨_, rfl⟩
  obtain ⟨hpublished, -⟩ := OpenAISession.drop_effect hu₀
  rw [← hu₀] at hpublished
  have huntouched := s.drop_untouched frame
  have htimers := h.timers.drop frame
  have htasks : (s.drop frame).finalTasks = s.finalTasks ∧ (s.drop frame).cancelledTasks = s.cancelledTasks := by
    have hnoted : ((s.hear frame).noteDropped frame).finalTasks = s.finalTasks
        ∧ ((s.hear frame).noteDropped frame).cancelledTasks = s.cancelledTasks := ⟨rfl, rfl⟩
    obtain ⟨hcreated, hcancelled⟩ := overflowDrop_tasks ((s.hear frame).noteDropped frame) frame.utteranceId
    unfold OpenAISession.drop
    split
    · exact ⟨hcreated.trans hnoted.1, hcancelled.trans hnoted.2⟩
    · exact hnoted
  by_cases hopen : s.closedPublished = false
  · refine h.goOn hopen huntouched.closed huntouched.closedPublished htimers hpublished fun body hbody => ?_
    split at hbody
    · rcases List.mem_cons.mp hbody with rfl | hbody
      · rfl
      · cases List.mem_singleton.mp hbody
        rfl
    · cases hbody
  · have hclosed : s.closedPublished = true := by simpa using hopen
    have hnothing : (frame.endOfUtterance
        && !((s.utterance frame.utteranceId).getD (.new frame.streamId frame.utteranceId true)).finalSent) = false := by
      cases hend : frame.endOfUtterance with
      | false => rfl
      | true =>
        obtain ⟨u, hu, hfinal⟩ := hidle hclosed hend
        rw [hu, Option.getD_some, hfinal]
        rfl
    rw [hnothing, if_neg Bool.false_ne_true, List.append_nil] at hpublished
    refine h.quiet ?_ huntouched.closedPublished htimers hpublished htasks.1 fun n hn => htasks.2 ▸ hn
    rw [huntouched.closed, huntouched.closedPublished]
    exact h.closed

theorem Closing.message {raw : RawMessage} {nowNs : Nat} {event : List (PyStr × Json)} (h : Closing w.session)
    (hloads : codec.loads raw = .value (.object event)) (hok : discreet codec (.receiveMessage raw nowNs) w = true) :
    Closing (w.session.message codec event nowNs).2 := by
  unfold OpenAISession.message
  split
  next hclosed =>
    by_cases hopen : w.session.closedPublished = false
    · exact Closing.close h.timers hopen (h.telling hopen) _
    · have hdone : w.session.closedPublished = true := by simpa using hopen
      have hsame : w.session.markEnding.close (w.session.requestedCloseReason.getD .userStop)
          = w.session.markEnding.closedEventSet := if_pos hdone
      rw [hsame]
      exact h.quiet hdone.symm rfl (h.timers.same rfl rfl fun _ => rfl) rfl rfl fun _ hn => hn
  next hnotClosed =>
    have hquiet : w.session.closedPublished = true →
        OpenAISession.eventType event ≠ some (pyStr "error") ∧ tellsNothing codec w.session event nowNs = true := by
      intro hdone
      simp only [discreet, hdone, hloads, decide_eq_false hnotClosed] at hok
      simpa using hok
    split
    next herror =>
      by_cases hopen : w.session.closedPublished = false
      · exact h.goOn hopen rfl rfl (h.timers.publish _) (OpenAISession.published_publish _ _)
          (by simp [Body.isClosed])
      · exact absurd herror (hquiet (by simpa using hopen)).1
    next =>
      rcases w.session.realtimeEvent_cases codec event nowNs with
        ⟨a, -, hafter⟩ | ⟨streamId, utteranceId, items, a, hstream, hcurrent, hsome, hmapped, hafter⟩
      · rw [hafter]
        exact h.quiet h.closed rfl (h.timers.same rfl rfl fun _ => rfl) rfl rfl fun _ hn => hn
      rw [hafter]
      have htimers : Timers { w.session with adapter := a } := h.timers.same rfl rfl fun _ => rfl
      have huntouched := OpenAISession.takeEvent_untouched { w.session with adapter := a } codec streamId
        utteranceId items
      by_cases hopen : w.session.closedPublished = false
      · obtain ⟨bodies, hpublished, hbodies⟩ := takeEvent_tells (s := { w.session with adapter := a })
          codec streamId (OpenAIRealtimeAdapter.mapRealtimeEvents_mapped hmapped)
        exact h.goOn hopen huntouched.closed huntouched.closedPublished
          (htimers.takeEvent codec streamId utteranceId items) hpublished hbodies
      · have hidle := (hquiet (by simpa using hopen)).2
        simp only [tellsNothing, hstream, hcurrent, hmapped, Bool.or_eq_true, Bool.and_eq_true, List.isEmpty_iff,
          Bool.not_eq_true', List.all_eq_true, hsome, false_or] at hidle
        obtain ⟨hpublished, htasks, hcancelled⟩ := takeEvent_idle codec items htimers rfl hidle
        refine h.quiet ?_ huntouched.closedPublished (htimers.takeEvent codec streamId utteranceId items)
          hpublished htasks fun n hn => ?_
        swap
        · rw [hcancelled]
          exact hn
        rw [huntouched.closed, huntouched.closedPublished]
        exact h.closed

theorem Closing.finish {s : OpenAISession} (h : Closing s) (hopen : s.closedPublished = false) (u : UtteranceState)
    (utteranceId : Uuid) (outcome : UtteranceOutcome) : Closing (s.finish u utteranceId outcome) := by
  obtain ⟨-, -, -, hclosed, hpublishedClosed, -⟩ := s.finish_keeps u utteranceId outcome
  exact h.goOn hopen hclosed hpublishedClosed ((h.timers.beginFinal utteranceId).publish _)
    (s.published_finish u utteranceId outcome) (by simp [Body.isClosed])

theorem Closing.loseFinal {s : OpenAISession} (h : Closing s) (hopen : s.closedPublished = false)
    (utteranceId : Uuid) : Closing (s.loseFinal utteranceId) :=
  h.goOn hopen rfl rfl ((h.timers.beginFinal utteranceId).same rfl rfl fun _ => rfl)
    (List.append_nil _).symm (by simp)

theorem Closing.send {s : OpenAISession} (h : Closing s) (codec : Codec) (frame : ProviderInputFrame) :
    Closing (s.send codec frame) :=
  h.quiet h.closed rfl (h.timers.send codec frame) rfl rfl fun _ hn => hn

theorem Closing.completeInput {s : OpenAISession} (h : Closing s) (utteranceId : Uuid) :
    Closing (s.completeInput utteranceId) :=
  h.quiet h.closed rfl (h.timers.update utteranceId fun _ => rfl) rfl rfl fun _ hn => hn

/-- A final task that may run finds the session open. -/
theorem Closing.open_of_task {s : OpenAISession} (h : Closing s) {number : Nat} {task : FinalTask}
    (hcreated : s.finalTasks[number]? = some task) (hnot : number ∉ s.cancelledTasks) : s.closedPublished = false := by
  by_contra hopen
  exact hnot (h.ended (by simpa using hopen) number (List.getElem?_eq_some_iff.mp hcreated).1)

theorem closing_preserved (codec : Codec) :
    Preserved codec (fun s => AllTidy s ∧ Closing s) fun call w => discreet codec call w && created call w := by
  rintro call w s' ⟨htidy, h⟩ hok hnot hmove
  refine ⟨hmove.allTidy htidy, ?_⟩
  rw [Bool.and_eq_true] at hok
  obtain ⟨hok, hcreated⟩ := hok
  cases hmove with
  | rejected | spared | closeKnown | failedClosed | late => exact h
  | debug | closeAsked =>
    exact h.quiet h.closed rfl (h.timers.same rfl rfl fun _ => rfl) rfl rfl fun _ hn => hn
  | @dropped frame _ _ hvalid hblocks =>
    refine h.drop fun hdone hend => ?_
    cases hu : w.session.utterance frame.utteranceId with
    | none => simp [discreet, hdone, hvalid, hend, hu] at hok
    | some u =>
      simp only [discreet, hdone, hvalid, hend, hu, hblocks] at hok
      exact ⟨u, rfl, by simpa using hok⟩
  | sent => exact h.send codec _
  | @finished frame _ _ hvalid hblocks hend =>
    have hsent : (w.session.send codec frame).utterance frame.utteranceId
        = some ((w.session.utterance frame.utteranceId).getD (.new frame.streamId frame.utteranceId false)) :=
      (w.session.utterance_send codec frame _).trans (if_pos rfl)
    by_cases hopen : w.session.closedPublished = false
    · obtain ⟨-, hpublished, huntouched, -⟩ := OpenAISession.finishInput_effect hsent
      refine (h.send codec frame).goOn hopen huntouched.closed huntouched.closedPublished
        ((h.timers.send codec frame).finishInput frame.utteranceId) hpublished fun body hbody => ?_
      obtain ⟨audio, -, rfl⟩ := List.mem_map.mp hbody
      rfl
    · have hdone : w.session.closedPublished = true := by simpa using hopen
      cases hu : w.session.utterance frame.utteranceId with
      | none => simp [discreet, hdone, hvalid, hend, hu] at hok
      | some u =>
        simp only [discreet, hdone, hvalid, hend, hu, hblocks] at hok
        have hfinal : u.finalSent = true ∧ u.pendingAudio = [] := by simpa using hok
        rw [hu] at hsent
        rw [finishInput_idle hsent hfinal.1 hfinal.2]
        exact (h.send codec frame).completeInput frame.utteranceId
  | cancelled hu hfinal =>
    have hopen : w.session.closedPublished = false := by
      by_contra hdone
      simp [discreet, hdone, hu, hfinal] at hok
    exact h.finish hopen _ _ _
  | closeTimedOut hopen => exact Closing.close h.timers hopen (h.telling hopen) _
  | message hloads => exact h.message hloads hok
  | failed hclosed =>
    have hopen : w.session.closedPublished = false := h.closed.symm.trans hclosed
    refine Closing.close (s := w.session.providerError) (h.timers.publish _) hopen (fun body hbody => ?_) _
    rw [OpenAISession.providerError, OpenAISession.published_publish] at hbody
    rcases List.mem_append.mp hbody with hold | hnew
    · exact h.telling hopen body hold
    · cases List.mem_singleton.mp hnew
      rfl
  | @final number task _ _ u hu hfinal hinput =>
    have hopen := h.open_of_task (of_decide_eq_true hcreated) (by simpa [programs] using hnot)
    rw [(htidy.flushPending_eq hu hfinal hinput).1]
    exact h.finish hopen _ _ _
  | @lost number task _ _ u hu hfinal hinput =>
    have hopen := h.open_of_task (of_decide_eq_true hcreated) (by simpa [programs] using hnot)
    rw [(htidy.flushPending_eq hu hfinal hinput).1]
    exact h.loseFinal hopen _

end Moves

theorem ClosedLast.rest {before rest : List Body} {reason : SessionCloseReason}
    (h : ClosedLast (before ++ .sessionClosed reason :: rest)) : rest = [] := by
  obtain ⟨earlier, last, heq, hearlier⟩ := h
  rcases List.eq_nil_or_concat rest with hnil | ⟨init, final, hconcat⟩
  · exact hnil
  · rw [hconcat, List.concat_eq_append, ← List.cons_append, ← List.append_assoc] at heq
    have hmem : Body.sessionClosed reason ∈ earlier := by
      rw [← (List.append_inj' heq rfl).1]
      exact List.mem_append_right _ List.mem_cons_self
    cases hearlier _ hmem

/-- In every run of such calls: at every moment nothing follows a closing event, and whenever the lock is free
    and the session is closed, the closing event is its last event, and the only one of its kind. -/
theorem run_closes (codec : Codec) (request : OpenProviderSession)
    (turns : List (EventLoop.Turn Call Change)) (hadm : Admitted codec (discreet codec) request turns) :
    (∀ before reason rest, (after codec request turns).shared.session.published
        = before ++ .sessionClosed reason :: rest → rest = [])
      ∧ ((after codec request turns).holder = none → (after codec request turns).shared.session.closed = true →
        ClosedLast (after codec request turns).shared.session.published) := by
  have hfresh : AllTidy (.opened request) ∧ Closing (.opened request) :=
    ⟨fun _ _ h => (nomatch h), ⟨rfl, fun _ _ h => (nomatch h), fun _ _ h => (nomatch h), fun h => (nomatch h),
      fun h => (nomatch h)⟩⟩
  refine ⟨fun before reason rest hpublished => ?_, fun hfree hclosed => ?_⟩
  · obtain ⟨s, ⟨-, hclosing⟩, more, hmore⟩ :=
      run_toFree (closing_preserved codec) hfresh (admitted_created hadm)
    have hall : s.published = before ++ .sessionClosed reason :: (rest ++ more.flatten.map ProviderEvent.body) := by
      rw [OpenAISession.published, ← hmore, List.flatten_append, List.map_append]
      show (after codec request turns).shared.session.published ++ _ = _
      rw [hpublished, List.append_assoc]
      rfl
    have hdone : s.closedPublished = true := by
      by_contra hopen
      have := hclosing.telling (by simpa using hopen) (.sessionClosed reason) (by rw [hall]; simp)
      cases this
    have htold := hclosing.told hdone
    rw [hall] at htold
    exact (List.append_eq_nil_iff.mp htold.rest).1
  · obtain ⟨-, hclosing⟩ := run_free (closing_preserved codec) hfresh (admitted_created hadm) hfree
    exact hclosing.told (hclosing.closed.symm.trans hclosed)

theorem run_closes_acknowledged :
    ClosedLast (after sampleCodec sampleRequest
      [.begin (.submitFrame (sampleFrame 3 0 false)), .proceed .ready, .begin (.closeSession .userStop),
        .resume 0 .ready, .begin (.receiveMessage (sampleText 1) 0)]).shared.session.published :=
  (run_closes sampleCodec sampleRequest _ (adm_of_walk (by decide +kernel))).2
    (Option.isNone_iff_eq_none.mp (by decide +kernel)) (by decide +kernel)

/-- A close that is not acknowledged, and an error message that comes while it waits for the socket. -/
def timedOutAndTold : List (EventLoop.Turn Call Change) :=
  [.begin (.closeSession .userStop), .resume 0 .ready, .resume 0 .failed,
    .begin (.receiveMessage (sampleText 0) 0), .proceed .ready, .outside (.transport true), .resume 0 .ready]

/-- The error is published after the closing event. -/
theorem timedOutAndTold_error :
    (after sampleCodec sampleRequest timedOutAndTold).shared.session.published
        = [.sessionClosed .closeTimeout, .error none none .providerUnavailable true]
      ∧ ¬ (∀ before reason rest, (after sampleCodec sampleRequest timedOutAndTold).shared.session.published
        = before ++ .sessionClosed reason :: rest → rest = [])
      ∧ ¬ ClosedLast (after sampleCodec sampleRequest timedOutAndTold).shared.session.published := by
  have hpublished : (after sampleCodec sampleRequest timedOutAndTold).shared.session.published
      = [.sessionClosed .closeTimeout, .error none none .providerUnavailable true] := by decide +kernel
  rw [hpublished]
  refine ⟨rfl, fun h => ?_, fun h => ?_⟩
  · cases h [] .closeTimeout [.error none none .providerUnavailable true] rfl
  · have hrest : ([.error none none .providerUnavailable true] : List Body) = [] :=
      ClosedLast.rest (show ClosedLast ([] ++ .sessionClosed .closeTimeout
        :: [.error none none .providerUnavailable true]) from h)
    cases hrest

end Translator.Realtime
