import Translator.Sidecar.Stories
import Translator.Wire.Acceptance

/-! A session speaks lawfully: the loop tells the story as it stands, and a daemon that keeps to the
    contract accepts all of it. -/

namespace Translator.Sidecar
open Schemes
open Wire (Uuid)
open Wire.ProviderEventValidator (new)

variable {stream : Uuid} {p : Publication}

namespace Session

variable {s t : Session}

/-! ### The loop and the wire -/

/-- Nothing comes to the wire any more: the loop has returned, or its task has failed. -/
structure Stuck (s : Session) : Prop where
  idle : ∀ task, s.inFlightTask = some task → task.state ≠ .waiting
  stopped : s.retired = true ∨ ∃ task, s.inFlightTask = some task ∧ task.state = .failed

theorem Stuck.quiet (h : Stuck s) (hq : Quiet s t) : Stuck t where
  idle task ht hw := h.idle task (hq.task task ht hw) hw
  stopped := by
    rcases h.stopped with hretired | ⟨task, ht, hf⟩
    · exact .inl (hq.retired hretired)
    · rcases hq.failed task ht hf with hsame | hretired
      · exact .inr ⟨task, hsame, hf⟩
      · exact .inl hretired

theorem Stuck.take (h : Stuck s) (hkept : Kept s.toPublicationQueue) (nowNs : Nat) (built : Bool) :
    s.take nowNs built = s := by
  unfold Session.take
  rcases h.stopped with hretired | ⟨task, ht, -⟩
  · simp [hretired]
  · simp [(hkept.flight.of_task ht).1]

theorem Stuck.publish (h : Stuck s) (taken : Bool) :
    Stuck (s.publish taken) ∧ (s.publish taken).wire = s.wire
      ∧ (s.publish taken).sent = s.sent := by
  unfold Session.publish
  split
  · exact ⟨h, rfl, rfl⟩
  next task htask =>
    split
    next hstate =>
      refine ⟨⟨fun other ht => ?_, h.stopped.imp_right ?_⟩, rfl, rfl⟩
      · cases ht
        simp
      · rintro ⟨other, ht, hf⟩
        obtain rfl := Option.some.inj (htask.symm.trans ht)
        rw [hstate] at hf
        cases hf
    next hstate => exact absurd hstate (h.idle task htask)
    all_goals exact ⟨h, rfl, rfl⟩

/-- The story goes on where it was. -/
theorem Alive.turn (h : Alive stream s) (hstory : t.story = s.story)
    (htable : ∀ id n, t.lastAudioSequence.lookup id = n → n = lastFrame (framesOf id t.told))
    (hclosed : t.closed = s.closed) (hutterances : t.utterances = s.utterances)
    (hrequest : t.request = s.request) (hterminal : t.terminalIds = s.terminalIds)
    (hdebug : t.debugTextEnabled = s.debugTextEnabled)
    (hcollecting : t.collectingId = s.collectingId) : Alive stream t where
  tells := by
    rw [hstory, hrequest]
    exact h.tells
  table := htable
  going hc := by
    rw [hstory]
    exact (h.going (hclosed ▸ hc)).congr hutterances hrequest hterminal (hdebug ▸ id)
      fun _ hx => hcollecting ▸ hx

theorem Alive.take (h : Alive stream s) (hkept : Kept s.toPublicationQueue) (nowNs : Nat)
    (built : Bool) : Stuck (s.take nowNs built) ∨ Alive stream (s.take nowNs built) := by
  unfold Session.take
  split
  · exact .inr h
  next hidle =>
    have hnone : s.inFlight = none := by
      simp only [Bool.or_eq_true, not_or] at hidle
      simpa using hidle.2
    have htask : s.inFlightTask = none := by
      rcases hkept.flight with ⟨-, ht, -⟩ | ⟨_, _, _, hq, -⟩
      · exact ht
      · rw [hnone] at hq
        cases hq
    have hover {t : Session} (ht : t.inFlightTask = s.inFlightTask) (hr : t.retired = true) :
        Stuck t :=
      ⟨fun task hsome => (by rw [ht, htask] at hsome; cases hsome), .inl hr⟩
    split
    · split
      · exact .inl (hover rfl rfl)
      · exact .inr h
    next head rest hqueue =>
      cases built with
      | false => exact .inl (hover rfl rfl)
      | true =>
        right
        simp only [if_true]
        unfold build
        dsimp only
        rw [if_neg (by rw [numbered_length, bodies_length]; simp)]
        refine h.turn ?_ h.table rfl rfl rfl rfl rfl rfl
        simp [Session.story, onQueue, PublicationQueue.told, PublicationQueue.unsent,
          PublicationQueue.waiting, PublicationQueue.launch, PublicationQueue.popLeft, htask, hqueue]

theorem Alive.resume (h : Alive stream s) (hkept : Kept s.toPublicationQueue) :
    Stuck s.resume ∨ Alive stream s.resume := by
  have hsettle {state : PublishState} (hs : s.inFlightTask.map PublishTask.state = some state)
      (hne : state ≠ .waiting) (callbackCancelled : Bool) :
      Alive stream (s.settle callbackCancelled) := by
    obtain ⟨task, ht, hstate⟩ := Option.map_eq_some_iff.mp hs
    unfold settle
    split
    · exact h.shut hkept.flight rfl (purge_told _ _) rfl (purge_table _ _) rfl
    · refine h.turn ?_ h.table rfl rfl rfl rfl rfl rfl
      have hnone : s.waiting = [] := by
        obtain ⟨queued, batch, other⟩ := task
        cases hstate
        cases other <;> simp_all [PublicationQueue.waiting]
      simp only [Session.story, onQueue, PublicationQueue.told, PublicationQueue.unsent,
        PublicationQueue.land, hnone]
      rfl
  unfold Session.resume
  split
  · exact .inr h
  split
  next hs => exact .inr (hsettle hs (by simp) false)
  next hs =>
    split
    · exact .inr (hsettle hs (by simp) true)
    · exact .inr (h.turn rfl h.table rfl rfl rfl rfl rfl rfl)
  · exact .inl ⟨fun task ht => (by cases ht), .inl rfl⟩
  all_goals exact .inr h

/-- A batch that is put on the wire moves from what is to be told to what was told. -/
theorem told_published (hkept : Kept s.toPublicationQueue) {task : PublishTask}
    (htask : s.inFlightTask = some task) (hwaiting : task.state = .waiting)
    {encoded : List Wire.Event} (hencoded : task.batch.mapM s.request.eventToProto = some encoded) :
    (s.publish true).told = s.told ++ [task.queued.publication]
      ∧ s.unsent = task.queued.publication :: (s.publish true).unsent
      ∧ (∀ id, (s.publish true).lastAudioSequence.lookup id
        = (task.queued.publication.sequenceOf id).or (s.lastAudioSequence.lookup id))
      ∧ s.publish true = { s with
          wire := s.wire ++ encoded
          toPublicationQueue := (s.publish true).toPublicationQueue } := by
  obtain ⟨hqueued, -, -, -, hd, -⟩ := hkept.flight.of_task htask
  have huncommitted : s.inFlightCommitted = false := by
    rw [← Bool.not_eq_true, hd, hwaiting]
    simp
  obtain ⟨table, htable, heq⟩ := publish_eq hqueued huncommitted
  have hpublish : s.publish true = { s with
      wire := s.wire ++ encoded
      toPublicationQueue := ((s.send task.queued task.batch).commitPublication
        task.queued).setState task .committed } := by
    simp [Session.publish, htask, hwaiting, hencoded]
  rw [hpublish]
  refine ⟨?_, ?_, fun x => ?_, rfl⟩
  · simp [heq, PublicationQueue.told]
  · rw [PublicationQueue.unsent, waiting_of_task htask hwaiting]
    simp [heq, PublicationQueue.unsent, PublicationQueue.waiting]
  · rw [← htable x, heq]

theorem Alive.publish (h : Alive stream s) (hkept : Kept s.toPublicationQueue) (taken : Bool) :
    Stuck (s.publish taken) ∨ Alive stream (s.publish taken) := by
  have hsplit := h.tells
  cases htask : s.inFlightTask with
  | none =>
    right
    simpa [Session.publish, htask] using h
  | some task =>
    have hover (hstate : task.state = .waiting) : Stuck (s.onQueue (·.setState task .failed)) :=
      ⟨fun other ht => (by cases ht; simp), .inr ⟨_, rfl, rfl⟩⟩
    cases hstate : task.state with
    | waiting =>
      cases hencoded : task.batch.mapM s.request.eventToProto with
      | none => exact .inl (by simpa [Session.publish, htask, hstate, hencoded] using hover hstate)
      | some encoded =>
        cases taken with
        | false =>
          exact .inl (by simpa [Session.publish, htask, hstate, hencoded] using hover hstate)
        | true =>
          right
          obtain ⟨htold, hunsent, htable, hrest⟩ := told_published hkept htask hstate hencoded
          have hstory : (s.publish true).story = s.story := by
            rw [Session.story, Session.story, htold, hunsent, List.append_assoc]
            rfl
          refine h.turn hstory (fun x n hn => ?_) (by rw [hrest]) (by rw [hrest]) (by rw [hrest])
            (by rw [hrest]) (by rw [hrest]) (by rw [hrest])
          have hp := h.tells s.told task.queued.publication (s.publish true).unsent
            (by rw [Session.story, hunsent])
          rw [← hn, htable, htold, framesOf_concat]
          have hold := h.table x _ rfl
          cases hpub : task.queued.publication with
          | audio u sequence pcm =>
            obtain ⟨hsequence, -⟩ := hp.frame u sequence pcm hpub
            by_cases hx : u.utteranceId = x
            · simp [Publication.sequenceOf, hx, lastFrame, hsequence]
            · simp [Publication.sequenceOf, hx, hold]
          | _ => simp [Publication.sequenceOf, hold]
    | cancelling =>
      right
      have hpublish : s.publish taken = s.onQueue (·.setState task .cancelled) := by
        simp [Session.publish, htask, hstate]
      rw [hpublish]
      refine h.turn ?_ h.table rfl rfl rfl rfl rfl rfl
      obtain ⟨queued, batch, state⟩ := task
      cases hstate
      simp [Session.story, onQueue, PublicationQueue.told, PublicationQueue.unsent,
        PublicationQueue.waiting, PublicationQueue.setState, htask]
    | _ =>
      right
      simpa [Session.publish, htask, hstate] using h

/-! ### Speaking -/

/-- The wire has told what was put on it, and a batch that waits for the transport was built to be
    told next. -/
structure Spoken (stream : Uuid) (s : Session) : Prop where
  lawful : Wire.Lawful (s.request.contract stream) s.wire
  heard : Publication.session ∉ s.told → ∃ last, last ≤ s.eventSequence
    ∧ HeardAll s.request stream s.told last s.wire
    ∧ ∀ task, s.inFlightTask = some task → task.state = .waiting → ∃ base nowNs table,
      task.batch = numbered base (task.queued.publication.bodies table nowNs)
        ∧ (∀ id, table id = lastFrame (framesOf id s.told)) ∧ last ≤ base
        ∧ base + task.queued.publication.eventCount ≤ s.eventSequence

theorem Spoken.quiet (h : Spoken stream s) (hq : Quiet s t) : Spoken stream t := by
  have htold : t.told = s.told := by rw [PublicationQueue.told, hq.sent, PublicationQueue.told]
  constructor
  · rw [hq.wire, hq.request]
    exact h.lawful
  · rw [htold, hq.wire, hq.request, hq.sequence]
    intro hsession
    obtain ⟨last, hlast, hheard, hwaits⟩ := h.heard hsession
    exact ⟨last, hlast, hheard, fun task ht hw => hwaits task (hq.task task ht hw) hw⟩

theorem Spoken.take (h : Spoken stream s) (hkept : Kept s.toPublicationQueue)
    (hstate : Stuck s ∨ Alive stream s) (nowNs : Nat) (built : Bool) :
    Spoken stream (s.take nowNs built) := by
  rcases hstate with hstuck | halive
  · rw [hstuck.take hkept]
    exact h
  unfold Session.take
  split
  · exact h
  split
  · split
    · exact h.quiet (.retiring rfl rfl rfl rfl (fun _ ht _ => ht) rfl)
    · exact h
  next head rest hqueue =>
    cases built with
    | false => exact h.quiet (.retiring rfl rfl rfl rfl (fun _ ht _ => ht) rfl)
    | true =>
      simp only [if_true]
      unfold build
      dsimp only
      rw [if_neg (by rw [numbered_length, bodies_length]; simp)]
      refine ⟨h.lawful, fun hsession => ?_⟩
      obtain ⟨last, hlast, hheard, -⟩ := h.heard hsession
      have hcount := bodies_length head.publication s.lastAudioSequence.lookup nowNs
      refine ⟨last, hlast.trans (Nat.le_add_right _ _), hheard, fun task ht _ => ?_⟩
      cases ht
      refine ⟨s.eventSequence, nowNs, s.lastAudioSequence.lookup, rfl,
        fun x => halive.table x _ rfl, hlast, ?_⟩
      rw [← hcount]
      exact Nat.le_refl _

theorem Spoken.publish (h : Spoken stream s) (hkept : Kept s.toPublicationQueue)
    (hstate : Stuck s ∨ Alive stream s) (taken : Bool) : Spoken stream (s.publish taken) := by
  have hover {task : PublishTask} {state : PublishState} (hne : state ≠ .waiting) :
      Spoken stream (s.onQueue (·.setState task state)) :=
    ⟨h.lawful, fun hsession => by
      obtain ⟨last, hlast, hheard, -⟩ := h.heard hsession
      exact ⟨last, hlast, hheard, fun other ht hw => by cases ht; exact absurd hw hne⟩⟩
  cases htask : s.inFlightTask with
  | none => simpa [Session.publish, htask] using h
  | some task =>
    cases hs : task.state with
    | waiting =>
      cases hencoded : task.batch.mapM s.request.eventToProto with
      | none => simpa [Session.publish, htask, hs, hencoded] using hover (by simp)
      | some encoded =>
        cases taken with
        | false => simpa [Session.publish, htask, hs, hencoded] using hover (by simp)
        | true =>
          have halive := hstate.resolve_left fun hstuck => hstuck.idle task htask hs
          obtain ⟨htold, hunsent, -, hrest⟩ := told_published hkept htask hs hencoded
          have hp := halive.tells s.told task.queued.publication (s.publish true).unsent
            (by rw [Session.story, hunsent])
          obtain ⟨last, hlast, hheard, hwaits⟩ := h.heard hp.unclosed
          obtain ⟨base, nowNs, table, hbatch, htable, hbase, hroom⟩ := hwaits task htask hs
          rw [hbatch] at hencoded
          have hwire : (s.publish true).wire = s.wire ++ encoded := by rw [hrest]
          have hrequest : (s.publish true).request = s.request := by rw [hrest]
          have hsequence : (s.publish true).eventSequence = s.eventSequence := by rw [hrest]
          by_cases hclose : task.queued.publication = .session
          · rw [hclose] at hencoded
            refine ⟨?_, fun hsession => absurd ?_ hsession⟩
            · rw [hwire, hrequest]
              exact hheard.close hbase hencoded
            · rw [htold, hclose]
              exact List.mem_append_right _ (List.mem_singleton_self _)
          · have htell := hheard.tell hp hclose hbase htable hencoded
            constructor
            · rw [hwire, hrequest]
              exact htell.1.lawful
            · intro _
              refine ⟨base + task.queued.publication.eventCount, ?_, ?_, fun other ht hw => ?_⟩
              · rw [hsequence]
                exact hroom
              · rw [htold, hwire, hrequest]
                exact htell
              · have hcommitted : (s.publish true).inFlightTask
                    = some { task with state := .committed } := by
                  simp [Session.publish, htask, hs, hbatch, hencoded, PublicationQueue.setState]
                rw [hcommitted] at ht
                cases ht
                cases hw
    | cancelling => simpa [Session.publish, htask, hs] using hover (by simp)
    | _ => simpa [Session.publish, htask, hs] using h

/-! ### Every run -/

/-- What is asked of a session by a daemon that keeps to its contract: a call that was let in gets
    the lock before the session closes, frames are of the contract's stream, and debug texts are not
    asked for in a session that was opened without them. -/
def Asks (stream : Uuid) (s : Session) : Op → Prop
  | .enter index _ _ => ∀ call, s.calls[index]? = some call → s.closed = false
    ∧ (∀ frame, call = .submitFrame frame → frame.streamId = stream)
    ∧ (∀ enabled, call = .updateDebugText enabled → enabled = true →
      s.request.debugTextEnabled = true)
  | _ => True

/-- What every step keeps: the wire is lawful, and what is still to be told may be told. -/
structure Sound (stream : Uuid) (s : Session) : Prop where
  kept : Kept s.toPublicationQueue
  ending : Ending s
  spoken : Spoken stream s
  state : Stuck s ∨ Alive stream s

theorem Alive.underLock (h : Alive stream s) (hending : Ending s)
    (hkept : Kept s.toPublicationQueue) (hclosed : s.closed = false) {call : Call}
    (hstream : ∀ frame, call = .submitFrame frame → frame.streamId = stream)
    (hdebug : ∀ enabled, call = .updateDebugText enabled → enabled = true →
      s.request.debugTextEnabled = true) (modelsAvailable : Bool) (admission : Admission) :
    Alive stream (s.underLock modelsAvailable admission call).2 := by
  cases call with
  | submitFrame frame => exact h.submitFrame hending hkept hclosed (hstream frame rfl) _ _
  | cancelUtterance request => exact h.cancelUtterance hending hkept hclosed request
  | updateDebugText enabled => exact h.updateDebugText hkept hclosed (hdebug enabled rfl)
  | closeSession => exact h.closeSession hkept hclosed

theorem Sound.apply (h : Sound stream s) {op : Op} (hop : Asks stream s op) :
    Sound stream (Session.apply s op).2 := by
  have hkept := apply_kept h.kept op
  have hending := h.ending.apply op
  cases op with
  | call sessionId call =>
    have hq : Quiet s (s.letIn sessionId call).2 := by
      unfold letIn
      split
      · exact .refl s
      · exact .same rfl rfl rfl rfl rfl rfl
    refine ⟨hkept, hending, h.spoken.quiet hq, h.state.imp (·.quiet hq) fun halive => ?_⟩
    simp only [Session.apply, letIn]
    split
    · exact halive
    · exact halive.congr rfl rfl rfl rfl rfl rfl fun _ hx => hx
  | enter index modelsAvailable admission =>
    cases hcall : s.calls[index]? with
    | none =>
      have hsame : (Session.apply s (.enter index modelsAvailable admission)).2 = s := by
        simp only [Session.apply, hcall]
      rw [hsame]
      exact h
    | some call =>
      obtain ⟨hclosed, hstream, hdebug⟩ := hop call hcall
      have happly : (Session.apply s (.enter index modelsAvailable admission)).2
          = (underLock { s with calls := s.calls.eraseIdx index } modelsAvailable admission
            call).2 := by
        simp only [Session.apply, hcall]
      rw [happly] at hkept hending ⊢
      have hleft : Quiet s { s with calls := s.calls.eraseIdx index } :=
        .same rfl rfl rfl rfl rfl rfl
      have hq := hleft.trans (quiet_underLock _ modelsAvailable admission call)
      refine ⟨hkept, hending, h.spoken.quiet hq, h.state.imp (·.quiet hq) fun halive => ?_⟩
      exact Alive.underLock (s := { s with calls := s.calls.eraseIdx index })
        (halive.congr rfl rfl rfl rfl rfl rfl fun _ hx => hx)
        (h.ending.fewer ⟨.refl _, rfl, fun _ hx => hx⟩) h.kept hclosed hstream hdebug _ _
  | infer id inference =>
    have hq := quiet_infer s id inference
    exact ⟨hkept, hending, h.spoken.quiet hq,
      h.state.imp (·.quiet hq) fun halive => halive.infer h.ending h.kept id inference⟩
  | take nowNs built =>
    refine ⟨hkept, hending, h.spoken.take h.kept h.state nowNs built, ?_⟩
    rcases h.state with hstuck | halive
    · have hsame : (Session.apply s (.take nowNs built)).2 = s := hstuck.take h.kept nowNs built
      rw [hsame]
      exact .inl hstuck
    · exact halive.take h.kept nowNs built
  | publish taken =>
    refine ⟨hkept, hending, h.spoken.publish h.kept h.state taken, ?_⟩
    rcases h.state with hstuck | halive
    · exact .inl (hstuck.publish taken).1
    · exact halive.publish h.kept taken
  | resume =>
    have hq := quiet_resume s
    refine ⟨hkept, hending, h.spoken.quiet hq, ?_⟩
    rcases h.state with hstuck | halive
    · exact .inl (hstuck.quiet hq)
    · exact halive.resume h.kept

/-- The debug texts are switched off and the session is closed; the close goes out. -/
def shortRun : List Op :=
  [.call 1#128 (.updateDebugText false), .enter 0 true .accepted, .call 1#128 .closeSession,
    .enter 0 true .accepted, .take 0 true, .publish true, .resume]

end Session

end Translator.Sidecar
