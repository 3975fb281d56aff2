import Translator.Sidecar.Publications

/-! The numbers on the wire of a session grow, whatever is purged, refused or lost on the way, and
    the wire holds what was published and nothing else. -/

namespace Translator.Sidecar
open Schemes
open Wire (Uuid)

/-! ### Numbers -/

theorem toUInt64_toNat {n : Nat} {m : UInt64} (h : toUInt64 n = some m) : m.toNat = n := by
  unfold toUInt64 at h
  split at h
  next hlt =>
    cases h
    simpa using hlt
  next => cases h

theorem bodyToProto_sequence {request : OpenProviderSession} {n : UInt64} {body : Body}
    {e : Wire.Event} (h : request.bodyToProto n body = some e) : e.eventSequence = n := by
  cases body <;>
    simp only [OpenProviderSession.bodyToProto, Option.bind_eq_bind, Option.bind_eq_some_iff,
      Option.some.injEq] at h
  case health => obtain ⟨_, -, _, -, _, -, rfl⟩ := h; rfl
  case audioDelta => obtain ⟨_, -, _, -, rfl⟩ := h; rfl
  case latency => obtain ⟨_, -, _, -, _, -, _, -, rfl⟩ := h; rfl
  case utteranceFinal => obtain ⟨_, -, rfl⟩ := h; rfl
  all_goals
    subst h
    rfl

theorem eventToProto_sequence {request : OpenProviderSession} {event : LocalProviderEvent}
    {e : Wire.Event} (h : request.eventToProto event = some e) :
    e.eventSequence.toNat = event.eventSequence := by
  simp only [OpenProviderSession.eventToProto, Option.bind_eq_bind, Option.bind_eq_some_iff] at h
  obtain ⟨n, hn, hbody⟩ := h
  rw [bodyToProto_sequence hbody, toUInt64_toNat hn]

/-- The numbers of some events, as they stand on the wire. -/
def wireNumbers (events : List Wire.Event) : List Nat := events.map fun e => e.eventSequence.toNat

theorem encoded_numbers {request : OpenProviderSession} {base : Nat} {bodies : List Body}
    {encoded : List Wire.Event}
    (h : (numbered base bodies).mapM request.eventToProto = some encoded) :
    wireNumbers encoded = List.range' (base + 1) bodies.length := by
  induction bodies generalizing base encoded with
  | nil =>
    cases h
    rfl
  | cons body rest ih =>
    simp only [numbered, List.mapM_cons, Option.bind_eq_bind, Option.bind_eq_some_iff,
      Option.pure_def, Option.some.injEq] at h
    obtain ⟨e, he, tail, htail, rfl⟩ := h
    have hhead := eventToProto_sequence he
    have hrest := ih htail
    simp only [wireNumbers] at hrest
    simp [wireNumbers, List.range'_succ, hhead, hrest]

namespace Session

/-- The numbers on the wire grow, and a batch that waits for the transport comes after them. -/
structure Numbered (s : Session) : Prop where
  increasing : (wireNumbers s.wire).Pairwise (· < ·)
  counted : ∀ n ∈ wireNumbers s.wire, n ≤ s.eventSequence
  waiting : ∀ task, s.inFlightTask = some task → task.state = .waiting → ∃ base bodies,
    task.batch = numbered base bodies ∧ base + bodies.length ≤ s.eventSequence
      ∧ ∀ n ∈ wireNumbers s.wire, n ≤ base

/-- Nothing was numbered or put on the wire, and no other batch waits for the transport. -/
structure Quiet (s s' : Session) : Prop where
  wire : s'.wire = s.wire
  sequence : s'.eventSequence = s.eventSequence
  request : s'.request = s.request
  sent : s'.sent = s.sent
  task : ∀ task, s'.inFlightTask = some task → task.state = .waiting → s.inFlightTask = some task
  retired : s.retired = true → s'.retired = true
  failed : ∀ task, s.inFlightTask = some task → task.state = .failed →
    s'.inFlightTask = some task ∨ s'.retired = true

variable {s t w : Session}

theorem Quiet.refl (s : Session) : Quiet s s := 
  ⟨rfl, rfl, rfl, rfl, fun _ h _ => h, fun h => h, fun _ h _ => .inl h⟩

theorem Quiet.trans (h : Quiet s t) (h' : Quiet t w) : Quiet s w :=
  ⟨h'.wire.trans h.wire, h'.sequence.trans h.sequence, h'.request.trans h.request,
    h'.sent.trans h.sent, fun task ht hw => h.task task (h'.task task ht hw) hw,
    fun hr => h'.retired (h.retired hr), fun task ht hf =>
      (h.failed task ht hf).elim (fun ht => h'.failed task ht hf) fun hr => .inr (h'.retired hr)⟩

theorem Numbered.quiet (h : Numbered s) (hq : Quiet s t) : Numbered t where
  increasing := by
    rw [hq.wire]
    exact h.increasing
  counted := by
    rw [hq.wire, hq.sequence]
    exact h.counted
  waiting task ht hw := by
    rw [hq.wire, hq.sequence]
    exact h.waiting task (hq.task task ht hw) hw

theorem purge_sent (q : PublicationQueue) (hit : Publication → Bool) :
    (q.purge hit).sent = q.sent := by
  unfold PublicationQueue.purge PublicationQueue.cancelInFlight
  split
  · split <;> rfl
  · rfl

theorem purge_task (q : PublicationQueue) (hit : Publication → Bool) {task : PublishTask}
    (ht : (q.purge hit).inFlightTask = some task) (hw : task.state = .waiting) :
    q.inFlightTask = some task := by
  unfold PublicationQueue.purge PublicationQueue.cancelInFlight at ht
  split at ht
  · split at ht
    · cases ht
      cases hw
    · exact ht
  · exact ht

theorem purge_done (q : PublicationQueue) (hit : Publication → Bool) {task : PublishTask}
    (ht : q.inFlightTask = some task) (hdone : task.state.done = true) :
    (q.purge hit).inFlightTask = some task := by
  unfold PublicationQueue.purge PublicationQueue.cancelInFlight
  split
  next other _ hsame =>
    obtain rfl : task = other := Option.some.inj (ht.symm.trans hsame)
    simp only [hdone, Bool.not_true, Bool.and_false, Bool.false_eq_true, if_false]
    exact ht
  · exact ht

theorem Quiet.same (hwire : t.wire = s.wire) (hsequence : t.eventSequence = s.eventSequence)
    (hrequest : t.request = s.request) (hsent : t.sent = s.sent)
    (htask : t.inFlightTask = s.inFlightTask) (hretired : t.retired = s.retired) : Quiet s t :=
  ⟨hwire, hsequence, hrequest, hsent, fun _ ht _ => htask ▸ ht, fun h => hretired ▸ h,
    fun _ ht _ => .inl (htask ▸ ht)⟩

theorem Quiet.purged (hit : Publication → Bool) (hwire : t.wire = s.wire)
    (hsequence : t.eventSequence = s.eventSequence) (hrequest : t.request = s.request)
    (hsent : t.sent = (s.purge hit).sent) (htask : t.inFlightTask = (s.purge hit).inFlightTask)
    (hretired : t.retired = s.retired) : Quiet s t :=
  ⟨hwire, hsequence, hrequest, hsent.trans (purge_sent _ hit),
    fun _ ht hw => purge_task s.toPublicationQueue hit (htask ▸ ht) hw, fun h => hretired ▸ h,
    fun _ ht hf => .inl (htask ▸ purge_done s.toPublicationQueue hit ht (by rw [hf]; rfl))⟩

theorem Quiet.retiring (hwire : t.wire = s.wire) (hsequence : t.eventSequence = s.eventSequence)
    (hrequest : t.request = s.request) (hsent : t.sent = s.sent)
    (htask : ∀ task, t.inFlightTask = some task → task.state = .waiting →
      s.inFlightTask = some task) (hretired : t.retired = true) : Quiet s t :=
  ⟨hwire, hsequence, hrequest, hsent, htask, fun _ => hretired, fun _ _ _ => .inr hretired⟩

theorem quiet_failSession (s : Session) (error : Option PublicationError) :
    Quiet s (s.failSession error) :=
  (.purged _ rfl rfl rfl rfl rfl rfl)

theorem quiet_purge (s : Session) (hit : Publication → Bool) :
    Quiet s (s.onQueue (·.purge hit)) :=
  (.purged hit rfl rfl rfl rfl rfl rfl)

theorem quiet_append (s : Session) (publication : Publication) :
    Quiet s (s.append publication) := by
  unfold append
  split
  · exact quiet_failSession s _
  · exact (.same rfl rfl rfl rfl rfl rfl)

theorem quiet_enqueue {publication : Publication} (h : s.enqueue publication = some t) :
    Quiet s t := by
  unfold enqueue at h
  split at h
  · cases h
    exact quiet_failSession s _
  split at h
  · cases h
  · cases h
    exact quiet_append s publication

theorem quiet_terminalize (s : Session) (id : Uuid) (publication : Publication) :
    Quiet s (s.terminalize id publication).2 := by
  unfold terminalize
  split
  · exact quiet_failSession s none
  · exact Quiet.trans (t := s.retire id) (.same rfl rfl rfl rfl rfl rfl)
      (quiet_append _ publication)

theorem quiet_dropLocked (s : Session) (id : Uuid) (utterance : Utterance) (code : SafeErrorCode)
    (asrMs mtMs ttsMs : Option Nat) :
    Quiet s (s.dropLocked id utterance code asrMs mtMs ttsMs).2 :=
  (quiet_purge s _).trans (quiet_terminalize _ id _)

theorem quiet_validateFrame (s : Session) (frame : ProviderInputFrame) :
    Quiet s (s.validateFrame frame).2 := by
  unfold validateFrame
  dsimp only
  split_ifs <;> exact (.same rfl rfl rfl rfl rfl rfl)

theorem quiet_collectingUtterance (s : Session) (frame : ProviderInputFrame) :
    Quiet s (s.collectingUtterance frame).2 := by
  unfold collectingUtterance
  split
  · exact .refl s
  split
  · split
    · exact .refl s
    split
    · exact quiet_failSession s none
    · exact (.same rfl rfl rfl rfl rfl rfl)
  · split
    · exact .refl s
    split <;> exact .refl s

theorem quiet_finishCollecting (s : Session) (id : Uuid) (utterance : Utterance)
    (modelsAvailable : Bool) (admission : Admission) :
    Quiet s (s.finishCollecting id utterance modelsAvailable admission).2 := by
  have hdrop (code : SafeErrorCode) : Quiet s
      (dropLocked { s with collectingId := none } id utterance code none none none).2 :=
    Quiet.trans (t := { s with collectingId := none }) (.same rfl rfl rfl rfl rfl rfl)
      (quiet_dropLocked _ id utterance code none none none)
  unfold finishCollecting
  dsimp only
  split
  · exact hdrop .modelNotLoaded
  · cases admission with
    | accepted => exact (.same rfl rfl rfl rfl rfl rfl)
    | overflow => exact hdrop .queueOverflow
    | unavailable => exact hdrop .providerUnavailable

theorem quiet_discard (s : Session) (id : Uuid) (utterance : Utterance) (endOfUtterance : Bool) :
    Quiet s (s.discard id utterance endOfUtterance).2 := by
  unfold discard
  dsimp only
  split
  · refine Quiet.trans (t := { s with
        collectingId := none
        utterances := s.utterances.insert id { utterance with discarding := true, bufferedMs := 0 } })
      (.same rfl rfl rfl rfl rfl rfl) (quiet_dropLocked _ _ _ _ _ _ _)
  · exact (.same rfl rfl rfl rfl rfl rfl)

theorem quiet_submitFrame (s : Session) (frame : ProviderInputFrame) (modelsAvailable : Bool)
    (admission : Admission) : Quiet s (s.submitFrame frame modelsAvailable admission).2 := by
  have hvalid := quiet_validateFrame s frame
  unfold submitFrame
  split
  next hv =>
    rw [hv] at hvalid
    exact hvalid
  next s₁ hv =>
    rw [hv] at hvalid
    have hcollecting := hvalid.trans (quiet_collectingUtterance s₁ frame)
    split
    next hc =>
      rw [hc] at hcollecting
      exact hcollecting
    next utterance s₂ hc =>
      rw [hc] at hcollecting
      dsimp only
      split
      · exact hcollecting.trans (Quiet.trans
          (t := { s₂ with lastInputSequence := some frame.sequence })
          (.same rfl rfl rfl rfl rfl rfl) (quiet_discard _ _ _ _))
      split
      · exact hcollecting.trans (.same rfl rfl rfl rfl rfl rfl)
      · exact hcollecting.trans (Quiet.trans
          (t := { s₂ with
            lastInputSequence := some frame.sequence
            utterances := s₂.utterances.insert frame.utteranceId
              { utterance with bufferedMs := utterance.bufferedMs + frame.frameDurationMs } })
          (.same rfl rfl rfl rfl rfl rfl) (quiet_finishCollecting _ _ _ _ _))

theorem quiet_underLock (s : Session) (modelsAvailable : Bool) (admission : Admission)
    (call : Call) : Quiet s (s.underLock modelsAvailable admission call).2 := by
  cases call with
  | submitFrame frame => exact quiet_submitFrame s frame modelsAvailable admission
  | cancelUtterance request =>
    simp only [underLock, cancelUtterance]
    split
    · exact .refl s
    split
    · exact .refl s
    · exact Quiet.trans (t := onQueue { s with
          collectingId := if s.collectingId = some request.utteranceId then none
            else s.collectingId } (·.purge (Publication.isOf request.utteranceId)))
        (.purged _ rfl rfl rfl rfl rfl rfl)
        (quiet_terminalize _ _ _)
  | updateDebugText enabled =>
    simp only [underLock, updateDebugText]
    split
    · exact (.same rfl rfl rfl rfl rfl rfl)
    · exact (.purged _ rfl rfl rfl rfl rfl rfl)
  | closeSession =>
    exact Quiet.trans
      (t := { s with
        closed := true
        debugTextEnabled := false
        utterances := ∅
        collectingId := none
        toPublicationQueue := s.purge fun _ => true })
      (.purged _ rfl rfl rfl rfl rfl rfl)
      (quiet_append _ .session)

theorem quiet_infer (s : Session) (id : Uuid) (inference : Inference) :
    Quiet s (s.infer id inference) := by
  unfold infer
  split
  · exact .refl s
  next utterance _ =>
    generalize s.pipeline id utterance inference = demand
    cases demand with
    | nothing => exact .refl s
    | stage stage => exact (.same rfl rfl rfl rfl rfl rfl)
    | drop code asrMs mtMs ttsMs => exact quiet_dropLocked s id utterance code asrMs mtMs ttsMs
    | complete asrMs mtMs ttsMs => exact quiet_terminalize s id _
    | enqueue publication stage =>
      cases henqueue : (s.setStage id utterance stage).enqueue publication with
      | none => simpa [perform, henqueue] using Quiet.refl s
      | some s' =>
        have hset : Quiet s (s.setStage id utterance stage) :=
          (.same rfl rfl rfl rfl rfl rfl)
        simpa [perform, henqueue] using hset.trans (quiet_enqueue henqueue)

theorem quiet_settle (callbackCancelled : Bool) (hretired : s.retired = false)
    (hstate : ∀ task, s.inFlightTask = some task → task.state ≠ .failed) :
    Quiet s (s.settle callbackCancelled) := by
  unfold settle
  split
  · exact .retiring rfl rfl rfl (purge_sent _ _)
      (fun _ ht hw => purge_task s.toPublicationQueue _ ht hw) rfl
  · refine ⟨rfl, rfl, rfl, rfl, fun _ ht _ => (by cases ht), fun hr => ?_, fun task ht hf => ?_⟩
    · rw [hretired] at hr
      cases hr
    · exact absurd hf (hstate task ht)

theorem quiet_resume (s : Session) : Quiet s s.resume := by
  have hstate {state : PublishState} (h : s.inFlightTask.map PublishTask.state = some state)
      (hne : state ≠ .failed) : ∀ task, s.inFlightTask = some task → task.state ≠ .failed := by
    intro task ht hf
    rw [ht, Option.map_some, hf] at h
    exact hne (Option.some.inj h).symm
  unfold resume
  split
  · exact .refl s
  next hretired =>
    rw [Bool.not_eq_true] at hretired
    split
    next h => exact quiet_settle false hretired (hstate h (by simp))
    next h =>
      split
      · exact quiet_settle true hretired (hstate h (by simp))
      · exact .retiring rfl rfl rfl rfl (fun _ ht _ => ht) rfl
    · exact .retiring rfl rfl rfl (purge_sent _ _) (fun _ ht _ => (by cases ht)) rfl
    all_goals exact .refl s

/-! ### Building and publishing -/

theorem Numbered.take (h : Numbered s) (nowNs : Nat) (built : Bool) :
    Numbered (s.take nowNs built) := by
  unfold Session.take
  split
  · exact h
  split
  · split
    · exact h.quiet (.retiring rfl rfl rfl rfl (fun _ ht _ => ht) rfl)
    · exact h
  next head rest hqueue =>
    cases built with
    | false => exact h.quiet (.retiring rfl rfl rfl rfl (fun _ ht _ => ht) rfl)
    | true =>
      generalize hbodies : head.publication.bodies s.lastAudioSequence.lookup nowNs = bodies
      have hlength : (numbered s.eventSequence bodies).length = head.publication.eventCount := by
        rw [numbered_length, ← hbodies, bodies_length]
      have hbuild : build (s.onQueue (·.popLeft head rest)) head nowNs
          = onQueue { s.onQueue (·.popLeft head rest) with
              eventSequence := s.eventSequence + bodies.length }
            (·.launch head (numbered s.eventSequence bodies)) := by
        simp [build, onQueue, PublicationQueue.popLeft, hbodies, hlength]
      simp only [if_true, hbuild]
      constructor
      · exact h.increasing
      · intro n hn
        have hle := h.counted n hn
        simp only [onQueue]
        omega
      · intro task ht _
        cases ht
        exact ⟨s.eventSequence, bodies, rfl, Nat.le_refl _, h.counted⟩

theorem Numbered.publish (h : Numbered s) (taken : Bool) : Numbered (s.publish taken) := by
  unfold Session.publish
  split
  · exact h
  next task htask =>
    have hover {state : PublishState} (hstate : state ≠ .waiting) :
        Numbered (s.onQueue (·.setState task state)) :=
      ⟨h.increasing, h.counted, fun _ ht hw => by cases ht; exact absurd hw hstate⟩
    split
    · exact hover (by simp)
    next hwaiting =>
      split
      · exact hover (by simp)
      next encoded hencoded =>
        split
        · obtain ⟨base, bodies, hbatch, hroom, hbefore⟩ := h.waiting task htask hwaiting
          rw [hbatch] at hencoded
          have hnumbers := encoded_numbers hencoded
          have hwire : wireNumbers (s.wire ++ encoded)
              = wireNumbers s.wire ++ List.range' (base + 1) bodies.length := by
            rw [← hnumbers, wireNumbers, List.map_append]
            rfl
          constructor
          · rw [hwire, List.pairwise_append]
            refine ⟨h.increasing, List.pairwise_lt_range', fun n hn m hm => ?_⟩
            have hle := hbefore n hn
            have hmem := List.mem_range'_1.mp hm
            omega
          · intro n hn
            rw [hwire, List.mem_append] at hn
            rcases hn with hold | hnew
            · exact h.counted n hold
            · have hmem := List.mem_range'_1.mp hnew
              show n ≤ s.eventSequence
              omega
          · intro other ht hw
            cases ht
            cases hw
        · exact hover (by simp)
    all_goals exact h

theorem numbered_opened (request : OpenProviderSession) (failed : Bool) :
    Numbered (opened request failed) := by
  have hwire : wireNumbers (opened request failed).wire = [1, 2] := by cases failed <;> rfl
  constructor
  · rw [hwire]
    decide
  · rw [hwire]
    intro n hn
    have hle : n ≤ 2 := by
      simp only [List.mem_cons, List.not_mem_nil, or_false] at hn
      omega
    exact hle
  · intro task ht _
    cases ht

/-- Beside the loop that builds and the task that publishes, nothing comes near the wire. -/
theorem quiet_apply (s : Session) (op : Op) :
    (∃ nowNs built, (Session.apply s op).2 = s.take nowNs built)
      ∨ (∃ taken, (Session.apply s op).2 = s.publish taken)
      ∨ Quiet s (Session.apply s op).2 := by
  cases op with
  | call sessionId call =>
    refine .inr (.inr ?_)
    simp only [Session.apply, letIn]
    split
    · exact .refl s
    · exact (.same rfl rfl rfl rfl rfl rfl)
  | enter index modelsAvailable admission =>
    refine .inr (.inr ?_)
    simp only [Session.apply]
    split
    · exact .refl s
    · exact Quiet.trans (t := { s with calls := s.calls.eraseIdx index })
        (.same rfl rfl rfl rfl rfl rfl) (quiet_underLock _ modelsAvailable admission _)
  | infer id inference => exact .inr (.inr (quiet_infer s id inference))
  | take nowNs built => exact .inl ⟨nowNs, built, rfl⟩
  | publish taken => exact .inr (.inl ⟨taken, rfl⟩)
  | resume => exact .inr (.inr (quiet_resume s))

theorem Numbered.apply (h : Numbered s) (op : Op) : Numbered (Session.apply s op).2 := by
  rcases quiet_apply s op with ⟨nowNs, built, heq⟩ | ⟨taken, heq⟩ | hquiet
  · rw [heq]
    exact h.take nowNs built
  · rw [heq]
    exact h.publish taken
  · exact h.quiet hquiet

/-- Whatever happens in a session, the events on its wire carry strictly growing numbers: a purged
    or refused batch leaves a gap, never a number that comes twice or late. -/
theorem run_wire_increasing (request : OpenProviderSession) (failed : Bool) (ops : List Op) :
    (wireNumbers (after request failed ops).wire).Pairwise (· < ·) := by
  have hrun : Numbered (after request failed ops) :=
    exec_state_invariant (I := Numbered) (numbered_opened request failed)
      (fun _ op h => h.apply op) ops
  exact hrun.increasing

/-! ### What is on the wire -/

/-- After its first events the wire holds the batches that were put on it, as the request encodes
    them, and nothing else. -/
structure Told (request : OpenProviderSession) (first : List Wire.Event) (s : Session) : Prop where
  asked : s.request = request
  encoded : ∃ encoded, (s.sent.flatMap Prod.snd).mapM request.eventToProto = some encoded
    ∧ s.wire = first ++ encoded

variable {request : OpenProviderSession} {first : List Wire.Event}

theorem Told.same (h : Told request first s) (hwire : t.wire = s.wire)
    (hrequest : t.request = s.request) (hsent : t.sent = s.sent) : Told request first t where
  asked := hrequest.trans h.asked
  encoded := by
    rw [hwire, hsent]
    exact h.encoded

theorem take_wire (s : Session) (nowNs : Nat) (built : Bool) :
    (s.take nowNs built).wire = s.wire ∧ (s.take nowNs built).request = s.request
      ∧ (s.take nowNs built).sent = s.sent := by
  unfold Session.take
  split
  · exact ⟨rfl, rfl, rfl⟩
  split
  · split <;> exact ⟨rfl, rfl, rfl⟩
  next head rest _ =>
    cases built with
    | false => exact ⟨rfl, rfl, rfl⟩
    | true =>
      simp only [if_true]
      unfold build
      dsimp only
      split
      · exact ⟨rfl, rfl, purge_sent _ _⟩
      · exact ⟨rfl, rfl, rfl⟩

theorem commit_sent (q : PublicationQueue) (queued : Queued) :
    (q.commitPublication queued).sent = q.sent := by
  unfold PublicationQueue.commitPublication
  split
  · rfl
  · cases queued.publication <;> rfl

theorem Told.publish (h : Told request first s) (taken : Bool) :
    Told request first (s.publish taken) := by
  unfold Session.publish
  split
  · exact h
  next task _ =>
    split
    · exact h.same rfl rfl rfl
    · split
      · exact h.same rfl rfl rfl
      next encoded hencoded =>
        split
        · obtain ⟨before, hbefore, hwire⟩ := h.encoded
          refine ⟨h.asked, before ++ encoded, ?_, ?_⟩
          · have hsent : (((s.send task.queued task.batch).commitPublication task.queued).setState
                task .committed).sent = s.sent ++ [(task.queued, task.batch)] := commit_sent _ _
            rw [h.asked] at hencoded
            simp [hsent, List.mapM_append, hbefore, hencoded]
          · rw [← List.append_assoc, ← hwire]
        · exact h.same rfl rfl rfl
    all_goals exact h

theorem Told.apply (h : Told request first s) (op : Op) :
    Told request first (Session.apply s op).2 := by
  rcases quiet_apply s op with ⟨nowNs, built, heq⟩ | ⟨taken, heq⟩ | hquiet
  · rw [heq]
    obtain ⟨hwire, hrequest, hsent⟩ := take_wire s nowNs built
    exact h.same hwire hrequest hsent
  · rw [heq]
    exact h.publish taken
  · exact h.same hquiet.wire hquiet.request hquiet.sent

theorem run_told (request : OpenProviderSession) (failed : Bool) (ops : List Op) :
    Told request (opened request failed).wire (after request failed ops) :=
  exec_state_invariant (I := Told request (opened request failed).wire)
    ⟨rfl, [], rfl, (List.append_nil _).symm⟩ (fun _ op h => h.apply op) ops

/-- Whatever happens in a session, its wire is the opening and then what its publications were built
    to: in the order they were appended, each in full and at most once, and none that was purged.
    `on_success` has run for these and for no other. -/
theorem run_wire_told (request : OpenProviderSession) (failed : Bool) (ops : List Op) :
    ∃ told : List (Queued × List LocalProviderEvent), ∃ encoded,
      (after request failed ops).wire = (opened request failed).wire ++ encoded
        ∧ (told.flatMap Prod.snd).mapM request.eventToProto = some encoded
        ∧ (told.map fun entry => entry.1.number).Pairwise (· < ·)
        ∧ (after request failed ops).succeeded = told.map (fun entry => entry.1.number)
        ∧ ∀ entry ∈ told, Built entry.1.publication entry.2
          ∧ entry.1.number < (after request failed ops).appended
          ∧ entry.1.number ∉ (after request failed ops).purged := by
  have hkept : Kept (after request failed ops).toPublicationQueue :=
    exec_state_invariant (I := fun s : Session => Kept s.toPublicationQueue) kept_empty
      (fun _ op h => apply_kept h op) ops
  obtain ⟨encoded, hencoded, hwire⟩ := (run_told request failed ops).encoded
  have hline : ((after request failed ops).sent.map Prod.fst).Sublist
      (after request failed ops).line := by
    rw [PublicationQueue.line, List.append_assoc]
    exact List.sublist_append_left _ _
  refine ⟨(after request failed ops).sent, encoded, hwire, hencoded, ?_, hkept.succeeded,
    fun entry hentry => ?_⟩
  · have hordered := hkept.ordered.sublist (hline.map Queued.number)
    rwa [List.map_map] at hordered
  · have hmem := hline.subset (List.mem_map_of_mem hentry)
    exact ⟨hkept.built entry hentry, hkept.appended _ hmem,
      fun hpurged => (hkept.purged _ hpurged).1 (List.mem_map_of_mem hmem)⟩

end Session

end Translator.Sidecar
