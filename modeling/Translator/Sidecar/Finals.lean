import Translator.Sidecar.Numbering
import Translator.Wire.Grammar

/-! An utterance ends once. Whatever happens in a session, nothing on its wire names an utterance
    after its final, be that the end of its pipeline, a cancellation or a drop. -/

namespace Translator.Sidecar
open Schemes
open Wire (Uuid)

/-! ### What a publication ends -/

namespace Publication

/-- The utterance a publication ends. -/
def terminalOf : Publication → Option Uuid
  | completed u .. | dropped u .. | cancelled u => some u.utteranceId
  | _ => none

theorem isOf_of_terminal {p : Publication} {id : Uuid} (h : p.terminalOf = some id) :
    p.isOf id = true := by
  cases p <;> simp_all [terminalOf, isOf, utterance?]

end Publication

/-! ### The events of a publication -/

namespace Body

/-- The utterance an event is about. -/
def utteranceId : Body → Option Uuid
  | .audioDelta u .. | .transcriptDelta u _ | .translationDelta u _ | .latency u .. | .error u _
  | .utteranceFinal u .. => some u.utteranceId
  | _ => none

/-- The utterance an event ends. -/
def finalOf : Body → Option Uuid
  | .utteranceFinal u .. => some u.utteranceId
  | _ => none

end Body

/-- Two events of a session, one after the other: the second is not about what the first ends. -/
def Separate (a b : LocalProviderEvent) : Prop :=
  ∀ id, a.body.finalOf = some id → b.body.utteranceId ≠ some id

theorem numbered_body {last : Nat} {bodies : List Body} {event : LocalProviderEvent}
    (h : event ∈ numbered last bodies) : event.body ∈ bodies := by
  induction bodies generalizing last with
  | nil => cases h
  | cons body rest ih =>
    rcases List.mem_cons.mp h with rfl | hrest
    · exact List.mem_cons_self
    · exact List.mem_cons_of_mem _ (ih hrest)

variable {id : Uuid}

theorem body_final {p : Publication} {table : Uuid → Option Nat} {nowNs : Nat} {body : Body}
    (h : body ∈ p.bodies table nowNs) (hfinal : body.finalOf = some id) :
    p.terminalOf = some id := by
  cases p <;> simp only [Publication.bodies, List.mem_cons, List.not_mem_nil, or_false] at h <;>
    rcases h with rfl | rfl | rfl <;>
      simp_all [Body.finalOf, Publication.terminalOf, Publication.latency]

theorem body_own {p : Publication} {table : Uuid → Option Nat} {nowNs : Nat} {body : Body}
    (h : body ∈ p.bodies table nowNs) (hown : body.utteranceId = some id) : p.isOf id = true := by
  cases p <;> simp only [Publication.bodies, List.mem_cons, List.not_mem_nil, or_false] at h <;>
    rcases h with rfl | rfl | rfl <;>
      simp_all [Body.utteranceId, Publication.isOf, Publication.utterance?, Publication.latency]

/-- Within a batch the final stands last. -/
theorem Built.separate {p : Publication} {batch : List LocalProviderEvent} (h : Built p batch) :
    batch.Pairwise Separate := by
  obtain ⟨table, nowNs, last, rfl⟩ := h
  cases p <;> simp [Publication.bodies, numbered, Separate, Body.finalOf, Publication.latency]

theorem Built.final {p : Publication} {batch : List LocalProviderEvent} (h : Built p batch)
    {event : LocalProviderEvent} (hmem : event ∈ batch) (hfinal : event.body.finalOf = some id) :
    p.terminalOf = some id := by
  obtain ⟨table, nowNs, last, rfl⟩ := h
  exact body_final (numbered_body hmem) hfinal

theorem Built.own {p : Publication} {batch : List LocalProviderEvent} (h : Built p batch)
    {event : LocalProviderEvent} (hmem : event ∈ batch) (hown : event.body.utteranceId = some id) :
    p.isOf id = true := by
  obtain ⟨table, nowNs, last, rfl⟩ := h
  exact body_own (numbered_body hmem) hown

/-- An event on the wire is about the utterance it was built for, and ends the one it was to end. -/
theorem encoded_fields {request : OpenProviderSession} {event : LocalProviderEvent} {e : Wire.Event}
    (h : request.eventToProto event = some e) :
    e.finalOf = event.body.finalOf ∧ e.utteranceField = event.body.utteranceId.map some := by
  simp only [OpenProviderSession.eventToProto, Option.bind_eq_bind, Option.bind_eq_some_iff] at h
  obtain ⟨m, -, h⟩ := h
  cases hbody : event.body <;>
    simp only [hbody, OpenProviderSession.bodyToProto, Option.bind_eq_bind,
      Option.bind_eq_some_iff, Option.some.injEq] at h
  case health => obtain ⟨_, -, _, -, _, -, rfl⟩ := h; exact ⟨rfl, rfl⟩
  case audioDelta => obtain ⟨_, -, _, -, rfl⟩ := h; exact ⟨rfl, rfl⟩
  case latency => obtain ⟨_, -, _, -, _, -, _, -, rfl⟩ := h; exact ⟨rfl, rfl⟩
  case utteranceFinal => obtain ⟨_, -, rfl⟩ := h; exact ⟨rfl, rfl⟩
  all_goals
    subst h
    exact ⟨rfl, rfl⟩

/-- What is encoded keeps a relation between what comes first and what comes later. -/
theorem encoded_pairwise {A B : Type*} {f : A → Option B} {R : A → A → Prop} {S : B → B → Prop}
    (hrel : ∀ a b x y, f a = some x → f b = some y → R a b → S x y) {l : List A} {m : List B}
    (h : l.mapM f = some m) (hl : l.Pairwise R) :
    m.Pairwise S ∧ ∀ y ∈ m, ∃ b ∈ l, f b = some y := by
  induction l generalizing m with
  | nil =>
    cases h
    exact ⟨.nil, fun _ hy => absurd hy List.not_mem_nil⟩
  | cons a rest ih =>
    simp only [List.mapM_cons, Option.bind_eq_bind, Option.bind_eq_some_iff, Option.pure_def,
      Option.some.injEq] at h
    obtain ⟨x, hx, tail, htail, rfl⟩ := h
    obtain ⟨hfirst, hrest⟩ := List.pairwise_cons.mp hl
    obtain ⟨hpairs, hfrom⟩ := ih htail hrest
    constructor
    · refine List.pairwise_cons.mpr ⟨fun y hy => ?_, hpairs⟩
      obtain ⟨b, hb, hfb⟩ := hfrom y hy
      exact hrel a b x y hx hfb (hfirst b hb)
    · intro y hy
      rcases List.mem_cons.mp hy with rfl | hin
      · exact ⟨a, List.mem_cons_self, hx⟩
      · obtain ⟨b, hb, hfb⟩ := hfrom y hin
        exact ⟨b, List.mem_cons_of_mem _ hb, hfb⟩

/-! ### The line of publications -/

/-- The second publication is not about an utterance that the first one ends. -/
def Apart (p q : Publication) : Prop := ∀ id, p.terminalOf = some id → q.isOf id = false

namespace PublicationQueue

/-- The publications that are on the wire or may come there, in order. -/
def publications (q : PublicationQueue) : List Publication := q.line.map Queued.publication

end PublicationQueue

theorem commit_pending (q : PublicationQueue) (queued : Queued) :
    (q.commitPublication queued).pendingPublications = q.pendingPublications := by
  unfold PublicationQueue.commitPublication
  split
  · rfl
  · cases queued.publication <;> rfl

theorem purge_line (q : PublicationQueue) (hit : Publication → Bool) :
    (q.purge hit).line.Sublist q.line := by
  have hretain : (q.retain (q.pendingPublications.filter fun queued => !hit queued.publication)
      (q.pendingPublications.filter fun queued => hit queued.publication)).line.Sublist q.line :=
    (List.Sublist.refl _).append List.filter_sublist
  refine List.Sublist.trans ?_ hretain
  unfold PublicationQueue.purge PublicationQueue.cancelInFlight
  split
  · split
    · exact ((List.Sublist.refl _).append (List.nil_sublist _)).append (List.Sublist.refl _)
    · exact .refl _
  · exact .refl _

namespace Session

/-- No publication in the line is about an utterance that one before it ends, what ends is known as
    terminal, and what is known as terminal is no utterance of the session any more. -/
structure Ending (s : Session) : Prop where
  apart : s.publications.Pairwise Apart
  known : ∀ p ∈ s.publications, ∀ id, p.terminalOf = some id → id ∈ s.terminalIds
  live : ∀ id ∈ s.utterances, id ∉ s.terminalIds

/-- Nothing joins the line, and no utterance begins. -/
structure Fewer (s t : Session) : Prop where
  line : t.line.Sublist s.line
  terminal : t.terminalIds = s.terminalIds
  utterances : ∀ id ∈ t.utterances, id ∈ s.utterances

variable {s t : Session}

theorem Fewer.refl (s : Session) : Fewer s s := ⟨.refl _, rfl, fun _ h => h⟩

theorem Ending.fewer (h : Ending s) (hf : Fewer s t) : Ending t where
  apart := h.apart.sublist (hf.line.map _)
  known p hp x hx := by
    rw [hf.terminal]
    exact h.known p ((hf.line.map _).subset hp) x hx
  live x hx := by
    rw [hf.terminal]
    exact h.live x (hf.utterances x hx)

/-- An utterance that has not ended may go on. -/
theorem Ending.insert (h : Ending s) (hid : id ∉ s.terminalIds) (utterance : Utterance) :
    Ending { s with utterances := s.utterances.insert id utterance } where
  apart := h.apart
  known := h.known
  live x hx := by
    rcases (AList.mem_insert _).mp hx with rfl | hold
    · exact hid
    · exact h.live x hold

theorem fewer_failSession (s : Session) (error : Option PublicationError) :
    Fewer s (s.failSession error) :=
  ⟨purge_line s.toPublicationQueue fun _ => true, rfl, fun _ hx => absurd hx (AList.notMem_empty _)⟩

/-- A publication joins the line behind those that do not end its utterance. -/
theorem Ending.append (h : Ending s) {p : Publication} (hapart : ∀ q ∈ s.publications, Apart q p)
    (hknown : ∀ id, p.terminalOf = some id → id ∈ s.terminalIds) : Ending (s.append p) := by
  unfold Session.append
  split
  · exact h.fewer (fewer_failSession s _)
  have hline : (s.onQueue fun q => q.push p (s.audioMs p)).publications
      = s.publications ++ [p] := by
    simp [PublicationQueue.publications, onQueue, push_line]
  constructor
  · rw [hline, List.pairwise_append]
    refine ⟨h.apart, List.pairwise_singleton .., fun q hq r hr => ?_⟩
    rw [List.mem_singleton.mp hr]
    exact hapart q hq
  · intro q hq x hx
    rw [hline, List.mem_append, List.mem_singleton] at hq
    rcases hq with hold | rfl
    · exact h.known q hold x hx
    · exact hknown x hx
  · exact h.live

/-- What is about an utterance that has not ended stands apart from all that is in the line. -/
theorem Ending.apart_of_live (h : Ending s) (hid : id ∉ s.terminalIds) {p : Publication}
    (hp : ∀ x, p.isOf x = true → x = id) : ∀ q ∈ s.publications, Apart q p := by
  intro q hq x hx
  by_contra hof
  rw [Bool.not_eq_false] at hof
  rw [← hp x hof] at hid
  exact hid (h.known q hq x hx)

theorem Ending.terminalize (h : Ending s) (hid : id ∉ s.terminalIds) {p : Publication}
    (hp : ∀ x, p.isOf x = true → x = id) : Ending (s.terminalize id p).2 := by
  unfold Session.terminalize
  split
  · exact h.fewer (fewer_failSession s none)
  have hretired : Ending (s.retire id) := by
    refine ⟨h.apart, fun q hq x hx => Finset.mem_insert_of_mem (h.known q hq x hx), fun x hx => ?_⟩
    obtain ⟨hne, hold⟩ := AList.mem_erase.mp hx
    exact Finset.mem_insert.not.mpr (not_or.mpr ⟨hne, h.live x hold⟩)
  refine hretired.append (h.apart_of_live hid hp) fun x hx => ?_
  rw [hp x (Publication.isOf_of_terminal hx)]
  exact Finset.mem_insert_self _ _

theorem isOf_ref {p : Publication} {utterance : Utterance}
    (h : p.utterance? = some (utterance.ref id)) : ∀ x, p.isOf x = true → x = id := by
  intro x hx
  simp only [Publication.isOf, h, Option.map_some, Utterance.ref, decide_eq_true_eq] at hx
  exact (Option.some.inj hx).symm

theorem Ending.enqueue (h : Ending s) (hid : id ∉ s.terminalIds) {p : Publication}
    (hp : ∀ x, p.isOf x = true → x = id) (hnone : p.terminalOf = none)
    (he : s.enqueue p = some t) : Ending t := by
  unfold Session.enqueue at he
  split at he
  · cases he
    exact h.fewer (fewer_failSession s _)
  split at he
  · cases he
  · cases he
    refine h.append (h.apart_of_live hid hp) fun x hx => ?_
    rw [hnone] at hx
    cases hx

theorem Ending.dropLocked (h : Ending s) (hid : id ∉ s.terminalIds) (utterance : Utterance)
    (code : SafeErrorCode) (asrMs mtMs ttsMs : Option Nat) :
    Ending (s.dropLocked id utterance code asrMs mtMs ttsMs).2 :=
  Ending.terminalize (s := s.onQueue (·.purge (Publication.isOf id)))
    (h.fewer ⟨purge_line _ _, rfl, fun _ hx => hx⟩) hid (isOf_ref rfl)

/-! ### Requests -/

theorem fewer_validateFrame (s : Session) (frame : ProviderInputFrame) :
    Fewer s (s.validateFrame frame).2 := by
  unfold validateFrame
  dsimp only
  split_ifs <;> exact ⟨.refl _, rfl, fun _ hx => hx⟩

/-- A frame that is taken belongs to an utterance that has not ended. -/
theorem Ending.collectingUtterance (h : Ending s) (frame : ProviderInputFrame) :
    Ending (s.collectingUtterance frame).2
      ∧ (frame.utteranceId ∉ (s.collectingUtterance frame).2.terminalIds
        ∨ ∃ error, (s.collectingUtterance frame).1 = .error error) := by
  unfold Session.collectingUtterance
  split
  · exact ⟨h, .inr ⟨_, rfl⟩⟩
  next hid =>
    split
    · split
      · exact ⟨h, .inr ⟨_, rfl⟩⟩
      split
      · exact ⟨h.fewer (fewer_failSession s none), .inr ⟨_, rfl⟩⟩
      · have hnew := h.insert hid ⟨frame.streamId, frame.captureMonotonicNs, false, 0, .collecting⟩
        exact ⟨hnew.fewer ⟨.refl _, rfl, fun _ hx => hx⟩, .inl hid⟩
    · split
      · exact ⟨h, .inr ⟨_, rfl⟩⟩
      split
      · exact ⟨h, .inl hid⟩
      · exact ⟨h, .inr ⟨_, rfl⟩⟩

theorem Ending.finishCollecting (h : Ending s) (hid : id ∉ s.terminalIds) (utterance : Utterance)
    (modelsAvailable : Bool) (admission : Admission) :
    Ending (s.finishCollecting id utterance modelsAvailable admission).2 := by
  have hset : Ending { s with collectingId := none } :=
    h.fewer ⟨.refl _, rfl, fun _ hx => hx⟩
  have hdrop (code : SafeErrorCode) : Ending
      (Session.dropLocked { s with collectingId := none } id utterance code none none none).2 :=
    hset.dropLocked hid utterance code none none none
  unfold Session.finishCollecting
  dsimp only
  split
  · exact hdrop .modelNotLoaded
  · cases admission with
    | accepted => exact hset.insert hid _
    | overflow => exact hdrop .queueOverflow
    | unavailable => exact hdrop .providerUnavailable

theorem Ending.discard (h : Ending s) (hid : id ∉ s.terminalIds) (utterance : Utterance)
    (endOfUtterance : Bool) : Ending (s.discard id utterance endOfUtterance).2 := by
  have hset := h.insert hid { utterance with discarding := true, bufferedMs := 0 }
  unfold Session.discard
  dsimp only
  split
  · exact Ending.dropLocked
      (s := { s with
        collectingId := none
        utterances := s.utterances.insert id { utterance with discarding := true, bufferedMs := 0 } })
      (hset.fewer ⟨.refl _, rfl, fun _ hx => hx⟩) hid ..
  · exact hset

theorem Ending.submitFrame (h : Ending s) (frame : ProviderInputFrame) (modelsAvailable : Bool)
    (admission : Admission) : Ending (s.submitFrame frame modelsAvailable admission).2 := by
  have hvalid := h.fewer (fewer_validateFrame s frame)
  unfold Session.submitFrame
  split
  next hv =>
    rw [hv] at hvalid
    exact hvalid
  next s₁ hv =>
    rw [hv] at hvalid
    obtain ⟨hcollecting, hlive⟩ := hvalid.collectingUtterance frame
    split
    next hc =>
      rw [hc] at hcollecting
      exact hcollecting
    next utterance s₂ hc =>
      rw [hc] at hcollecting hlive
      have hid : frame.utteranceId ∉ s₂.terminalIds := by
        rcases hlive with hid | ⟨_, herror⟩
        · exact hid
        · cases herror
      have hset : Ending { s₂ with lastInputSequence := some frame.sequence } :=
        hcollecting.fewer ⟨.refl _, rfl, fun _ hx => hx⟩
      dsimp only
      split
      · exact hset.discard hid ..
      split
      · exact hset.insert hid _
      · exact (hset.insert hid _).finishCollecting hid ..

theorem Ending.cancelUtterance (h : Ending s) (request : CancelUtterance) :
    Ending (s.cancelUtterance request).2 := by
  unfold Session.cancelUtterance
  split
  · exact h
  split
  · exact h
  next utterance hlookup =>
    have hid : request.utteranceId ∉ s.terminalIds := by
      refine h.live _ (Table.mem_iff_isSome.mpr ?_)
      rw [hlookup]
      rfl
    have hpurged : Ending (onQueue { s with
        collectingId := if s.collectingId = some request.utteranceId then none else s.collectingId }
        (·.purge (Publication.isOf request.utteranceId))) :=
      h.fewer ⟨purge_line s.toPublicationQueue _, rfl, fun _ hx => hx⟩
    exact hpurged.terminalize hid (isOf_ref rfl)

theorem Ending.underLock (h : Ending s) (modelsAvailable : Bool) (admission : Admission)
    (call : Call) : Ending (s.underLock modelsAvailable admission call).2 := by
  cases call with
  | submitFrame frame => exact h.submitFrame frame modelsAvailable admission
  | cancelUtterance request => exact h.cancelUtterance request
  | updateDebugText enabled =>
    simp only [Session.underLock, updateDebugText]
    split
    · exact h.fewer ⟨.refl _, rfl, fun _ hx => hx⟩
    · exact h.fewer ⟨purge_line s.toPublicationQueue _, rfl, fun _ hx => hx⟩
  | closeSession =>
    have hclosed : Ending { s with
        closed := true
        debugTextEnabled := false
        utterances := ∅
        collectingId := none
        toPublicationQueue := s.purge fun _ => true } :=
      h.fewer ⟨purge_line s.toPublicationQueue _, rfl, fun _ hx => absurd hx (AList.notMem_empty _)⟩
    exact hclosed.append (fun _ _ _ _ => rfl) (fun _ hx => by cases hx)

/-! ### The pipeline and the publication loop -/

/-- What a pipeline queues is about its own utterance and does not end it. -/
theorem pipeline_enqueue {utterance : Utterance} {inference : Inference} {p : Publication}
    {stage : Stage} (h : s.pipeline id utterance inference = .enqueue p stage) :
    p.utterance? = some (utterance.ref id) ∧ p.terminalOf = none := by
  unfold pipeline at h
  dsimp only at h
  split at h
  all_goals try split at h
  all_goals try split at h
  all_goals
    cases h
    try exact ⟨rfl, rfl⟩

theorem Ending.infer (h : Ending s) (id : Uuid) (inference : Inference) :
    Ending (s.infer id inference) := by
  unfold Session.infer
  split
  · exact h
  next utterance hcurrent =>
    have hid : id ∉ s.terminalIds := by
      intro hmem
      simp [current, hmem] at hcurrent
    cases hdemand : s.pipeline id utterance inference with
    | nothing => exact h
    | stage stage => exact h.insert hid _
    | drop code asrMs mtMs ttsMs => exact h.dropLocked hid ..
    | complete asrMs mtMs ttsMs => exact h.terminalize hid (isOf_ref rfl)
    | enqueue p stage =>
      obtain ⟨hown, hnone⟩ := pipeline_enqueue hdemand
      have hset : Ending (s.setStage id utterance stage) := h.insert hid _
      cases henqueue : (s.setStage id utterance stage).enqueue p with
      | none => simpa [perform, henqueue] using h
      | some s' => simpa [perform, henqueue] using hset.enqueue hid (isOf_ref hown) hnone henqueue

theorem fewer_take (s : Session) (nowNs : Nat) (built : Bool) : Fewer s (s.take nowNs built) := by
  unfold Session.take
  split
  · exact .refl s
  split
  · split <;> exact ⟨.refl _, rfl, fun _ hx => hx⟩
  next head rest hqueue =>
    have hpop : (s.popLeft head rest).line.Sublist s.line := by
      simp only [PublicationQueue.line, PublicationQueue.popLeft, PublicationQueue.waiting, hqueue]
      exact (List.Sublist.refl _).append (List.sublist_cons_self _ _)
    cases built with
    | false => exact ⟨hpop, rfl, fun _ hx => hx⟩
    | true =>
      simp only [if_true]
      unfold build
      dsimp only
      split
      · exact ⟨(purge_line _ _).trans hpop, rfl, fun _ hx => absurd hx (AList.notMem_empty _)⟩
      · refine ⟨?_, rfl, fun _ hx => hx⟩
        simp only [PublicationQueue.line, onQueue, PublicationQueue.launch,
          PublicationQueue.popLeft, PublicationQueue.waiting, hqueue, List.append_assoc,
          List.singleton_append]
        exact (List.Sublist.refl _).append (List.sublist_append_right _ _)

theorem fewer_resume (s : Session) : Fewer s s.resume := by
  have hland : s.land.line.Sublist s.line := by
    simp only [PublicationQueue.line, PublicationQueue.land, PublicationQueue.waiting]
    exact ((List.Sublist.refl _).append (List.nil_sublist _)).append (List.Sublist.refl _)
  have hsettle (callbackCancelled : Bool) : Fewer s (s.settle callbackCancelled) := by
    unfold settle
    split
    · exact ⟨purge_line s.toPublicationQueue _, rfl, fun _ hx => absurd hx (AList.notMem_empty _)⟩
    · exact ⟨hland, rfl, fun _ hx => hx⟩
  unfold Session.resume
  split
  · exact .refl s
  split
  · exact hsettle false
  · split
    · exact hsettle true
    · exact ⟨.refl _, rfl, fun _ hx => hx⟩
  · refine ⟨List.Sublist.trans ?_ (purge_line s.toPublicationQueue fun _ => true), rfl,
      fun _ hx => absurd hx (AList.notMem_empty _)⟩
    exact ((List.Sublist.refl _).append (List.nil_sublist _)).append (List.Sublist.refl _)
  all_goals exact .refl s

theorem fewer_publish (s : Session) (taken : Bool) : Fewer s (s.publish taken) := by
  unfold Session.publish
  split
  · exact .refl s
  next task htask =>
    have hover {state : PublishState} (hstate : state ≠ .waiting) :
        Fewer s (s.onQueue (·.setState task state)) := by
      refine ⟨?_, rfl, fun _ hx => hx⟩
      have hnone : (s.setState task state).waiting = [] := by
        cases state <;> simp_all [PublicationQueue.waiting, PublicationQueue.setState]
      rw [PublicationQueue.line]
      exact ((List.Sublist.refl _).append (hnone ▸ List.nil_sublist _)).append (List.Sublist.refl _)
    split
    · exact hover (by simp)
    next hwaiting =>
      split
      · exact hover (by simp)
      · split
        · refine ⟨?_, rfl, fun _ hx => hx⟩
          have hsent : (((s.send task.queued task.batch).commitPublication task.queued).setState
              task .committed).sent = s.sent ++ [(task.queued, task.batch)] := commit_sent _ _
          have hpending : (((s.send task.queued task.batch).commitPublication task.queued).setState
              task .committed).pendingPublications = s.pendingPublications := commit_pending _ _
          have hnone : (((s.send task.queued task.batch).commitPublication task.queued).setState
              task .committed).waiting = [] := rfl
          rw [PublicationQueue.line, PublicationQueue.line, waiting_of_task htask hwaiting]
          simp only [hsent, hpending, hnone, List.map_append, List.append_nil, List.map_cons,
            List.map_nil]
          exact .refl _
        · exact hover (by simp)
    all_goals exact .refl s

theorem Ending.apply (h : Ending s) (op : Op) : Ending (Session.apply s op).2 := by
  cases op with
  | call sessionId call =>
    simp only [Session.apply, letIn]
    split
    · exact h
    · exact h.fewer ⟨.refl _, rfl, fun _ hx => hx⟩
  | enter index modelsAvailable admission =>
    simp only [Session.apply]
    split
    · exact h
    · exact Ending.underLock (s := { s with calls := s.calls.eraseIdx index })
        (h.fewer ⟨.refl _, rfl, fun _ hx => hx⟩) ..
  | infer id inference => exact h.infer id inference
  | take nowNs built => exact h.fewer (fewer_take s nowNs built)
  | publish taken => exact h.fewer (fewer_publish s taken)
  | resume => exact h.fewer (fewer_resume s)

theorem run_ending (request : OpenProviderSession) (failed : Bool) (ops : List Op) :
    Ending (after request failed ops) := by
  refine exec_state_invariant (I := Ending) ?_ (fun _ op h => h.apply op) ops
  exact ⟨.nil, fun _ hp => absurd hp List.not_mem_nil, fun _ hx => absurd hx (AList.notMem_empty _)⟩

/-! ### What is on the wire -/

theorem opened_final (request : OpenProviderSession) (failed : Bool) :
    ∀ e ∈ (opened request failed).wire, e.finalOf = none := by
  intro e he
  simp only [opened, numbered, List.mem_filterMap, List.mem_cons, List.not_mem_nil, or_false] at he
  obtain ⟨event, rfl | rfl, hevent⟩ := he
  · exact (encoded_fields hevent).1
  · exact (encoded_fields hevent).1

/-- Whatever happens in a session, once the final of an utterance is on its wire, no later event
    there names the utterance: it has one final at most, and no audio, text or error after it. -/
theorem run_wire_final (request : OpenProviderSession) (failed : Bool) (ops : List Op) :
    (after request failed ops).wire.Pairwise fun a b => ∀ u, a.finalOf = some u → ¬ b.Names u := by
  have hending := run_ending request failed ops
  obtain ⟨encoded, hencoded, hwire⟩ := (run_told request failed ops).encoded
  have hkept : Kept (after request failed ops).toPublicationQueue :=
    exec_state_invariant (I := fun s : Session => Kept s.toPublicationQueue) kept_empty
      (fun _ op h => apply_kept h op) ops
  generalize after request failed ops = s at hending hencoded hwire hkept ⊢
  have hseparate : (s.sent.flatMap Prod.snd).Pairwise Separate := by
    have hsent : (s.sent.map fun entry => entry.1.publication).Pairwise Apart := by
      have hapart := hending.apart
      simp only [PublicationQueue.publications, PublicationQueue.line, List.map_append,
        List.map_map, List.append_assoc] at hapart
      exact (List.pairwise_append.mp hapart).1
    refine List.pairwise_flatMap.mpr ⟨fun entry hentry => (hkept.built entry hentry).separate, ?_⟩
    refine (List.pairwise_map.mp hsent).imp_of_mem
      fun {a b} ha hb hab x hx y hy id hfinal hown => ?_
    have hmiss := hab id ((hkept.built a ha).final hx hfinal)
    rw [(hkept.built b hb).own hy hown] at hmiss
    cases hmiss
  rw [hwire, List.pairwise_append]
  have hopening := opened_final request failed
  refine ⟨?_, ?_, fun a ha b _ u hu => ?_⟩
  · refine List.pairwise_of_forall_mem_list fun a ha b _ u hu => ?_
    rw [hopening a ha] at hu
    cases hu
  · refine (encoded_pairwise (fun a b x y hx hy hab u hu hnames => ?_) hencoded hseparate).1
    obtain ⟨hfinal, -⟩ := encoded_fields hx
    obtain ⟨-, hfield⟩ := encoded_fields hy
    refine hab u (hfinal.symm.trans hu) ?_
    rw [Wire.Event.Names, hfield, Option.map_eq_some_iff] at hnames
    obtain ⟨v, hv, heq⟩ := hnames
    rw [hv, Option.some.inj heq]
  · rw [hopening a ha] at hu
    cases hu

end Session

end Translator.Sidecar
