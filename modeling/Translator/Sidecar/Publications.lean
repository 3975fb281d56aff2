import Translator.Sidecar.LocalProvider

/-! What the queue of publications keeps through every run of a session: its counters are the sums they
    stand for, it never holds more than it may, what is put on the wire was appended in that order and
    never purged, and no other audio than the last one on the wire is remembered as the last one. -/

namespace Translator.Sidecar
open Schemes
open Wire (Uuid)

/-! ### Events -/

theorem numbered_length (last : Nat) (bodies : List Body) :
    (numbered last bodies).length = bodies.length := by
  induction bodies generalizing last with
  | nil => rfl
  | cons body rest ih => simp [numbered, ih]

theorem bodies_length (publication : Publication) (lastAudio : Uuid → Option Nat) (nowNs : Nat) :
    (publication.bodies lastAudio nowNs).length = publication.eventCount := by
  cases publication <;> rfl

/-- The sequence of an event that is audio of an utterance. -/
def Body.sequenceOf (id : Uuid) : Body → Option Nat
  | .audioDelta utterance sequence _ _ => if utterance.utteranceId = id then some sequence else none
  | _ => none

/-- The sequence of the last audio of an utterance among some events. -/
def lastAudio (id : Uuid) (events : List LocalProviderEvent) : Option Nat :=
  (events.filterMap fun event => event.body.sequenceOf id).getLast?

theorem lastAudio_append (id : Uuid) (events more : List LocalProviderEvent) :
    lastAudio id (events ++ more) = (lastAudio id more).or (lastAudio id events) := by
  rw [lastAudio, List.filterMap_append, List.getLast?_append]
  rfl

/-- The events are what the publication was built to. -/
def Built (publication : Publication) (batch : List LocalProviderEvent) : Prop :=
  ∃ lastAudio nowNs last, batch = numbered last (publication.bodies lastAudio nowNs)

theorem Built.length {publication : Publication} {batch : List LocalProviderEvent}
    (h : Built publication batch) : batch.length = publication.eventCount := by
  obtain ⟨lastAudio, nowNs, last, rfl⟩ := h
  rw [numbered_length, bodies_length]

/-- The sequence of a publication that is audio of an utterance. -/
def Publication.sequenceOf (id : Uuid) : Publication → Option Nat
  | .audio u sequence _ => if u.utteranceId = id then some sequence else none
  | _ => none

theorem Built.lastAudio {publication : Publication} {batch : List LocalProviderEvent}
    (h : Built publication batch) (id : Uuid) :
    Sidecar.lastAudio id batch = publication.sequenceOf id := by
  obtain ⟨last, nowNs, n, rfl⟩ := h
  cases publication with
  | audio u sequence pcm =>
    by_cases hid : u.utteranceId = id <;>
      simp [Publication.bodies, Publication.sequenceOf, numbered, Sidecar.lastAudio,
        Body.sequenceOf, hid]
  | _ => rfl

/-! ### What is kept -/

namespace PublicationQueue

variable (q : PublicationQueue)

/-- The publication whose task is still to publish it. -/
def waiting : List Queued :=
  match q.inFlightTask with
  | some ⟨queued, _, .waiting⟩ => [queued]
  | _ => []

/-- The publications that are on the wire or may come there, in order. -/
def line : List Queued := q.sent.map Prod.fst ++ q.waiting ++ q.pendingPublications

end PublicationQueue

/-- The publication in flight has a task of its own, and the flags say what state that is in. -/
inductive Flight (q : PublicationQueue) : Prop
  | grounded (inFlight : q.inFlight = none) (task : q.inFlightTask = none)
    (size : q.inFlightBatchSize = 0)
  | flying (queued : Queued) (batch : List LocalProviderEvent) (state : PublishState)
    (inFlight : q.inFlight = some queued) (task : q.inFlightTask = some ⟨queued, batch, state⟩)
    (built : Built queued.publication batch)
    (size : q.inFlightBatchSize = if q.inFlightCancelled then 0 else batch.length)
    (cancelled : q.inFlightCancelled = true ↔ state = .cancelling ∨ state = .cancelled)
    (committed : q.inFlightCommitted = true ↔ state = .committed)
    (dropped : q.inFlightCancelled = true → queued.number ∈ q.purged)

/-- The counters are the sums they stand for, and there is no more than there may be. -/
structure Counted (q : PublicationQueue) : Prop where
  events : q.pendingEventCount
    = (q.pendingPublications.map fun queued => queued.publication.eventCount).sum
  audio : q.pendingAudioMs = (q.pendingPublications.map Queued.audioMs).sum
  eventRoom : q.pendingEvents ≤ maxPendingEvents
  audioRoom : q.pendingAudioMs + q.inFlightMs ≤ maxQueuedAudioMs

/-- Publications come to the wire in the order they were appended in, once each and unless they were
    purged, and what they did when they came there is done. -/
structure Published (q : PublicationQueue) : Prop where
  ordered : (q.line.map Queued.number).Pairwise (· < ·)
  appended : ∀ queued ∈ q.line, queued.number < q.appended
  purged : ∀ n ∈ q.purged, n ∉ q.line.map Queued.number ∧ n < q.appended
  succeeded : q.succeeded = q.sent.map fun entry => entry.1.number
  built : ∀ entry ∈ q.sent, Built entry.1.publication entry.2
  last : ∀ id n, q.lastAudioSequence.lookup id = some n →
    lastAudio id (q.sent.flatMap Prod.snd) = some n

structure Kept (q : PublicationQueue) : Prop extends Counted q, Published q where
  flight : Flight q

theorem kept_empty : Kept .empty where
  events := rfl
  audio := rfl
  eventRoom := by decide
  audioRoom := by decide
  ordered := .nil
  appended _ h := by cases h
  purged _ h := by cases h
  succeeded := rfl
  built _ h := by cases h
  last id n h := by cases h
  flight := .grounded rfl rfl rfl

/-! ### The queue -/

variable {q r : PublicationQueue}

theorem Flight.congr (h : Flight q) (hinFlight : r.inFlight = q.inFlight)
    (htask : r.inFlightTask = q.inFlightTask) (hsize : r.inFlightBatchSize = q.inFlightBatchSize)
    (hcancelled : r.inFlightCancelled = q.inFlightCancelled)
    (hcommitted : r.inFlightCommitted = q.inFlightCommitted)
    (hpurged : ∀ n ∈ q.purged, n ∈ r.purged) : Flight r := by
  rcases h with ⟨hq, ht, hn⟩ | ⟨queued, batch, state, hq, ht, hb, hn, hc, hd, hx⟩
  · exact .grounded (hinFlight.trans hq) (htask.trans ht) (hsize.trans hn)
  · refine .flying queued batch state (hinFlight.trans hq) (htask.trans ht) hb ?_ ?_ ?_ ?_
    · rw [hsize, hcancelled, hn]
    · rw [hcancelled, hc]
    · rw [hcommitted, hd]
    · rw [hcancelled]
      exact fun h => hpurged _ (hx h)

/-- With the task of the publication in flight at hand, it is the publication's own. -/
theorem Flight.of_task {task : PublishTask} (h : Flight q) (htask : q.inFlightTask = some task) :
    q.inFlight = some task.queued ∧ Built task.queued.publication task.batch
      ∧ q.inFlightBatchSize = (if q.inFlightCancelled then 0 else task.batch.length)
      ∧ (q.inFlightCancelled = true ↔ task.state = .cancelling ∨ task.state = .cancelled)
      ∧ (q.inFlightCommitted = true ↔ task.state = .committed)
      ∧ (q.inFlightCancelled = true → task.queued.number ∈ q.purged) := by
  rcases h with ⟨-, ht, -⟩ | ⟨queued, batch, state, hq, ht, hb, hn, hc, hd, hx⟩
  · rw [htask] at ht
    cases ht
  · rw [htask] at ht
    cases ht
    exact ⟨hq, hb, hn, hc, hd, hx⟩

theorem onSuccess_rest (publication : Publication) : q.onSuccess publication
    = { q with lastAudioSequence := (q.onSuccess publication).lastAudioSequence } := by
  cases publication <;> rfl

theorem onSuccess_lookup (publication : Publication) (id : Uuid) :
    (q.onSuccess publication).lastAudioSequence.lookup id
      = (publication.sequenceOf id).or (q.lastAudioSequence.lookup id) := by
  cases publication with
  | audio u sequence pcm =>
    by_cases hid : id = u.utteranceId <;>
      simp [PublicationQueue.onSuccess, Publication.sequenceOf, Table.lookup_insert_if, hid, eq_comm]
  | _ => rfl

theorem waiting_of_task {task : PublishTask} (htask : q.inFlightTask = some task)
    (hstate : task.state = .waiting) : q.waiting = [task.queued] := by
  obtain ⟨queued, batch, state⟩ := task
  cases hstate
  simp [PublicationQueue.waiting, htask]

theorem Published.nodup (h : Published q) : (q.line.map Queued.number).Nodup :=
  h.ordered.imp Nat.ne_of_lt

/-- Of the line some publications are left, and what is purged has been in it. -/
theorem Published.shrink (h : Published q) (hline : r.line.Sublist q.line)
    (happended : r.appended = q.appended) (hsent : r.sent = q.sent)
    (hsucceeded : r.succeeded = q.succeeded) (hlast : r.lastAudioSequence = q.lastAudioSequence)
    (hpurged : ∀ n ∈ r.purged, n ∈ q.purged
      ∨ ∃ queued ∈ q.line, queued.number = n ∧ queued ∉ r.line) : Published r where
  ordered := h.ordered.sublist (hline.map _)
  appended queued hmem := by
    rw [happended]
    exact h.appended queued (hline.subset hmem)
  purged n hn := by
    rw [happended]
    rcases hpurged n hn with hold | ⟨queued, hmem, rfl, hnot⟩
    · obtain ⟨hnot, hlt⟩ := h.purged n hold
      exact ⟨fun hmem => hnot ((hline.map _).subset hmem), hlt⟩
    · refine ⟨fun hstays => ?_, h.appended queued hmem⟩
      obtain ⟨other, hother, hnumber⟩ := List.mem_map.mp hstays
      have hsame := List.inj_on_of_nodup_map h.nodup (hline.subset hother) hmem hnumber
      rw [hsame] at hother
      exact hnot hother
  succeeded := by rw [hsucceeded, hsent, h.succeeded]
  built := by
    rw [hsent]
    exact h.built
  last := by
    rw [hlast, hsent]
    exact h.last

theorem push_line (publication : Publication) (audioMs : Nat) :
    (q.push publication audioMs).line = q.line ++ [⟨q.appended, publication, audioMs⟩] := by
  simp [PublicationQueue.line, PublicationQueue.push, PublicationQueue.waiting]

theorem Kept.push (h : Kept q) {publication : Publication} {audioMs : Nat}
    (hroom : q.pendingEvents + publication.eventCount ≤ maxPendingEvents)
    (haudio : audioMs = 0 ∨ q.pendingAudioMs + q.inFlightMs + audioMs ≤ maxQueuedAudioMs) :
    Kept (q.push publication audioMs) := by
  have hbefore := h.audioRoom
  constructor
  · constructor
    · simp [PublicationQueue.push, h.events]
    · simp [PublicationQueue.push, h.audio]
    · simp only [PublicationQueue.pendingEvents, PublicationQueue.push] at hroom ⊢
      omega
    · simp only [PublicationQueue.push, PublicationQueue.inFlightMs] at haudio hbefore ⊢
      omega
  · constructor
    · rw [push_line, List.map_append, List.pairwise_append]
      refine ⟨h.ordered, List.pairwise_singleton .., fun n hn m hm => ?_⟩
      obtain ⟨queued, hqueued, rfl⟩ := List.mem_map.mp hn
      rw [List.mem_singleton.mp hm]
      exact h.appended queued hqueued
    · intro queued hqueued
      rw [push_line, List.mem_append, List.mem_singleton] at hqueued
      rcases hqueued with hold | rfl
      · exact Nat.lt_succ_of_lt (h.appended queued hold)
      · exact Nat.lt_succ_self _
    · intro n hn
      obtain ⟨hnot, hlt⟩ := h.purged n hn
      refine ⟨fun hmem => ?_, Nat.lt_succ_of_lt hlt⟩
      rw [push_line, List.map_append, List.mem_append] at hmem
      rcases hmem with hold | hnew
      · exact hnot hold
      · rw [List.mem_singleton.mp hnew] at hlt
        exact Nat.lt_irrefl _ hlt
    · exact h.succeeded
    · exact h.built
    · exact h.last
  · exact h.flight.congr rfl rfl rfl rfl rfl fun _ hn => hn

theorem Kept.popLeft (h : Kept q) {head : Queued} {rest : List Queued}
    (hqueue : q.pendingPublications = head :: rest) : Kept (q.popLeft head rest) := by
  have hline : (q.popLeft head rest).line.Sublist q.line := by
    simp only [PublicationQueue.line, PublicationQueue.popLeft, PublicationQueue.waiting, hqueue]
    exact (List.Sublist.refl _).append (List.sublist_cons_self _ _)
  have hevents := h.events
  have haudio := h.audio
  have hroom := h.eventRoom
  have haudioRoom := h.audioRoom
  rw [hqueue, List.map_cons, List.sum_cons] at hevents haudio
  simp only [PublicationQueue.pendingEvents, PublicationQueue.inFlightMs] at hroom haudioRoom
  constructor
  · constructor <;>
      simp only [PublicationQueue.popLeft, PublicationQueue.pendingEvents,
        PublicationQueue.inFlightMs] <;> omega
  · exact h.shrink hline rfl rfl rfl rfl fun n hn => .inl hn
  · exact h.flight.congr rfl rfl rfl rfl rfl fun _ hn => hn

theorem sum_filter_le (f : Queued → Nat) (p : Queued → Bool) (l : List Queued) :
    ((l.filter p).map f).sum ≤ (l.map f).sum := by
  induction l with
  | nil => simp
  | cons queued rest ih =>
    by_cases hp : p queued <;> simp [hp] <;> omega

theorem sum_eventCount (l : List Queued) :
    (l.map fun queued => (queued.publication.eventCount : Int)).sum
      = ((l.map fun queued => queued.publication.eventCount).sum : Nat) := by
  induction l with
  | nil => rfl
  | cons queued rest ih => simp [ih]

theorem Kept.retain (h : Kept q) (hit : Publication → Bool) :
    Kept (q.retain (q.pendingPublications.filter fun queued => !hit queued.publication)
      (q.pendingPublications.filter fun queued => hit queued.publication)) := by
  have hevents := sum_filter_le (fun queued => queued.publication.eventCount)
    (fun queued => !hit queued.publication) q.pendingPublications
  have haudio := sum_filter_le Queued.audioMs (fun queued => !hit queued.publication)
    q.pendingPublications
  have hroom := h.eventRoom
  have haudioRoom := h.audioRoom
  simp only [PublicationQueue.pendingEvents, PublicationQueue.inFlightMs, h.events, h.audio]
    at hroom haudioRoom
  constructor
  · constructor
    · exact sum_eventCount _
    · rfl
    · simp only [PublicationQueue.retain, PublicationQueue.pendingEvents, sum_eventCount]
      omega
    · simp only [PublicationQueue.retain, PublicationQueue.inFlightMs]
      omega
  · refine h.shrink ?_ rfl rfl rfl rfl fun n hn => ?_
    · exact (List.Sublist.refl _).append List.filter_sublist
    rcases List.mem_append.mp hn with hold | hnew
    · exact .inl hold
    obtain ⟨queued, hqueued, rfl⟩ := List.mem_map.mp hnew
    obtain ⟨hpending, hhit⟩ := List.mem_filter.mp hqueued
    refine .inr ⟨queued, List.mem_append_right _ hpending, rfl, fun hmem => ?_⟩
    rcases List.mem_append.mp hmem with hbefore | hkept
    · have hnodup := h.nodup.of_map
      exact (List.nodup_append.mp hnodup).2.2 _ hbefore _ hpending rfl
    · have hmiss := (List.mem_filter.mp hkept).2
      simp [hhit] at hmiss
  · exact h.flight.congr rfl rfl rfl rfl rfl fun _ hn => List.mem_append_left _ hn

/-- A publication that waits for the transport leaves the line when its task is cancelled. -/
theorem Kept.cancelInFlight (h : Kept q) (hit : Publication → Bool) :
    Kept (q.cancelInFlight hit) := by
  unfold PublicationQueue.cancelInFlight
  split
  next queued task hq ht =>
    split
    next hhit =>
      obtain ⟨hqueued, hbuilt, -, hcancelled, hcommitted, hdropped⟩ := h.flight.of_task ht
      rw [hq] at hqueued
      cases hqueued
      have hnot : ¬ task.state = .committed := by
        intro hstate
        simp [hstate, PublishState.done] at hhit
      have hroom := h.eventRoom
      simp only [PublicationQueue.pendingEvents] at hroom
      constructor
      · constructor
        · exact h.events
        · exact h.audio
        · simp only [PublicationQueue.pendingEvents]
          omega
        · exact h.audioRoom
      · refine h.shrink ?_ rfl rfl rfl rfl fun n hn => ?_
        · simp only [PublicationQueue.line, PublicationQueue.waiting]
          exact ((List.Sublist.refl _).append (List.nil_sublist _)).append (List.Sublist.refl _)
        rcases List.mem_append.mp hn with hold | hnew
        · exact .inl hold
        rw [List.mem_singleton.mp hnew]
        by_cases hwaiting : task.state = .waiting
        · have hline : q.line = q.sent.map Prod.fst ++ [task.queued] ++ q.pendingPublications := by
            simp [PublicationQueue.line, waiting_of_task ht hwaiting]
          refine .inr ⟨task.queued, by simp [hline], rfl, fun hmem => ?_⟩
          have hnodup := h.nodup.of_map
          rw [hline] at hnodup
          simp only [PublicationQueue.line, PublicationQueue.waiting] at hmem
          simp only [List.append_assoc, List.nodup_append, List.mem_append, List.singleton_append,
            List.nodup_cons] at hnodup hmem
          rcases hmem with hsent | hnil | hpending
          · exact hnodup.2.2 _ hsent _ List.mem_cons_self rfl
          · cases hnil
          · exact hnodup.2.1.1 hpending
        · left
          apply hdropped
          rw [hcancelled]
          cases hstate : task.state <;> simp_all [PublishState.done]
      · refine .flying task.queued task.batch .cancelling hq rfl hbuilt rfl (by simp) ?_ ?_
        · rw [hcommitted]
          simp [hnot]
        · simp
    next => exact h
  next => exact h

theorem Kept.purge (h : Kept q) (hit : Publication → Bool) : Kept (q.purge hit) :=
  (h.retain hit).cancelInFlight hit

/-! ### The publication in flight -/

theorem Kept.land (h : Kept q) : Kept q.land := by
  have hroom := h.eventRoom
  have haudio := h.audioRoom
  simp only [PublicationQueue.pendingEvents] at hroom
  constructor
  · constructor
    · exact h.events
    · exact h.audio
    · simp only [PublicationQueue.pendingEvents, PublicationQueue.land]
      omega
    · simp only [PublicationQueue.inFlightMs, PublicationQueue.land] at haudio ⊢
      simp
      omega
  · refine h.shrink ?_ rfl rfl rfl rfl fun n hn => .inl hn
    simp only [PublicationQueue.line, PublicationQueue.waiting, PublicationQueue.land]
    exact ((List.Sublist.refl _).append (List.nil_sublist _)).append (List.Sublist.refl _)
  · exact .grounded rfl rfl rfl

/-- The head of the queue is in flight when nothing else was. -/
theorem Kept.launch (h : Kept q) (hnone : q.inFlight = none) {head : Queued} {rest : List Queued}
    (hqueue : q.pendingPublications = head :: rest) {batch : List LocalProviderEvent}
    (hbuilt : Built head.publication batch) : Kept ((q.popLeft head rest).launch head batch) := by
  have hgrounded : q.inFlightTask = none ∧ q.inFlightBatchSize = 0 := by
    rcases h.flight with ⟨-, ht, hn⟩ | ⟨_, _, _, hq, -⟩
    · exact ⟨ht, hn⟩
    · rw [hnone] at hq
      cases hq
  have hevents := h.events
  have haudio := h.audio
  have hroom := h.eventRoom
  have haudioRoom := h.audioRoom
  have hlength := hbuilt.length
  rw [hqueue, List.map_cons, List.sum_cons] at hevents haudio
  simp only [PublicationQueue.pendingEvents, PublicationQueue.inFlightMs, hnone, hgrounded.2,
    Option.map_none, Option.getD_none] at hroom haudioRoom
  constructor
  · constructor <;>
      simp only [PublicationQueue.launch, PublicationQueue.popLeft, PublicationQueue.pendingEvents,
        PublicationQueue.inFlightMs, Option.map_some, Option.getD_some] <;> omega
  · refine h.shrink ?_ rfl rfl rfl rfl fun n hn => .inl hn
    have hline : ((q.popLeft head rest).launch head batch).line = q.line := by
      simp [PublicationQueue.line, PublicationQueue.waiting, PublicationQueue.launch,
        PublicationQueue.popLeft, hgrounded.1, hqueue]
    rw [hline]
  · exact .flying head batch .waiting rfl rfl hbuilt rfl
      (by simp [PublicationQueue.launch]) (by simp [PublicationQueue.launch])
      (by simp [PublicationQueue.launch])

/-- A task that is not to publish any more comes to its end. -/
theorem Kept.finish (h : Kept q) {task : PublishTask} (htask : q.inFlightTask = some task)
    {state : PublishState} (hcommitted : task.state ≠ .committed) (hstate : state ≠ .committed)
    (hcancelled : task.state = .cancelling ∨ task.state = .cancelled
      ↔ state = .cancelling ∨ state = .cancelled)
    (hwaiting : state ≠ .waiting) : Kept (q.setState task state) := by
  obtain ⟨hqueued, hbuilt, hsize, hc, hd, hx⟩ := h.flight.of_task htask
  constructor
  · exact ⟨h.events, h.audio, h.eventRoom, h.audioRoom⟩
  · refine h.shrink ?_ rfl rfl rfl rfl fun n hn => .inl hn
    have hnone : (q.setState task state).waiting = [] := by
      cases state <;> simp_all [PublicationQueue.waiting, PublicationQueue.setState]
    rw [PublicationQueue.line, hnone]
    exact ((List.Sublist.refl _).append (List.nil_sublist _)).append (List.Sublist.refl _)
  · refine .flying task.queued task.batch state hqueued rfl hbuilt hsize ?_ ?_ hx
    · exact hc.trans hcancelled
    · refine hd.trans ?_
      simp [hcommitted, hstate]

/-- What is left of the queue when the batch of a task is on the wire. -/
theorem publish_eq {task : PublishTask} (hinFlight : q.inFlight = some task.queued)
    (huncommitted : q.inFlightCommitted = false) : ∃ table : Table Uuid Nat,
    (∀ id, table.lookup id
      = (task.queued.publication.sequenceOf id).or (q.lastAudioSequence.lookup id))
    ∧ ((q.send task.queued task.batch).commitPublication task.queued).setState task .committed
      = { q with
          inFlightTask := some { task with state := .committed }
          inFlightCommitted := true
          lastAudioSequence := table
          sent := q.sent ++ [(task.queued, task.batch)]
          succeeded := q.succeeded ++ [task.queued.number] } := by
  have hfirst : ¬ ((q.send task.queued task.batch).inFlight.map Queued.number
      ≠ some task.queued.number ∨ (q.send task.queued task.batch).inFlightCommitted = true) := by
    simp [PublicationQueue.send, hinFlight, huncommitted]
  refine ⟨_, onSuccess_lookup task.queued.publication, ?_⟩
  rw [PublicationQueue.commitPublication, if_neg hfirst, onSuccess_rest]
  cases task.queued.publication <;> rfl

/-- A batch on the wire is committed, and its audio is the last of its utterance. -/
theorem Kept.publish (h : Kept q) {task : PublishTask} (htask : q.inFlightTask = some task)
    (hwaiting : task.state = .waiting) :
    Kept (((q.send task.queued task.batch).commitPublication task.queued).setState task
      .committed) := by
  obtain ⟨hqueued, hbuilt, hsize, hc, hd, hx⟩ := h.flight.of_task htask
  have huncommitted : q.inFlightCommitted = false := by
    rw [← Bool.not_eq_true, hd, hwaiting]
    simp
  obtain ⟨table, htable, heq⟩ := publish_eq hqueued huncommitted
  have hline : (((q.send task.queued task.batch).commitPublication task.queued).setState task
      .committed).line = q.line := by
    simp only [heq, PublicationQueue.line, waiting_of_task htask hwaiting]
    simp [PublicationQueue.waiting]
  constructor
  · rw [heq]
    exact ⟨h.events, h.audio, h.eventRoom, h.audioRoom⟩
  · constructor
    · rw [hline]
      exact h.ordered
    · rw [hline, heq]
      exact h.appended
    · rw [hline, heq]
      exact h.purged
    · rw [heq]
      simp [h.succeeded]
    · rw [heq]
      intro entry hentry
      rcases List.mem_append.mp hentry with hold | hnew
      · exact h.built entry hold
      · rw [List.mem_singleton.mp hnew]
        exact hbuilt
    · rw [heq]
      intro id n hn
      rw [List.flatMap_append, lastAudio_append, List.flatMap_singleton, hbuilt.lastAudio]
      rcases Option.or_eq_some_iff.mp ((htable id).symm.trans hn) with hnew | ⟨hnone, hold⟩
      · simp [hnew]
      · simp [hnone, h.last id n hold]
  · rw [heq]
    refine .flying task.queued task.batch .committed hqueued rfl hbuilt hsize ?_ ?_ hx
    · refine hc.trans ?_
      simp [hwaiting]
    · simp

/-! ### A session -/

namespace Session

variable {s : Session}

theorem failSession_kept (h : Kept s.toPublicationQueue) (error : Option PublicationError) :
    Kept (s.failSession error).toPublicationQueue := by
  have hq := h.purge fun _ => true
  have hempty : (s.purge fun _ => true).pendingPublications = [] := by
    simp only [PublicationQueue.purge, PublicationQueue.cancelInFlight]
    split
    · split <;> simp [PublicationQueue.retain]
    · simp [PublicationQueue.retain]
  have hzero : (s.purge fun _ => true).pendingEventCount = 0 := by
    rw [hq.events, hempty]
    rfl
  have hsame : (s.failSession error).toPublicationQueue = s.purge fun _ => true := by
    simp only [failSession, ← hzero]
  rw [hsame]
  exact hq

theorem append_kept (h : Kept s.toPublicationQueue) {publication : Publication}
    (haudio : s.audioMs publication = 0
      ∨ s.pendingAudioMs + s.inFlightMs + s.audioMs publication ≤ maxQueuedAudioMs) :
    Kept (s.append publication).toPublicationQueue := by
  unfold append
  split
  · exact failSession_kept h _
  next hroom => exact h.push (by omega) haudio

theorem enqueue_kept (h : Kept s.toPublicationQueue) {publication : Publication} :
    ∀ s' ∈ s.enqueue publication, Kept s'.toPublicationQueue := by
  intro s' hs'
  unfold enqueue at hs'
  split at hs'
  · cases hs'
    exact failSession_kept h _
  split at hs'
  · cases hs'
  next hroom =>
    cases hs'
    refine append_kept h ?_
    simp only [isFull, Bool.or_eq_true, decide_eq_true_eq, Bool.and_eq_true, not_or] at hroom
    omega

theorem terminalize_kept (h : Kept s.toPublicationQueue) (id : Uuid) {publication : Publication}
    (haudio : s.audioMs publication = 0) :
    Kept (s.terminalize id publication).2.toPublicationQueue := by
  unfold terminalize
  split
  · exact failSession_kept h _
  · exact append_kept (s := s.retire id) h (.inl haudio)

theorem dropLocked_kept (h : Kept s.toPublicationQueue) (id : Uuid) (utterance : Utterance)
    (code : SafeErrorCode) (asrMs mtMs ttsMs : Option Nat) :
    Kept (s.dropLocked id utterance code asrMs mtMs ttsMs).2.toPublicationQueue :=
  terminalize_kept (s := s.onQueue (·.purge (Publication.isOf id))) (h.purge _) id rfl

/-! ### Requests -/

theorem validateFrame_queue (s : Session) (frame : ProviderInputFrame) :
    (s.validateFrame frame).2.toPublicationQueue = s.toPublicationQueue := by
  unfold validateFrame
  dsimp only
  split_ifs <;> rfl

theorem collectingUtterance_kept (h : Kept s.toPublicationQueue) (frame : ProviderInputFrame) :
    Kept (s.collectingUtterance frame).2.toPublicationQueue := by
  unfold collectingUtterance
  split
  · exact h
  split
  · split
    · exact h
    split
    · exact failSession_kept h _
    · refine ⟨⟨h.events, h.audio, h.eventRoom, h.audioRoom⟩,
        ⟨h.ordered, h.appended, h.purged, h.succeeded, h.built, fun id n hn => ?_⟩,
        h.flight.congr rfl rfl rfl rfl rfl fun _ hn => hn⟩
      rw [Table.lookup_erase_if] at hn
      split at hn
      · cases hn
      · exact h.last id n hn
  · split
    · exact h
    split <;> exact h

theorem finishCollecting_kept (h : Kept s.toPublicationQueue) (id : Uuid) (utterance : Utterance)
    (modelsAvailable : Bool) (admission : Admission) :
    Kept (s.finishCollecting id utterance modelsAvailable admission).2.toPublicationQueue := by
  unfold finishCollecting
  dsimp only
  split
  · exact dropLocked_kept (s := { s with collectingId := none }) h ..
  · cases admission with
    | accepted => exact h
    | overflow => exact dropLocked_kept (s := { s with collectingId := none }) h ..
    | unavailable => exact dropLocked_kept (s := { s with collectingId := none }) h ..

theorem discard_kept (h : Kept s.toPublicationQueue) (id : Uuid) (utterance : Utterance)
    (endOfUtterance : Bool) :
    Kept (s.discard id utterance endOfUtterance).2.toPublicationQueue := by
  unfold discard
  dsimp only
  split
  · exact dropLocked_kept
      (s := { s with
        collectingId := none
        utterances := s.utterances.insert id { utterance with discarding := true, bufferedMs := 0 } }) h ..
  · exact h

theorem submitFrame_kept (h : Kept s.toPublicationQueue) (frame : ProviderInputFrame)
    (modelsAvailable : Bool) (admission : Admission) :
    Kept (s.submitFrame frame modelsAvailable admission).2.toPublicationQueue := by
  have hvalid : Kept (s.validateFrame frame).2.toPublicationQueue :=
    (validateFrame_queue s frame).symm ▸ h
  unfold submitFrame
  split
  next hv =>
    rw [hv] at hvalid
    exact hvalid
  next s₁ hv =>
    rw [hv] at hvalid
    have hcollecting := collectingUtterance_kept hvalid frame
    split
    next hc =>
      rw [hc] at hcollecting
      exact hcollecting
    next utterance s₂ hc =>
      rw [hc] at hcollecting
      dsimp only
      split
      · exact discard_kept (s := { s₂ with lastInputSequence := some frame.sequence }) hcollecting ..
      split
      · exact hcollecting
      · exact finishCollecting_kept
          (s := { s₂ with
            lastInputSequence := some frame.sequence
            utterances := s₂.utterances.insert frame.utteranceId
              { utterance with bufferedMs := utterance.bufferedMs + frame.frameDurationMs } })
          hcollecting ..

theorem cancelUtterance_kept (h : Kept s.toPublicationQueue) (request : CancelUtterance) :
    Kept (s.cancelUtterance request).2.toPublicationQueue := by
  unfold cancelUtterance
  split
  · exact h
  split
  · exact h
  · exact terminalize_kept (h.purge (Publication.isOf request.utteranceId)) _ rfl

theorem updateDebugText_kept (h : Kept s.toPublicationQueue) (enabled : Bool) :
    Kept (s.updateDebugText enabled).toPublicationQueue := by
  unfold updateDebugText
  dsimp only
  split
  · exact h
  · exact h.purge Publication.isDebug

theorem closeSession_kept (h : Kept s.toPublicationQueue) :
    Kept s.closeSession.toPublicationQueue :=
  append_kept (h.purge fun _ => true) (.inl rfl)

theorem underLock_kept (h : Kept s.toPublicationQueue) (modelsAvailable : Bool)
    (admission : Admission) (call : Call) :
    Kept (s.underLock modelsAvailable admission call).2.toPublicationQueue := by
  cases call with
  | submitFrame frame => exact submitFrame_kept h frame modelsAvailable admission
  | cancelUtterance request => exact cancelUtterance_kept h request
  | updateDebugText enabled => exact updateDebugText_kept h enabled
  | closeSession => exact closeSession_kept h

/-! ### The pipeline and the publication loop -/

theorem infer_kept (h : Kept s.toPublicationQueue) (id : Uuid) (inference : Inference) :
    Kept (s.infer id inference).toPublicationQueue := by
  unfold infer
  split
  · exact h
  next utterance _ =>
    generalize s.pipeline id utterance inference = demand
    cases demand with
    | nothing => exact h
    | stage stage => exact h
    | drop code asrMs mtMs ttsMs => exact dropLocked_kept h ..
    | complete asrMs mtMs ttsMs => exact terminalize_kept h id rfl
    | enqueue publication stage =>
      have hq := @enqueue_kept (s.setStage id utterance stage) h publication
      cases henqueue : (s.setStage id utterance stage).enqueue publication with
      | none => simpa [perform, henqueue] using h
      | some s' => simpa [perform, henqueue] using hq s' henqueue

theorem take_kept (h : Kept s.toPublicationQueue) (nowNs : Nat) (built : Bool) :
    Kept (s.take nowNs built).toPublicationQueue := by
  unfold take
  split
  · exact h
  next hidle =>
    split
    · split <;> exact h
    next head rest hqueue =>
      cases built with
      | false => exact h.popLeft hqueue
      | true =>
        have hnone : s.inFlight = none := by
          simp only [Bool.or_eq_true, not_or] at hidle
          simpa using hidle.2
        have hlength : (numbered s.eventSequence
            (head.publication.bodies s.lastAudioSequence.lookup nowNs)).length
              = head.publication.eventCount := by
          rw [numbered_length, bodies_length]
        have hbuild := h.launch hnone hqueue ⟨s.lastAudioSequence.lookup, nowNs, s.eventSequence, rfl⟩
        simpa [build, onQueue, PublicationQueue.popLeft, hlength] using hbuild

theorem settle_kept (h : Kept s.toPublicationQueue) (callbackCancelled : Bool) :
    Kept (s.settle callbackCancelled).toPublicationQueue := by
  unfold settle
  split
  · exact failSession_kept h (some .notCommitted)
  · exact h.land

theorem resume_kept (h : Kept s.toPublicationQueue) : Kept s.resume.toPublicationQueue := by
  unfold resume
  split
  · exact h
  split
  · exact settle_kept h false
  · split
    · exact settle_kept h true
    · exact h
  · exact (failSession_kept h _).land
  all_goals exact h

theorem publish_kept (h : Kept s.toPublicationQueue) (taken : Bool) :
    Kept (s.publish taken).toPublicationQueue := by
  unfold publish
  split
  · exact h
  next task htask =>
    have hfailed (hwaiting : task.state = .waiting) : Kept (s.setState task .failed) :=
      h.finish htask (by simp [hwaiting]) (by simp) (by simp [hwaiting]) (by simp)
    split
    next hcancelling =>
      exact h.finish htask (by simp [hcancelling]) (by simp) (by simp [hcancelling]) (by simp)
    next hwaiting =>
      split
      · exact hfailed hwaiting
      · split
        · exact h.publish htask hwaiting
        · exact hfailed hwaiting
    all_goals exact h

theorem apply_kept (h : Kept s.toPublicationQueue) (op : Op) :
    Kept (apply s op).2.toPublicationQueue := by
  cases op with
  | call sessionId call =>
    simp only [apply, letIn]
    split <;> exact h
  | enter index modelsAvailable admission =>
    simp only [apply]
    split
    · exact h
    · exact underLock_kept (s := { s with calls := s.calls.eraseIdx index }) h ..
  | infer id inference => exact infer_kept h id inference
  | take nowNs built => exact take_kept h nowNs built
  | publish taken => exact publish_kept h taken
  | resume => exact resume_kept h

/-- Whatever is asked of a session and whatever its models, its clock and its transport do: the
    counters are the sums they stand for and stay in their bounds, and publications come to the wire
    in the order they were appended in, once and unless they were purged. -/
theorem run_publications_kept (request : OpenProviderSession) (failed : Bool) (ops : List Op) :
    Kept (after request failed ops).toPublicationQueue :=
  exec_state_invariant (I := fun s : Session => Kept s.toPublicationQueue) kept_empty
    (fun _ op h => apply_kept h op) ops

end Session

end Translator.Sidecar
