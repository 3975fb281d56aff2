import Translator.Realtime.Later

/-! Every utterance with `final_sent` has had its one final.

    `Account` says of every utterance what was published of it so far: of one that goes on, audio
    numbered from zero and continued by what is pending; of one that is marked final, all that and the
    final at the end. The mark is set before the final is published, so the account only balances while
    a final task that has just cancelled itself is not suspended again, and while no last frame comes
    late. -/

namespace Translator.Realtime
open Schemes
open Wire (Uuid)
open Sidecar (OpenProviderSession ProviderInputFrame UtteranceOutcome)

/-- Of the events that name the utterance the last one is its only final, and what came before is audio
    numbered from zero whose last number the final names. -/
def Concluded (utteranceId : Uuid) (told : List Body) : Prop :=
  ∃ before streamId outcome,
    told = before ++ [.utteranceFinal streamId utteranceId (sequencesOf before).getLast? outcome]
      ∧ (∀ body ∈ before, body.isFinal = false)
      ∧ sequencesOf before = List.range (sequencesOf before).length

/-- An utterance without a final, and what was told of it. -/
structure Ongoing (utteranceId : Uuid) (told : List Body) (next : Nat) (u : UtteranceState) : Prop where
  unfinished : ∀ body ∈ told, body.isFinal = false
  numbered : sequencesOf told ++ u.pendingAudio.map AudioDelta.sequence = List.range next
  last : u.lastAudioSequence = (sequencesOf told).getLast?
  named : ∀ audio ∈ u.pendingAudio, audio.utteranceId = utteranceId

def Account (utteranceId : Uuid) (told : List Body) (next : Nat) : Option UtteranceState → Prop
  | none => told = [] ∧ next = 0
  | some u =>
    if u.finalSent then Concluded utteranceId told
    else Ongoing utteranceId told next u ∧ (u.inputComplete = true → u.pendingAudio = [])

def Accounts (s : OpenAISession) : Prop :=
  ∀ utteranceId, Account utteranceId (eventsOf utteranceId s.published) (s.adapter.next utteranceId)
    (s.utterance utteranceId)

section Rules

variable {utteranceId : Uuid} {told : List Body} {next : Nat} {u : UtteranceState}

theorem account_final (hfinal : u.finalSent = true) :
    Account utteranceId told next (some u) ↔ Concluded utteranceId told := by
  simp only [Account, hfinal, if_true]

theorem account_open (hfinal : u.finalSent = false) :
    Account utteranceId told next (some u)
      ↔ Ongoing utteranceId told next u ∧ (u.inputComplete = true → u.pendingAudio = []) := by
  simp only [Account, hfinal, Bool.false_eq_true, if_false]

theorem lastSequence_getLast (audio : List AudioDelta) (before : List Nat) :
    OpenAISession.lastSequence audio before.getLast?
      = (before ++ audio.map AudioDelta.sequence).getLast? := by
  rw [OpenAISession.lastSequence, List.getLast?_append, List.getLast?_map]
  cases audio.getLast? <;> rfl

/-- An utterance that turns up has nothing to account for. -/
theorem Account.getD {o : Option UtteranceState} (h : Account utteranceId told next o) (streamId id : Uuid)
    (dropPending : Bool) : Account utteranceId told next (some (o.getD (.new streamId id dropPending))) := by
  cases o with
  | some u => exact h
  | none =>
    obtain ⟨rfl, rfl⟩ := h
    exact (account_open rfl).mpr
      ⟨⟨fun _ hb => (nomatch hb), rfl, rfl, fun _ ha => (nomatch ha)⟩, fun _ => rfl⟩

/-- The final task of an utterance is no part of its account. -/
theorem Account.map {o : Option UtteranceState} (h : Account utteranceId told next o)
    {f : UtteranceState → UtteranceState} (hf : ∀ u, f u = { u with finalTask := (f u).finalTask }) :
    Account utteranceId told next (o.map f) := by
  cases o with
  | none => exact h
  | some u =>
    rw [Option.map_some, hf u]
    by_cases hfinal : u.finalSent = true
    · exact (account_final (u := { u with finalTask := (f u).finalTask }) hfinal).mpr
        ((account_final hfinal).mp h)
    · rw [Bool.not_eq_true] at hfinal
      obtain ⟨⟨hunfinished, hnumbered, hlast, hnamed⟩, hcomplete⟩ := (account_open hfinal).mp h
      exact (account_open (u := { u with finalTask := (f u).finalTask }) hfinal).mpr
        ⟨⟨hunfinished, hnumbered, hlast, hnamed⟩, hcomplete⟩

theorem scheduled_task (n : Nat) (u : UtteranceState) :
    u.scheduled n = { u with finalTask := (u.scheduled n).finalTask } := by
  rw [UtteranceState.scheduled]
  split <;> rfl

theorem Account.scheduled (h : Account utteranceId told next (some u)) (n : Nat) :
    Account utteranceId told next (some (u.scheduled n)) :=
  h.map (scheduled_task n)

theorem Ongoing.flush (h : Ongoing utteranceId told next u) :
    Ongoing utteranceId (told ++ u.pendingAudio.map .audioDelta) next u.flushed where
  unfinished body hbody := by
    rcases List.mem_append.mp hbody with hold | hnew
    · exact h.unfinished body hold
    · obtain ⟨audio, -, rfl⟩ := List.mem_map.mp hnew
      rfl
  numbered := by
    rw [sequencesOf_append, sequencesOf_map (fun audio : AudioDelta => audio), h.numbered]
    exact List.append_nil _
  last := by
    rw [sequencesOf_append, sequencesOf_map (fun audio : AudioDelta => audio), ← lastSequence_getLast, ← h.last]
    rfl
  named := fun _ ha => (nomatch ha)

theorem Ongoing.conclude (h : Ongoing utteranceId told next u) (streamId : Uuid) (outcome : UtteranceOutcome) :
    Concluded utteranceId (told ++ [.utteranceFinal streamId utteranceId u.lastAudioSequence outcome]) := by
  refine ⟨told, streamId, outcome, by rw [h.last], h.unfinished, ?_⟩
  have hprefix : sequencesOf told <+: List.range next := ⟨_, h.numbered⟩
  rw [List.prefix_iff_eq_take.mp hprefix, List.length_take, List.length_range, List.take_range]

/-- An utterance of which no audio was told may be dropped. -/
theorem Ongoing.overflow (h : Ongoing utteranceId told next u) (hlast : u.lastAudioSequence = none)
    (v : UtteranceState) : Concluded utteranceId (told ++ OpenAISession.overflowBodies v utteranceId) := by
  have hsilent : sequencesOf told = [] := List.getLast?_eq_none_iff.mp (h.last.symm.trans hlast)
  have herror : sequencesOf (told ++ [.error (some v.streamId) (some utteranceId) .queueOverflow true]) = [] := by
    rw [sequencesOf_append, hsilent]
    rfl
  refine ⟨_, v.streamId, .dropped, ?_, fun body hbody => ?_, by rw [herror]; rfl⟩
  · rw [herror, List.append_assoc]
    rfl
  · rcases List.mem_append.mp hbody with hold | hnew
    · exact h.unfinished body hold
    · cases List.mem_singleton.mp hnew
      rfl

/-- More is told of an utterance with all its input. -/
theorem Ongoing.tell (h : Ongoing utteranceId told next u) (hpending : u.pendingAudio = [])
    {bodies : List Body} (hbodies : ∀ body ∈ bodies, body.isFinal = false) {audio : List AudioDelta} {n : Nat}
    (haudio : audio.map AudioDelta.sequence = sequencesOf bodies)
    (hsequences : sequencesOf bodies = List.range' next n) :
    Ongoing utteranceId (told ++ bodies) (next + n)
      { u with lastAudioSequence := OpenAISession.lastSequence audio u.lastAudioSequence } where
  unfinished body hbody := (List.mem_append.mp hbody).elim (h.unfinished body) (hbodies body)
  numbered := by
    have := h.numbered
    rw [hpending, List.map_nil, List.append_nil] at this
    show _ ++ u.pendingAudio.map _ = _
    rw [hpending, List.map_nil, List.append_nil, sequencesOf_append, this, hsequences, List.range_eq_range',
      List.range_eq_range', ← List.range'_append_1, Nat.zero_add]
  last := by
    show OpenAISession.lastSequence audio u.lastAudioSequence = _
    rw [sequencesOf_append, h.last, lastSequence_getLast, haudio]
  named := h.named

/-- While the input goes on audio is kept. -/
theorem Ongoing.keep (h : Ongoing utteranceId told next u) {bodies : List Body}
    (hbodies : ∀ body ∈ bodies, body.isText = true) {audio : List AudioDelta} {n : Nat}
    (hnamed : ∀ delta ∈ audio, delta.utteranceId = utteranceId)
    (hsequences : audio.map AudioDelta.sequence = List.range' next n) :
    Ongoing utteranceId (told ++ bodies) (next + n) { u with pendingAudio := u.pendingAudio ++ audio } where
  unfinished body hbody := (List.mem_append.mp hbody).elim (h.unfinished body) fun hb => by
    have := hbodies body hb
    cases body <;> first | rfl | cases this
  numbered := by
    show _ ++ (u.pendingAudio ++ audio).map _ = _
    rw [sequencesOf_append, sequencesOf_texts hbodies, List.append_nil, List.map_append, ← List.append_assoc,
      h.numbered, hsequences, List.range_eq_range', List.range_eq_range', ← List.range'_append_1, Nat.zero_add]
  last := by
    rw [sequencesOf_append, sequencesOf_texts hbodies, List.append_nil]
    exact h.last
  named delta hdelta := (List.mem_append.mp hdelta).elim (h.named delta) (hnamed delta)

end Rules

/-! ### What keeps the accounts -/

section Moves

variable {s s' : OpenAISession}

/-- What is published about one utterance is a matter of its account alone. -/
theorem Accounts.change (h : Accounts s) (utteranceId : Uuid) {bodies : List Body}
    (hpublished : s'.published = s.published ++ bodies)
    (hnamed : ∀ body ∈ bodies, body.utterance? = some utteranceId)
    (hnext : ∀ other, other ≠ utteranceId → s'.adapter.next other = s.adapter.next other)
    (hothers : ∀ other, other ≠ utteranceId → s'.utterance other = s.utterance other)
    (haccount : Account utteranceId (eventsOf utteranceId s.published ++ bodies)
      (s'.adapter.next utteranceId) (s'.utterance utteranceId)) : Accounts s' := by
  intro other
  rw [hpublished, eventsOf_append]
  by_cases hother : other = utteranceId
  · rw [hother, eventsOf_all hnamed]
    exact haccount
  · rw [eventsOf_none fun body hbody h => hother (Option.some.inj (h.symm.trans (hnamed body hbody))),
      List.append_nil, hnext other hother, hothers other hother]
    exact h other

/-- Events that name no utterance, and final tasks, are in no account. -/
theorem Accounts.quiet (h : Accounts s) {bodies : List Body} (hpublished : s'.published = s.published ++ bodies)
    (hnamed : ∀ body ∈ bodies, body.utterance? = none)
    (hnext : ∀ other, s'.adapter.next other = s.adapter.next other)
    {f : UtteranceState → UtteranceState} (hf : ∀ u, f u = { u with finalTask := (f u).finalTask })
    (hutterance : ∀ other, s'.utterance other = (s.utterance other).map f) : Accounts s' := by
  intro other
  have hnone : eventsOf other bodies = [] := eventsOf_none fun body hbody h => by
    rw [hnamed body hbody] at h
    cases h
  rw [hpublished, eventsOf_append, hnone, List.append_nil, hnext, hutterance]
  exact (h other).map hf

/-- A session that tells nothing and changes no utterance. -/
theorem Accounts.same (h : Accounts s) (hpublished : s'.published = s.published)
    (hnext : ∀ other, s'.adapter.next other = s.adapter.next other)
    (hutterance : ∀ other, s'.utterance other = s.utterance other) : Accounts s' := fun other => by
  rw [hpublished, hnext, hutterance]
  exact h other

theorem Accounts.close (h : Accounts s) (reason : SessionCloseReason) : Accounts (s.close reason) := by
  unfold OpenAISession.close
  split
  · exact h
  · refine h.quiet (OpenAISession.published_publish _ _)
      (by simp [Body.utterance?]) (fun _ => rfl) (f := fun u => { u with finalTask := none }) (fun _ => rfl) fun other => ?_
    exact Table.lookup_mapVals _ _ _

theorem Accounts.providerError (h : Accounts s) : Accounts s.providerError :=
  h.quiet (OpenAISession.published_publish s _) (by simp [Body.utterance?]) (fun _ => rfl) (f := id)
    (fun _ => rfl) fun other => (Option.map_id_fun ▸ rfl)

theorem Accounts.send (h : Accounts s) (codec : Codec) (frame : ProviderInputFrame) :
    Accounts (s.send codec frame) := by
  refine h.change frame.utteranceId (List.append_nil _).symm (by simp) (fun _ _ => rfl) (fun other hother => ?_) ?_
  · rw [OpenAISession.utterance_send, if_neg hother]
  · rw [OpenAISession.utterance_send, if_pos rfl, List.append_nil]
    exact (h frame.utteranceId).getD _ _ _

/-- An utterance that has all its input goes on, with nothing pending; or it is final, and there is nothing
    pending to be told. -/
theorem Accounts.finishInput (h : Accounts s) {utteranceId : Uuid} {u : UtteranceState}
    (hu : s.utterance utteranceId = some u) (hpending : u.finalSent = true → u.pendingAudio = []) :
    Accounts (s.finishInput utteranceId) := by
  obtain ⟨n, hpublished, huntouched, hutterance⟩ := OpenAISession.finishInput_effect hu
  have haccount := h utteranceId
  rw [hu] at haccount
  by_cases hfinal : u.finalSent = true
  · rw [hpending hfinal, List.map_nil] at hpublished
    refine h.change utteranceId hpublished (by simp) (fun other _ => by rw [huntouched.adapter])
      (fun other hother => by rw [hutterance, if_neg hother]) ?_
    rw [hutterance, if_pos rfl, List.append_nil, huntouched.adapter]
    refine Account.scheduled ?_ n
    exact (account_final (u := UtteranceState.flushed { u with inputComplete := true }) hfinal).mpr
      ((account_final hfinal).mp haccount)
  · rw [Bool.not_eq_true] at hfinal
    obtain ⟨hongoing, -⟩ := (account_open hfinal).mp haccount
    refine h.change utteranceId hpublished ?_ (fun other _ => by rw [huntouched.adapter])
      (fun other hother => by rw [hutterance, if_neg hother]) ?_
    · intro body hbody
      obtain ⟨audio, haudio, rfl⟩ := List.mem_map.mp hbody
      exact congrArg some (hongoing.named audio haudio)
    · rw [hutterance, if_pos rfl, huntouched.adapter]
      refine Account.scheduled ?_ n
      refine (account_open (u := UtteranceState.flushed { u with inputComplete := true }) hfinal).mpr
        ⟨?_, fun _ => rfl⟩
      obtain ⟨hunfinished, hnumbered, hlast, hnamed⟩ := hongoing.flush
      exact ⟨hunfinished, hnumbered, hlast, hnamed⟩

/-- The final of an utterance is what its account needs. -/
theorem Accounts.finish (h : Accounts s) {utteranceId : Uuid} {u : UtteranceState}
    (hu : s.utterance utteranceId = some u) (hfinal : u.finalSent = false) (outcome : UtteranceOutcome) :
    Accounts (s.finish u utteranceId outcome) := by
  have haccount := h utteranceId
  rw [hu] at haccount
  have hadapter := (s.finish_keeps u utteranceId outcome).1
  refine h.change utteranceId (s.published_finish u utteranceId outcome) (by simp [Body.utterance?])
    (fun other _ => by rw [hadapter]) (fun other hother => ?_) ?_
  · rw [OpenAISession.utterance_finish, if_neg hother]
  · rw [OpenAISession.utterance_finish, if_pos rfl, hu, Option.map_some]
    refine (account_final (u := { u with finalTask := none, finalSent := true }) rfl).mpr ?_
    exact ((account_open hfinal).mp haccount).1.conclude u.streamId outcome

/-- The audio that is pending is told, and the account stays open. -/
theorem Accounts.flushPending (h : Accounts s) {utteranceId : Uuid} {u : UtteranceState}
    (hu : s.utterance utteranceId = some u) (hfinal : u.finalSent = false) :
    Accounts (s.flushPending utteranceId) := by
  have haccount := h utteranceId
  rw [hu] at haccount
  obtain ⟨hongoing, -⟩ := (account_open hfinal).mp haccount
  have hadapter := (s.flushPending_untouched utteranceId).adapter
  have hpublished := s.published_flushPending utteranceId
  rw [OpenAISession.pendingOf, hu] at hpublished
  refine h.change utteranceId hpublished ?_ (fun other _ => by rw [hadapter]) (fun other hother => ?_) ?_
  · intro body hbody
    obtain ⟨audio, haudio, rfl⟩ := List.mem_map.mp hbody
    exact congrArg some (hongoing.named audio haudio)
  · rw [OpenAISession.utterance_flushPending, if_neg hother]
  · rw [OpenAISession.utterance_flushPending, if_pos rfl, hu, hadapter, Option.map_some]
    exact (account_open (u := u.flushed) hfinal).mpr ⟨hongoing.flush, fun _ => rfl⟩

/-- A blocked frame changes an account only where it is the last one of an utterance without a final. -/
theorem Account.noteDropped {utteranceId : Uuid} {told : List Body} {next : Nat} {u : UtteranceState}
    (h : Account utteranceId told next (some u)) {complete : Bool}
    (hcomplete : u.finalSent = true ∨ complete = false) :
    Account utteranceId told next
      (some { u with dropPending := true, inputComplete := u.inputComplete || complete }) := by
  by_cases hfinal : u.finalSent = true
  · exact (account_final (u := { u with
      dropPending := true, inputComplete := u.inputComplete || complete }) hfinal).mpr
        ((account_final hfinal).mp h)
  · obtain rfl := hcomplete.resolve_left hfinal
    rw [Bool.not_eq_true] at hfinal
    obtain ⟨⟨hunfinished, hnumbered, hlast, hnamed⟩, hpending⟩ := (account_open hfinal).mp h
    rw [Bool.or_false]
    exact (account_open (u := { u with dropPending := true }) hfinal).mpr
      ⟨⟨hunfinished, hnumbered, hlast, hnamed⟩, hpending⟩

/-- A blocked frame of an utterance of which no audio was told, or that is final. -/
theorem Accounts.drop (h : Accounts s) {frame : ProviderInputFrame}
    (hsilent : frame.endOfUtterance = true → ∀ u, s.utterance frame.utteranceId = some u →
      u.finalSent = true ∨ u.lastAudioSequence = none) : Accounts (s.drop frame) := by
  obtain ⟨u, hu⟩ : ∃ u, (s.utterance frame.utteranceId).getD
    (.new frame.streamId frame.utteranceId true) = u := ⟨_, rfl⟩
  have haccount := (h frame.utteranceId).getD frame.streamId frame.utteranceId true
  rw [hu] at haccount
  have hlast : frame.endOfUtterance = true → u.finalSent = true ∨ u.lastAudioSequence = none := by
    intro hend
    cases hknown : s.utterance frame.utteranceId with
    | none =>
      rw [hknown] at hu
      exact .inr (hu ▸ rfl)
    | some v =>
      rw [hknown] at hu
      exact hu ▸ hsilent hend v hknown
  have hadapter := (s.drop_untouched frame).adapter
  obtain ⟨hpublished, hutterance⟩ := OpenAISession.drop_effect hu
  refine h.change frame.utteranceId hpublished (fun body hbody => ?_) (fun other _ => by rw [hadapter]; rfl)
    (fun other hother => by rw [hutterance, if_neg hother]) ?_
  · split at hbody
    · revert body
      simp [OpenAISession.overflowBodies, Body.utterance?]
    · cases hbody
  rw [hutterance, if_pos rfl, hadapter]
  by_cases hdone : (frame.endOfUtterance && !u.finalSent) = true
  · rw [if_pos hdone]
    simp only [Bool.and_eq_true, Bool.not_eq_true'] at hdone
    obtain ⟨hend, hopen⟩ := hdone
    refine (account_final (by simp [hend])).mpr ?_
    refine ((account_open hopen).mp haccount).1.overflow ((hlast hend).resolve_left ?_) u
    rw [hopen]
    exact Bool.false_ne_true
  · rw [if_neg hdone, List.append_nil]
    have hcomplete : u.finalSent = true ∨ frame.endOfUtterance = false := by
      revert hdone
      cases u.finalSent <;> cases frame.endOfUtterance <;> simp
    have hsame : (u.finalSent || frame.endOfUtterance) = u.finalSent := by
      rcases hcomplete with h | h <;> simp [h]
    rw [hsame]
    exact haccount.noteDropped hcomplete

/-- What an event tells continues the account of the current utterance. -/
theorem Accounts.takeEvent (h : Accounts s) {codec : Codec} {streamId utteranceId : Uuid}
    {items : List ProviderEvent} {a : OpenAIRealtimeAdapter} (hmapped : s.adapter.Mapped utteranceId items a) :
    Accounts (OpenAISession.takeEvent { s with adapter := a } codec streamId utteranceId items) := by
  have hadapter := (OpenAISession.takeEvent_untouched { s with adapter := a } codec streamId utteranceId
    items).adapter
  have hothers : ∀ other, other ≠ utteranceId →
      (OpenAISession.takeEvent { s with adapter := a } codec streamId utteranceId items).adapter.next other
        = s.adapter.next other := fun other hother => by
    rw [hadapter]
    exact hmapped.others other hother
  obtain ⟨u, hu⟩ : ∃ u, (s.utterance utteranceId).getD (.new streamId utteranceId false) = u := ⟨_, rfl⟩
  have haccount := (h utteranceId).getD streamId utteranceId false
  rw [hu] at haccount
  by_cases hfinal : u.finalSent = true
  · have hknown : s.utterance utteranceId = some u := OpenAISession.utterance_of_final hu rfl hfinal
    obtain ⟨hpublished, hutterance⟩ := OpenAISession.takeEvent_final (s := { s with adapter := a })
      codec streamId items hknown hfinal
    refine h.change utteranceId (hpublished.trans (List.append_nil _).symm) (by simp) hothers
      (fun other _ => hutterance other) ?_
    rw [hutterance, List.append_nil]
    refine Eq.mpr (congrArg _ hknown) ?_
    exact (account_final hfinal).mpr ((account_final hfinal).mp haccount)
  rw [Bool.not_eq_true] at hfinal
  obtain ⟨f, hf, hpublished, hutterance⟩ := OpenAISession.takeEvent_open (s := { s with adapter := a })
    codec items hu hfinal
  obtain ⟨hongoing, hcomplete⟩ := (account_open hfinal).mp haccount
  obtain ⟨n, hsequences, hnext⟩ := hmapped.sequences
  have htask : ∀ u, f u = { u with finalTask := (f u).finalTask } := by
    rcases hf with rfl | ⟨n, rfl⟩
    · exact fun _ => rfl
    · exact scheduled_task n
  by_cases hinput : u.inputComplete = true
  · rw [if_pos hinput] at hpublished
    simp only [if_pos hinput] at hutterance
    obtain ⟨htold, hnumbers⟩ := OpenAISession.told_mapped (s := { s with adapter := a }) codec hmapped
    refine h.change utteranceId hpublished (fun body hbody => (htold body hbody).1) hothers
      (fun other hother => (hutterance other).trans (if_neg hother)) ?_
    rw [hutterance, if_pos rfl, hadapter, hnext]
    refine Account.map (o := some _) ?_ htask
    refine (account_open (by exact hfinal)).mpr ⟨?_, fun _ => hcomplete hinput⟩
    refine hongoing.tell (hcomplete hinput) (fun body hbody => (htold body hbody).2) ?_ (hnumbers.trans hsequences)
    rw [OpenAISession.toldAudio_sequences, hnumbers]
  · rw [if_neg hinput] at hpublished
    simp only [if_neg hinput] at hutterance
    have htold := OpenAISession.toldEarly_mapped hmapped
    refine h.change utteranceId hpublished (fun body hbody => (htold body hbody).1) hothers
      (fun other hother => (hutterance other).trans (if_neg hother)) ?_
    rw [hutterance, if_pos rfl, hadapter, hnext]
    refine Account.map (o := some _) ?_ htask
    refine (account_open (by exact hfinal)).mpr ⟨?_, fun hc => absurd hc hinput⟩
    refine hongoing.keep (fun body hbody => (htold body hbody).2) (OpenAISession.toldAudio_named hmapped) ?_
    rw [OpenAISession.toldAudio_sequences, hsequences]

theorem Accounts.message (h : Accounts s) (codec : Codec) (event : List (PyStr × Json)) (nowNs : Nat) :
    Accounts (s.message codec event nowNs).2 := by
  unfold OpenAISession.message
  split
  · exact Accounts.close (s := s.markEnding) (fun other => h other) _
  split
  · exact h.providerError
  rcases s.realtimeEvent_cases codec event nowNs with
    ⟨a, hnext, hafter⟩ | ⟨streamId, utteranceId, items, a, -, -, -, hmapped, hafter⟩
  · rw [hafter]
    exact h.same rfl hnext fun _ => rfl
  · rw [hafter]
    exact h.takeEvent (OpenAIRealtimeAdapter.mapRealtimeEvents_mapped hmapped)

end Moves

/-! ### Every run -/

/-- The calls that keep the accounts: a last frame that is not blocked finds no audio left over from before
    the final of its utterance, a blocked one finds that no audio of its utterance was told, and a final
    task that has a final to publish finds the transport drained. -/
def balanced (call : Call) (w : World) : Bool :=
  match call with
  | .submitFrame frame =>
    (w.session.validateFrame frame).isSome || !frame.endOfUtterance
      || match w.session.utterance frame.utteranceId with
        | none => true
        | some u =>
          if w.session.blocks frame.utteranceId then u.finalSent || u.lastAudioSequence.isNone
          else !u.finalSent || u.pendingAudio.isEmpty
  | .delayedFinal _ task => unhindered task w
  | _ => true

theorem accounts_preserved (codec : Codec) : Preserved codec Accounts balanced := by
  intro call w s' h hok hnot hmove
  cases hmove with
  | rejected | spared | closeKnown | failedClosed | late => exact h
  | debug | closeAsked => exact fun other => h other
  | @dropped frame _ _ hvalid hblocks =>
    refine h.drop fun hend u hu => ?_
    simp only [balanced, hvalid, hend, hu, hblocks] at hok
    simpa using hok
  | sent hvalid hblocks => exact h.send codec _
  | @finished frame _ _ hvalid hblocks hend =>
    have hsent : (w.session.send codec frame).utterance frame.utteranceId
        = some ((w.session.utterance frame.utteranceId).getD (.new frame.streamId frame.utteranceId false)) := by
      rw [OpenAISession.utterance_send, if_pos rfl]
    refine (h.send codec frame).finishInput hsent fun hfinal => ?_
    cases hu : w.session.utterance frame.utteranceId with
    | none => rfl
    | some u =>
      rw [hu] at hfinal
      have hfinal : u.finalSent = true := hfinal
      simp only [balanced, hvalid, hend, hu, hblocks, hfinal] at hok
      simpa using hok
  | cancelled hu hfinal => exact h.finish hu hfinal .cancelled
  | closeTimedOut => exact Accounts.close (s := w.session.markEnding) (fun other => h other) _
  | message => exact h.message codec _ _
  | failed =>
    exact (Accounts.providerError (s := w.session.markEnding) fun other => h other).close _
  | @final number task _ _ u hu hfinal hinput =>
    obtain ⟨v, hv, hopen⟩ : ∃ v, w.session.utterance task.utteranceId = some v ∧ v.finalSent = false := by
      rw [OpenAISession.utterance_flushPending, if_pos rfl] at hu
      obtain ⟨v, hv, rfl⟩ := Option.map_eq_some_iff.mp hu
      exact ⟨v, hv, hfinal⟩
    exact (h.flushPending hv hopen).finish hu hfinal task.outcome
  | @lost number task _ _ u hu hfinal hinput hsuspended =>
    rw [OpenAISession.utterance_flushPending, if_pos rfl] at hu
    obtain ⟨v, hv, rfl⟩ := Option.map_eq_some_iff.mp hu
    have haccount := h task.utteranceId
    rw [hv] at haccount
    rcases hsuspended with hundrained | ⟨v', hv', hpending⟩
    · simp only [balanced, unhindered, hundrained, hv] at hok
      simp [show v.finalSent = false from hfinal, show v.inputComplete = true from hinput] at hok
    · rw [hv] at hv'
      cases hv'
      have hopen : v.finalSent = false := hfinal
      exact absurd (((account_open hopen).mp haccount).2 hinput) hpending

/-- In every run of such calls, whenever the lock is free: an utterance that is marked final has had its one
    final, as the last event that names it, after audio numbered from zero whose last number it names. -/
theorem run_accounts (codec : Codec) (request : OpenProviderSession)
    (turns : List (EventLoop.Turn Call Change)) (hadm : Admitted codec balanced request turns)
    (hfree : (after codec request turns).holder = none) (utteranceId : Uuid) (u : UtteranceState)
    (hu : (after codec request turns).shared.session.utterance utteranceId = some u)
    (hfinal : u.finalSent = true) :
    Concluded utteranceId (eventsOf utteranceId (after codec request turns).shared.session.published) := by
  have haccount := run_free (accounts_preserved codec) (fun _ => ⟨rfl, rfl⟩) hadm hfree utteranceId
  rw [hu] at haccount
  exact (account_final hfinal).mp haccount

/-- An utterance of one frame whose final task finds the transport drained. -/
theorem run_accounts_dropped :
    Concluded 3 (eventsOf 3 (after silentCodec sampleRequest
      [.begin (.submitFrame (sampleFrame 3 0 true)), .proceed .ready,
        .begin (.delayedFinal 0 ⟨3, noSpeechFinalMs, .dropped⟩), .resume 0 .ready]).shared.session.published) := by
  obtain ⟨u, hu, hfinal⟩ := Option.map_eq_some_iff.mp (show
    ((after silentCodec sampleRequest [.begin (.submitFrame (sampleFrame 3 0 true)), .proceed .ready,
      .begin (.delayedFinal 0 ⟨3, noSpeechFinalMs, .dropped⟩), .resume 0 .ready]).shared.session.utterance 3).map
        UtteranceState.finalSent = some true by decide +kernel)
  exact run_accounts silentCodec sampleRequest _ (adm_of_walk (by decide +kernel))
    (Option.isNone_iff_eq_none.mp (by decide +kernel)) 3 u hu hfinal

/-- An utterance of one frame, whose final task wakes up while the transport is not drained: it cancels
    itself, waits for the transport, and is gone. -/
def selfCancelling : List (EventLoop.Turn Call Change) :=
  [.begin (.submitFrame (sampleFrame 3 0 true)), .proceed .ready,
    .begin (.delayedFinal 0 ⟨3, noSpeechFinalMs, .dropped⟩), .outside (.transport false), .resume 0 .ready,
    .proceed .cancelled, .outside (.transport true)]

/-- The lock is free and the session open, the utterance is marked final and there is no final. -/
theorem selfCancelling_unfinished :
    (after silentCodec sampleRequest selfCancelling).holder.isNone = true
      ∧ (after silentCodec sampleRequest selfCancelling).shared.session.closed = false
      ∧ ((after silentCodec sampleRequest selfCancelling).shared.session.utterance 3).map
        UtteranceState.finalSent = some true
      ∧ (after silentCodec sampleRequest selfCancelling).shared.session.published = []
      ∧ ¬ Concluded 3 (eventsOf 3 (after silentCodec sampleRequest selfCancelling).shared.session.published) := by
  have hrun : (after silentCodec sampleRequest selfCancelling).holder.isNone = true
      ∧ (after silentCodec sampleRequest selfCancelling).shared.session.closed = false
      ∧ ((after silentCodec sampleRequest selfCancelling).shared.session.utterance 3).map
        UtteranceState.finalSent = some true
      ∧ (after silentCodec sampleRequest selfCancelling).shared.session.published = [] := by decide +kernel
  refine ⟨hrun.1, hrun.2.1, hrun.2.2.1, hrun.2.2.2, ?_⟩
  rw [hrun.2.2.2]
  rintro ⟨before, streamId, outcome, htold, -⟩
  cases before <;> cases htold

end Translator.Realtime
