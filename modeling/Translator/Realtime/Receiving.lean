import Translator.Realtime.Closing

/-! The receiver serves its session to the end.

    Whatever the service sends, a turn of the receiver goes back for another message, or it is the last one
    and the session was closed before or is closed by it. Two things go past what the loop catches: what
    `json.loads` raises beside a `JSONDecodeError`, and what the adapter raises. -/

namespace Translator.Realtime
open Schemes
open Wire (Uuid)
open Sidecar (OpenProviderSession ProviderInputFrame UtteranceOutcome)

/-! ### What the adapter accepts -/

/-- An event the adapter does not raise on: its audio is base64, and its text, if it is wanted, is one the
    contract accepts. -/
def acceptable (codec : Codec) (debugTextEnabled : Bool) (event : List (PyStr × Json)) : Bool :=
  let eventType := (Json.get event (pyStr "type")).bind Json.string?
  let delta := (Json.get event (pyStr "delta")).bind Json.string?
  if eventType = some (pyStr "session.output_audio.delta") then delta.all fun text => (codec.b64decode text).isSome
  else !debugTextEnabled
    || (eventType ≠ some (pyStr "session.input_transcript.delta")
      && eventType ≠ some (pyStr "session.output_transcript.delta"))
    || delta.all codec.acceptsText

theorem textEvent_accepted (a : OpenAIRealtimeAdapter) (codec : Codec) (text : PyStr) (body : Body) :
    (∃ items, (a.textEvent codec text body).1 = .ok items) ↔ codec.acceptsText text = true := by
  unfold OpenAIRealtimeAdapter.textEvent
  by_cases h : codec.acceptsText text = true
  · simp [h]
  · simp [h]

theorem mapRealtimeEvents_acceptable (a : OpenAIRealtimeAdapter) (codec : Codec) (debug : Bool)
    (event : List (PyStr × Json)) (streamId utteranceId : Uuid) (nowNs : Nat) :
    (∃ items, (a.mapRealtimeEvents codec debug event streamId utteranceId nowNs).1 = .ok items)
      ↔ acceptable codec debug event = true := by
  unfold acceptable OpenAIRealtimeAdapter.mapRealtimeEvents
  dsimp only
  generalize (Json.get event (pyStr "type")).bind Json.string? = eventType
  generalize (Json.get event (pyStr "delta")).bind Json.string? = delta
  by_cases haudio : eventType = some (pyStr "session.output_audio.delta")
  · rw [if_pos haudio, if_pos haudio]
    cases delta with
    | none => simp
    | some text => cases hdecoded : codec.b64decode text <;> simp [hdecoded]
  rw [if_neg haudio, if_neg haudio]
  cases debug with
  | false => simp
  | true =>
    cases delta with
    | none => simp
    | some text =>
      dsimp only
      rw [Bool.not_true, if_neg Bool.false_ne_true]
      by_cases hinput : eventType = some (pyStr "session.input_transcript.delta")
      · rw [if_pos hinput, textEvent_accepted]
        simp [hinput]
      · rw [if_neg hinput]
        by_cases houtput : eventType = some (pyStr "session.output_transcript.delta")
        · rw [if_pos houtput, textEvent_accepted]
          simp [houtput]
        · rw [if_neg houtput]
          simp [hinput, houtput]

/-! ### Every run -/

/-- The messages a session understands: while an utterance is current, an event is one the adapter does not
    raise on. -/
def understood (codec : Codec) (call : Call) (w : World) : Bool :=
  match call with
  | .receiveMessage raw _ =>
    match codec.loads raw with
    | .value (.object event) =>
      w.session.currentUtteranceId.isNone || acceptable codec w.session.debugTextEnabled event
    | _ => true
  | _ => true

theorem message_understood {codec : Codec} {raw : RawMessage} {nowNs : Nat} {event : List (PyStr × Json)}
    {w : World} (hloads : codec.loads raw = .value (.object event))
    (hok : understood codec (.receiveMessage raw nowNs) w = true) :
    (w.session.message codec event nowNs).1 = none := by
  unfold OpenAISession.message OpenAISession.realtimeEvent OpenAISession.mapEvent
  split
  · rfl
  split
  · rfl
  split
  next streamId utteranceId hstream hcurrent =>
    simp only [understood, hloads, hcurrent, Option.isNone_some, Bool.false_or] at hok
    obtain ⟨items, hitems⟩ := (mapRealtimeEvents_acceptable w.session.adapter codec w.session.debugTextEnabled
      event streamId utteranceId nowNs).mpr hok
    dsimp only
    rw [hitems]
  · rfl

/-- A session that is closed has told so. -/
def ClosedTold (s : OpenAISession) : Prop :=
  s.closed = s.closedPublished ∧ (s.closedPublished = true → ∃ body ∈ s.published, body.isClosed = true)

section Moves

variable {s s' : OpenAISession}

theorem ClosedTold.grow (h : ClosedTold s) (hclosed : s'.closed = s.closed)
    (hpublishedClosed : s'.closedPublished = s.closedPublished) {bodies : List Body}
    (hpublished : s'.published = s.published ++ bodies) : ClosedTold s' := by
  refine ⟨by rw [hclosed, hpublishedClosed, h.1], fun hdone => ?_⟩
  obtain ⟨body, hbody, hbodyClosed⟩ := h.2 (hpublishedClosed.symm.trans hdone)
  exact ⟨body, by rw [hpublished]; exact List.mem_append_left _ hbody, hbodyClosed⟩

theorem ClosedTold.untouched (h : ClosedTold s) (huntouched : s.Untouched s') {bodies : List Body}
    (hpublished : s'.published = s.published ++ bodies) : ClosedTold s' :=
  h.grow huntouched.closed huntouched.closedPublished hpublished

theorem ClosedTold.close (h : ClosedTold s) (reason : SessionCloseReason) :
    ClosedTold (s.markEnding.close reason) := by
  unfold OpenAISession.close
  split
  next hdone =>
    exact ⟨(show s.closedPublished = true from hdone).symm, h.2⟩
  · refine ⟨rfl, fun _ => ⟨.sessionClosed reason, ?_, rfl⟩⟩
    show _ ∈ (s.markEnding.markClosed.publish _).published
    rw [OpenAISession.published_publish]
    exact List.mem_append_right _ (List.mem_singleton_self _)

theorem ClosedTold.providerError (h : ClosedTold s) : ClosedTold s.providerError :=
  h.grow rfl rfl (OpenAISession.published_publish _ _)

theorem ClosedTold.message (h : ClosedTold s) (codec : Codec) (event : List (PyStr × Json)) (nowNs : Nat) :
    ClosedTold (s.message codec event nowNs).2 := by
  unfold OpenAISession.message
  split
  · exact h.close _
  split
  · exact h.providerError
  rcases s.realtimeEvent_cases codec event nowNs with
    ⟨a, -, hafter⟩ | ⟨streamId, utteranceId, items, a, -, -, -, hmapped, hafter⟩
  · rw [hafter]
    exact h
  · rw [hafter]
    have hmoved : ClosedTold { s with adapter := a } := h
    obtain ⟨bodies, hpublished, -⟩ := takeEvent_tells (s := { s with adapter := a }) codec streamId
      (OpenAIRealtimeAdapter.mapRealtimeEvents_mapped hmapped)
    exact hmoved.untouched (OpenAISession.takeEvent_untouched _ codec streamId utteranceId items) hpublished

theorem ClosedTold.finish (h : ClosedTold s) (u : UtteranceState) (utteranceId : Uuid)
    (outcome : UtteranceOutcome) : ClosedTold (s.finish u utteranceId outcome) :=
  h.grow (s.finish_keeps u utteranceId outcome).2.2.2.1 (s.finish_keeps u utteranceId outcome).2.2.2.2.1
    (s.published_finish u utteranceId outcome)

theorem ClosedTold.loseFinal (h : ClosedTold s) (utteranceId : Uuid) : ClosedTold (s.loseFinal utteranceId) := h

end Moves

theorem closedTold_preserved (codec : Codec) (ok : Call → World → Bool) : Preserved codec ClosedTold ok := by
  intro call w s' h _ _ hmove
  cases hmove with
  | rejected | spared | closeKnown | failedClosed | late | debug | closeAsked => exact h
  | @dropped frame =>
    exact ClosedTold.untouched (s := w.session.hear frame) h (w.session.drop_untouched frame)
      (OpenAISession.drop_effect rfl).1
  | sent => exact h.grow rfl rfl (List.append_nil _).symm
  | @finished frame =>
    have hsent : (w.session.send codec frame).utterance frame.utteranceId = some _ :=
      (w.session.utterance_send codec frame _).trans (if_pos rfl)
    obtain ⟨-, hpublished, huntouched, -⟩ := OpenAISession.finishInput_effect hsent
    exact ClosedTold.untouched (s := w.session.send codec frame) h huntouched hpublished
  | cancelled => exact h.finish _ _ _
  | closeTimedOut => exact h.close _
  | message => exact h.message codec _ _
  | failed => exact ClosedTold.close (s := w.session.providerError) h.providerError _
  | @final number task =>
    exact (h.untouched (w.session.flushPending_untouched task.utteranceId)
      (w.session.published_flushPending task.utteranceId)).finish _ _ _
  | @lost number task =>
    exact (h.untouched (w.session.flushPending_untouched task.utteranceId)
      (w.session.published_flushPending task.utteranceId)).loseFinal _

/-- In every run of such calls in which `json.loads` raises on no message but a `JSONDecodeError`: a turn of
    the receiver that has ended went back for another message, or the session is removed or its closing event
    is on the wire. -/
theorem run_receives (codec : Codec) (request : OpenProviderSession)
    (turns : List (EventLoop.Turn Call Change)) (hadm : Admitted codec (understood codec) request turns)
    (hdecoded : ∀ raw nowNs, .begin (.receiveMessage raw nowNs) ∈ turns → codec.loads raw ≠ .raised)
    (call : Call) (result : Except (Raised RuntimeError) Flow)
    (hover : (call, result) ∈ (after codec request turns).finished) (hreceive : call.isReceive = true) :
    result = .ok .again ∨ (after codec request turns).shared.removed = true
      ∨ ∃ reason, .sessionClosed reason ∈ (after codec request turns).shared.session.published := by
  have hkeeping := sections_keeping (closedTold_preserved codec (understood codec))
  have hfresh : ClosedTold (.opened request) := ⟨rfl, fun h => (nomatch h)⟩
  obtain ⟨pre, more, rfl, hended⟩ := mem_turns_over hkeeping hfresh turns hadm hover
  have hlater : Later (after codec request pre).shared (after codec request (pre ++ more)).shared :=
    turns_later request pre more
  have hpublished : ∀ body ∈ (after codec request pre).shared.session.published,
      body ∈ (after codec request (pre ++ more)).shared.session.published := by
    obtain ⟨rest, hrest⟩ := hlater.1.1
    intro body hbody
    rw [OpenAISession.published, ← hrest, List.flatten_append, List.map_append]
    exact List.mem_append_left _ hbody
  have htold : ClosedTold (after codec request pre).shared.session →
      (after codec request pre).shared.session.closedPublished = true →
      ∃ reason, .sessionClosed reason ∈ (after codec request (pre ++ more)).shared.session.published := by
    intro htold hdone
    obtain ⟨body, hbody, hclosed⟩ := htold.2 hdone
    cases body <;> first | exact ⟨_, hpublished _ hbody⟩ | cases hclosed
  cases call with
  | receiveMessage raw nowNs =>
    rcases hended with hagain | hremoved | ⟨hdone, hfree⟩ | hraised | ⟨event, w, hloads, hok, hmessage⟩
    · exact .inl hagain
    · exact .inr (.inl (hlater.2 hremoved))
    · exact .inr (.inr (htold hfree hdone))
    · have hbegun := mem_turns_begun (pre ++ more) (p := programs codec)
        (List.mem_append_right _ (List.mem_map_of_mem hover))
      exact absurd hraised (hdecoded raw nowNs hbegun)
    · rw [message_understood hloads hok] at hmessage
      cases hmessage
  | receiveFailed => exact .inr (.inr (htold hended.2 (hended.2.1.symm.trans hended.1)))
  | _ => cases hreceive

/-- A message that is not JSON, a frame of audio, and the end of the connection. -/
def servedToTheEnd : List (EventLoop.Turn Call Change) :=
  [.begin (.submitFrame (sampleFrame 3 0 false)), .proceed .ready, .begin (.receiveMessage (.text []) 0),
    .begin (.receiveMessage (sampleText 3) 0), .begin .receiveFailed, .proceed .ready]

theorem run_receives_failure :
    ∃ reason, Body.sessionClosed reason
      ∈ (after sampleCodec sampleRequest servedToTheEnd).shared.session.published := by
  have hended : ((after sampleCodec sampleRequest servedToTheEnd).finished.filter fun entry =>
      match entry.1 with | .receiveFailed => true | _ => false).map Prod.snd = [.ok .returned] := by
    decide +kernel
  obtain ⟨⟨call, result⟩, hentry, hresult⟩ := List.mem_map.mp (hended ▸ List.mem_singleton_self _ :
    (.ok .returned : Except (Raised RuntimeError) Flow) ∈ _)
  obtain ⟨hover, hcall⟩ := List.mem_filter.mp hentry
  have hdecoded : ∀ raw nowNs, .begin (.receiveMessage raw nowNs) ∈ servedToTheEnd →
      sampleCodec.loads raw ≠ .raised := by
    intro raw nowNs hbegin hraised
    cases raw with
    | binary bytes => simp [servedToTheEnd, sampleText] at hbegin
    | text text =>
      simp only [sampleCodec] at hraised
      split at hraised <;> cases hraised
  rcases run_receives sampleCodec sampleRequest servedToTheEnd (adm_of_walk (by decide +kernel)) hdecoded call
    result hover (by cases call <;> first | rfl | cases hcall) with hagain | hremoved | htold
  · rw [hagain] at hresult
    cases hresult
  · rw [show (after sampleCodec sampleRequest servedToTheEnd).shared.removed = false by decide +kernel] at hremoved
    cases hremoved
  · exact htold

/-- Audio that is not base64 ends the receiver of an open session. -/
def notBase64 : List (EventLoop.Turn Call Change) :=
  [.begin (.submitFrame (sampleFrame 3 0 false)), .proceed .ready, .begin (.receiveMessage (sampleText 2) 0)]

theorem notBase64_silent :
    (after sampleCodec sampleRequest notBase64).finished.any (fun entry => entry.1.isReceive
        && match entry.2 with | .ok .again => false | _ => true) = true
      ∧ (after sampleCodec sampleRequest notBase64).shared.removed = false
      ∧ (after sampleCodec sampleRequest notBase64).shared.session.closed = false
      ∧ (after sampleCodec sampleRequest notBase64).shared.session.published = []
      ∧ ¬ ∀ call result, (call, result) ∈ (after sampleCodec sampleRequest notBase64).finished →
        call.isReceive = true → result = .ok .again
          ∨ (after sampleCodec sampleRequest notBase64).shared.removed = true
          ∨ ∃ reason, .sessionClosed reason ∈ (after sampleCodec sampleRequest notBase64).shared.session.published := by
  have hended : (after sampleCodec sampleRequest notBase64).finished.any (fun entry => entry.1.isReceive
      && match entry.2 with | .ok .again => false | _ => true) = true := by decide +kernel
  have hremoved : (after sampleCodec sampleRequest notBase64).shared.removed = false := by decide +kernel
  have hpublished : (after sampleCodec sampleRequest notBase64).shared.session.published = [] := by
    decide +kernel
  refine ⟨hended, hremoved, by decide +kernel, hpublished, fun h => ?_⟩
  obtain ⟨⟨call, result⟩, hover, hentry⟩ := List.any_eq_true.mp hended
  rw [Bool.and_eq_true] at hentry
  rcases h call result hover hentry.1 with hagain | hgone | ⟨reason, htold⟩
  · obtain ⟨-, hlast⟩ := hentry
    subst hagain
    cases hlast
  · rw [hremoved] at hgone
    cases hgone
  · rw [hpublished] at htold
    cases htold

end Translator.Realtime
