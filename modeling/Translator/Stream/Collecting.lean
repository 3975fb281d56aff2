import Translator.Stream.Turns

/-! The utterance an open session collects. The watchdog has a deadline for it, twelve seconds after
    the capture of its first frame, and nothing but that deadline and the end of the session takes it
    out of collection before its last frame: no provider event does, and no poll before the deadline. -/

namespace Translator.Stream
open Schemes Wire
open Audio (CaptureEvent)
open Core (PcmFrame)

namespace ProviderStreamCoordinator

/-- The session was opened and neither side has closed it. -/
structure Open (c : ProviderStreamCoordinator) : Prop where
  active : c.watchdog.sessionPhase = .active
  opened : c.validator.opened = true
  unclosed : c.validator.closed = false

/-- An event that does not close the session: it is no `SessionClosed`, nor a final for which there is
    no room. -/
structure Continues (c : ProviderStreamCoordinator) (event : Event) : Prop where
  unclosing : event.isSessionClosed = false
  room : ∀ f, event = .utteranceFinal f →
    c.validator.terminalUtterances.card < maxTerminalUtterances

/-- The utterances are in time, all but the one that is collected. -/
def InTime (c : ProviderStreamCoordinator) (collecting : Option Uuid) (now : Nat) : Prop :=
  ∀ u x, c.watchdog.utterances.lookup u = some x → collecting ≠ some u → now ≤ x.phase.deadlineNs

variable {c c' : ProviderStreamCoordinator} {op : Op} {r : Result} {s u : Uuid} {now : Nat}
  {event : Event} {v w : ProviderEventValidator}

theorem open_verdict {now : Nat} {r : Outcome ProviderValidationError Unit}
    (hver : ProviderEventValidator.Verdict v event now (r, w)) (hnp : r ≠ .panic) (hopen : v.opened = true)
    (hcl : v.closed = false) (hevent : event.isSessionClosed = false)
    (hroom : ∀ f, event = .utteranceFinal f → v.terminalUtterances.card < maxTerminalUtterances) :
    w.opened = true ∧ w.closed = false := by
  cases hver with
  | exhausted path f u hf hid hs hfull => exact absurd (hroom f hf) (Nat.not_lt.mpr hfull)
  | closed z hz hu => rw [hz] at hevent; cases hevent
  | panicked a u w ha hid hp => exact absurd rfl hnp
  | ended path f u hf hid hs hfull =>
    cases path <;> exact ⟨hopen, hcl⟩
  | _ => simp [ProviderEventValidator.hearWire, ProviderEventValidator.play, hopen, hcl]

/-- A continuing event leaves the validator open. -/
theorem open_validate {r : Outcome ProviderValidationError Unit} (hs : Sound c) (ho : Open c)
    (hcont : c.Continues event) (hv : c.validator.validate (some event) now = (r, v)) :
    v.opened = true ∧ v.closed = false := by
  rcases ProviderEventValidator.validate_cases c.validator (some event) now with
    ⟨e, -, heq⟩ | ⟨ev, r', w, hev, -, -, hver, heq⟩
  · rw [hv] at heq
    cases heq
    exact ⟨ho.opened, ho.unclosed⟩
  · obtain rfl := Option.some.inj hev
    have hw := open_verdict hver (ProviderEventValidator.verdict_no_panic hs.coherent hver) ho.opened
      ho.unclosed hcont.unclosing hcont.room
    rw [hv] at heq
    obtain ⟨rfl, rfl⟩ := Prod.mk.inj heq
    split
    · exact hw
    · exact hw

/-- A poll that finds nothing overdue does nothing. -/
theorem poll_inTime (ho : Open c) (h : ∀ u x, c.watchdog.utterances.lookup u = some x →
    now ≤ x.phase.deadlineNs) : c.watchdog.poll now = ([], c.watchdog) := by
  have hnot : ∀ entry ∈ c.watchdog.utterances.entries,
      ProviderAudioWatchdog.overdue now entry.2 = false := by
    rintro ⟨u, x⟩ hmem
    exact decide_eq_false (Nat.not_lt.mpr (h u x (AList.mem_lookup_iff.mpr hmem)))
  have hclose : c.watchdog.closeRequired now = false := by
    unfold ProviderAudioWatchdog.closeRequired
    rw [List.any_eq_false]
    intro entry hentry
    simp [hnot entry hentry]
  have hcancel : c.watchdog.cancelActions now = [] := by
    unfold ProviderAudioWatchdog.cancelActions
    rw [List.filterMap_eq_nil_iff]
    intro entry hentry
    simp [hnot entry hentry]
  have hswept : c.watchdog.swept now = c.watchdog := by
    have hsame : Table.mapVals (fun _ => ProviderAudioWatchdog.polled now) c.watchdog.utterances
        = c.watchdog.utterances := by
      refine AList.ext ((List.map_congr_left fun entry hentry => ?_).trans (List.map_id _))
      simp [ProviderAudioWatchdog.polled, hnot entry hentry]
    unfold ProviderAudioWatchdog.swept
    rw [hsame]
  unfold ProviderAudioWatchdog.poll
  rw [ho.active]
  simp [hclose, hcancel, hswept]

/-- The session stays open, unless a poll or the provider closes it. -/
theorem open_move (hs : Sound c) (ho : Open c) (hm : Move c op r c')
    (hcont : ∀ event now, op = .validateEvent (some event) now → c.Continues event)
    (hpoll : ∀ now, op ≠ .poll now) : Open c' := by
  have hjudged : ∀ {event : Event} {now : Nat} {r : Outcome ProviderValidationError Unit}
      {v : ProviderEventValidator}, op = .validateEvent (some event) now →
      c.validator.validate (some event) now = (r, v) → v.opened = true ∧ v.closed = false :=
    fun hop hv => open_validate hs ho (hcont _ _ hop) hv
  cases hm with
  | refused op e he => exact ho
  | started s z ns v hact hnew hv =>
    rcases ProviderEventValidator.recordInput_cases c.validator z ns with
      ⟨e, -, heq⟩ | ⟨-, -, -, -, heq⟩ <;> rw [hv] at heq <;> cases heq
    exact ⟨ho.active, ho.opened, ho.unclosed⟩
  | inputEnded s z now d hact hlz hd =>
    rcases ProviderEventValidator.recordEndOfUtterance_cases c.validator z now with
      ⟨e, -, heq⟩ | ⟨-, -, -, heq⟩ <;> rw [heq]
    · exact ⟨ho.active, ho.opened, ho.unclosed⟩
    · exact ⟨ho.active, ho.opened, ho.unclosed⟩
  | judged event now r v hadm hv hr => exact ⟨ho.active, (hjudged rfl hv).1, (hjudged rfl hv).2⟩
  | heard a s z now v hst hut hc hb hv =>
    exact ⟨ho.active, (hjudged rfl hv).1, (hjudged rfl hv).2⟩
  | finished f s z o now v hadm hv => exact ⟨ho.active, (hjudged rfl hv).1, (hjudged rfl hv).2⟩
  | shut z now v hv => cases (hcont _ now rfl).unclosing
  | noted event now v hadm hau hf hcl hv =>
    exact ⟨ho.active, (hjudged rfl hv).1, (hjudged rfl hv).2⟩
  | consumedLast s z b frame hb hf => exact ⟨ho.active, ho.opened, ho.unclosed⟩
  | consumed s z b frame frames hb hf hne => exact ⟨ho.active, ho.opened, ho.unclosed⟩
  | polled now c' hcheck hp => exact absurd rfl (hpoll now)
  | expired s z now x hact hlz hsz haw hcan => exact ⟨ho.active, ho.opened, ho.unclosed⟩

theorem lookup_put_of_ne {w : ProviderAudioWatchdog} {z : Uuid} {y : WatchedUtterance} (h : u ≠ z) :
    (w.put z y).utterances.lookup u = w.utterances.lookup u := by
  rw [ProviderAudioWatchdog.put, Table.lookup_insert_if, if_neg h]

/-- An utterance in another phase is another one. -/
theorem ne_of_phase {w : ProviderAudioWatchdog} {deadline : Nat} {z : Uuid} {x : WatchedUtterance}
    (hl : w.utterances.lookup u = some ⟨s, .collectingInput deadline⟩)
    (hz : w.utterances.lookup z = some x) (hphase : ∀ n, x.phase ≠ .collectingInput n) : u ≠ z := by
  rintro rfl
  obtain rfl := Option.some.inj (hl.symm.trans hz)
  exact hphase deadline rfl

theorem deadlineNs_of_collected {w : ProviderAudioWatchdog} {deadline : Nat} {x : WatchedUtterance}
    (hl : w.utterances.lookup u = some ⟨s, .collectingInput deadline⟩)
    (hx : w.utterances.lookup u = some x) : x.phase.deadlineNs = deadline := by
  obtain rfl := Option.some.inj (hl.symm.trans hx)
  rfl

theorem awaits_not_collecting {p : UtterancePhase} (h : p.awaitsProvider = true) (n : Nat) :
    p ≠ .collectingInput n := by
  rintro rfl
  cases h

/-- A collected utterance stays so, unless its input ends, a poll looks at it or the session closes. -/
theorem collected_move {deadline : Nat} (hm : Move c op r c')
    (hcont : ∀ event now, op = .validateEvent (some event) now → event.isSessionClosed = false)
    (hinput : ∀ s' now, op ≠ .recordEndOfUtterance s' u now) (hpoll : ∀ now, op ≠ .poll now)
    (hl : c.watchdog.utterances.lookup u = some ⟨s, .collectingInput deadline⟩) :
    c'.watchdog.utterances.lookup u = some ⟨s, .collectingInput deadline⟩ := by
  have hput : ∀ {z : Uuid} {y : WatchedUtterance}, u ≠ z →
      (c.watchdog.put z y).utterances.lookup u = some ⟨s, .collectingInput deadline⟩ :=
    fun hne => (lookup_put_of_ne hne).trans hl
  cases hm with
  | started s' z ns v hact hnew hv =>
    refine hput ?_
    rintro rfl
    exact hnew (by rw [Table.mem_iff_isSome, hl]; rfl)
  | inputEnded s' z now d hact hlz hd =>
    refine hput ?_
    rintro rfl
    exact hinput s' now rfl
  | heard a s' z now v hst hut hc hb hv =>
    obtain ⟨-, x, hx, -, haw, -⟩ := ProviderAudioWatchdog.checkAudioDelta_ok.mp hc
    exact hput (ne_of_phase hl hx (awaits_not_collecting haw))
  | finished f s' z o now v hadm hv =>
    obtain ⟨-, x, hx, -, hphase, -⟩ := ProviderAudioWatchdog.checkFinal_ok.mp hadm.2.2.2
    have hne : u ≠ z := by
      refine ne_of_phase hl hx fun n hn => ?_
      rw [hn] at hphase
      rcases hphase with ⟨h, -⟩ | ⟨h, -⟩ <;> cases h
    show (c.watchdog.utterances.erase z).lookup u = _
    rw [Table.lookup_erase_if, if_neg hne]
    exact hl
  | shut z now v hv => cases hcont _ now rfl
  | polled now c' hcheck hp => exact absurd rfl (hpoll now)
  | expired s' z now x hact hlz hsz haw hcan =>
    exact hput (ne_of_phase hl hlz (awaits_not_collecting haw))
  | _ => exact hl

end ProviderStreamCoordinator

namespace DirectionSession

open ProviderStreamCoordinator (Open InTime Move Sound)

/-- An open session, collecting the utterance whose first frame was captured at this time, or none. -/
structure Collecting (d : DirectionSession) (since : Option (Uuid × Nat)) : Prop where
  settled : Settled d
  opened : Open d.coordinator
  current : d.collectingUtterance = since.map Prod.fst
  watched : ∀ u ns, since = some (u, ns) → d.coordinator.watchdog.utterances.lookup u
    = some ⟨d.contract.streamId, .collectingInput (saturatingAdd ns collectingInputTimeout)⟩

/-- An identifier the session has not met. -/
structure Unmet (d : DirectionSession) (u : Uuid) : Prop where
  active : u ∉ d.activeUtterances
  watched : u ∉ d.coordinator.watchdog.utterances
  ended : u ∉ d.coordinator.validator.terminalUtterances

variable {d d' : DirectionSession} {since : Option (Uuid × Nat)} {u : Uuid} {ns now : Nat}
  {frame : PcmFrame} {event : ProviderEvent}

theorem Collecting.live (h : Collecting d since) : ProviderStreamCoordinator.Live d.coordinator :=
  ⟨h.opened.active, h.opened.unclosed⟩

theorem Collecting.deadline {x : WatchedUtterance} (h : Collecting d since)
    (hsince : since = some (u, ns)) (hx : d.coordinator.watchdog.utterances.lookup u = some x) :
    x.phase.deadlineNs = saturatingAdd ns collectingInputTimeout :=
  ProviderStreamCoordinator.deadlineNs_of_collected (h.watched u ns hsince) hx

theorem Collecting.requireStream (d : DirectionSession) :
    d.requireStream d.contract.streamId = .ok () := if_pos rfl

/-- A new utterance is collected, while there is room for it. -/
theorem collecting_started (h : Collecting d none) (hu : d.Unmet u)
    (hroom : d.coordinator.validator.inputCaptureNs.keys.length < maxActiveUtterances) (ns : Nat) :
    ∃ d', d.handleCapture (.speechStarted d.contract.streamId u ns) = (.ok none, d')
      ∧ d'.contract = d.contract ∧ Collecting d' (some (u, ns)) := by
  have hnone : d.collectingUtterance = none := h.current
  have hwatchdog : d.coordinator.watchdog.startUtterance d.contract.streamId u ns
      = .ok (d.coordinator.watchdog.put u ⟨d.contract.streamId,
        .collectingInput (saturatingAdd ns collectingInputTimeout)⟩) :=
    ProviderAudioWatchdog.startUtterance_ok.mpr ⟨h.opened.active, hu.watched, rfl⟩
  have hvalidator : ∃ v, d.coordinator.validator.recordInput u ns = (.ok (), v)
      ∧ v.opened = true ∧ v.closed = false := by
    rcases ProviderEventValidator.recordInput_cases d.coordinator.validator u ns with
      ⟨e, -, hrefused⟩ | ⟨-, -, -, -, hrecord⟩
    · unfold ProviderEventValidator.recordInput at hrefused
      simp only [h.opened.opened, h.opened.unclosed, hu.ended, Nat.not_le.mpr hroom, and_false,
        Bool.not_true, Bool.false_eq_true, if_false, Prod.mk.injEq] at hrefused
      cases hrefused.1
    · exact ⟨_, hrecord, h.opened.opened, h.opened.unclosed⟩
  obtain ⟨v, hrecord, hvopen, hvcl⟩ := hvalidator
  have hstart : d.handleCapture (.speechStarted d.contract.streamId u ns) = (.ok none,
      { d with
        activeUtterances := insert u d.activeUtterances
        coordinator := { d.coordinator with
          watchdog := d.coordinator.watchdog.put u ⟨d.contract.streamId,
            .collectingInput (saturatingAdd ns collectingInputTimeout)⟩
          validator := v }
        collectingUtterance := some u }) := by
    simp [handleCapture, speechStarted, Collecting.requireStream, hnone, hu.active,
      ProviderStreamCoordinator.startUtterance, hwatchdog, hrecord]
  have hsettled := settled_step h.settled (.capture (.speechStarted d.contract.streamId u ns))
  unfold apply at hsettled
  dsimp only at hsettled
  rw [hstart] at hsettled
  refine ⟨_, hstart, rfl, hsettled, ⟨h.opened.active, hvopen, hvcl⟩, rfl, ?_⟩
  rintro u' ns' heq
  obtain ⟨rfl, rfl⟩ := Prod.mk.inj (Option.some.inj heq)
  exact AList.lookup_insert _

/-- A frame of the collected utterance is taken. -/
theorem collecting_framed (h : Collecting d (some (u, ns))) (frame : PcmFrame) :
    ∃ d', d.handleCapture (.frame d.contract.streamId u frame false)
        = (.ok (some (d.inputRequest d.contract.streamId u frame false)), d')
      ∧ d'.contract = d.contract ∧ Collecting d' (some (u, ns)) := by
  refine ⟨{ d with nextInputSequence := d.nextInput }, ?_, rfl, ?_⟩
  · have hcurrent : d.collectingUtterance = some u := h.current
    simp [handleCapture, captured, Collecting.requireStream, hcurrent]
  · exact ⟨⟨h.settled.sound, h.settled.agree, h.settled.drained, h.settled.contract,
      h.settled.format⟩, h.opened, h.current, h.watched⟩

/-- The last frame of the collected utterance is taken within the deadline. -/
theorem collecting_ended (h : Collecting d (some (u, ns)))
    (hframe : frame.captureMonotonicNs ≤ saturatingAdd ns collectingInputTimeout) :
    ∃ d', d.handleCapture (.frame d.contract.streamId u frame true)
        = (.ok (some (d.inputRequest d.contract.streamId u frame true)), d')
      ∧ d'.contract = d.contract ∧ Collecting d' none := by
  have hcurrent : d.collectingUtterance = some u := h.current
  have hlookup := h.watched u ns rfl
  have hwatchdog := ProviderAudioWatchdog.recordEndOfUtterance_ok.mpr
    ⟨h.opened.active, _, hlookup, hframe, rfl⟩
  have hmem : u ∈ d.coordinator.validator.inputCompleteNs := by
    rw [h.settled.sound.coherent.complete_iff, ← (h.settled.agree h.live).keys,
      Table.mem_iff_isSome, hlookup]
    rfl
  have hvalidator : d.coordinator.validator.recordEndOfUtterance u frame.captureMonotonicNs
      = (.ok (), { d.coordinator.validator with
        inputCompleteNs := d.coordinator.validator.inputCompleteNs.insert u
          frame.captureMonotonicNs }) := by
    unfold ProviderEventValidator.recordEndOfUtterance
    simp only [h.opened.opened, h.opened.unclosed, hmem, Bool.not_true, Bool.false_eq_true,
      if_false, if_true]
  have hend : d.handleCapture (.frame d.contract.streamId u frame true)
      = (.ok (some (d.inputRequest d.contract.streamId u frame true)),
        { d with
          coordinator := { d.coordinator with
            watchdog := d.coordinator.watchdog.put u ⟨d.contract.streamId,
              .awaitingFirstAudio (saturatingAdd frame.captureMonotonicNs firstAudioAfterEouTimeout)⟩
            validator := { d.coordinator.validator with
              inputCompleteNs := d.coordinator.validator.inputCompleteNs.insert u
                frame.captureMonotonicNs } }
          collectingUtterance := none
          nextInputSequence := d.nextInput }) := by
    simp [handleCapture, captured, Collecting.requireStream, hcurrent,
      ProviderStreamCoordinator.recordEndOfUtterance, hwatchdog, hvalidator, Outcome.mapErr]
  have hsettled := settled_step h.settled (.capture (.frame d.contract.streamId u frame true))
  unfold apply at hsettled
  dsimp only at hsettled
  rw [hend] at hsettled
  exact ⟨_, hend, rfl, hsettled, ⟨h.opened.active, h.opened.opened, h.opened.unclosed⟩, rfl, by rintro _ _ ⟨⟩⟩

/-- What is collected changes with a captured frame, a cancellation or the end of the session. -/
theorem apply_collecting (h : ∀ kind, event = some kind → kind.isSessionClosed = false) :
    (d.apply (.providerEvent event now)).2.collectingUtterance = d.collectingUtterance := by
  cases event with
  | none => rfl
  | some kind =>
    have hkind := h kind rfl
    cases kind with
    | sessionClosed z => cases hkind
    | _ =>
      simp only [apply, handleProviderEvent, refuse, cancelExpired, translate, playAudio,
        endUtterance]
      repeat' split
      all_goals rfl

/-- What a provider event does to the coordinator of an open session. -/
theorem provided_turn {r : Result} (h : Collecting d since)
    (ht : Turn d (.providerEvent event now) r d')
    (hcont : ∀ kind, event = some kind → d.coordinator.Continues kind) :
    Open d'.coordinator ∧ ∀ u ns, since = some (u, ns) →
      d'.coordinator.watchdog.utterances.lookup u
        = some ⟨d.contract.streamId, .collectingInput (saturatingAdd ns collectingInputTimeout)⟩ := by
  have hs := h.settled.sound
  -- what one move of the coordinator comes to
  have hmove : ∀ {c c' : ProviderStreamCoordinator} {op : ProviderStreamCoordinator.Op}
      {r : ProviderStreamCoordinator.Result}, Sound c → Open c →
      (∀ u ns, since = some (u, ns) → c.watchdog.utterances.lookup u
        = some ⟨d.contract.streamId, .collectingInput (saturatingAdd ns collectingInputTimeout)⟩) →
      Move c op r c' →
      (∀ kind now, op = .validateEvent (some kind) now → c.Continues kind) →
      (∀ s u now, op ≠ .recordEndOfUtterance s u now) → (∀ now, op ≠ .poll now) →
      Open c' ∧ ∀ u ns, since = some (u, ns) → c'.watchdog.utterances.lookup u
        = some ⟨d.contract.streamId, .collectingInput (saturatingAdd ns collectingInputTimeout)⟩ := by
    intro c c' op r hs ho hwatched hm hcont hinput hpoll
    refine ⟨ProviderStreamCoordinator.open_move hs ho hm hcont hpoll, fun u ns hsince => ?_⟩
    exact ProviderStreamCoordinator.collected_move hm (fun kind now he => (hcont kind now he).unclosing)
      (fun s now => hinput s u now) hpoll (hwatched u ns hsince)
  have hvalidate : ∀ {kind : Event} {r : ProviderStreamCoordinator.Result}
      {c' : ProviderStreamCoordinator}, event = some kind →
      Move d.coordinator (.validateEvent (some kind) now) r c' →
      Open c' ∧ ∀ u ns, since = some (u, ns) → c'.watchdog.utterances.lookup u
        = some ⟨d.contract.streamId, .collectingInput (saturatingAdd ns collectingInputTimeout)⟩ := by
    intro kind r c' hkind hm
    refine hmove hs h.opened h.watched hm (fun kind' now' he => ?_) nofun nofun
    cases he
    exact hcont kind hkind
  cases ht with
  | refused op e d' hc =>
    rw [hc]
    exact ⟨h.opened, h.watched⟩
  | judged kind now e d' hm hne hnx => exact hvalidate rfl hm
  | dropped a u now d' v hid hc hadm hv hd =>
    rw [hd]
    exact hvalidate rfl (.judged _ now _ v hadm hv (by simp))
  | expired a s u now d' c' hid hm hx =>
    obtain ⟨hopen, hwatched⟩ := hvalidate rfl hm
    exact hmove (ProviderStreamCoordinator.sound_move hs hm) hopen hwatched hx nofun nofun nofun
  | playback a s u now frame v d' hst hut hc hv hseq hpcm hd =>
    obtain ⟨hvopen, hvcl⟩ := ProviderStreamCoordinator.open_validate hs h.opened (hcont _ rfl) hv
    obtain ⟨-, x, hx, -, haw, -⟩ := ProviderAudioWatchdog.checkAudioDelta_ok.mp hc
    rw [hd]
    refine ⟨⟨h.opened.active, hvopen, hvcl⟩, fun z ns hsince => ?_⟩
    have hne := ProviderStreamCoordinator.ne_of_phase (h.watched z ns hsince) hx
      (ProviderStreamCoordinator.awaits_not_collecting haw)
    exact (ProviderStreamCoordinator.lookup_put_of_ne hne).trans (h.watched z ns hsince)
  | finished f s u o t now v d' hadm hv ht hd =>
    rw [hd]
    exact hvalidate rfl (.finished f s u o now v hadm hv)
  | shut z now d' v hv hd => cases (hcont _ rfl).unclosing
  | noted kind now v d' hadm hau hf hcl hv hd =>
    rw [hd]
    exact hvalidate rfl (.noted kind now v hadm (fun a ha => absurd ha (hau a)) hf hcl hv)

/-- An event that does not close the session leaves the collected utterance alone. -/
theorem collecting_event (h : Collecting d since)
    (hcont : ∀ kind, event = some kind → d.coordinator.Continues kind) :
    Collecting (d.apply (.providerEvent event now)).2 since := by
  have hclosing : ∀ {kind : Event}, event = some kind → kind.isSessionClosed = false :=
    fun he => (hcont _ he).unclosing
  have hturn := apply_turn h.settled (.providerEvent event now)
  have hcontract := apply_contract d (.providerEvent event now)
  have hsame := @apply_collecting d now event fun kind he => hclosing he
  obtain ⟨hopened, hwatched⟩ := provided_turn h hturn fun kind he => hcont kind he
  refine ⟨settled_step h.settled _, hopened, hsame.trans h.current, fun u ns hs => ?_⟩
  rw [hcontract]
  exact hwatched u ns hs

/-- Nor does a poll in time do anything. -/
theorem collecting_polled (h : Collecting d since) (hintime : InTime d.coordinator
    d.collectingUtterance now) (hnow : ∀ u ns, since = some (u, ns) →
      now ≤ saturatingAdd ns collectingInputTimeout) :
    d.apply (.poll now) = (.ok (.watchdog []), d) := by
  have hall : ∀ u x, d.coordinator.watchdog.utterances.lookup u = some x →
      now ≤ x.phase.deadlineNs := by
    intro u x hx
    by_cases hu : d.collectingUtterance = some u
    · rw [h.current] at hu
      obtain ⟨⟨u', ns⟩, hsince, hfst⟩ := Option.map_eq_some_iff.mp hu
      obtain rfl : u' = u := hfst
      rw [h.deadline hsince hx]
      exact hnow u' ns hsince
    · exact hintime u x hx hu
  have hpoll := ProviderStreamCoordinator.poll_inTime h.opened hall
  have hcoordinator : d.coordinator.poll now = (.ok [], d.coordinator) := by
    unfold ProviderStreamCoordinator.poll
    rw [hpoll]
    rfl
  simp only [apply, poll, hcoordinator]
  rfl

end DirectionSession

end Translator.Stream
