import Translator.Stream.Turns

/-! What reaches the speaker. Over any run of a direction session the playback effects of an
    utterance are its frames 0, 1, 2, … in order; none comes before the end of the utterance was
    captured or after the utterance was cancelled, expired or ended; and an accepted completed final
    names the last frame played.

    The validator keeps two audio counters per utterance. They part only when a frame expires or
    crosses a cancellation, and from then on the utterance is cancel-pending, so both counters of an
    utterance that may still be played are the last frame played. -/

namespace Translator.Stream
open Schemes Wire
open Core (PcmFrame)
open ProviderStreamCoordinator (Move Sound Agree Live)

namespace DirectionSession

/-- A call with its answer. -/
abbrev Entry := Op × Result

/-- The sequence number of a playback effect of `u`. -/
def playedSequence (u : Uuid) : DirectionEffect → Option UInt64
  | .playback _ x frame => if x = u then some frame.sequence else none
  | _ => none

/-- The frames of `u` that a call hands to playback. -/
def plays (a : Entry) (u : Uuid) : List UInt64 := (effectsOf a.2).filterMap (playedSequence u)

/-- The frames of `u` played in a run. -/
def playedIn (log : List Entry) (u : Uuid) : List UInt64 := log.flatMap (plays · u)

/-- The call captured the end of `u`. -/
def CapturesEnd (a : Entry) (u : Uuid) : Prop :=
  ∃ s frame request, a = (.capture (.frame s u frame true), .ok (.request request))

/-- A request to cancel `u`. -/
def IsCancelOf (u : Uuid) : ProviderRequest → Prop
  | .cancelUtterance value => value.utteranceId = some u
  | _ => False

/-- The call cancelled `u`, found it expired or accepted its terminal. -/
def Silences (a : Entry) (u : Uuid) : Prop :=
  (∃ effects request, a.2 = .ok (.watchdog effects) ∧ .purgeAndSend request ∈ effects
      ∧ IsCancelOf u request)
    ∨ (∃ request, .expiredAudio u request ∈ effectsOf a.2)
    ∨ .utteranceTerminal u ∈ effectsOf a.2

/-- The call accepted a completed final of `u` that carries the final audio sequence `n`. -/
def Completes (a : Entry) (u : Uuid) (n : Option UInt64) : Prop :=
  ∃ f now answer, a = (.providerEvent (some (.utteranceFinal f)) now, .ok answer)
    ∧ f.utteranceId = some u ∧ f.outcome = UtteranceOutcome.completed.code
    ∧ f.finalAudioSequence = n

/-- What a playback effect asks of the calls before it. -/
def PlayedInTime (u : Uuid) (pre : List Entry) (a : Entry) : Prop :=
  plays a u ≠ [] → (∃ b ∈ pre, CapturesEnd b u) ∧ ∀ b ∈ pre, ¬ Silences b u

/-- What a completed final says about the calls before it. -/
def CompletedAt (u : Uuid) (pre : List Entry) (a : Entry) : Prop :=
  ∀ n, Completes a u n → n = (playedIn pre u).getLast?

/-- The playback discipline of a run, for one utterance. -/
structure Playback (log : List Entry) (u : Uuid) : Prop where
  contiguous : (playedIn log u).map UInt64.toNat = List.range (playedIn log u).length
  inTime : AtEach (PlayedInTime u) log
  completed : AtEach (CompletedAt u) log

/-- What the coordinator knows of `u`, told by the calls so far. -/
structure Account (log : List Entry) (c : ProviderStreamCoordinator) (u : Uuid) : Prop where
  opened : u ∈ c.validator.inputCaptureNs → c.validator.opened = true
  counted : u ∈ c.validator.inputCaptureNs → u ∉ c.validator.cancelPending →
    c.validator.lastWireAudioSequence.lookup u = (playedIn log u).getLast?
      ∧ c.validator.lastPlayableAudioSequence.lookup u = (playedIn log u).getLast?
  fresh : u ∉ c.validator.inputCaptureNs → u ∉ c.validator.terminalUtterances →
    playedIn log u = []
  silenced : (∃ b ∈ log, Silences b u) →
    u ∈ c.validator.cancelPending ∨ u ∈ c.validator.terminalUtterances
  awaited : ∀ x, c.watchdog.utterances.lookup u = some x → x.phase.awaitsProvider = true →
    ∃ b ∈ log, CapturesEnd b u

/-- A call that leaves the account of `u` as it is: it plays nothing of `u`, and the coordinator
    keeps `u` where it was, save that it may cancel it. -/
structure Keeps (a : Entry) (c c' : ProviderStreamCoordinator) (u : Uuid) : Prop where
  silent : plays a u = []
  capture : u ∈ c'.validator.inputCaptureNs ↔ u ∈ c.validator.inputCaptureNs
  terminal : u ∈ c'.validator.terminalUtterances ↔ u ∈ c.validator.terminalUtterances
  cancel : u ∈ c.validator.cancelPending → u ∈ c'.validator.cancelPending
  counters : u ∉ c'.validator.cancelPending →
    c'.validator.lastWireAudioSequence.lookup u = c.validator.lastWireAudioSequence.lookup u
      ∧ c'.validator.lastPlayableAudioSequence.lookup u
        = c.validator.lastPlayableAudioSequence.lookup u
  opened : c.validator.opened = true → c'.validator.opened = true
  awaits : ∀ x, c'.watchdog.utterances.lookup u = some x → x.phase.awaitsProvider = true →
    CapturesEnd a u ∨ ∃ y, c.watchdog.utterances.lookup u = some y ∧ y.phase.awaitsProvider = true
  silences : Silences a u → u ∈ c'.validator.cancelPending

variable {d d' : DirectionSession} {c c' : ProviderStreamCoordinator} {log : List Entry} {a : Entry}
  {op : Op} {r : Result} {s u z : Uuid} {now : Nat} {v : ProviderEventValidator}

theorem playedIn_concat : playedIn (log ++ [a]) u = playedIn log u ++ plays a u := by
  simp [playedIn]

theorem account_new (contract : ProviderSessionContract) (u : Uuid) :
    Account [] (.new contract) u where
  opened := by simp [ProviderStreamCoordinator.new, ProviderEventValidator.new]
  counted := by simp [ProviderStreamCoordinator.new, ProviderEventValidator.new]
  fresh := by simp [playedIn]
  silenced := by simp
  awaited := by simp [ProviderStreamCoordinator.new, ProviderAudioWatchdog.new]

theorem account_keeps (h : Account log c u) (hk : Keeps a c c' u) : Account (log ++ [a]) c' u := by
  have hplayed : playedIn (log ++ [a]) u = playedIn log u := by
    rw [playedIn_concat, hk.silent, List.append_nil]
  refine ⟨fun hin => hk.opened (h.opened (hk.capture.mp hin)), fun hin hnc => ?_, fun hin ht => ?_,
    ?_, fun x hx haw => ?_⟩
  · obtain ⟨hw, hp⟩ := hk.counters hnc
    obtain ⟨hw', hp'⟩ := h.counted (hk.capture.mp hin) fun hc => hnc (hk.cancel hc)
    rw [hplayed]
    exact ⟨hw.trans hw', hp.trans hp'⟩
  · rw [hplayed]; exact h.fresh (mt hk.capture.mpr hin) (mt hk.terminal.mpr ht)
  · rintro ⟨b, hb, hsil⟩
    rcases List.mem_append.mp hb with hb | hb
    · exact (h.silenced ⟨b, hb, hsil⟩).imp hk.cancel hk.terminal.mpr
    · cases List.mem_singleton.mp hb
      exact .inl (hk.silences hsil)
  · rcases hk.awaits x hx haw with hcap | ⟨y, hy, hyaw⟩
    · exact ⟨a, by simp, hcap⟩
    · obtain ⟨b, hb, hcap⟩ := h.awaited y hy hyaw
      exact ⟨b, List.mem_append_left _ hb, hcap⟩

/-! ### Calls that keep the account -/

/-- An effect that neither plays nor silences anything. -/
def mild : DirectionEffect → Bool
  | .playback _ _ _ => false
  | .expiredAudio _ _ => false
  | .utteranceTerminal _ => false
  | _ => true

/-- An answer whose effects are all mild, and not an answer of `poll`. -/
def Quiet (r : Result) : Prop :=
  (∀ effects, r ≠ .ok (.watchdog effects)) ∧ ∀ e ∈ effectsOf r, mild e = true

theorem quiet_plays (h : Quiet r) : plays (op, r) u = [] := by
  rw [plays, List.filterMap_eq_nil_iff]
  intro e he
  cases e with
  | playback s z frame => cases h.2 _ he
  | _ => rfl

theorem quiet_silences (h : Quiet r) : ¬ Silences (op, r) u := by
  rintro (⟨effects, -, hr, -⟩ | ⟨request, he⟩ | he)
  · exact h.1 effects hr
  · cases h.2 _ he
  · cases h.2 _ he

theorem quiet_err (e : DirectionSessionError) : Quiet (.err e) := ⟨by simp, by simp [effectsOf]⟩

theorem quiet_request (q : Option ProviderRequest) : Quiet (.ok (.request q)) :=
  ⟨by simp, by simp [effectsOf]⟩

theorem map_ok {ε α β : Type} {x : Except ε α} {f : α → β} {b : β} (h : x.map f = .ok b) :
    ∃ a, b = f a := by
  cases x with
  | error e => cases h
  | ok a => exact ⟨a, (Except.ok.inj h).symm⟩

theorem report_mild {event : Event} {effects : List DirectionEffect}
    (h : report event = .ok effects) : ∀ e ∈ effects, mild e = true := by
  have hone : ∀ {e : DirectionEffect}, mild e = true → effects = [e] →
      ∀ e ∈ effects, mild e = true := by
    rintro e he rfl x hx
    cases List.mem_singleton.mp hx
    exact he
  have hnone : effects = [] → ∀ e ∈ effects, mild e = true := by rintro rfl x hx; cases hx
  cases event with
  | transcriptDelta t =>
    simp only [report] at h
    split at h
    · obtain ⟨u, hu⟩ := map_ok h; exact hone rfl hu
    · cases h; exact hnone rfl
  | translationDelta t =>
    simp only [report] at h
    split at h
    · obtain ⟨u, hu⟩ := map_ok h; exact hone rfl hu
    · cases h; exact hnone rfl
  | latency l =>
    obtain ⟨u, hu⟩ := map_ok h
    exact hone rfl hu
  | error x =>
    simp only [report] at h
    split at h
    · cases h
    · obtain ⟨code, hcode⟩ := map_ok h; exact hone rfl hcode
  | _ => cases h; exact hnone rfl

theorem quiet_report (event : Event) : Quiet ((Outcome.ofExcept (report event)).map .effects) := by
  cases hrep : report event with
  | error e => exact quiet_err e
  | ok effects => exact ⟨by simp [Outcome.ofExcept, Outcome.map], report_mild hrep⟩

theorem keeps_same (hq : Quiet r) (hc : c' = c) : Keeps (op, r) c c' u := by
  subst hc
  exact ⟨quiet_plays hq, .rfl, .rfl, id, fun _ => ⟨rfl, rfl⟩, id, fun x hx haw => .inr ⟨x, hx, haw⟩,
    fun h => absurd h (quiet_silences hq)⟩

/-- The validator judged an event that is neither a final nor playable audio. -/
theorem keeps_validate (hs : Sound c) {event : Event} {j : Outcome ProviderValidationError Unit}
    (hv : c.validator.validate (some event) now = (j, v)) (hcl : v.closed = false)
    (hf : j ≠ .ok () ∨ ∀ f, event ≠ .utteranceFinal f)
    (ha : ∀ x, event = .audioDelta x → j ≠ .ok () ∧ j ≠ .err .expiredAudio) (hq : Quiet r) :
    Keeps (op, r) c (c.withValidator v) u := by
  have hk := ProviderStreamCoordinator.kept_of_validate hs hv hcl hf
  have hfin : ∀ f, event = .utteranceFinal f → j ≠ .ok () := fun f hef =>
    hf.resolve_right fun hn => hn f hef
  have hnp : j ≠ .panic := by
    have := ProviderEventValidator.validate_no_panic hs.coherent (some event) now
    rwa [hv] at this
  refine ⟨quiet_plays hq, by rw [ProviderStreamCoordinator.withValidator, hk.capture],
    by rw [ProviderStreamCoordinator.withValidator, hk.terminal],
    by rw [ProviderStreamCoordinator.withValidator, hk.cancel]; exact id, fun hnc => ⟨?_, ?_⟩,
    ProviderEventValidator.validate_opened hv hnp, fun x hx haw => .inr ⟨x, hx, haw⟩,
    fun h => absurd h (quiet_silences hq)⟩
  · show v.lastWireAudioSequence.lookup u = c.validator.lastWireAudioSequence.lookup u
    rcases ProviderEventValidator.validate_wire hs.coherent hv with
      hw | ⟨x, z, hx, hid, hj, hw⟩ | ⟨f, z, hef, -, hj, -⟩
    · rw [hw]
    · -- only audio of a cancelled utterance moves its wire counter here
      obtain ⟨-, hz⟩ := (hj.resolve_left (ha x hx).1).resolve_left (ha x hx).2
      have hne : u ≠ z := by
        rintro rfl
        rw [ProviderStreamCoordinator.withValidator, hk.cancel] at hnc
        exact hnc hz
      rw [hw, Table.lookup_insert_if, if_neg hne]
    · exact absurd hj (hfin f hef)
  · exact congrArg (fun t : Table Uuid UInt64 => t.lookup u) (ProviderEventValidator.validate_playable
      hs.coherent hv (fun x hx => (ha x hx).1) hfin)

/-- The watchdog entry of another utterance. -/
theorem put_lookup_ne {w : ProviderAudioWatchdog} {x : WatchedUtterance} (hne : u ≠ z) :
    (w.put z x).utterances.lookup u = w.utterances.lookup u := by
  rw [ProviderAudioWatchdog.put, Table.lookup_insert_if, if_neg hne]

/-! ### Every call, while the session is live -/

/-- An utterance that starts has no past. -/
theorem account_started (hs : Sound c) (hagree : Agree c) (h : Account log c u) {ns : Nat}
    (hm : Move c (.startUtterance s z ns) (.ok .done) c') :
    Account (log ++ [(.capture (.speechStarted s z ns), .ok (.request none))]) c' u := by
  generalize hr : (Outcome.ok .done : ProviderStreamCoordinator.Result) = r at hm
  cases hm with
  | refused op e he => cases hr
  | started s z ns v hact hnew hv =>
    rcases ProviderEventValidator.recordInput_cases c.validator z ns with
      ⟨e, -, heq⟩ | ⟨hop, -, hterm, -, heq⟩ <;> rw [hv] at heq <;> cases heq
    have hq := quiet_request none
    by_cases hne : u = z
    · subst hne
      have hncap : u ∉ c.validator.inputCaptureNs := fun hin => hnew ((hagree.keys u).mpr hin)
      have hnone : playedIn log u = [] := h.fresh hncap hterm
      have hplayed : playedIn (log ++ [(.capture (.speechStarted s u ns), .ok (.request none))]) u
          = [] := by rw [playedIn_concat, quiet_plays hq, hnone]; rfl
      refine ⟨fun _ => hop, fun _ _ => ?_, fun _ _ => hplayed, ?_, fun x hx haw => ?_⟩
      · rw [hplayed]
        exact ⟨AList.lookup_eq_none.mpr fun hin => hncap (hs.coherent.wire_sub u hin),
          AList.lookup_eq_none.mpr fun hin => hncap (hs.coherent.playable_sub u hin)⟩
      · rintro ⟨b, hb, hsil⟩
        rcases List.mem_append.mp hb with hb | hb
        · exact h.silenced ⟨b, hb, hsil⟩
        · cases List.mem_singleton.mp hb
          exact absurd hsil (quiet_silences hq)
      · obtain rfl := Option.some.inj ((AList.lookup_insert _).symm.trans hx)
        cases haw
    · refine account_keeps h ⟨quiet_plays hq, ?_, .rfl, id, fun _ => ⟨rfl, rfl⟩, id, fun x hx haw => ?_,
        fun hsil => absurd hsil (quiet_silences hq)⟩
      · exact ProviderEventValidator.mem_orInsert.trans (or_iff_right hne)
      · exact .inr ⟨x, by rwa [put_lookup_ne hne] at hx, haw⟩

/-- The end of an utterance starts the wait for its audio. -/
theorem account_inputEnded (h : Account log c u) {frame : PcmFrame} {q : Option ProviderRequest}
    (hm : Move c (.recordEndOfUtterance s z now) (.ok .done) c') :
    Account (log ++ [(.capture (.frame s z frame true), .ok (.request q))]) c' u := by
  generalize hr : (Outcome.ok .done : ProviderStreamCoordinator.Result) = r at hm
  cases hm with
  | refused op e he => cases hr
  | inputEnded s z now deadline hact hl hd =>
    rcases ProviderEventValidator.recordEndOfUtterance_cases c.validator z now with
      ⟨e, -, heq⟩ | ⟨-, -, -, heq⟩ <;> rw [heq] at hr ⊢
    · cases hr
    have hq := quiet_request q
    refine account_keeps h ⟨quiet_plays hq, .rfl, .rfl, id, fun _ => ⟨rfl, rfl⟩, id, fun x hx haw => ?_,
      fun hsil => absurd hsil (quiet_silences hq)⟩
    by_cases hne : u = z
    · subst hne
      exact .inl ⟨s, frame, q, rfl⟩
    · exact .inr ⟨x, by rwa [put_lookup_ne hne] at hx, haw⟩

/-- While the session is live the validator never refuses an end the watchdog has taken. -/
theorem inputEnded_ok (hs : Sound c) (hagree : Agree c) (hl : Live c) (h : Account log c z)
    {deadline : Nat} (hw : c.watchdog.utterances.lookup z = some ⟨s, .collectingInput deadline⟩) :
    (c.validator.recordEndOfUtterance z now).1 = .ok () := by
  have hin : z ∈ c.validator.inputCaptureNs :=
    (hagree.keys z).mp (by rw [Table.mem_iff_isSome, hw]; rfl)
  simp [ProviderEventValidator.recordEndOfUtterance, h.opened hin, hl.2,
    (hs.coherent.complete_iff z).mpr hin]

theorem account_expired (hs : Sound c) (hl : Live c') (h : Account log c u) {a : ProviderAudioDelta}
    {c₁ : ProviderStreamCoordinator} {request : ProviderRequest} (hid : a.utteranceId = some z)
    (hm : Move c (.validateEvent (some (.audioDelta a)) now) (.err (.validation .expiredAudio)) c₁)
    (hx : Move c₁ (.cancelExpiredUtterance s z now)
      (.ok (.actions [.cancelUtterance c₁.watchdog.sessionId s z true])) c') :
    Account (log ++ [(.providerEvent (some (.audioDelta a)) now,
      .ok (.effects [.expiredAudio z request]))]) c' u := by
  have hl₁ : Live c₁ := ProviderStreamCoordinator.live_of_move hx hl
  obtain ⟨v, hv, rfl⟩ : ∃ v, c.validator.validate (some (.audioDelta a)) now
      = (.err .expiredAudio, v) ∧ c₁ = c.withValidator v := by
    generalize hr : (Outcome.err (.validation .expiredAudio) : ProviderStreamCoordinator.Result) = r
      at hm
    cases hm with
    | refused op e he => cases hr; cases he _ rfl
    | judged event now j v hadm hv hj =>
      cases j with
      | err e => cases hr; exact ⟨v, hv, rfl⟩
      | _ => cases hr
    | _ => cases hr
  have hk := ProviderStreamCoordinator.kept_of_validate hs hv hl₁.2 (.inl (by simp))
  generalize hr : (Outcome.ok (.actions [.cancelUtterance
    (c.withValidator v).watchdog.sessionId s z true]) : ProviderStreamCoordinator.Result) = r at hx
  cases hx with
  | refused op e he => cases hr
  | expired s z now x hact hlk hsx haw hcan =>
    have hcan' : ∀ u, u ∈ insert z v.cancelPending ↔ u = z ∨ u ∈ c.validator.cancelPending := by
      intro u; rw [Finset.mem_insert, hk.cancel]
    refine account_keeps h ⟨rfl, ?_, ?_, fun hc => (hcan' u).mpr (.inr hc), fun hnc => ?_, ?_,
      fun y hy hyaw => ?_, ?_⟩
    · show u ∈ v.inputCaptureNs ↔ _
      rw [hk.capture]
    · show u ∈ v.terminalUtterances ↔ _
      rw [hk.terminal]
    · have hne : u ≠ z := fun e => hnc ((hcan' u).mpr (.inl e))
      refine ⟨?_, ?_⟩
      · show v.lastWireAudioSequence.lookup u = _
        obtain ⟨z', hid', -, -, -, -, rfl⟩ := expired_facts hv
        obtain rfl : z' = z := by simpa [hid] using hid'.symm
        simp only [ProviderEventValidator.see, ProviderEventValidator.hearWire,
          ProviderEventValidator.clear_wire]
        rw [Table.lookup_insert_if, if_neg hne]
      · show v.lastPlayableAudioSequence.lookup u = _
        rw [ProviderEventValidator.validate_playable hs.coherent hv (by simp) (by simp)]
    · show c.validator.opened = true → v.opened = true
      exact ProviderEventValidator.validate_opened hv (by simp)
    · by_cases hne : u = z
      · subst hne
        obtain rfl := Option.some.inj ((AList.lookup_insert _).symm.trans hy)
        cases hyaw
      · rw [put_lookup_ne hne] at hy
        exact .inr ⟨y, hy, hyaw⟩
    · rintro (⟨effects, -, hr', -⟩ | ⟨q, hq⟩ | hq)
      · cases hr'
      · cases List.mem_singleton.mp hq
        exact Finset.mem_insert_self _ _
      · cases List.mem_singleton.mp hq

theorem plays_playback {frame : PcmFrame} :
    plays (op, .ok (.effects [.playback s z frame])) u = if z = u then [frame.sequence] else [] := by
  by_cases h : z = u <;> simp [plays, effectsOf, playedSequence, h]

theorem silences_playback {frame : PcmFrame} :
    ¬ Silences (op, .ok (.effects [.playback s z frame])) u := by
  rintro (⟨effects, -, hr, -⟩ | ⟨q, hq⟩ | hq)
  · cases hr
  · cases List.mem_singleton.mp hq
  · cases List.mem_singleton.mp hq

/-- A played frame is the next one and moves both counters to it. -/
theorem account_played (h : Account log c u) {a : ProviderAudioDelta} {frame : PcmFrame}
    (hut : a.utteranceId = some z) (hc : c.watchdog.checkAudioDelta s z now = .ok ())
    (hv : c.validator.validate (some (.audioDelta a)) now = (.ok (), v))
    (hseq : frame.sequence = a.sequence) :
    Account (log ++ [(.providerEvent (some (.audioDelta a)) now,
      .ok (.effects [.playback s z frame]))]) (played c v s z now) u := by
  obtain ⟨-, x, hx, -, haw, -⟩ := ProviderAudioWatchdog.checkAudioDelta_ok.mp hc
  obtain ⟨z', done, hid, hnc, -, hact, -, -, -, rfl⟩ := ProviderEventValidator.validate_audio_ok hv
  obtain rfl : z' = z := by simpa [hut] using hid.symm
  by_cases hne : u = z'
  · subst hne
    have hplayed : playedIn (log ++ [(.providerEvent (some (.audioDelta a)) now,
        .ok (.effects [.playback s u frame]))]) u = playedIn log u ++ [a.sequence] := by
      rw [playedIn_concat, plays_playback, if_pos rfl, hseq]
    refine ⟨fun _ => ?_, fun _ _ => ?_, fun hin => ?_, ?_, fun y hy hyaw => ?_⟩
    · simpa [played, ProviderEventValidator.see, ProviderEventValidator.play,
        ProviderEventValidator.hearWire] using h.opened hact.1
    · rw [hplayed, List.getLast?_concat]
      exact ⟨AList.lookup_insert _, AList.lookup_insert _⟩
    · refine absurd ?_ hin
      simpa [played, ProviderEventValidator.see, ProviderEventValidator.play,
        ProviderEventValidator.hearWire] using hact.1
    · rintro ⟨b, hb, hsil⟩
      rcases List.mem_append.mp hb with hb | hb
      · have := h.silenced ⟨b, hb, hsil⟩
        exact (this.elim hnc hact.2).elim
      · cases List.mem_singleton.mp hb
        exact absurd hsil silences_playback
    · obtain ⟨b, hb, hcap⟩ := h.awaited x hx haw
      exact ⟨b, List.mem_append_left _ hb, hcap⟩
  · refine account_keeps h ⟨?_, ?_, ?_, ?_, fun _ => ⟨?_, ?_⟩, ?_, fun y hy hyaw => ?_,
      fun hsil => absurd hsil silences_playback⟩
    · rw [plays_playback, if_neg (Ne.symm hne)]
    · simp [played, ProviderEventValidator.see, ProviderEventValidator.play,
        ProviderEventValidator.hearWire]
    · simp [played, ProviderEventValidator.see, ProviderEventValidator.play,
        ProviderEventValidator.hearWire]
    · simp [played, ProviderEventValidator.see, ProviderEventValidator.play,
        ProviderEventValidator.hearWire]
    · simp only [played, ProviderEventValidator.see, ProviderEventValidator.play,
        ProviderEventValidator.hearWire, ProviderEventValidator.clear_wire]
      rw [Table.lookup_insert_if, if_neg hne]
    · simp only [played, ProviderEventValidator.see, ProviderEventValidator.play,
        ProviderEventValidator.hearWire, ProviderEventValidator.clear_playable]
      rw [Table.lookup_insert_if, if_neg hne]
    · simp [played, ProviderEventValidator.see, ProviderEventValidator.play,
        ProviderEventValidator.hearWire]
    · exact .inr ⟨y, by rwa [played, put_lookup_ne hne] at hy, hyaw⟩

theorem plays_terminal {t : TerminalOutcome} :
    plays (op, .ok (.effects [.utteranceTerminalOutcome z t, .utteranceTerminal z])) u = [] := rfl

theorem silences_terminal {t : TerminalOutcome} :
    Silences (op, .ok (.effects [.utteranceTerminalOutcome z t, .utteranceTerminal z])) u ↔
      u = z := by
  constructor
  · rintro (⟨effects, -, hr, -⟩ | ⟨q, hq⟩ | hq)
    · cases hr
    · simp [effectsOf] at hq
    · simpa [effectsOf] using hq
  · rintro rfl; exact .inr (.inr (by simp [effectsOf]))

/-- An accepted final closes the account of its utterance. -/
theorem account_finished (h : Account log c u) {f : ProviderUtteranceFinal} {o : UtteranceOutcome}
    {t : TerminalOutcome} (hut : f.utteranceId = some z)
    (hv : c.validator.validate (some (.utteranceFinal f)) now = (.ok (), v)) :
    Account (log ++ [(op, .ok (.effects [.utteranceTerminalOutcome z t, .utteranceTerminal z]))])
      ((c.withValidator v).finish s z o) u := by
  have hr := ProviderStreamCoordinator.finished_retired hut hv
  have hopen : c.validator.opened = true → v.opened = true :=
    ProviderEventValidator.validate_opened hv (by simp)
  by_cases hne : u = z
  · subst hne
    have hout : u ∉ v.inputCaptureNs := by rw [hr.capture]; simp [AList.mem_erase]
    have hterm : u ∈ v.terminalUtterances := by rw [hr.terminal]; exact Finset.mem_insert_self _ _
    refine ⟨fun hin => absurd hin hout, fun hin => absurd hin hout, fun _ hn => absurd hterm hn,
      fun _ => .inr hterm, fun x hx _ => ?_⟩
    rw [show ((c.withValidator v).finish s u o).watchdog.utterances
      = c.watchdog.utterances.erase u from rfl, AList.lookup_erase] at hx
    cases hx
  · refine account_keeps h ⟨plays_terminal, ?_, ?_, ?_, fun _ => ⟨?_, ?_⟩, hopen, fun x hx haw => ?_,
      fun hsil => absurd (silences_terminal.mp hsil) hne⟩
    · show u ∈ v.inputCaptureNs ↔ _
      rw [hr.capture, AList.mem_erase, and_iff_right hne]
    · show u ∈ v.terminalUtterances ↔ _
      rw [hr.terminal, Finset.mem_insert, or_iff_right hne]
    · show _ → u ∈ v.cancelPending
      rw [hr.cancel, Finset.mem_erase]
      exact fun hin => ⟨hne, hin⟩
    · show v.lastWireAudioSequence.lookup u = _
      obtain ⟨path, z', hid, -, -, rfl⟩ := ProviderEventValidator.validate_final_ok hv
      obtain rfl : z' = z := by simpa [hut] using hid.symm
      simp only [ProviderEventValidator.see, ProviderEventValidator.retire,
        ProviderEventValidator.settle_wire]
      rw [Table.lookup_erase_if, if_neg hne]
    · show v.lastPlayableAudioSequence.lookup u = _
      rw [hr.played, Table.lookup_erase_if, if_neg hne]
    · change (c.watchdog.utterances.erase z).lookup u = some x at hx
      rw [Table.lookup_erase_if, if_neg hne] at hx
      exact .inr ⟨x, hx, haw⟩

/-- `poll` may cancel an utterance; it counts nothing and captures nothing. -/
theorem account_polled (hl : Live c') (h : Account log c u) {actions : List WatchdogAction}
    (hm : Move c (.poll now) (.ok (.actions actions)) c') :
    Account (log ++ [(.poll now, .ok (.watchdog (actions.map d.watchdogEffect)))]) c' u := by
  generalize hr : (Outcome.ok (.actions actions) : ProviderStreamCoordinator.Result) = r at hm
  cases hm with
  | refused op e he => cases hr
  | polled now c' hcheck hp =>
    obtain rfl : actions = (c.watchdog.poll now).1 := by injection hr with h; injection h
    obtain ⟨marked, hv, hmem⟩ := hp.validator
    have hlive := hl.1
    rw [hp.watchdog] at hlive
    refine account_keeps h ⟨rfl, by rw [hv], by rw [hv], ?_, fun _ => by rw [hv]; exact ⟨rfl, rfl⟩,
      by rw [hv]; exact id, fun x hx haw => ?_, ?_⟩
    · rw [hv]; exact fun hin => (hmem u).mpr (.inl hin)
    · rw [hp.watchdog, ProviderStreamCoordinator.poll_live hlive,
        ProviderAudioWatchdog.swept_lookup] at hx
      obtain ⟨y, hy, rfl⟩ := Option.map_eq_some_iff.mp hx
      refine .inr ⟨y, hy, ?_⟩
      unfold ProviderAudioWatchdog.polled at haw
      split at haw
      · cases haw
      · exact haw
    · rintro (⟨effects, request, hr', hin, hcan⟩ | ⟨q, hq⟩ | hq)
      · cases hr'
        obtain ⟨action, hact, heff⟩ := List.mem_map.mp hin
        rw [hv]
        refine (hmem u).mpr (.inr ?_)
        cases action with
        | cancelUtterance session s z purge =>
          cases heff
          obtain rfl : z = u := Option.some.inj hcan
          exact ⟨session, s, purge, hact⟩
        | closeProviderSession session => cases heff; cases hcan
        | restartSidecar session => cases heff
      · cases hq
      · cases hq

theorem account_judged (hs : Sound c) (hl : Live c') (h : Account log c u) {event : Event}
    {e : ProviderStreamCoordinatorError} (hnx : e ≠ .validation .expiredAudio)
    (hm : Move c (.validateEvent (some event) now) (.err e) c') (hq : Quiet r) :
    Account (log ++ [(op, r)]) c' u := by
  generalize hr : (Outcome.err e : ProviderStreamCoordinator.Result) = x at hm
  cases hm with
  | refused op e he => exact account_keeps h (keeps_same hq rfl)
  | judged event now j v hadm hv hj =>
    refine account_keeps h (keeps_validate hs hv hl.2 (.inl hj) (fun a _ => ⟨hj, ?_⟩) hq)
    rintro rfl
    cases hr
    exact hnx rfl
  | _ => cases hr

/-- Every call keeps the accounts while the session is live. -/
theorem account_turn (hset : Settled d) (ht : Turn d op r d') (hl : Live d'.coordinator)
    (hlive : Live d.coordinator) (h : ∀ u, Account log d.coordinator u) (u : Uuid) :
    Account (log ++ [(op, r)]) d'.coordinator u := by
  have hs := hset.sound
  have hagree := hset.agree hlive
  cases ht with
  | refused op e d' hc => exact account_keeps (h u) (keeps_same (quiet_err e) hc)
  | started s z ns d' hm => exact account_started hs hagree (h u) hm
  | framed s z frame d' hc => exact account_keeps (h u) (keeps_same (quiet_request _) hc)
  | inputEnded s z frame d' hm => exact account_inputEnded (h u) hm
  | inputRefused s z frame e d' hm =>
    generalize hr : (Outcome.err e : ProviderStreamCoordinator.Result) = x at hm
    generalize d'.coordinator = c' at hm
    cases hm with
    | refused op e he => exact account_keeps (h u) (keeps_same (quiet_err _) rfl)
    | inputEnded s z now deadline hact hlk hd =>
      rw [inputEnded_ok hs hagree hlive (h z) hlk] at hr
      cases hr
  | judged event now e d' hm hne hnx => exact account_judged hs hl (h u) hnx hm (quiet_err _)
  | dropped a z now d' v hid hc hadm hv hd =>
    rw [hd] at hl ⊢
    exact account_keeps (h u) (keeps_validate hs hv hl.2 (.inl (by simp)) (by simp)
      ⟨by simp, by simp [effectsOf]⟩)
  | expired a s z now d' c' hid hm hx => exact account_expired hs hl (h u) hid hm hx
  | playback a s z now frame v d' hst hut hc hv hseq hpcm hd =>
    rw [hd]; exact account_played (h u) hut hc hv hseq
  | finished f s z o t now v d' hadm hv ht hd => rw [hd]; exact account_finished (h u) hadm.2.1 hv
  | shut z now d' v hv hd => rw [hd] at hl; cases hl.1
  | noted event now v d' hadm hau hf hcl hv hd =>
    rw [hd] at hl ⊢
    exact account_keeps (h u) (keeps_validate hs hv hl.2 (.inr hf)
      (fun x hx => absurd hx (hau x)) (quiet_report event))
  | polled now actions d' hm => exact account_polled hl (h u) hm

/-! ### Every run -/

/-- Frames numbered from 0 without a gap, followed by the next one. -/
theorem range_concat {frames : List UInt64} {n : UInt64}
    (h : frames.map UInt64.toNat = List.range frames.length)
    (hn : v.NextAudio u n) (hw : v.lastWireAudioSequence.lookup u = frames.getLast?) :
    (frames ++ [n]).map UInt64.toNat = List.range (frames ++ [n]).length := by
  have hlast : n.toNat = frames.length := by
    rcases List.eq_nil_or_concat frames with rfl | ⟨init, p, rfl⟩
    · rw [ProviderEventValidator.NextAudio, hw] at hn
      dsimp only [List.getLast?_nil] at hn
      rw [hn]; rfl
    · rw [List.concat_eq_append] at h hw ⊢
      rw [ProviderEventValidator.NextAudio, hw, List.getLast?_concat] at hn
      dsimp only at hn
      rw [List.map_append, List.length_append, List.length_singleton, List.range_succ] at h
      have hp := (List.append_inj' h rfl).2
      have : p.toNat = init.length := by simpa using hp
      rw [hn, this, List.length_append, List.length_singleton]
  rw [List.map_append, h, List.length_append, List.length_singleton, List.range_succ]
  simp [hlast]

/-- A call that plays something accepted a frame while the session was live. -/
theorem turn_plays (ht : Turn d op r d') (hp : plays (op, r) u ≠ []) :
    ∃ a s now frame v, op = .providerEvent (some (.audioDelta a)) now
      ∧ r = .ok (.effects [.playback s u frame]) ∧ frame.sequence = a.sequence
      ∧ a.utteranceId = some u ∧ d.coordinator.watchdog.checkAudioDelta s u now = .ok ()
      ∧ d.coordinator.validator.validate (some (.audioDelta a)) now = (.ok (), v) := by
  cases ht with
  | playback a s z now frame v d' hst hut hc hv hseq hpcm hd =>
    rw [plays_playback] at hp
    split at hp
    · next heq => subst heq; exact ⟨a, s, now, frame, v, rfl, rfl, hseq, hut, hc, hv⟩
    · exact absurd rfl hp
  | noted event now v d' hadm hau hf hcl hv hd => exact absurd (quiet_plays (quiet_report event)) hp
  | _ => exact absurd rfl hp

/-- A call that accepts a completed final checked it against the playable counter. -/
theorem turn_completes (ht : Turn d op r d') {n : Option UInt64} (hc : Completes (op, r) u n) :
    Live d.coordinator ∧ u ∈ d.coordinator.validator.inputCaptureNs
      ∧ u ∉ d.coordinator.validator.cancelPending
      ∧ n = d.coordinator.validator.lastPlayableAudioSequence.lookup u := by
  obtain ⟨f, now, answer, ha, hut, hout, rfl⟩ := hc
  cases ha
  cases ht with
  | finished f s z o t now v d' hadm hv ht hd =>
    obtain ⟨hact, -⟩ := ProviderAudioWatchdog.checkFinal_ok.mp hadm.2.2.2
    obtain ⟨path, z', hid, hset, -, -⟩ := ProviderEventValidator.validate_final_ok hv
    obtain rfl : z' = u := by simpa [hut] using hid.symm
    refine ⟨⟨hact, (ProviderEventValidator.validate_ok hv).1.1⟩, ?_⟩
    cases path with
    | cancelled => have := hset.2.1; rw [hout] at this; cases this
    | overflow => have := hset.2.2.1; rw [hout] at this; cases this
    | noSpeech => have := hset.2.2.2.1; rw [hout] at this; cases this
    | plain => exact ⟨hset.2.2.1.1, hset.1, hset.2.2.2.2⟩
  | noted event now v d' hadm hau hf hcl hv hd => exact absurd rfl (hf f)

/-- The invariant of a run of the session. -/
structure PlaybackInv (log : List Entry) (d : DirectionSession) : Prop where
  settled : Settled d
  account : Live d.coordinator → ∀ u, Account log d.coordinator u
  playback : ∀ u, Playback log u

theorem playback_turn (ht : Turn d op r d') (h : PlaybackInv log d) (u : Uuid) :
    Playback (log ++ [(op, r)]) u := by
  obtain ⟨hcont, htime, hcomp⟩ := h.playback u
  by_cases hp : plays (op, r) u = []
  · refine ⟨?_, atEach_concat htime fun hn => absurd hp hn, atEach_concat hcomp fun n hc => ?_⟩
    · rw [playedIn_concat, hp, List.append_nil]; exact hcont
    · obtain ⟨hlive, hin, hnc, rfl⟩ := turn_completes ht hc
      exact ((h.account hlive u).counted hin hnc).2
  · obtain ⟨a, s, now, frame, v, rfl, rfl, hseq, hut, hc, hv⟩ := turn_plays ht hp
    obtain ⟨hact, x, hx, -, haw, -⟩ := ProviderAudioWatchdog.checkAudioDelta_ok.mp hc
    have hlive : Live d.coordinator := ⟨hact, (ProviderEventValidator.validate_ok hv).1.1⟩
    have hacc := h.account hlive u
    obtain ⟨z, done, hid, hnc, -, hactive, hnext, -⟩ := ProviderEventValidator.validate_audio_ok hv
    obtain rfl : z = u := by simpa [hut] using hid.symm
    have hplays : plays (.providerEvent (some (.audioDelta a)) now,
        .ok (.effects [.playback s z frame])) z = [a.sequence] := by
      rw [plays_playback, if_pos rfl, hseq]
    refine ⟨?_, atEach_concat htime fun _ => ⟨hacc.awaited x hx haw, fun b hb hsil => ?_⟩,
      atEach_concat hcomp fun n hcompl => ?_⟩
    · rw [playedIn_concat, hplays]
      exact range_concat hcont hnext (hacc.counted hactive.1 hnc).1
    · exact (hacc.silenced ⟨b, hb, hsil⟩).elim hnc hactive.2
    · obtain ⟨f, now', answer, heq, -⟩ := hcompl
      cases heq

theorem live_before (h : Settled d) (op : Op) (hl : Live (d.apply op).2.coordinator) :
    Live d.coordinator := by
  have ht := apply_turn h op
  generalize (d.apply op).1 = r at ht
  generalize (d.apply op).2 = d' at ht hl
  cases ht with
  | refused op e d' hc => rwa [hc] at hl
  | started s u ns d' hm => exact ProviderStreamCoordinator.live_of_move hm hl
  | framed s u frame d' hc => rwa [hc] at hl
  | inputEnded s u frame d' hm => exact ProviderStreamCoordinator.live_of_move hm hl
  | inputRefused s u frame e d' hm => exact ProviderStreamCoordinator.live_of_move hm hl
  | judged event now e d' hm hne hnx => exact ProviderStreamCoordinator.live_of_move hm hl
  | dropped a u now d' v hid hc hadm hv hd =>
    rw [hd] at hl; exact ⟨hl.1, ProviderStreamCoordinator.open_before hv hl.2⟩
  | expired a s u now d' c' hid hm hx =>
    exact ProviderStreamCoordinator.live_of_move hm (ProviderStreamCoordinator.live_of_move hx hl)
  | playback a s u now frame v d' hst hut hc hv hseq hpcm hd =>
    rw [hd] at hl; exact ⟨hl.1, ProviderStreamCoordinator.open_before hv hl.2⟩
  | finished f s u o t now v d' hadm hv ht hd =>
    rw [hd] at hl; exact ⟨hl.1, ProviderStreamCoordinator.open_before hv hl.2⟩
  | shut z now d' v hv hd => rw [hd] at hl; cases hl.1
  | noted event now v d' hadm hau hf hcl hv hd =>
    rw [hd] at hl; exact ⟨hl.1, ProviderStreamCoordinator.open_before hv hl.2⟩
  | polled now actions d' hm => exact ProviderStreamCoordinator.live_of_move hm hl

theorem playbackInv_new (config : DirectionRuntimeConfig) (sessionId streamId : Uuid) :
    PlaybackInv [] (new config sessionId streamId) where
  settled := settled_new config sessionId streamId
  account := fun _ u => account_new _ u
  playback := fun _ => ⟨rfl, atEach_nil _, atEach_nil _⟩

theorem playbackInv_step (h : PlaybackInv log d) (op : Op) :
    PlaybackInv (log ++ [(op, (d.apply op).1)]) (d.apply op).2 where
  settled := settled_step h.settled op
  account := fun hl u =>
    have hlive := live_before h.settled op hl
    account_turn h.settled (apply_turn h.settled op) hl hlive (h.account hlive) u
  playback := fun u => playback_turn (apply_turn h.settled op) h u

theorem run_playbackInv (config : DirectionRuntimeConfig) (sessionId streamId : Uuid)
    (ops : List Op) : PlaybackInv (exec apply (new config sessionId streamId) ops).1
      (exec apply (new config sessionId streamId) ops).2 :=
  exec_invariant (I := PlaybackInv) (playbackInv_new config sessionId streamId)
    (fun _ _ op h _ => playbackInv_step h op) ops (adm_true _ _ _)

/-- In every run of a direction session every utterance is played by the rules. -/
theorem run_plays_in_order (config : DirectionRuntimeConfig) (sessionId streamId : Uuid)
    (ops : List Op) (u : Uuid) :
    Playback (exec apply (new config sessionId streamId) ops).1 u :=
  (run_playbackInv config sessionId streamId ops).playback u

/-! ### A sample direction -/

def sampleConfig : DirectionRuntimeConfig :=
  ⟨.local, .microphone, .ru, .en, .balanced, .female, .piper, false⟩

/-- A captured frame of silence. -/
theorem silence_fits :
    (List.replicate 640 (0 : UInt8)).length = Core.StreamPcmFormat.providerDefault.frameBytes := List.length_replicate

def silence : PcmFrame := ⟨0, 0, .providerDefault, List.replicate 640 0, silence_fits⟩

/-- Frame `n` of utterance 7, as event number `event`. -/
def sampleAudio (event n : UInt64) : Event :=
  .audioDelta
    { toCommonFields := ProviderEventValidator.sampleFields "translator.provider.audio_delta.v1" event
      streamId := some 2
      utteranceId := some 7
      sequence := n
      providerMonotonicNs := 0
      sampleRateHz := 16000
      channels := 1
      sampleFormat := 1
      frameDurationMs := 20
      pcm := List.replicate 640 0 }

/-- An utterance of which two frames are played. -/
def spokenRun : List Op :=
  [.providerEvent (some ProviderEventValidator.sampleOpened) 0,
    .capture (.speechStarted 2 7 0), .capture (.frame 2 7 silence true),
    .providerEvent (some (sampleAudio 2 0)) 0, .providerEvent (some (sampleAudio 3 1)) 0]

example : playedIn (exec apply (new sampleConfig 1 2) spokenRun).1 7 = [0, 1] := by
  decide +kernel

end DirectionSession

end Translator.Stream
