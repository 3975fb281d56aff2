import Translator.Routing.Coverage

/-! Recovery after a crash. The journal is written after the move, so a process that dies in between
    leaves a moved stream that no journal names. What is left to a fresh watcher then is its way with
    stale streams, which asks for more than that the stream was moved. -/

namespace Translator.Routing

open Schemes

variable {codec : JournalCodec} {host : Host} {s : Scene} {i : Nat}

theorem undisturbed_takesBack : False → True := fun _ => trivial

/-- Streams can be given back within the calls, and the journal is on the way of the calls alone. -/
def recoveryTerms : Terms := ⟨True, False, True, True, undisturbed_takesBack⟩

/-- What a call has to meet for a crash to leave no other trace of its routes: what it takes it can
    give back, no removal of the journal is refused, no save fails after the new file is in place, and
    the captures of a route it is to forget can go back. -/
def WatcherCall.Recoverable (host : Host) (s : Scene) : WatcherCall → Prop
  | .reconcile manualStreamId => host.GivesBack s.server ∧ host.Confirms ∧ host.Clears
    ∧ (manualStreamId = none → host.GivesUp s)
  | .routeVirtualPeer _ => host.GivesBack s.server ∧ host.Confirms ∧ host.Clears ∧ host.Reports
    ∧ s.watcher.activeRoute = none
  | .restoreActive | .restoreVirtualPeer => host.Clears

def Operation.Recoverable (codec : JournalCodec) (s : Scene) : Operation → Prop
  | .change server fresh _ => KeepsHeld s server fresh
  | .call request answers => request.Recoverable ⟨codec, answers⟩ s

theorem Operation.Recoverable.meets {op : Operation} (h : op.Recoverable codec s) :
    op.Meets codec recoveryTerms s := by
  cases op with
  | change server fresh freshOutputs => exact ⟨fun _ => h, nofun⟩
  | call request answers =>
    cases request with
    | reconcile manualStreamId => exact ⟨fun _ => h.1, fun _ => h.2⟩
    | restoreActive => exact fun _ => h
    | routeVirtualPeer capability =>
      obtain ⟨hback, hconfirms, hclears, hreports⟩ := h
      exact ⟨nofun, fun _ => ⟨hback, hreports⟩, fun _ => ⟨hconfirms, hclears⟩⟩
    | restoreVirtualPeer => exact ⟨nofun, fun _ => h⟩

/-! ### A fresh watcher -/

/-- The process starts again, on the journal that is there. -/
def Scene.restarted (codec : JournalCodec) (s : Scene) : Scene :=
  let watcher := PulseRoutingWatcher.newWithRouteJournal codec s.watcher.profile s.journal
  { s with watcher := watcher, ledger := .inherited watcher s.server }

/-- So many looks with everything carried out and nothing else going on. -/
def Scene.looks (codec : JournalCodec) (s : Scene) (n : Nat) : Scene :=
  (exec (Scene.step codec) s (List.replicate n (.call (.reconcile none) allDone))).2

/-- A fresh watcher takes the stream off the translator's sink in the end. -/
def Recovers (codec : JournalCodec) (s : Scene) (i : Nat) : Prop :=
  ∃ n, ((s.restarted codec).looks codec n).server.sinkOf i ≠ some remoteInSink

/-- `restore_stale_remote_conflict` takes the stream: it is alone on the translator's sink, known, not
    a call, and there is a sink for it to go to. -/
def Scene.Cleans (s : Scene) (i : Nat) : Prop :=
  ∃ c sink, (s.watcher.snapshot s.server).conflictingStreamIds = [i]
    ∧ (s.watcher.snapshot s.server).staleRemoteCandidates = [c] ∧ c.streamId = i
    ∧ c.callLike = false ∧ (s.watcher.snapshot s.server).fallbackRestoreSinkName = some sink

theorem restarted_starts (codec : JournalCodec) (s : Scene) : (s.restarted codec).Starts codec :=
  ⟨.inr rfl, rfl⟩

theorem looks_one : s.looks codec 1
    = (reconcile ⟨codec, allDone⟩ none { s with tick := 0 }).2 := rfl

/-- A conflict that is not cleaned is reported, and nothing changes. -/
theorem reconcile_stuck (hnone : s.watcher.activeRoute = none)
    (hpending : s.watcher.routeRecoveryPending = false)
    (hsink : s.server.sinkOf i = some remoteInSink) (hnot : ¬ s.Cleans i) :
    (reconcile host none).wp ⟨fun _ s' => s'.still = s.still, fun _ s' => s'.still = s.still,
      fun _ => True⟩ s := by
  have hmem := PulseRoutingWatcher.mem_conflicts hnone hsink
  have hconflict : (s.watcher.snapshot s.server).conflictingStreamIds ≠ [] :=
    List.ne_nil_of_mem hmem
  refine reconcile_wp ⟨fun _ _ _ => trivial, fun _ _ hs' => hs', fun _ _ hs' _ => hs', ?_, ?_, ?_,
    ?_, ?_⟩
  · intro _ hp
    rw [hpending] at hp
    cases hp
  · intro s' c sink _ _ _ hstale hids hcall hfallback
    -- the one conflict is the stream
    obtain rfl : i = c.streamId := by
      rw [hids] at hmem
      exact List.mem_singleton.mp hmem
    exact absurd ⟨c, sink, hids, hstale, rfl, hcall, hfallback⟩ hnot
  · intro s' c _ hclean
    exact absurd hclean hconflict
  · intro s' r c _ _ hclean
    exact absurd hclean hconflict
  · intro s' r _ _ hclean
    exact absurd hclean hconflict

/-- So a stream that is not cleaned stays, however often the watcher looks. -/
theorem looks_stuck (hnone : s.watcher.activeRoute = none)
    (hpending : s.watcher.routeRecoveryPending = false)
    (hsink : s.server.sinkOf i = some remoteInSink) (hnot : ¬ s.Cleans i) (n : Nat) :
    (s.looks codec n).still = s.still := by
  have hadm : Adm (Scene.step codec) (fun _ op => op = Operation.call (.reconcile none) allDone) s
      (List.replicate n (.call (.reconcile none) allDone)) :=
    adm_of_forall fun op hop _ => List.eq_of_mem_replicate hop
  refine exec_invariant (I := fun _ (s' : Scene) => s'.still = s.still) rfl ?_ _ hadm
  rintro _ s₁ _ hs₁ rfl
  have hw : s₁.watcher = s.watcher := still_watcher hs₁
  have hv : s₁.server = s.server := still_server hs₁
  have hstuck := @reconcile_stuck ⟨codec, allDone⟩ { s₁ with tick := 0 } i (by rw [hw, hnone])
    (by rw [hw, hpending]) (by rw [hv, hsink]) (by unfold Scene.Cleans; rw [hw, hv]; exact hnot)
  exact (Call.end_of_lives (P := fun s' : Scene => s'.still = s₁.still)
    (reconcile_lives (allDone_spares codec) none) hstuck).trans hs₁

/-- A stale stream that is moved is where it was moved to. -/
theorem restoreStaleStream_off {c : RouteCandidate} {sink : String} (hcarries : host.Carries)
    (hon : (s.server.sinkOf c.streamId).isSome) (hsink : (nodeNamed s.server.sinks sink).isSome)
    (hoff : sink ≠ remoteInSink) :
    (restoreStaleStream host c sink).wp
      ⟨fun _ s' => s'.server.sinkOf c.streamId ≠ some remoteInSink,
        fun _ s' => s'.server.sinkOf c.streamId ≠ some remoteInSink, fun _ => True⟩ s := by
  unfold restoreStaleStream
  rw [Call.wp_bind]
  refine moveStream_sink (fun s₁ hs₁ => ?_) (fun _ _ _ hnot => ?_) (fun _ _ => trivial)
  · have hs₁ : s₁.server.sinkOf = Function.update s.server.sinkOf c.streamId (some sink) :=
      congrArg SinkSide.sinkOf hs₁
    have hdone : ∀ s' : Scene, s'.server = s₁.server →
        s'.server.sinkOf c.streamId ≠ some remoteInSink := by
      intro s' hs'
      rw [hs', hs₁, Function.update_self]
      simpa using hoff
    simp only [Call.wp_bind, wp_remember]
    refine Call.wp_of_keeps clear_keeps_server (fun _ s₂ hs₂ => ?_) (fun _ s₂ hs₂ => hdone s₂ hs₂)
      (fun _ _ => trivial)
    dsimp only
    refine discover_wp (fun _ _ _ => trivial) (fun s₃ hs₃ _ => ?_) fun s₃ hs₃ => ?_
    · exact hdone s₃ ((still_server hs₃).trans hs₂)
    · exact (hdone s₃ ((still_server hs₃).trans hs₂) :)
  · exact absurd ⟨hcarries.grants rfl, hon, hsink⟩ hnot

/-- A stream that is cleaned is off the translator's sink after one look. -/
theorem reconcile_cleans (hnone : s.watcher.activeRoute = none)
    (hpending : s.watcher.routeRecoveryPending = false)
    (hsink : s.server.sinkOf i = some remoteInSink) (hcleans : s.Cleans i)
    (hcarries : host.Carries) :
    (reconcile host none).wp ⟨fun _ s' => s'.server.sinkOf i ≠ some remoteInSink,
      fun _ s' => s'.server.sinkOf i ≠ some remoteInSink, fun _ => True⟩ s := by
  obtain ⟨c, sink, hids, hstale, rfl, hcall, hfallback⟩ := hcleans
  obtain ⟨hsafe, node, hnode, rfl⟩ := preferredRestore_mem hfallback
  have hrestore : restoreStaleRemoteConflict host [c.streamId] [c] (some node.name)
      = (do let restored ← restoreStaleStream host c node.name; pure (some restored)) := by
    simp [restoreStaleRemoteConflict, hcall]
  unfold reconcile
  simp only [Call.wp_bind, Call.wp_get, hpending, Bool.and_false, Bool.false_eq_true, if_false]
  refine discover_wp (fun _ _ _ => trivial)
    (fun _ _ hnot => absurd (fun _ => hcarries.grants rfl) hnot) fun s₁ hs₁ => ?_
  simp only [hids, List.isEmpty_cons, Bool.not_false, if_true]
  unfold reportConflict
  simp only [Call.wp_bind, Call.wp_get, still_watcher hs₁, hnone, Option.isNone_none, Bool.and_true,
    if_true, hids, hstale, hfallback, hrestore, Call.wp_pure]
  refine restoreStaleStream_off hcarries ?_ ?_ (safeRestoreSinkName_ne hsafe)
  · rw [still_server hs₁, hsink]
    rfl
  · rw [still_server hs₁]
    exact nodeNamed_of_mem hnode

/-- A look of a watcher that has a route to recover. -/
theorem reconcile_recovers (h : s.watcher.routeRecoveryPending = true) :
    reconcile host none { s with tick := 0 } = restoreActive host { s with tick := 0 } := by
  have hcond : ((none : Option Nat).isNone && s.watcher.routeRecoveryPending) = true := by simp [h]
  unfold reconcile
  show (if _ then _ else _ : RoutingCall RoutingState) _ = _
  rw [if_pos hcond]

/-! ### Every crash -/

/-- What a crash leaves is recovered where the journal names a route, or where the stream is cleaned
    as a stale one. -/
theorem recovers_iff (hcrash : Crashed codec recoveryTerms s.sinkSide)
    (hheld : i ∈ s.ledger.sinkInputs.held)
    (hknown : (s.restarted codec).watcher.keyOf s.server i = s.watcher.keyOf s.server i) :
    Recovers codec s i
      ↔ (loadActiveRoute codec s.journal).isSome ∨ (s.restarted codec).Cleans i := by
  obtain ⟨hsink, key, hkey, hjournal⟩ := hcrash trivial trivial trivial i hheld
  have hsink : s.server.sinkOf i = some remoteInSink := hsink
  have hkey : (s.restarted codec).watcher.keyOf s.server i = some key := hknown.trans hkey
  cases hload : loadActiveRoute codec s.journal with
  | none =>
    have hnone : (s.restarted codec).watcher.activeRoute = none := hload
    have hpending : (s.restarted codec).watcher.routeRecoveryPending = false := by
      show (loadActiveRoute codec s.journal).isSome = false
      rw [hload]
      rfl
    simp only [Option.isSome_none, Bool.false_eq_true, false_or]
    constructor
    · rintro ⟨n, hn⟩
      by_contra hnot
      rw [still_server (looks_stuck hnone hpending hsink hnot n)] at hn
      exact hn hsink
    · intro hcleans
      refine ⟨1, ?_⟩
      rw [looks_one]
      exact Call.end_of_lives (P := fun s' => s'.server.sinkOf i ≠ some remoteInSink)
        (reconcile_lives (allDone_spares codec) none)
        (reconcile_cleans hnone hpending hsink hcleans fun _ _ _ => rfl)
  | some r =>
    obtain ⟨rfl, hm, rfl, horiginal, hnamed⟩ : r.streamId = i ∧ r.routeMethod = .pulseMove
        ∧ r.stableAppKey = key ∧ r.originalSinkName ≠ remoteInSink
        ∧ s.sinkSide.hasSink r.originalSinkName = true := by
      rcases hjournal with hjournal | ⟨r', hr', h⟩
      · exact absurd (hload.symm.trans hjournal) (by simp)
      · obtain rfl := Option.some.inj (hload.symm.trans hr')
        exact h
    refine iff_of_true ⟨1, ?_⟩ (.inl rfl)
    have hactive : (s.restarted codec).watcher.activeRoute = some r := hload
    have hall : ∀ {P : IncomingRoute → Prop}, P r →
        ∀ r', (s.restarted codec).watcher.activeRoute = some r' → P r' := by
      intro P hP r' hr'
      obtain rfl := Option.some.inj (hactive.symm.trans hr')
      exact hP
    have hwell : (s.restarted codec).StartsWell coverTerms :=
      ⟨fun _ => hall horiginal, nofun, nofun, fun _ => hall fun _ => hnamed,
        fun _ => hall fun hlinks => by rw [hm] at hlinks; cases hlinks⟩
    have hreleased := afterRestore_releases ((restarted_starts codec s).accounted hwell) trivial
      (restarted_starts codec s).covered
    -- the journal's route is recovered by the first look
    have hpending : (s.restarted codec).watcher.routeRecoveryPending = true := by
      show (loadActiveRoute codec s.journal).isSome = true
      rw [hload]
      rfl
    have hlook : (s.restarted codec).looks codec 1 = (s.restarted codec).afterRestore codec := by
      rw [looks_one, reconcile_recovers hpending]
      rfl
    rw [hlook]
    refine hreleased.streams r.streamId ?_
    rw [(restarted_starts codec s).ledger]
    unfold Ledger.inherited
    rw [hactive]
    dsimp only
    rw [if_pos ⟨hm, hkey⟩]
    exact List.mem_filter.mpr ⟨List.mem_singleton_self _, decide_eq_true hsink⟩

/-- In every run whose calls can be recovered from, and for every crash of the last of them, a stream
    that was moved and that a fresh watcher knows is taken off the translator's sink exactly where the
    journal names its route or the stream is cleaned as a stale one. -/
theorem crash_recovers_iff (hstart : s.Starts codec) (hwell : s.StartsWell recoveryTerms)
    (ops : List Operation)
    (hadm : Adm (Scene.step codec) (fun s op => op.Recoverable codec s ∧ op.Lives codec s) s ops)
    (last : Operation) (hlast : last.Recoverable codec (exec (Scene.step codec) s ops).2)
    (hcrash : ¬ last.Lives codec (exec (Scene.step codec) s ops).2) (s' : Scene)
    (hs' : s' = ((exec (Scene.step codec) s ops).2.step codec last).2)
    (hheld : i ∈ s'.ledger.sinkInputs.held)
    (hknown : (s'.restarted codec).watcher.keyOf s'.server i = s'.watcher.keyOf s'.server i) :
    Recovers codec s' i
      ↔ (loadActiveRoute codec s'.journal).isSome ∨ (s'.restarted codec).Cleans i := by
  have hacc := run_accounted (hstart.accounted hwell) ops
    fun pre op hp => ⟨(hadm pre op hp).1.meets, (hadm pre op hp).2⟩
  have hcrashed := step_crashed hacc hlast.meets hcrash
  rw [← hs'] at hcrashed
  exact recovers_iff hcrashed hheld hknown

/-- The process dies before the first capture is moved. -/
def diesAtCapture : Answers
  | _, .moveSourceOutput _ _ => .crash
  | _, _ => .done

/-- By then the route of the call is in the journal. -/
theorem crash_recovers_desktop : Recovers desktopCodec
    (desktopScene.step desktopCodec (.call (.reconcile none) diesAtCapture)).2 7 := by
  refine (crash_recovers_iff ⟨.inr rfl, rfl⟩ (startsWell_of_none rfl fun _ => rfl) [] (adm_nil _ _ _)
    (.call (.reconcile none) diesAtCapture) ⟨fun _ _ _ _ _ => .inl rfl, fun _ _ => nofun,
      fun _ => .inl rfl, fun _ r hr => by cases hr⟩ ?_ _ rfl ?_ ?_).mpr (.inl ?_)
  · unfold Operation.Lives
    decide +kernel
  · decide +kernel
  · decide +kernel
  · decide +kernel

/-- The process dies before the journal is saved. -/
def diesAtSave : Answers
  | _, .saveJournal _ => .crash
  | _, _ => .done

/-- By then the call is moved, and no fresh watcher takes it back: a call is not cleaned. -/
theorem crash_at_save_stranded : desktopScene.Starts desktopCodec
    ∧ 7 ∈ (desktopScene.step desktopCodec
      (.call (.reconcile none) diesAtSave)).2.ledger.sinkInputs.held
    ∧ ¬ Recovers desktopCodec
      (desktopScene.step desktopCodec (.call (.reconcile none) diesAtSave)).2 7 := by
  refine ⟨⟨.inr rfl, rfl⟩, by decide +kernel, ?_⟩
  rintro ⟨n, hn⟩
  refine hn ?_
  rw [still_server (looks_stuck (i := 7) (by decide +kernel) (by decide +kernel) (by decide +kernel)
    ?_ n)]
  · decide +kernel
  · rintro ⟨c, sink, -, hstale, -, hcall, -⟩
    have hcalls : (((desktopScene.step desktopCodec (.call (.reconcile none)
        diesAtSave)).2.restarted desktopCodec).watcher.snapshot ((desktopScene.step desktopCodec
          (.call (.reconcile none) diesAtSave)).2.restarted
            desktopCodec).server).staleRemoteCandidates.all RouteCandidate.callLike = true := by
      decide +kernel
    rw [hstale] at hcalls
    simp [hcall] at hcalls

end Translator.Routing
