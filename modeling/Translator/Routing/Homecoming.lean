import Translator.Routing.Mirror

/-! Streams come home. Where nobody else moves streams and every command is carried out, a stream that
    was ever taken is on the translator's sink for the route that is active, or where it was first
    taken from; `restore_active` leaves the first kind empty. -/

namespace Translator.Routing

open Schemes

variable {codec : JournalCodec} {host : Host} {t : Terms} {s : Scene} {r : IncomingRoute}

/-- A change of a file, not a command. -/
def Effect.onFile : Effect → Bool
  | .saveJournal _ | .removeJournal => true
  | _ => false

/-- All commands succeed. -/
def Host.Carries (host : Host) : Prop :=
  ∀ n effect, effect.onFile = false → host.answer n effect = .done

theorem Host.Carries.grants (h : host.Carries) {effect : Effect} (hcommand : effect.onFile = false) :
    host.Grants effect := fun n => .inl (h n effect hcommand)

/-- Streams move within the calls of `reconcile` and `restore_active` alone. -/
def homeTerms : Terms := ⟨True, True, False, False, fun _ => trivial⟩

/-- A call of `reconcile` or `restore_active` whose commands succeed, or streams that come and go and
    are left alone. -/
def Operation.Undisturbed (codec : JournalCodec) (s : Scene) : Operation → Prop
  | .change server fresh _ => LeftAlone s server fresh
  | .call request answers => Host.Carries ⟨codec, answers⟩
    ∧ (request = .restoreActive ∨ ∃ manualStreamId, request = .reconcile manualStreamId)

theorem LeftAlone.keepsHeld {server : Server} {fresh : List Nat} (h : LeftAlone s server fresh) :
    KeepsHeld s server fresh where
  same i _ hfresh hsink := (h.same i hfresh (Server.sinkInput_isSome_of_sinkOf hsink)).2
  sink r _ := h.sinks r.originalSinkName

theorem Operation.Undisturbed.meets {op : Operation} (h : op.Undisturbed codec s) :
    op.Meets codec homeTerms s := by
  cases op with
  | change server fresh freshOutputs =>
    exact ⟨fun _ => LeftAlone.keepsHeld h, fun _ => h⟩
  | call request answers =>
    obtain ⟨hcarries, rfl | ⟨manualStreamId, rfl⟩⟩ := h
    · exact nofun
    · exact ⟨fun _ _ _ _ _ => hcarries.grants rfl, nofun⟩

/-! ### Nothing is held after `restore_active` -/

theorem link_granted (hcarries : host.Carries) {effect : Effect} {code : RoutingErrorCode}
    (hlink : ∃ output input, effect = .link output input ∨ effect = .unlink output input)
    {post : Call.Post Scene RoutingError Unit} (hok : ∀ s', post.ok () s')
    (hcrash : ∀ s', post.crash s') : (perform host effect code).wp post s := by
  obtain ⟨output, input, rfl | rfl⟩ := hlink
  · exact perform_wp (fun _ => hcrash s) (fun h => absurd rfl (h (hcarries.grants rfl)))
      (fun h => absurd (hcarries.grants rfl) h) (fun s' _ => hok s')
  · exact perform_wp (fun _ => hcrash s) (fun h => absurd rfl (h (hcarries.grants rfl)))
      (fun h => absurd (hcarries.grants rfl) h) (fun s' _ => hok s')

theorem restoreZoom_granted (hcarries : host.Carries) (hm : r.routeMethod = .pipeWireLinks)
    (hrest : Restorable r) (s : Scene) : (restoreZoomPipewireLinks host r).wp
      ⟨fun _ _ => True, fun _ _ => False, fun _ => True⟩ s := by
  obtain ⟨hzoom, hnode, hsink⟩ := hrest hm
  obtain ⟨node, hnode⟩ := Option.isSome_iff_exists.mp hnode
  obtain ⟨sink, hsink⟩ := Option.isSome_iff_exists.mp hsink
  unfold restoreZoomPipewireLinks
  rw [if_neg (not_not.mpr hzoom), hnode, hsink]
  dsimp only
  rw [Call.wp_bind]
  refine link_granted hcarries ⟨_, _, .inl rfl⟩ (fun s₁ => ?_) fun _ => trivial
  rw [Call.wp_bind, Call.wp_attempt]
  refine link_granted hcarries ⟨_, _, .inl rfl⟩ (fun s₂ => ?_) fun _ => trivial
  dsimp only
  rw [Call.wp_bind]
  refine link_granted hcarries ⟨_, _, .inr rfl⟩ (fun s₃ => ?_) fun _ => trivial
  exact link_granted hcarries ⟨_, _, .inr rfl⟩ (fun _ => trivial) fun _ => trivial

/-- Where commands succeed the stream of the route is let go. -/
theorem undoStream_granted (hacc : Accounted host.codec t s.sinkSide) (ht : t.takesBack)
    (hcarries : host.Carries) (hr : s.watcher.activeRoute = some r) :
    (undoStream host (s.watcher.snapshot s.server) r).wp
      ⟨fun _ _ => True, fun _ _ => False, fun _ => True⟩ s := by
  unfold undoStream
  split
  case h_2 => trivial
  case h_1 c hfind =>
    have hrestore : (restoreRoute host r).wp
        ⟨fun _ _ => True, fun _ _ => False, fun _ => True⟩ s := by
      cases hm : r.routeMethod with
      | pipeWireLinks =>
        unfold restoreRoute
        rw [hm]
        exact restoreZoom_granted hcarries hm (hacc.restorable ht r hr) s
      | pulseMove =>
        -- the stream is listed and its own sink is there, so the move succeeds
        refine restoreRoute_sink (fun _ _ _ => trivial) (fun _ _ _ => trivial)
          (fun _ _ _ hnot => hnot ⟨hm, hcarries.grants rfl, ?_, hacc.named ht r hr hm⟩)
          (fun _ _ => trivial)
        have hid := (PulseRoutingWatcher.sameRouteIdentity_iff.mp (List.find?_some hfind)).1
        rw [← hid, (offered_of_mem (List.mem_of_find?_eq_some hfind)).sink]
        rfl
    split
    · split
      · exact hrestore
      · trivial
    · exact hrestore

theorem clear_keeps_ledger {code : RoutingErrorCode} :
    Call.Keeps Scene.ledger (clearRouteJournal host code) := by
  unfold clearRouteJournal
  refine Call.keeps_bind Call.keeps_get fun s => Call.keeps_ite ?_ (Call.keeps_pure _)
  exact perform_keeps (fun _ => rfl) (fun _ => rfl)
    (fun _ _ h => by obtain rfl := Option.some.inj h; rfl)

theorem restoreActive_empties (hacc : Accounted host.codec t s.sinkSide) (ht : t.takesBack)
    (hcarries : host.Carries) :
    (restoreActive host).wp ⟨fun _ s' => s'.ledger.sinkInputs.held = [],
      fun _ s' => s'.ledger.sinkInputs.held = [], fun _ => True⟩ s := by
  unfold restoreActive
  simp only [Call.wp_bind, wp_remember]
  refine discover_wp (fun _ _ _ => trivial) (fun _ _ hnot => absurd (fun _ => hcarries.grants rfl) hnot)
    fun s₁ hs₁ => ?_
  have hacc₁ : Accounted host.codec t s₁.sinkSide := sinkSide_of_still hs₁ ▸ hacc
  have hsnap : s.watcher.snapshot s.server = s₁.watcher.snapshot s₁.server := by
    rw [still_watcher hs₁, still_server hs₁]
  -- forgetting the route and clearing the journal move nothing
  have htail : ∀ s₂ s₃ : Scene, s₂.ledger.sinkInputs.held = [] → s₃.ledger = s₂.ledger →
      (clearRouteJournal host .restoreFailed).wp
        ⟨fun _ => (state (s.watcher.snapshot s.server) (s.watcher.snapshot s.server).unrouted).wp
            ⟨fun _ s' => s'.ledger.sinkInputs.held = [],
              fun _ s' => s'.ledger.sinkInputs.held = [], fun _ => True⟩,
          fun _ s' => s'.ledger.sinkInputs.held = [], fun _ => True⟩ s₃ := by
    intro s₂ s₃ hnil hs₃
    have hnil₃ : s₃.ledger.sinkInputs.held = [] := hs₃ ▸ hnil
    exact Call.wp_of_keeps clear_keeps_ledger (fun _ s₄ hs₄ => (hs₄ ▸ hnil₃ :))
      (fun _ s₄ hs₄ => (hs₄ ▸ hnil₃ :)) (fun _ _ => trivial)
  rw [hsnap] at htail ⊢
  simp only [Call.wp_get]
  cases hr : s₁.watcher.activeRoute with
  | none => exact htail s₁ _ (hacc₁.held_nil ht hr) rfl
  | some r =>
    unfold undoRoute
    rw [Call.wp_bind]
    refine Call.wp_mono (Call.wp_and (undoStream_sink hacc₁ hr)
      (undoStream_granted hacc₁ ht hcarries hr)) (fun _ s₂ h₂ => ?_) (fun _ _ h => h.2.elim)
      (fun _ h => h.2)
    have h₂ : s₂.sinkSide.ledger.held = [] := (h₂.1.2 ht).1
    refine Call.wp_of_keeps (restoreMatching_keeps_sinkSide _ _ _) (fun _ s₃ hs₃ => ?_)
      (fun _ s₃ hs₃ => (hs₃ ▸ h₂ :)) (fun _ _ => trivial)
    have h₃ : s₃.sinkSide.ledger.held = [] := hs₃ ▸ h₂
    exact htail s₃ _ h₃ rfl

/-! ### Every stream comes home -/

/-- In every run in which commands succeed and streams are left alone, the route never names the
    translator's sink as its stream's own, and after `restore_active` every stream that was routed is
    where it was first routed from, and none that was moved is on the translator's sink. -/
theorem streams_come_home (hstart : s.Starts codec) (hwell : s.StartsWell homeTerms)
    (ops : List Operation)
    (hadm : Adm (Scene.step codec) (fun s op => op.Undisturbed codec s ∧ op.Lives codec s) s ops) :
    (∀ r, (exec (Scene.step codec) s ops).2.watcher.activeRoute = some r →
        r.originalSinkName ≠ remoteInSink)
      ∧ ∀ answers, Host.Carries ⟨codec, answers⟩ →
        (Operation.call .restoreActive answers).Lives codec (exec (Scene.step codec) s ops).2 →
        ∀ s', s' = ((exec (Scene.step codec) s ops).2.step codec (.call .restoreActive answers)).2 →
          (∀ i home, s'.ledger.sinkInputs.homes.lookup i = some home →
            s'.server.sinkOf i = some home)
          ∧ ∀ i ∈ s'.ledger.sinkInputs.moved, s'.server.sinkOf i ≠ some remoteInSink := by
  have hacc := run_accounted (hstart.accounted hwell) ops
    fun pre op hp => ⟨(hadm pre op hp).1.meets, (hadm pre op hp).2⟩
  refine ⟨hacc.original trivial, ?_⟩
  rintro answers hcarries hlives s' rfl
  have hacc' : Accounted codec homeTerms _ :=
    @step_accounted codec homeTerms _ (.call .restoreActive answers) hacc nofun hlives
  have hempty : (WatcherCall.restoreActive.run ⟨codec, answers⟩).wp
      ⟨fun _ s' => s'.ledger.sinkInputs.held = [], fun _ s' => s'.ledger.sinkInputs.held = [],
        fun _ => True⟩ { (exec (Scene.step codec) s ops).2 with tick := 0 } :=
    restoreActive_empties hacc trivial hcarries
  have hnil : ((exec (Scene.step codec) s ops).2.step codec
      (.call .restoreActive answers)).2.ledger.sinkInputs.held = [] := by
    rcases (step_of_wp hempty).1 hlives with ⟨_, -, h⟩ | ⟨_, -, h⟩
    · exact h
    · exact h
  have hnot : ∀ i, i ∉ ((exec (Scene.step codec) s ops).2.step codec
      (.call .restoreActive answers)).2.sinkSide.ledger.held := by
    intro i hi
    have hi : i ∈ ((exec (Scene.step codec) s ops).2.step codec
      (.call .restoreActive answers)).2.ledger.sinkInputs.held := hi
    rw [hnil] at hi
    cases hi
  constructor
  · intro i home hhome
    exact (hacc'.home trivial i home hhome).2 (hnot i)
  · intro i hi
    exact hacc'.off trivial i hi (hnot i)

/-- The call is routed, and comes home. -/
theorem streams_come_home_desktop :
    (∀ r, (exec (Scene.step desktopCodec) desktopScene
        [.call (.reconcile none) allDone]).2.watcher.activeRoute = some r →
        r.originalSinkName ≠ remoteInSink)
      ∧ ∀ i home, ((exec (Scene.step desktopCodec) desktopScene
          [.call (.reconcile none) allDone]).2.step desktopCodec
            (.call .restoreActive allDone)).2.ledger.sinkInputs.homes.lookup i = some home →
        ((exec (Scene.step desktopCodec) desktopScene
          [.call (.reconcile none) allDone]).2.step desktopCodec
            (.call .restoreActive allDone)).2.server.sinkOf i = some home := by
  have hadm : Adm (Scene.step desktopCodec)
      (fun s op => op.Undisturbed desktopCodec s ∧ op.Lives desktopCodec s) desktopScene
      [.call (.reconcile none) allDone] := by
    refine adm_cons ⟨⟨fun _ _ _ => rfl, .inr ⟨none, rfl⟩⟩, ?_⟩ (adm_nil _ _ _)
    unfold Operation.Lives
    decide +kernel
  obtain ⟨horiginal, hhome⟩ := streams_come_home ⟨.inr rfl, rfl⟩
    (startsWell_of_none rfl nofun) _ hadm
  refine ⟨horiginal, (hhome allDone (fun _ _ _ => rfl) ?_ _ rfl).1⟩
  unfold Operation.Lives
  decide +kernel

/-- The call ends, and another call of the same browser gets its index, on the headphones. -/
def callAgain : List Operation :=
  [.call (.reconcile none) allDone,
    .change (desktop [⟨7, 6, browserProperties⟩] [] (by decide) notCaptured_nodup) [7] [],
    .call (.reconcile none) allDone, .call .restoreActive allDone]

/-- The second call was first routed from the headphones and is put on the speakers. -/
theorem callAgain_astray : desktopScene.Starts desktopCodec
    ∧ (exec (Scene.step desktopCodec) desktopScene callAgain).1.all (fun entry =>
        entry.2.all (fun outcome => (reported outcome).isSome)) = true
    ∧ (exec (Scene.step desktopCodec) desktopScene callAgain).2.ledger.sinkInputs.homes.lookup 7
      = some "alsa_output.headphones"
    ∧ (exec (Scene.step desktopCodec) desktopScene callAgain).2.server.sinkOf 7
      = some "alsa_output.speakers" :=
  ⟨⟨.inr rfl, rfl⟩, by decide +kernel, by decide +kernel, by decide +kernel⟩

end Translator.Routing
