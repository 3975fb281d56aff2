import Translator.Routing.Homecoming
import Translator.Routing.Living

/-! Nothing that was moved is orphaned. While calls can give back what they take, the route that is
    remembered covers every stream and every capture the watcher holds, so that `restore_active` can
    take them off the translator's endpoints. -/

namespace Translator.Routing

open Schemes

variable {codec : JournalCodec} {host : Host} {t : Terms} {s : Scene}

/-- Streams can be given back within the calls. -/
def coverTerms : Terms := ⟨True, False, False, False, nofun⟩

/-- A capture that is held stays what it was. -/
def KeepsHeldOutputs (s : Scene) (server : Server) (fresh : List Nat) : Prop :=
  ∀ i ∈ s.ledger.heldOutputs, i ∉ fresh → server.sourceOf i = some virtualMicSource →
    s.watcher.outputKeyOf server i = s.watcher.outputKeyOf s.server i

/-- A call can give back what it takes: a move of a stream or a capture to where it was before the call
    is not refused, and neither is the return of the captures of a route the call is to forget. A
    virtual peer is routed only where nothing else is, and without a listing refused. -/
def WatcherCall.GivesBack (host : Host) (s : Scene) : WatcherCall → Prop
  | .reconcile manualStreamId => host.GivesBack s.server
    ∧ PutsOutputs host (s.watcher.snapshot s.server).sourceOutputRoutes
    ∧ (manualStreamId = none → host.GivesUp s)
  | .routeVirtualPeer _ => host.GivesBack s.server
    ∧ PutsOutputs host (s.watcher.snapshot s.server).sourceOutputRoutes
    ∧ host.Reports ∧ s.watcher.activeRoute = none
  | .restoreActive | .restoreVirtualPeer => True

/-- What keeps everything covered. -/
def Operation.Covers (codec : JournalCodec) (s : Scene) : Operation → Prop
  | .change server fresh freshOutputs =>
    KeepsHeld s server fresh ∧ KeepsHeldOutputs s server freshOutputs
  | .call request answers => request.GivesBack ⟨codec, answers⟩ s

theorem Operation.Covers.meets {op : Operation} (h : op.Covers codec s) :
    op.Meets codec coverTerms s := by
  cases op with
  | change server fresh freshOutputs => exact ⟨fun _ => h.1, nofun⟩
  | call request answers =>
    cases request with
    | reconcile manualStreamId => exact ⟨fun _ => h.1, nofun⟩
    | restoreActive => exact nofun
    | routeVirtualPeer capability => exact ⟨nofun, fun _ => ⟨h.1, h.2.2⟩, nofun⟩
    | restoreVirtualPeer => exact ⟨nofun, nofun⟩

/-! ### The captures in a run -/

theorem Scene.Starts.covered (h : s.Starts codec) : Covered s.captureSide := by
  intro i hi
  have hi : i ∈ s.ledger.heldOutputs := hi
  rw [h.ledger] at hi
  unfold Ledger.inherited at hi
  cases hr : s.watcher.activeRoute with
  | none =>
    rw [hr] at hi
    cases hi
  | some r =>
    rw [hr] at hi
    obtain ⟨hsource, hkey⟩ := of_decide_eq_true (List.mem_filter.mp hi).2
    exact ⟨hsource, r, hr, hkey⟩

/-- `reconcile` keeps the captures covered. -/
theorem reconcile_capture {manualStreamId : Option Nat} (hcov : Covered s.captureSide)
    (hputs : PutsOutputs host (s.watcher.snapshot s.server).sourceOutputRoutes)
    (hforget : manualStreamId = none → host.GivesUp s) :
    (reconcile host manualStreamId).wp capturePost s := by
  have hcov' : ∀ s' : Scene, s'.still = s.still → Covered s'.captureSide :=
    fun s' hs' => captureSide_of_still hs' ▸ hcov
  have hshows := shows_snapshot s fun i hi => (hcov i hi).1
  refine reconcile_wp ⟨fun _ _ _ => trivial, fun s' _ hs' => hcov' s' hs',
    fun s' _ hs' _ => hcov' s' hs', fun _ _ => restoreActive_capture hcov, ?_, ?_, ?_, ?_⟩
  · intro s' c sink hs' _ _ _ _ _ _
    exact restoreStaleStream_capture (hcov' s' hs')
  · intro s' c hs' _ _ _ _ _
    exact routeAndReport_capture (captureSide_of_still hs') hcov (lists_snapshot s) hshows rfl hputs
  · intro s' r c hs' _ _ hr _ _
    exact refreshRoute_capture (captureSide_of_still hs') hcov hr (lists_snapshot s)
  · intro s' r hs' hmanual hclean hr hgone
    refine Call.wp_mono (forgetRoute_capture (captureSide_of_still hs') hcov hr (lists_snapshot s)
      hshows rfl (hforget hmanual r hr hclean hgone)) ?_ (fun _ _ h => h) (fun _ h => h)
    rintro _ s₁ ⟨hframe, hnil⟩
    have hcov₁ := covered_of_held_nil hnil
    refine ⟨fun _ _ => hcov₁, fun _ _ => hcov₁, fun c _ => ?_⟩
    refine routeAndReport_capture rfl hcov₁ (hframe ▸ lists_snapshot s) (fun i hi => ?_)
      (congrArg CaptureFrame.fallback hframe).symm hputs
    rw [hnil] at hi
    cases hi

theorem routeVirtualPeer_capture {capability : VirtualPeerCapability}
    (hcov : Covered s.captureSide)
    (hputs : PutsOutputs host (s.watcher.snapshot s.server).sourceOutputRoutes) :
    (routeVirtualPeer host capability).wp capturePost s := by
  have htry : (tryVirtualPeer host capability).wp capturePost
      (s.remember ({ · with virtualPeerCapability := some capability })) := by
    unfold tryVirtualPeer
    rw [Call.wp_bind]
    refine Call.wp_mono (reconcile_capture hcov hputs nofun) (fun _ s₁ h₁ => ?_) (fun _ _ h => h)
      (fun _ h => h)
    have h₂ : ∀ s₂ : Scene, s₂.still = s₁.still → Covered s₂.captureSide :=
      fun s₂ hs₂ => captureSide_of_still hs₂ ▸ h₁
    rw [Call.wp_bind]
    refine inspect_wp (fun _ _ => trivial) (fun _ s₂ hs₂ _ => h₂ s₂ hs₂)
      fun s₂ state hs₂ _ _ => ?_
    dsimp only
    split
    · exact h₂ s₂ hs₂
    · exact h₂ s₂ hs₂
  unfold routeVirtualPeer
  simp only [Call.wp_bind, wp_remember, Call.wp_attempt]
  exact Call.wp_mono htry (fun _ _ h => h) (fun _ _ h => h) (fun _ h => h)

/-- A call keeps the captures covered. -/
theorem call_capture (request : WatcherCall) (hcov : Covered s.captureSide)
    (hgives : request.GivesBack host s) : (request.run host).wp capturePost s := by
  cases request with
  | reconcile manualStreamId => exact reconcile_capture hcov hgives.2.1 hgives.2.2
  | restoreActive => exact restoreActive_capture hcov
  | routeVirtualPeer capability => exact routeVirtualPeer_capture hcov hgives.2.1
  | restoreVirtualPeer =>
    show (restoreVirtualPeer host).wp capturePost s
    unfold restoreVirtualPeer
    rw [Call.wp_bind]
    exact Call.wp_mono (restoreActive_capture hcov) (fun _ _ h => h) (fun _ _ h => h) (fun _ h => h)

theorem step_covered {op : Operation} (hcov : Covered s.captureSide) (hcovers : op.Covers codec s)
    (hlives : op.Lives codec s) : Covered (s.step codec op).2.captureSide := by
  cases op with
  | change server fresh freshOutputs =>
    intro i hi
    obtain ⟨hi, hstays⟩ := List.mem_filter.mp hi
    have hstays : i ∉ freshOutputs ∧ server.sourceOf i = some virtualMicSource :=
      of_decide_eq_true hstays
    obtain ⟨-, r, hr, hkey⟩ := hcov i hi
    exact ⟨hstays.2, r, hr, (hcovers.2 i hi hstays.1 hstays.2).trans hkey⟩
  | call request answers =>
    have hcov₀ : Covered ({ s with tick := 0 } : Scene).captureSide := hcov
    have hcall := @call_capture ⟨codec, answers⟩ _ request hcov₀ hcovers
    rcases (step_of_wp hcall).1 hlives with ⟨_, -, h⟩ | ⟨_, -, h⟩
    · exact h
    · exact h

/-! ### What `restore_active` takes off -/

/-- The streams and captures held before are off the translator's endpoints, the captures where there
    is a source for them to go to. -/
structure Released (s s' : Scene) : Prop where
  streams : ∀ i ∈ s.ledger.sinkInputs.held, s'.server.sinkOf i ≠ some remoteInSink
  captures : (preferredRestoreSource s.server.sources).isSome → ∀ i ∈ s.ledger.heldOutputs,
    s'.server.sourceOf i ≠ some virtualMicSource

theorem clear_keeps_server {code : RoutingErrorCode} :
    Call.Keeps Scene.server (clearRouteJournal host code) := by
  unfold clearRouteJournal
  refine Call.keeps_bind Call.keeps_get fun s => Call.keeps_ite ?_ (Call.keeps_pure _)
  exact perform_keeps (fun _ => rfl) (fun _ => rfl)
    (fun _ _ h => by obtain rfl := Option.some.inj h; rfl)

/-- With commands succeeding, undoing the route releases all that is held. -/
theorem undoRoute_releases {r : IncomingRoute} (hacc : Accounted host.codec t s.sinkSide)
    (ht : t.takesBack) (hcov : Covered s.captureSide) (hcarries : host.Carries)
    (hr : s.watcher.activeRoute = some r) :
    (undoRoute host (s.watcher.snapshot s.server) (some r)).wp
      ⟨fun _ s' => Released s s', fun _ s' => Released s s', fun _ => True⟩ s := by
  have hstream : (undoStream host (s.watcher.snapshot s.server) r).wp
      ⟨fun _ s' => (∀ i ∈ s.ledger.sinkInputs.held, s'.server.sinkOf i ≠ some remoteInSink)
        ∧ s'.captureSide = s.captureSide, fun _ _ => False, fun _ => True⟩ s := by
    have hcaptures : (undoStream host (s.watcher.snapshot s.server) r).wp
        ⟨fun _ s' => s'.captureSide = s.captureSide, fun _ _ => True, fun _ => True⟩ s :=
      Call.wp_of_keeps (undoStream_keeps_captures _ r) (fun _ _ h => h) (fun _ _ _ => trivial)
        (fun _ _ => trivial)
    exact Call.wp_mono (Call.wp_and (Call.wp_and (undoStream_sink hacc hr)
      (undoStream_granted hacc ht hcarries hr)) hcaptures)
      (fun _ _ h => ⟨(h.1.1.2 ht).2, h.2⟩) (fun _ _ h => h.1.2) (fun _ _ => trivial)
  unfold undoRoute
  rw [Call.wp_bind]
  refine Call.wp_mono hstream ?_ (fun _ _ h => h.elim) (fun _ h => h)
  rintro _ s₁ ⟨hoff, hs₁⟩
  have hoff' : ∀ s' : Scene, s'.sinkSide = s₁.sinkSide →
      ∀ i ∈ s.ledger.sinkInputs.held, s'.server.sinkOf i ≠ some remoteInSink := by
    intro s' hs' i hi
    rw [show s'.server.sinkOf = s₁.server.sinkOf from congrArg SinkSide.sinkOf hs']
    exact hoff i hi
  have hcaptures := @restoreMatching_capture host _ _ r _ hs₁ (hcov.heldFor hr)
    (lists_snapshot s) (shows_snapshot s fun i hi => (hcov i hi).1)
  have hsinks : (restoreMatchingSourceOutputs host r
      (s.watcher.snapshot s.server).sourceOutputRoutes
      (s.watcher.snapshot s.server).fallbackRestoreSourceName).wp
      ⟨fun _ s' => s'.sinkSide = s₁.sinkSide, fun _ s' => s'.sinkSide = s₁.sinkSide,
        fun _ => True⟩ s₁ :=
    Call.wp_of_keeps (restoreMatching_keeps_sinkSide r _ _) (fun _ _ h => h) (fun _ _ h => h)
      (fun _ _ => trivial)
  refine Call.wp_mono (Call.wp_and hcaptures hsinks) ?_ ?_ (fun _ _ => trivial)
  · rintro _ s₂ ⟨⟨-, -, -, hback⟩, hs₂⟩
    exact ⟨hoff' s₂ hs₂, fun _ => hback⟩
  · rintro _ s₂ ⟨⟨-, -, hnot⟩, hs₂⟩
    refine ⟨hoff' s₂ hs₂, fun hsome => absurd ?_ hnot⟩
    -- with a source to go to, no return is refused
    obtain ⟨source, hsource⟩ := Option.isSome_iff_exists.mp hsome
    exact fun output _ _ _ => ⟨source, hsource, hcarries.grants rfl⟩

/-- With commands succeeding, `restore_active` releases all that is held. -/
theorem restoreActive_releases (hacc : Accounted host.codec t s.sinkSide) (ht : t.takesBack)
    (hcov : Covered s.captureSide) (hcarries : host.Carries) :
    (restoreActive host).wp
      ⟨fun _ s' => Released s s', fun _ s' => Released s s', fun _ => True⟩ s := by
  unfold restoreActive
  simp only [Call.wp_bind, wp_remember]
  refine discover_wp (fun _ _ _ => trivial) (fun _ _ hnot => absurd (fun _ => hcarries.grants rfl) hnot)
    fun s₁ hs₁ => ?_
  have hsnap : s.watcher.snapshot s.server = s₁.watcher.snapshot s₁.server := by
    rw [still_watcher hs₁, still_server hs₁]
  have hsame : ∀ s' : Scene, Released s₁ s' → Released s s' := by
    have hledger : s₁.ledger = s.ledger := congrArg (fun x => x.2.2.2) hs₁
    rintro s' ⟨hstreams, hcaptures⟩
    rw [hledger] at hstreams hcaptures
    exact ⟨hstreams, still_server hs₁ ▸ hcaptures⟩
  -- forgetting the route and clearing the journal move nothing
  have htail : ∀ s₂ s₃ : Scene, Released s₁ s₂ → s₃.server = s₂.server →
      (clearRouteJournal host .restoreFailed).wp
        ⟨fun _ => (state (s.watcher.snapshot s.server) (s.watcher.snapshot s.server).unrouted).wp
            ⟨fun _ s' => Released s s', fun _ s' => Released s s', fun _ => True⟩,
          fun _ s' => Released s s', fun _ => True⟩ s₃ := by
    intro s₂ s₃ hreleased hs₃
    have hdone : ∀ s' : Scene, s'.server = s₃.server → Released s s' := by
      intro s' hs'
      refine hsame s' ⟨?_, ?_⟩
      · rw [hs', hs₃]
        exact hreleased.streams
      · rw [hs', hs₃]
        exact hreleased.captures
    exact Call.wp_of_keeps clear_keeps_server (fun _ s₄ hs₄ => hdone s₄ hs₄)
      (fun _ s₄ hs₄ => hdone s₄ hs₄) (fun _ _ => trivial)
  have hacc₁ : Accounted host.codec t s₁.sinkSide := sinkSide_of_still hs₁ ▸ hacc
  have hcov₁ : Covered s₁.captureSide := captureSide_of_still hs₁ ▸ hcov
  rw [hsnap] at htail ⊢
  simp only [Call.wp_get]
  cases hr : s₁.watcher.activeRoute with
  | none =>
    refine htail s₁ _ ⟨fun i hi => ?_, fun _ i hi => ?_⟩ rfl
    · have hi : i ∈ s₁.sinkSide.ledger.held := hi
      rw [hacc₁.held_nil ht hr] at hi
      cases hi
    · have hi : i ∈ s₁.captureSide.held := hi
      rw [hcov₁.held_nil hr] at hi
      cases hi
  | some r =>
    exact Call.wp_mono (undoRoute_releases hacc₁ ht hcov₁ hcarries hr)
      (fun _ s₂ h₂ => htail s₂ _ h₂ rfl) (fun _ _ h => hsame _ h) (fun _ h => h)

/-- What a `restore_active` with everything carried out would leave. -/
def Scene.afterRestore (codec : JournalCodec) (s : Scene) : Scene :=
  (restoreActive ⟨codec, allDone⟩ { s with tick := 0 }).2

theorem afterRestore_releases (hacc : Accounted codec t s.sinkSide) (ht : t.takesBack)
    (hcov : Covered s.captureSide) : Released s (s.afterRestore codec) := by
  have hcarries : Host.Carries ⟨codec, allDone⟩ := fun _ _ _ => rfl
  refine Call.end_of_lives (P := fun s' => Released s s')
    (restoreActive_lives (allDone_spares codec)) ?_
  refine Call.wp_mono (@restoreActive_releases ⟨codec, allDone⟩ t { s with tick := 0 } hacc ht hcov
    hcarries) ?_ ?_ fun _ h => h
  · exact fun _ _ h => ⟨h.streams, h.captures⟩
  · exact fun _ _ h => ⟨h.streams, h.captures⟩

/-! ### Nothing is orphaned -/

/-- In every run whose calls can give back what they take, and in which what is held stays what it
    was, the route that is remembered lets `restore_active` release every stream and every capture
    that is held. -/
theorem never_orphans (hstart : s.Starts codec) (hwell : s.StartsWell coverTerms)
    (ops : List Operation)
    (hadm : Adm (Scene.step codec) (fun s op => op.Covers codec s ∧ op.Lives codec s) s ops) :
    Released (exec (Scene.step codec) s ops).2
      ((exec (Scene.step codec) s ops).2.afterRestore codec) := by
  have hkept : Accounted codec coverTerms (exec (Scene.step codec) s ops).2.sinkSide
      ∧ Covered (exec (Scene.step codec) s ops).2.captureSide := by
    refine exec_invariant (I := fun _ s => Accounted codec coverTerms s.sinkSide
      ∧ Covered s.captureSide) ⟨hstart.accounted hwell, hstart.covered⟩ ?_ ops hadm
    rintro _ s₁ op ⟨hacc, hcov⟩ ⟨hcovers, hlives⟩
    exact ⟨step_accounted hacc hcovers.meets hlives, step_covered hcov hcovers hlives⟩
  exact afterRestore_releases hkept.1 trivial hkept.2

/-- With the call routed, its stream and its capture can be given back. -/
theorem never_orphans_desktop : Released
    (exec (Scene.step desktopCodec) desktopScene [.call (.reconcile none) allDone]).2
    ((exec (Scene.step desktopCodec) desktopScene
      [.call (.reconcile none) allDone]).2.afterRestore desktopCodec) := by
  refine never_orphans ⟨.inr rfl, rfl⟩ (startsWell_of_none rfl nofun) _
    (adm_cons ⟨⟨fun _ _ _ _ => allDone_grants _ _, fun _ _ _ => allDone_grants _ _,
      fun _ r hr => by cases hr⟩, ?_⟩ (adm_nil _ _ _))
  unfold Operation.Lives
  decide +kernel

/-- The desktop, with the microphone at the desk in use. -/
def busyDesktop (sinkInputs : List RawSinkInput) (source : Nat)
    (hinputs : (sinkInputs.map RawSinkInput.index).Nodup) : Server :=
  { desktop sinkInputs [⟨9, source, browserProperties⟩] hinputs (by simp) with
    sources := [⟨3, "alsa_input.desk", some "RUNNING"⟩, ⟨4, "alsa_input.headset", none⟩,
      ⟨5, virtualMicSource, none⟩]
    sources_nodup := by decide }

/-- The same watcher there. -/
def busyScene : Scene :=
  { desktopScene with server := busyDesktop [⟨7, 1, browserProperties⟩] 3 playing_nodup }

/-- No capture can be moved. -/
def capturesRefused : Answers
  | _, .moveSourceOutput _ _ => .refused
  | _, _ => .done

/-- The call is routed, its playing stream ends, and the one command that would give the microphone
    back is refused. -/
def hangUpRefused : List Operation :=
  [.call (.reconcile none) allDone,
    .change (busyDesktop [] 5 notPlaying_nodup) [] [],
    .call (.reconcile none) capturesRefused]

/-- The route is forgotten with the capture still moved, and `restore_active` leaves it there. -/
theorem hangUpRefused_orphans : busyScene.Starts desktopCodec
    ∧ (exec (Scene.step desktopCodec) busyScene hangUpRefused).2.watcher.activeRoute = none
    ∧ 9 ∈ (exec (Scene.step desktopCodec) busyScene hangUpRefused).2.ledger.heldOutputs
    ∧ (preferredRestoreSource (exec (Scene.step desktopCodec) busyScene
        hangUpRefused).2.server.sources).isSome = true
    ∧ ((exec (Scene.step desktopCodec) busyScene hangUpRefused).2.afterRestore
        desktopCodec).server.sourceOf 9 = some virtualMicSource :=
  ⟨⟨.inr rfl, rfl⟩, by decide +kernel, by decide +kernel, by decide +kernel, by decide +kernel⟩

end Translator.Routing
