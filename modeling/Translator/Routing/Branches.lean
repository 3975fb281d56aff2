import Translator.Routing.Sides

/-! The branches of the watcher's calls. Each rule says, once, which steps a call can come down to and
    what is known of the snapshot there, so that a property of all calls is shown step by step. -/

namespace Translator.Routing

open Schemes

variable {host : Host} {s : Scene} {post : Call.Post Scene RoutingError RoutingState}

/-- A report leaves everything as it is. -/
theorem state_wp {snapshot : RoutingSnapshot} {resolution : RouteResolution}
    (h : ∀ state : RoutingState, state.resolution = resolution → post.ok state s) :
    (state snapshot resolution).wp post s :=
  h _ rfl

@[simp] theorem wp_remember (f : PulseRoutingWatcher → PulseRoutingWatcher)
    (post : Call.Post Scene RoutingError Unit) :
    (remember f).wp post = fun s => post.ok () (s.remember f) := rfl

/-- `reconcile` comes down to one of these. -/
structure Reconciles (host : Host) (manualStreamId : Option Nat)
    (post : Call.Post Scene RoutingError RoutingState) (s : Scene) : Prop where
  crash : ∀ s', s'.still = s.still → ¬ host.Spares → post.crash s'
  fails : ∀ s' e, s'.still = s.still → post.err e s'
  reports : ∀ s' state, s'.still = s.still → state.resolution ≠ .routed → post.ok state s'
  recovers : manualStreamId = none → s.watcher.routeRecoveryPending = true →
    (restoreActive host).wp post s
  cleans : ∀ s' c sink, s'.still = s.still → manualStreamId = none →
    s.watcher.activeRoute = none → (s.watcher.snapshot s.server).staleRemoteCandidates = [c] →
    (s.watcher.snapshot s.server).conflictingStreamIds = [c.streamId] → c.callLike = false →
    preferredRestoreSink s.server.sinks = some sink → (restoreStaleStream host c sink).wp post s'
  routes : ∀ s' c, s'.still = s.still →
    (s.watcher.snapshot s.server).conflictingStreamIds = [] →
    c ∈ (s.watcher.snapshot s.server).candidates →
    (∀ id, manualStreamId = some id → c.streamId = id) →
    (manualStreamId = none → ∀ r, s.watcher.activeRoute = some r → sameRouteIdentity r c = false) →
    (manualStreamId = none → ∀ r c', s.watcher.activeRoute = some r →
      (s.watcher.snapshot s.server).candidates.find? (sameRouteIdentity r) = some c' →
      (s.watcher.snapshot s.server).yieldsTo r c' = some c) →
    (routeAndReport host (s.watcher.snapshot s.server) c).wp post s'
  refreshes : ∀ s' r c, s'.still = s.still → manualStreamId = none →
    (s.watcher.snapshot s.server).conflictingStreamIds = [] → s.watcher.activeRoute = some r →
    (s.watcher.snapshot s.server).candidates.find? (sameRouteIdentity r) = some c →
    (s.watcher.snapshot s.server).yieldsTo r c = none →
    (refreshRoute host (s.watcher.snapshot s.server) r c).wp post s'
  forgets : ∀ s' r, s'.still = s.still → manualStreamId = none →
    (s.watcher.snapshot s.server).conflictingStreamIds = [] → s.watcher.activeRoute = some r →
    (s.watcher.snapshot s.server).candidates.find? (sameRouteIdentity r) = none →
    (forgetRoute host (s.watcher.snapshot s.server) r).wp
      ⟨fun _ s₁ => (∀ state : RoutingState, state.resolution ≠ .routed → post.ok state s₁)
        ∧ (∀ state : RoutingState, state.resolution ≠ .routed →
          post.ok state (s₁.remember ({ · with selectedAppKey := none })))
        ∧ ∀ c ∈ (s.watcher.snapshot s.server).candidates,
          (routeAndReport host (s.watcher.snapshot s.server) c).wp post s₁,
        post.err, post.crash⟩ s'

theorem singleAuto_mem {candidates : List RouteCandidate}
    {outputs : List SourceOutputRouteCandidate} {c : RouteCandidate}
    (h : singleAutoRouteCandidate candidates outputs = some c) : c ∈ candidates := by
  unfold singleAutoRouteCandidate at h
  simp only at h
  split at h
  · exact (List.mem_filter.mp (single_mem h)).1
  · exact (List.mem_filter.mp (single_mem h)).1

theorem yieldsTo_mem {snapshot : RoutingSnapshot} {r : IncomingRoute} {c c' : RouteCandidate}
    (h : snapshot.yieldsTo r c = some c') :
    c' ∈ snapshot.candidates ∧ sameRouteIdentity r c' = false := by
  unfold RoutingSnapshot.yieldsTo at h
  split at h
  case isFalse => simp at h
  case isTrue =>
    obtain ⟨hmem, hother⟩ := List.mem_filter.mp (single_mem h)
    simp only [Bool.and_eq_true, Bool.not_eq_true'] at hother
    exact ⟨hmem, hother.2⟩

theorem still_watcher {s s' : Scene} (h : s'.still = s.still) : s'.watcher = s.watcher :=
  congrArg Prod.fst h

theorem still_server {s s' : Scene} (h : s'.still = s.still) : s'.server = s.server :=
  congrArg (fun x => x.2.1) h

section Rule

variable {manualStreamId : Option Nat} (hb : Reconciles host manualStreamId post s)

include hb

theorem reportConflict_wp {s' : Scene} (hs' : s'.still = s.still) :
    (reportConflict host (s.watcher.snapshot s.server) manualStreamId).wp post s' := by
  have hreport : ∀ state : RoutingState, state.resolution = .routeConflict → post.ok state s' :=
    fun state hstate => hb.reports s' state hs' (by simp [hstate])
  unfold reportConflict
  simp only [Call.wp_bind, Call.wp_get, still_watcher hs']
  split
  case isFalse => exact state_wp hreport
  case isTrue hcond =>
    obtain ⟨hmanual, hactive⟩ : manualStreamId = none ∧ s.watcher.activeRoute = none := by
      simpa using hcond
    unfold restoreStaleRemoteConflict
    split
    case h_2 => exact state_wp hreport
    case h_1 id c hconflict hstale =>
      split
      case isTrue => exact state_wp hreport
      case isFalse hcall =>
        obtain ⟨hcall, hid⟩ : c.callLike = false ∧ c.streamId = id := by simpa using hcall
        cases hfallback : (s.watcher.snapshot s.server).fallbackRestoreSinkName with
        | none => exact state_wp hreport
        | some sink =>
          have hstream := hb.cleans s' c sink hs' hmanual hactive hstale
            (by rw [hconflict, hid]) hcall hfallback
          simp only [Call.wp_bind, Call.wp_pure]
          exact hstream

theorem dropRoute_wp {s' : Scene} {r : IncomingRoute} (hs' : s'.still = s.still)
    (hmanual : manualStreamId = none)
    (hclean : (s.watcher.snapshot s.server).conflictingStreamIds = [])
    (hactive : s.watcher.activeRoute = some r)
    (hgone : (s.watcher.snapshot s.server).candidates.find? (sameRouteIdentity r) = none) :
    (dropRoute host (s.watcher.snapshot s.server) r).wp post s' := by
  unfold dropRoute
  rw [Call.wp_bind]
  refine Call.wp_mono (hb.forgets s' r hs' hmanual hclean hactive hgone) ?_ (fun _ _ h => h)
    (fun _ h => h)
  rintro _ s₁ ⟨hreport, hreset, hroute⟩
  show Call.wp _ post s₁
  cases hrep : single ((s.watcher.snapshot s.server).replacements r.stableAppKey) with
  | some c => exact hroute c (List.mem_filter.mp (single_mem hrep)).1
  | none =>
    dsimp only
    split
    · exact state_wp fun state hstate => hreport state (by simp [hstate])
    · cases hauto : singleAutoRouteCandidate (s.watcher.snapshot s.server).candidates
        (s.watcher.snapshot s.server).sourceOutputRoutes with
      | some c => exact hroute c (singleAuto_mem hauto)
      | none => exact state_wp fun state hstate => hreset state (by simp [hstate])

theorem findRoute_wp {s' : Scene} {selected : Option String} (hs' : s'.still = s.still)
    (hmanual : manualStreamId = none)
    (hclean : (s.watcher.snapshot s.server).conflictingStreamIds = [])
    (hactive : s.watcher.activeRoute = none) :
    (findRoute host (s.watcher.snapshot s.server) selected).wp post s' := by
  have hreport : ∀ resolution : RouteResolution, resolution ≠ .routed →
      ∀ state : RoutingState, state.resolution = resolution → post.ok state s' :=
    fun _ hres state hstate => hb.reports s' state hs' (hstate ▸ hres)
  have hroute : ∀ c ∈ (s.watcher.snapshot s.server).candidates,
      (routeAndReport host (s.watcher.snapshot s.server) c).wp post s' := by
    intro c hc
    refine hb.routes s' c hs' hclean hc (by simp [hmanual]) ?_ ?_
    · intro _ r hr
      simp [hactive] at hr
    · intro _ r _ hr
      simp [hactive] at hr
  unfold findRoute
  cases selected with
  | some appKey =>
    dsimp only
    cases hrep : single ((s.watcher.snapshot s.server).replacements appKey) with
    | some c => exact hroute c (List.mem_filter.mp (single_mem hrep)).1
    | none => exact state_wp (hreport _ (by simp))
  | none =>
    dsimp only
    cases hauto : singleAutoRouteCandidate (s.watcher.snapshot s.server).candidates
      (s.watcher.snapshot s.server).sourceOutputRoutes with
    | some c => exact hroute c (singleAuto_mem hauto)
    | none =>
      refine state_wp (hreport _ ?_)
      unfold RoutingSnapshot.unrouted
      split <;> simp

/-- The rule for `reconcile`. -/
theorem reconcile_wp : (reconcile host manualStreamId).wp post s := by
  unfold reconcile
  simp only [Call.wp_bind, Call.wp_get]
  split
  case isTrue hcond =>
    obtain ⟨hmanual, hpending⟩ : manualStreamId = none ∧ s.watcher.routeRecoveryPending = true := by
      simpa using hcond
    exact hb.recovers hmanual hpending
  case isFalse =>
    rw [Call.wp_bind]
    refine discover_wp hb.crash (fun s' h _ => hb.fails s' _ h) fun s' hs' => ?_
    simp only [Call.wp_bind, Call.wp_get]
    split
    case isTrue => exact reportConflict_wp hb hs'
    case isFalse hnone =>
      have hclean : (s.watcher.snapshot s.server).conflictingStreamIds = [] := by
        simpa using hnone
      cases hm : manualStreamId with
      | some id =>
        dsimp only
        cases hfind : (s.watcher.snapshot s.server).candidates.find?
            (fun candidate => candidate.streamId == id) with
        | some c =>
          refine hb.routes s' c hs' hclean (List.mem_of_find?_eq_some hfind) ?_ (by simp [hm])
            (by simp [hm])
          intro id' hid'
          obtain rfl : id = id' := Option.some.inj (hm.symm.trans hid')
          simpa using List.find?_some hfind
        | none => exact hb.fails s' _ hs'
      | none =>
        dsimp only
        rw [still_watcher hs']
        cases hactive : s.watcher.activeRoute with
        | none => exact findRoute_wp hb hs' hm hclean hactive
        | some r =>
          dsimp only
          cases hfind : (s.watcher.snapshot s.server).candidates.find? (sameRouteIdentity r) with
          | none => exact dropRoute_wp hb hs' hm hclean hactive hfind
          | some c =>
            dsimp only
            unfold keepRoute
            cases hyield : (s.watcher.snapshot s.server).yieldsTo r c with
            | none => exact hb.refreshes s' r c hs' hm hclean hactive hfind hyield
            | some c' =>
              obtain ⟨hmem, hother⟩ := yieldsTo_mem hyield
              refine hb.routes s' c' hs' hclean hmem (by simp [hm]) ?_ ?_
              · intro _ r' hr'
                obtain rfl := Option.some.inj (hactive.symm.trans hr')
                exact hother
              · intro _ r' c'' hr' hfind'
                obtain rfl := Option.some.inj (hactive.symm.trans hr')
                obtain rfl := Option.some.inj (hfind.symm.trans hfind')
                exact hyield

end Rule

end Translator.Routing
