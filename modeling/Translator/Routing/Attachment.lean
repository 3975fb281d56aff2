import Translator.Routing.Mirror

/-! What `Routed` stands for. A call that enters a route leaves its stream attached to the translator's
    sink, and one that keeps a route leaves it attached where it was or where it is moved again. Either
    way the captures that were on a microphone of the user's are on the translator's. -/

namespace Translator.Routing

open Schemes

variable {host : Host} {s : Scene} {code : RoutingErrorCode} {r : IncomingRoute}
  {c : RouteCandidate} {outputs : List SourceOutputRouteCandidate}

/-- Both links of a node to the translator's sink are there. -/
def Server.LinksRemote (server : Server) (node : String) : Prop :=
  ((outputPorts node).1, (playbackPorts remoteInSink).1) ∈ server.links
    ∧ ((outputPorts node).2, (playbackPorts remoteInSink).2) ∈ server.links

/-- The stream of the route is attached to the translator's sink, as its method has it. -/
def Attached (server : Server) (r : IncomingRoute) : Prop :=
  match r.routeMethod with
  | .pulseMove => server.sinkOf r.streamId = some remoteInSink
  | .pipeWireLinks => ∃ node, r.pipewireNodeName.bind pipewireNodeName = some node
    ∧ server.LinksRemote node

/-- The captures of the application that a snapshot had on a physical source are on the translator's
    microphone. -/
def CapturesTaken (server : Server) (outputs : List SourceOutputRouteCandidate)
    (r : IncomingRoute) : Prop :=
  ∀ output ∈ outputs, output.stableAppKey = r.stableAppKey → output.physicalSource = true →
    server.sourceOf output.streamId = some virtualMicSource

/-- The call keeps the active route and does not attach its stream. -/
def Stranded (s : Scene) (manualStreamId : Option Nat) : Prop :=
  ∃ r c, s.watcher.activeRoute = some r
    ∧ (s.watcher.snapshot s.server).candidates.find? (sameRouteIdentity r) = some c
    ∧ (manualStreamId = some c.streamId ∨ (manualStreamId = none ∧ r.routeMethod = .pipeWireLinks
      ∧ (s.watcher.snapshot s.server).yieldsTo r c = none))
    ∧ ¬ Attached s.server r

/-- What must hold where a call returns. -/
def returning {α : Type} (P : α → Scene → Prop) : Call.Post Scene RoutingError α :=
  ⟨P, fun _ _ => True, fun _ => True⟩

/-- A call whose last part fails does not return. -/
theorem returning_of_last {α β : Type} {call : RoutingCall α} {f : α → RoutingCall β}
    {P : β → Scene → Prop} (hf : ∀ a s, (f a).wp (returning P) s) (s : Scene) :
    (call >>= f).wp (returning P) s :=
  Call.wp_bind_of_last hf (fun _ _ => trivial) (fun _ => trivial) s

theorem returning_fail {α : Type} {e : RoutingError} {P : α → Scene → Prop} (s : Scene) :
    (Call.fail e : RoutingCall α).wp (returning P) s := trivial

/-- Where the streams play to, and the route. -/
def Scene.attachment (s : Scene) :
    Option IncomingRoute × (Nat → Option String) × List (String × String) :=
  (s.watcher.activeRoute, s.server.sinkOf, s.server.links)

theorem attached_of_attachment {s s' : Scene} (h : s'.attachment = s.attachment) :
    Attached s'.server r ↔ Attached s.server r := by
  have hsinks : s'.server.sinkOf = s.server.sinkOf := congrArg (fun x => x.2.1) h
  have hlinks : s'.server.links = s.server.links := congrArg (fun x => x.2.2) h
  unfold Attached Server.LinksRemote
  rw [hsinks, hlinks]

/-! ### Steps that move no playing stream -/

theorem persist_keeps_attachment (r : IncomingRoute) :
    Call.Keeps Scene.attachment (persistActiveRoute host r code) := by
  unfold persistActiveRoute
  refine Call.keeps_bind Call.keeps_get fun s => Call.keeps_ite ?_ (Call.keeps_pure _)
  refine Call.keeps_mapErr ?_
  unfold saveActiveRoute
  refine Call.keeps_ite (Call.keeps_fail _) ?_
  exact perform_keeps (fun _ => rfl) (fun _ => rfl)
    (fun _ _ h => by obtain rfl := Option.some.inj h; rfl)

/-- A capture is taken, and no playing stream is moved. -/
theorem moveSourceOutput_taken {post : Call.Post Scene RoutingError Unit} {i : Nat}
    (hok : ∀ s', s'.attachment = s.attachment → s'.server.sourceOf
      = Function.update s.server.sourceOf i (some virtualMicSource) → post.ok () s')
    (herr : ∀ e s', post.err e s') (hcrash : ∀ s', post.crash s') :
    (moveSourceOutput host i virtualMicSource code).wp post s := by
  refine perform_wp (fun _ => hcrash s) (fun _ => herr _ _) (fun _ _ => herr _ _) fun s' hs' => ?_
  obtain ⟨server', hmove, rfl⟩ := Option.map_eq_some_iff.mp hs'
  obtain ⟨hkin, hsource, hinputs, hlinks⟩ := Server.moveSourceOutput_spec hmove
  refine hok _ ?_ ?_
  · have hsinks : server'.sinkOf = s.server.sinkOf := by
      funext j
      unfold Server.sinkOf Server.sinkInput
      rw [hinputs, hkin.sinks]
      rfl
    show (s.watcher.activeRoute, server'.sinkOf, server'.links) = _
    rw [hsinks, hlinks]
    rfl
  · funext j
    show server'.sourceOf j = _
    rw [hsource, Function.update_apply]
    rfl

/-- Where all captures come along, they are on the translator's microphone, as is all that was. -/
theorem routeOutputs_taken : ∀ (outputs : List SourceOutputRouteCandidate)
    (moved : List (Nat × String)) (s : Scene), (routeOutputs host moved outputs).wp
      (returning fun _ s' => s'.attachment = s.attachment
        ∧ (∀ output ∈ outputs, s'.server.sourceOf output.streamId = some virtualMicSource)
        ∧ ∀ i, s.server.sourceOf i = some virtualMicSource →
          s'.server.sourceOf i = some virtualMicSource) s
  | [], _, s => ⟨rfl, by simp, fun _ h => h⟩
  | output :: rest, moved, s => by
    unfold routeOutputs
    rw [Call.wp_bind, Call.wp_attempt]
    refine moveSourceOutput_taken (fun s₁ hs₁ hsource => ?_) (fun _ s₁ => ?_) (fun _ => trivial)
    · refine Call.wp_mono (routeOutputs_taken rest _ s₁) ?_ (fun _ _ h => h) (fun _ h => h)
      rintro _ s₂ ⟨hs₂, htaken, hkept⟩
      have hfirst : s₁.server.sourceOf output.streamId = some virtualMicSource := by
        rw [hsource, Function.update_self]
      refine ⟨hs₂.trans hs₁, fun o ho => ?_, fun i hi => hkept i ?_⟩
      · rcases List.mem_cons.mp ho with rfl | ho
        · exact hkept _ hfirst
        · exact htaken o ho
      · by_cases hio : i = output.streamId
        · rw [hio, hfirst]
        · rw [hsource, Function.update_of_ne hio, hi]
    · exact returning_of_last (fun _ => returning_fail) s₁

theorem routeMatching_taken (r : IncomingRoute) (outputs : List SourceOutputRouteCandidate)
    (s : Scene) : (routeMatchingSourceOutputs host r outputs).wp
      (returning fun _ s' => s'.attachment = s.attachment ∧ CapturesTaken s'.server outputs r) s := by
  refine Call.wp_mono (routeOutputs_taken _ [] s) ?_ (fun _ _ h => h) (fun _ h => h)
  rintro _ s' ⟨hs', htaken, -⟩
  refine ⟨hs', fun output ho hkey hphysical => htaken output ?_⟩
  exact List.mem_filter.mpr ⟨ho, by simp [hkey, hphysical]⟩

/-! ### Steps that attach a stream -/

/-- A link that is made, or one that goes. -/
theorem connect_links {post : Call.Post Scene RoutingError Unit} {output input : String}
    (hok : ∀ s', s'.server.links = (output, input) :: s.server.links → post.ok () s')
    (herr : ∀ e s', post.err e s') (hcrash : ∀ s', post.crash s') :
    (connectPipewireLink host output input code).wp post s := by
  refine perform_wp (fun _ => hcrash s) (fun _ => herr _ _) (fun _ _ => herr _ _) fun s' hs' => ?_
  obtain rfl := Option.some.inj hs'
  exact hok _ rfl

theorem disconnect_links {post : Call.Post Scene RoutingError Unit} {output input : String}
    (hok : ∀ s', s'.server.links = s.server.links.filter (· ≠ (output, input)) → post.ok () s')
    (herr : ∀ e s', post.err e s') (hcrash : ∀ s', post.crash s') :
    (disconnectPipewireLink host output input code).wp post s := by
  refine perform_wp (fun _ => hcrash s) (fun _ => herr _ _) (fun _ _ => herr _ _) fun s' hs' => ?_
  obtain rfl := Option.some.inj hs'
  exact hok _ rfl

/-- Zoom's node is linked to the translator's sink before it is unlinked from its own. -/
theorem routeZoom_links (hoff : pipewireNodeName c.currentSinkName ≠ some remoteInSink) (s : Scene) :
    (routeZoomWithPipewireLinks host c).wp (returning fun _ s' => ∃ node,
      pipewireRouteNodeName c = some node ∧ s'.server.LinksRemote node) s := by
  unfold routeZoomWithPipewireLinks
  split
  case isTrue => trivial
  case isFalse =>
    split
    case h_2 => trivial
    case h_1 node sink hnode hsink =>
      have hne : sink ≠ remoteInSink := by
        rintro rfl
        exact hoff hsink
      -- the links made are not those that go
      have hleft : (playbackPorts remoteInSink).1 ≠ (playbackPorts sink).1 :=
        fun h => hne (pipewirePort_inj rfl h).symm
      have hright : (playbackPorts remoteInSink).2 ≠ (playbackPorts sink).2 :=
        fun h => hne (pipewirePort_inj rfl h).symm
      have hcross : (outputPorts node).1 ≠ (outputPorts node).2 := by
        intro h
        have hlist := congrArg String.toList h
        simp [outputPorts, pipewirePort] at hlist
      dsimp only
      rw [Call.wp_bind]
      refine connect_links (fun s₁ hs₁ => ?_) (fun _ _ => trivial) (fun _ => trivial)
      rw [Call.wp_bind, Call.wp_attempt]
      refine connect_links (fun s₂ hs₂ => ?_) (fun _ s₂ => ?_) (fun _ => trivial)
      · dsimp only
        rw [Call.wp_bind, Call.wp_attempt]
        refine disconnect_links (fun s₃ hs₃ => ?_) (fun _ s₃ => ?_) (fun _ => trivial)
        · dsimp only
          rw [Call.wp_bind, Call.wp_attempt]
          refine disconnect_links (fun s₄ hs₄ => ?_) (fun _ s₄ => ?_) (fun _ => trivial)
          · refine ⟨node, hnode, ?_, ?_⟩ <;> rw [hs₄, hs₃, hs₂, hs₁]
            · simp [hleft, hcross]
            · simp [hright, hcross.symm]
          · exact returning_of_last (fun _ => returning_of_last fun _ =>
              returning_of_last fun _ => returning_fail) s₄
        · exact returning_of_last (fun _ => returning_of_last fun _ => returning_fail) s₃
      · exact returning_of_last (fun _ => returning_fail) s₂

/-- A stream that was taken is attached as its route will have it. -/
theorem takeStream_attached (hoff : pipewireNodeName c.currentSinkName ≠ some remoteInSink)
    (s : Scene) : (takeStream host c).wp
      (returning fun method s' => Attached s'.server (c.route method)) s := by
  unfold takeStream
  rw [Call.wp_bind, Call.wp_attempt]
  refine moveStream_sink (fun s₁ hs₁ => ?_) (fun _ s₁ _ _ => ?_) (fun _ _ => trivial)
  · have hsinks : s₁.server.sinkOf
        = Function.update s.server.sinkOf c.streamId (some remoteInSink) :=
      congrArg SinkSide.sinkOf hs₁
    show s₁.server.sinkOf c.streamId = some remoteInSink
    rw [hsinks, Function.update_self]
  · dsimp only
    rw [Call.wp_bind, Call.wp_attempt]
    refine Call.wp_mono (routeZoom_links hoff s₁) ?_ (fun _ s₂ _ => ?_) (fun _ h => h)
    · rintro _ s₂ ⟨node, hnode, hlinks⟩
      refine ⟨node, ?_, hlinks⟩
      simp [RouteCandidate.route, hnode, pipewireRouteNodeName_self hnode]
    · dsimp only
      exact returning_of_last (fun _ => returning_fail) s₂

/-- The route that is active has its stream and its captures. -/
def Settled (outputs : List SourceOutputRouteCandidate) (s : Scene) : Prop :=
  ∃ r, s.watcher.activeRoute = some r ∧ Attached s.server r ∧ CapturesTaken s.server outputs r

/-- A stream that is attached gets its route with its captures. -/
theorem settleRoute_settled {method : RouteMethod} (hs : Attached s.server (c.route method)) :
    (settleRoute host c method outputs).wp (returning fun _ s' => Settled outputs s') s := by
  unfold settleRoute
  dsimp only
  rw [Call.wp_bind, wp_remember]
  dsimp only
  rw [Call.wp_bind, Call.wp_attempt]
  refine Call.wp_of_keeps (persist_keeps_attachment _) (fun _ s₁ hs₁ => ?_) (fun _ s₁ _ => ?_)
    (fun _ _ => trivial) <;> dsimp only
  · rw [Call.wp_bind, Call.wp_attempt]
    refine Call.wp_mono (routeMatching_taken _ outputs s₁) ?_ (fun _ s₂ _ => ?_) (fun _ h => h)
    · rintro _ s₂ ⟨hs₂, htaken⟩
      exact ⟨c.route method, rfl, (attached_of_attachment (hs₂.trans hs₁)).mpr hs, htaken⟩
    · dsimp only
      exact returning_of_last (fun _ => returning_of_last fun _ => returning_of_last fun _ =>
        returning_fail) s₂
  · exact returning_of_last (fun _ => returning_of_last fun _ => returning_fail) s₁

/-- A route that is entered has its stream and its captures. -/
theorem enterRoute_settled (hoff : pipewireNodeName c.currentSinkName ≠ some remoteInSink)
    (s : Scene) : (enterRoute host c outputs).wp (returning fun _ s' => Settled outputs s') s := by
  unfold enterRoute
  rw [Call.wp_bind]
  exact Call.wp_mono (takeStream_attached hoff s) (fun _ _ hs₁ => settleRoute_settled hs₁)
    (fun _ _ h => h) (fun _ h => h)

/-- A stream off the translator's sink is on one whose ports are not the translator's. -/
theorem ports_off {server : Server} {i : Nat} {sink : String} (hsink : server.sinkOf i = some sink)
    (hoff : sink ≠ remoteInSink) : pipewireNodeName sink ≠ some remoteInSink := by
  obtain ⟨stream, -, hname⟩ := Option.bind_eq_some_iff.mp hsink
  obtain ⟨node, hnode, hname⟩ := Option.map_eq_some_iff.mp hname
  have htrim := server.sinks_trimmed node (List.mem_of_find?_eq_some hnode)
  rw [hname] at htrim
  intro h
  unfold pipewireNodeName at h
  simp only [htrim] at h
  split at h
  case isTrue => cases h
  case isFalse => exact hoff (Option.some.inj h)

/-- A stream that can be routed anew is on a sink whose ports are not the translator's. -/
theorem ports_off_remote (hc : c ∈ (s.watcher.snapshot s.server).candidates)
    (hoff : c.currentSinkName ≠ remoteInSink) :
    pipewireNodeName c.currentSinkName ≠ some remoteInSink :=
  ports_off (offered_of_mem hc).sink hoff

/-- A candidate that is routed where the active route is another's, or there is none. -/
theorem routeAndReport_settled {snapshot : RoutingSnapshot}
    (hother : ∀ r, s.watcher.activeRoute = some r → sameRouteIdentity r c = false)
    (hoff : pipewireNodeName c.currentSinkName ≠ some remoteInSink) :
    (routeAndReport host snapshot c).wp
      (returning fun _ s' => Settled snapshot.sourceOutputRoutes s') s := by
  unfold routeAndReport routeCandidateStream
  simp only [Call.wp_bind, Call.wp_get]
  cases hr : s.watcher.activeRoute with
  | none =>
    exact Call.wp_mono (enterRoute_settled hoff s) (fun _ _ h => h) (fun _ _ h => h)
      (fun _ h => h)
  | some r =>
    dsimp only
    rw [if_neg (by simp [hother r hr])]
    refine Call.wp_bind_of_last (fun _ s₁ => ?_) (fun _ _ => trivial) (fun _ => trivial) s
    exact Call.wp_mono (enterRoute_settled hoff s₁) (fun _ _ h => h) (fun _ _ h => h)
      (fun _ h => h)

/-! ### What `Routed` stands for -/

/-- Where the route stays and its stream is left where it is. -/
theorem settled_of_kept {s' : Scene} (hr : s.watcher.activeRoute = some r)
    (hs' : s'.attachment = s.attachment) (htaken : CapturesTaken s'.server outputs r) :
    Settled outputs s' ↔ Attached s.server r := by
  have hactive : s'.watcher.activeRoute = some r := (congrArg (fun x => x.1) hs').trans hr
  constructor
  · rintro ⟨r', hr', hattached, -⟩
    obtain rfl := Option.some.inj (hactive.symm.trans hr')
    exact (attached_of_attachment hs').mp hattached
  · intro hattached
    exact ⟨r, hactive, (attached_of_attachment hs').mpr hattached, htaken⟩

theorem attachment_of_still {s s' : Scene} (h : s'.still = s.still) :
    s'.attachment = s.attachment := by
  unfold Scene.attachment
  rw [still_watcher h, still_server h]

theorem unrouted_ne_routed (snapshot : RoutingSnapshot) : snapshot.unrouted ≠ .routed := by
  unfold RoutingSnapshot.unrouted
  split <;> simp

theorem restoreActive_unrouted (s : Scene) : (restoreActive host).wp
    (returning fun (state : RoutingState) _ => state.resolution ≠ .routed) s := by
  unfold restoreActive
  refine returning_of_last (fun snapshot => returning_of_last fun _ => returning_of_last fun _ =>
    returning_of_last fun _ => returning_of_last fun _ s' => ?_) s
  exact unrouted_ne_routed snapshot

theorem restoreStaleStream_unrouted (sink : String) (s : Scene) : (restoreStaleStream host c sink).wp
    (returning fun (state : RoutingState) _ => state.resolution ≠ .routed) s := by
  unfold restoreStaleStream
  refine returning_of_last (fun _ => returning_of_last fun _ => returning_of_last fun _ =>
    returning_of_last fun snapshot s' => ?_) s
  show (if _ then RouteResolution.routeConflict else snapshot.unrouted) ≠ .routed
  split
  · simp
  · exact unrouted_ne_routed snapshot

/-- Where no stream is stranded, none was. -/
theorem not_stranded_of_settled {s' : Scene} {manualStreamId : Option Nat}
    (hsettled : Settled outputs s') (hnot : ¬ Stranded s manualStreamId) :
    Settled outputs s' ↔ ¬ Stranded s manualStreamId :=
  ⟨fun _ => hnot, fun _ => hsettled⟩

/-- A stream of the snapshot is determined by its index. -/
theorem candidate_unique {c c' : RouteCandidate} (hc : c ∈ (s.watcher.snapshot s.server).candidates)
    (hc' : c' ∈ (s.watcher.snapshot s.server).candidates) (hid : c'.streamId = c.streamId) :
    c' = c := by
  have h := (PulseRoutingWatcher.mem_candidates.mp hc').1
  rw [hid, (PulseRoutingWatcher.mem_candidates.mp hc).1] at h
  exact (Option.some.inj h).symm

/-- A chosen stream is routed: it is settled unless it was to be kept and is stranded. -/
theorem routes_settled {s' : Scene} {manualStreamId : Option Nat} (hs' : s'.still = s.still)
    (hc : c ∈ (s.watcher.snapshot s.server).candidates)
    (hid : ∀ id, manualStreamId = some id → c.streamId = id)
    (hother : manualStreamId = none → ∀ r, s.watcher.activeRoute = some r →
      sameRouteIdentity r c = false)
    (hyield : manualStreamId = none → ∀ r c', s.watcher.activeRoute = some r →
      (s.watcher.snapshot s.server).candidates.find? (sameRouteIdentity r) = some c' →
      (s.watcher.snapshot s.server).yieldsTo r c' = some c) :
    (routeAndReport host (s.watcher.snapshot s.server) c).wp
      (returning fun _ s₁ => Settled (s.watcher.snapshot s.server).sourceOutputRoutes s₁
        ↔ ¬ Stranded s manualStreamId) s' := by
  by_cases hsame : ∃ r, s.watcher.activeRoute = some r ∧ sameRouteIdentity r c = true
  · -- the stream of the active route was named again, and stays where it is
    obtain ⟨r, hr, hsame⟩ := hsame
    obtain ⟨id, hm⟩ : ∃ id, manualStreamId = some id := by
      cases hm : manualStreamId with
      | some id => exact ⟨id, rfl⟩
      | none =>
        rw [hother hm r hr] at hsame
        cases hsame
    have hfind : (s.watcher.snapshot s.server).candidates.find? (sameRouteIdentity r) = some c := by
      cases hfind : (s.watcher.snapshot s.server).candidates.find? (sameRouteIdentity r) with
      | none => exact absurd hsame (List.find?_eq_none.mp hfind c hc)
      | some c' =>
        have hid' := (PulseRoutingWatcher.sameRouteIdentity_iff.mp (List.find?_some hfind)).1
        have hidc := (PulseRoutingWatcher.sameRouteIdentity_iff.mp hsame).1
        rw [candidate_unique hc (List.mem_of_find?_eq_some hfind) (hid'.trans hidc.symm)]
    have hstranded : Stranded s manualStreamId ↔ ¬ Attached s.server r := by
      constructor
      · rintro ⟨r', c', hr', -, -, hnot⟩
        obtain rfl := Option.some.inj (hr.symm.trans hr')
        exact hnot
      · exact fun hnot => ⟨r, c, hr, hfind, .inl (by rw [hm, hid id hm]), hnot⟩
    unfold routeAndReport routeCandidateStream
    simp only [Call.wp_bind, Call.wp_get, still_watcher hs', hr, hsame, if_true]
    refine Call.wp_of_keeps (persist_keeps_attachment r) (fun _ s₁ hs₁ => ?_) (fun _ _ _ => trivial)
      (fun _ _ => trivial)
    refine Call.wp_mono (routeMatching_taken r _ s₁) ?_ (fun _ _ h => h) (fun _ h => h)
    rintro _ s₂ ⟨hs₂, htaken⟩
    have hkept := (hs₂.trans hs₁).trans (attachment_of_still hs')
    show Settled _ _ ↔ _
    rw [hstranded, not_not]
    exact @settled_of_kept s r _ (s₂.remember _) hr hkept htaken
  · have hnew : ∀ r, s.watcher.activeRoute = some r → sameRouteIdentity r c = false := by
      intro r hr
      simpa using fun h => hsame ⟨r, hr, h⟩
    have hoff := ports_off_remote hc ((offered_of_mem hc).off hnew)
    have hnot : ¬ Stranded s manualStreamId := by
      rintro ⟨r, c', hr, hfind, hkept | ⟨hm, -, hstays⟩, -⟩
      · rw [candidate_unique hc (List.mem_of_find?_eq_some hfind) (hid _ hkept).symm] at hfind
        exact hsame ⟨r, hr, List.find?_some hfind⟩
      · rw [hyield hm r c' hr hfind] at hstays
        cases hstays
    refine Call.wp_mono (routeAndReport_settled (s := s') (by rwa [still_watcher hs']) hoff)
      (fun _ s₁ hs₁ => not_stranded_of_settled hs₁ hnot) (fun _ _ h => h) (fun _ h => h)

/-- The stream of the active route stays: it is settled unless its links were cut. -/
theorem refreshRoute_settled {s' : Scene} (hs' : s'.still = s.still)
    (hr : s.watcher.activeRoute = some r)
    (hfind : (s.watcher.snapshot s.server).candidates.find? (sameRouteIdentity r) = some c)
    (hstays : (s.watcher.snapshot s.server).yieldsTo r c = none) :
    (refreshRoute host (s.watcher.snapshot s.server) r c).wp
      (returning fun _ s₁ => Settled (s.watcher.snapshot s.server).sourceOutputRoutes s₁
        ↔ ¬ Stranded s none) s' := by
  have hid := (PulseRoutingWatcher.sameRouteIdentity_iff.mp (List.find?_some hfind)).1
  have hsink := (offered_of_mem (List.mem_of_find?_eq_some hfind)).sink
  -- taking the stream again attaches it, or leaves it where it is
  have hagain : (takeAgain host r c).wp (returning fun _ s₁ =>
      s₁.watcher.activeRoute = some r ∧ (Attached s₁.server r ↔ ¬ Stranded s none)) s' := by
    unfold takeAgain
    cases hm : r.routeMethod with
    | pipeWireLinks =>
      rw [if_pos rfl]
      have hstranded : Stranded s none ↔ ¬ Attached s.server r := by
        constructor
        · rintro ⟨r', c', hr', -, -, hnot⟩
          obtain rfl := Option.some.inj (hr.symm.trans hr')
          exact hnot
        · exact fun hnot => ⟨r, c, hr, hfind, .inr ⟨rfl, hm, hstays⟩, hnot⟩
      refine Call.wp_of_keeps (persist_keeps_attachment r) (fun _ s₁ hs₁ => ?_)
        (fun _ _ _ => trivial) (fun _ _ => trivial)
      have hkept := hs₁.trans (attachment_of_still hs')
      refine ⟨(congrArg (fun x => x.1) hkept).trans hr, ?_⟩
      rw [hstranded, not_not]
      exact attached_of_attachment hkept
    | pulseMove =>
      rw [if_neg (by simp)]
      have hnot : ¬ Stranded s none := by
        rintro ⟨r', c', hr', -, h | ⟨-, hlinks, -⟩, -⟩
        · cases h
        · obtain rfl := Option.some.inj (hr.symm.trans hr')
          rw [hm] at hlinks
          cases hlinks
      split
      case isTrue =>
        rw [Call.wp_bind]
        refine moveStream_sink (fun s₁ hs₁ => ?_) (fun _ _ _ _ => trivial) (fun _ _ => trivial)
        refine Call.wp_of_keeps (persist_keeps_attachment r) (fun _ s₂ hs₂ => ?_)
          (fun _ _ _ => trivial) (fun _ _ => trivial)
        have hactive : s₁.watcher.activeRoute = s'.watcher.activeRoute :=
          congrArg SinkSide.active hs₁
        have hsinks : s₁.server.sinkOf
            = Function.update s'.server.sinkOf c.streamId (some remoteInSink) :=
          congrArg SinkSide.sinkOf hs₁
        refine ⟨?_, fun _ => hnot, fun _ => (attached_of_attachment hs₂).mpr ?_⟩
        · have hkept : s₂.watcher.activeRoute = s₁.watcher.activeRoute :=
            congrArg (fun x => x.1) hs₂
          rw [hkept, hactive, still_watcher hs', hr]
        · unfold Attached
          rw [hm, hsinks, hid]
          exact Function.update_self ..
      case isFalse hoff =>
        refine ⟨by rw [still_watcher hs', hr], fun _ => hnot, fun _ => ?_⟩
        unfold Attached
        rw [hm, still_server hs', ← hid]
        rw [not_not] at hoff
        exact hoff ▸ hsink
  unfold refreshRoute
  rw [Call.wp_bind]
  refine Call.wp_mono hagain ?_ (fun _ _ h => h) (fun _ h => h)
  rintro _ s₁ ⟨hactive, hattached⟩
  rw [Call.wp_bind]
  refine Call.wp_mono (routeMatching_taken r _ s₁) ?_ (fun _ _ h => h) (fun _ h => h)
  rintro _ s₂ ⟨hs₂, htaken⟩
  exact (settled_of_kept hactive hs₂ htaken).trans hattached

/-- When `reconcile` reports a route, the route has its stream and its captures, exactly where the
    call was not one that keeps the active route with its stream somewhere else. -/
theorem routed_settled_iff (host : Host) (s s' : Scene) (manualStreamId : Option Nat)
    (state : RoutingState) (hrun : reconcile host manualStreamId s = (.ok state, s'))
    (hrouted : state.resolution = .routed) :
    Settled (s.watcher.snapshot s.server).sourceOutputRoutes s' ↔ ¬ Stranded s manualStreamId := by
  have hreconcile : (reconcile host manualStreamId).wp (returning fun (state : RoutingState) s' =>
      state.resolution = .routed → (Settled (s.watcher.snapshot s.server).sourceOutputRoutes s'
        ↔ ¬ Stranded s manualStreamId)) s := by
    refine reconcile_wp ⟨fun _ _ _ => trivial, fun _ _ _ => trivial,
      fun _ _ _ hres hrouted => absurd hrouted hres, ?_, ?_, ?_, ?_, ?_⟩
    · intro _ _
      exact Call.wp_mono (restoreActive_unrouted s) (fun _ _ h hrouted => absurd hrouted h)
        (fun _ _ h => h) (fun _ h => h)
    · intro s₁ c sink _ _ _ _ _ _ _
      exact Call.wp_mono (restoreStaleStream_unrouted sink s₁)
        (fun _ _ h hrouted => absurd hrouted h) (fun _ _ h => h) (fun _ h => h)
    · intro s₁ c hs₁ _ hc hid hother hyield
      exact Call.wp_mono (routes_settled hs₁ hc hid hother hyield) (fun _ _ h _ => h)
        (fun _ _ h => h) (fun _ h => h)
    · intro s₁ r c hs₁ hm _ hr hfind hstays
      obtain rfl := hm
      exact Call.wp_mono (refreshRoute_settled hs₁ hr hfind hstays) (fun _ _ h _ => h)
        (fun _ _ h => h) (fun _ h => h)
    · intro s₁ r hs₁ hm _ hr hgone
      -- the route was forgotten, so what is routed next is routed anew
      have hnot : ¬ Stranded s manualStreamId := by
        rintro ⟨r', c', hr', hfind, -⟩
        obtain rfl := Option.some.inj (hr.symm.trans hr')
        rw [hgone] at hfind
        cases hfind
      have hforget : (forgetRoute host (s.watcher.snapshot s.server) r).wp
          (returning fun _ s₂ => s₂.watcher.activeRoute = none) s₁ := by
        unfold forgetRoute
        rw [Call.wp_bind, wp_remember]
        dsimp only
        rw [Call.wp_bind]
        refine Call.wp_of_keeps (restoreMatching_keeps_sinkSide _ _ _) (fun _ s₂ hs₂ => ?_)
          (fun _ _ _ => trivial) (fun _ _ => trivial)
        rw [Call.wp_bind]
        refine Call.wp_of_keeps clear_keeps_captures (fun _ s₃ hs₃ => ?_)
          (fun _ _ _ => trivial) (fun _ _ => trivial)
        exact (congrArg CaptureSide.active hs₃).trans (congrArg SinkSide.active hs₂)
      refine Call.wp_mono hforget (fun _ s₂ hnone => ⟨?_, ?_, ?_⟩) (fun _ _ h => h) (fun _ h => h)
      · exact fun _ hres hrouted => absurd hrouted hres
      · exact fun _ hres hrouted => absurd hrouted hres
      · intro c hc
        refine Call.wp_mono (routeAndReport_settled (s := s₂) ?_
          (ports_off_remote hc (off_of_unlisted hr hgone hc)))
          (fun _ s₃ hs₃ _ => not_stranded_of_settled hs₃ hnot) (fun _ _ h => h) (fun _ h => h)
        intro r' hr'
        rw [hnone] at hr'
        cases hr'
  exact Call.met_of_wp hreconcile hrun hrouted

/-- A call that is found and routed. -/
theorem routed_settled_desktop : ∃ state s',
    reconcile ⟨desktopCodec, allDone⟩ none desktopScene = (.ok state, s')
      ∧ state.resolution = .routed
      ∧ (Settled (desktopScene.watcher.snapshot desktopScene.server).sourceOutputRoutes s'
        ↔ ¬ Stranded desktopScene none) := by
  have hreported : reported (reconcile ⟨desktopCodec, allDone⟩ none desktopScene).1
      = some .routed := by decide +kernel
  obtain ⟨state, hok, hrouted⟩ := exists_of_reported hreported
  have hrun : reconcile ⟨desktopCodec, allDone⟩ none desktopScene
      = (.ok state, (reconcile ⟨desktopCodec, allDone⟩ none desktopScene).2) :=
    Prod.ext hok rfl
  exact ⟨state, _, hrun, hrouted, routed_settled_iff _ _ _ _ _ hrun hrouted⟩

/-- The call is routed, the user moves it back to the speakers, and it is selected by hand. -/
def selectAgain : List Operation :=
  [.call (.reconcile none) allDone,
    .change (desktop [⟨7, 1, browserProperties⟩] [⟨9, 5, browserProperties⟩] playing_nodup captured_nodup)
      [] [],
    .call (.reconcile (some 7)) allDone]

/-- The selection is reported as routed, with the stream on the speakers. -/
theorem selectAgain_stranded : desktopScene.Starts desktopCodec
    ∧ (exec (Scene.step desktopCodec) desktopScene selectAgain).1.getLast?.map (fun entry =>
        entry.2.bind reported) = some (some .routed)
    ∧ (exec (Scene.step desktopCodec) desktopScene selectAgain).2.watcher.activeRoute
      = some desktopRoute
    ∧ (exec (Scene.step desktopCodec) desktopScene selectAgain).2.server.sinkOf 7
      = some "alsa_output.speakers" :=
  ⟨⟨.inr rfl, rfl⟩, by decide +kernel, by decide +kernel, by decide +kernel⟩

end Translator.Routing
