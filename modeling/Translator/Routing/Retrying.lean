import Translator.Routing.Undoing

/-! Restoring a linked stream again after it failed. `restore_active` makes the links to the stream's own
    sink first, and making a link that is there fails: a call that fails with the first link made, and
    does not take it back, fails ever after. -/

namespace Translator.Routing

open Schemes

variable {codec : JournalCodec} {host : Host} {s s₀ s' : Scene} {code : RoutingErrorCode}
  {r : IncomingRoute} {node sink : String} {links : Set (String × String)}

/-! ### What a call has to get through -/

/-- The listings succeed. -/
def Host.Lists (host : Host) : Prop :=
  ¬ (host.answer 0 (.list .sinkInputs)).fails ∧ ¬ (host.answer 1 (.list .sourceOutputs)).fails
    ∧ ¬ (host.answer 2 (.list .sources)).fails ∧ ¬ (host.answer 3 (.list .sinks)).fails

/-- `pw-link` is not made to fail. -/
def Host.Links (host : Host) (n : Nat) (link : String × String) : Prop :=
  ¬ (host.answer n (.link link.1 link.2)).fails

def Host.Cuts (host : Host) (n : Nat) (link : String × String) : Prop :=
  ¬ (host.answer n (.unlink link.1 link.2)).fails

/-- The captures on the translator's microphone that belong to the route. -/
def Scene.routeCaptures (s : Scene) (r : IncomingRoute) : List SourceOutputRouteCandidate :=
  (s.watcher.snapshot s.server).sourceOutputRoutes.filter (fun output =>
    output.stableAppKey = r.stableAppKey && output.virtualSource)

/-- No command fails but where there is nothing to do. -/
def Host.Works (host : Host) : Prop := ∀ n effect, ¬ (host.answer n effect).fails

/-- Captures are moved one by one. -/
def Host.MovesAll (host : Host) (source : String) : Nat → List SourceOutputRouteCandidate → Prop
  | _, [] => True
  | n, output :: rest => ¬ (host.answer n (.moveSourceOutput output.streamId source)).fails
    ∧ Host.MovesAll host source (n + 1) rest

/-- The captures of the route have a source to go back to. -/
def Returnable (s : Scene) (r : IncomingRoute) : Prop :=
  s.routeCaptures r = [] ∨ (preferredRestoreSource s.server.sources).isSome

/-- The captures of the route go back. -/
def Host.RestoresCaptures (host : Host) (s : Scene) (r : IncomingRoute) : Prop :=
  s.routeCaptures r = [] ∨ ∃ source, preferredRestoreSource s.server.sources = some source
    ∧ host.MovesAll source 8 (s.routeCaptures r)

theorem Host.Works.movesAll (h : host.Works) (source : String) :
    ∀ (n : Nat) (outputs : List SourceOutputRouteCandidate), host.MovesAll source n outputs
  | _, [] => trivial
  | n, _ :: rest => ⟨h n _, h.movesAll source (n + 1) rest⟩

theorem Host.Works.restoresCaptures (h : host.Works) (hreturn : Returnable s r) :
    host.RestoresCaptures s r := by
  rcases hreturn with hnil | hsome
  · exact .inl hnil
  · obtain ⟨source, hsource⟩ := Option.isSome_iff_exists.mp hsome
    exact .inr ⟨source, hsource, h.movesAll source 8 _⟩

theorem Host.RestoresCaptures.returnable (h : host.RestoresCaptures s r) : Returnable s r := by
  rcases h with hnil | ⟨source, hsource, -⟩
  · exact .inl hnil
  · exact .inr (by rw [hsource]; rfl)

/-- A call of `restore_active` makes the first link of the stream to its own sink, and neither takes it
    back nor gets through with the rest. -/
def Host.Strands (host : Host) (s : Scene) (r : IncomingRoute) (node sink : String) : Prop :=
  host.Lists ∧ host.Links 4 (linksTo node sink).1
    ∧ ¬ (¬ host.Links 5 (linksTo node sink).2 ∧ host.Cuts 6 (linksTo node sink).1)
    ∧ ¬ (host.Links 5 (linksTo node sink).2 ∧ host.Cuts 6 (linksTo node remoteInSink).1
      ∧ host.Cuts 7 (linksTo node remoteInSink).2 ∧ host.RestoresCaptures s r)

/-! ### Where the links are -/

/-- The route that is active goes by links, of this node and away from this sink, and its stream plays. -/
structure ByLinks (s : Scene) (r : IncomingRoute) (node sink : String) : Prop where
  active : s.watcher.activeRoute = some r
  method : r.routeMethod = .pipeWireLinks
  zoom : r.application = .zoom
  nodeName : r.pipewireNodeName.bind pipewireNodeName = some node
  sinkName : pipewireNodeName r.originalSinkName = some sink
  listed : ((s.watcher.snapshot s.server).candidates.find? (sameRouteIdentity r)).isSome

/-- The links of the stream are to the translator's sink, as routing has left them. -/
structure Routed (s : Scene) (r : IncomingRoute) (node sink : String) : Prop
    extends ByLinks s r node sink where
  off : sink ≠ remoteInSink
  remoteLeft : (linksTo node remoteInSink).1 ∈ s.server.places.links
  remoteRight : (linksTo node remoteInSink).2 ∈ s.server.places.links
  left : (linksTo node sink).1 ∉ s.server.places.links
  right : (linksTo node sink).2 ∉ s.server.places.links

/-- The route is active still, and the first link to the stream's own sink is there. -/
structure Stuck (s : Scene) (r : IncomingRoute) (node sink : String) : Prop
    extends ByLinks s r node sink where
  left : (linksTo node sink).1 ∈ s.server.places.links

/-- The links of the node are its own again, and all others are what they were. -/
def homeLinks (links : Set (String × String)) (node sink : String) : Set (String × String) :=
  (insert (linksTo node sink).2 (insert (linksTo node sink).1 links)
    \ {(linksTo node remoteInSink).1}) \ {(linksTo node remoteInSink).2}

/-- There is no route, and the links are these. -/
structure Home (links : Set (String × String)) (s : Scene) : Prop where
  inactive : s.watcher.activeRoute = none
  links : s.server.places.links = links

/-- A scene that differs in what is known of neither streams nor links. -/
structure Alike (s s' : Scene) : Prop where
  watcher : s'.watcher = s.watcher
  kin : s.server.Kin s'.server
  inputs : s'.server.sinkInputs = s.server.sinkInputs
  outputs : s'.server.sourceOutputs = s.server.sourceOutputs
  links : s'.server.places.links = s.server.places.links

/-! ### Snapshots -/

theorem routeCandidate_of_same {a b : Server} (w : PulseRoutingWatcher) (hsinks : b.sinks = a.sinks)
    (hprocesses : b.processes = a.processes) : w.routeCandidate b = w.routeCandidate a := by
  funext stream
  have hinspect : b.inspectProcess = a.inspectProcess := by
    funext pid
    unfold Server.inspectProcess
    rw [hprocesses]
  have hpeer : w.isAuthorizedVirtualPeer b stream = w.isAuthorizedVirtualPeer a stream := by
    unfold PulseRoutingWatcher.isAuthorizedVirtualPeer
    rw [hinspect]
  unfold PulseRoutingWatcher.routeCandidate
  rw [hpeer, hsinks]

theorem candidates_of_same {a b : Server} (w : PulseRoutingWatcher) (hkin : a.Kin b)
    (hinputs : b.sinkInputs = a.sinkInputs) :
    (w.snapshot b).candidates = (w.snapshot a).candidates := by
  unfold PulseRoutingWatcher.snapshot
  rw [hinputs, routeCandidate_of_same w hkin.sinks hkin.processes]

theorem captures_of_same {a b : Server} (w : PulseRoutingWatcher) (hkin : a.Kin b)
    (houtputs : b.sourceOutputs = a.sourceOutputs) :
    (w.snapshot b).sourceOutputRoutes = (w.snapshot a).sourceOutputRoutes := by
  unfold PulseRoutingWatcher.snapshot
  rw [houtputs, hkin.sources]

theorem ByLinks.of_same (h : ByLinks s r node sink) (hwatcher : s'.watcher = s.watcher)
    (hkin : s.server.Kin s'.server) (hinputs : s'.server.sinkInputs = s.server.sinkInputs) :
    ByLinks s' r node sink := by
  refine ⟨hwatcher ▸ h.active, h.method, h.zoom, h.nodeName, h.sinkName, ?_⟩
  rw [hwatcher, candidates_of_same _ hkin hinputs]
  exact h.listed

theorem Alike.routed (h : Alike s s') (hs : Routed s r node sink) : Routed s' r node sink := by
  refine ⟨hs.toByLinks.of_same h.watcher h.kin h.inputs, hs.off, ?_, ?_, ?_, ?_⟩ <;> rw [h.links]
  · exact hs.remoteLeft
  · exact hs.remoteRight
  · exact hs.left
  · exact hs.right

theorem Alike.routeCaptures (h : Alike s s') : s'.routeCaptures r = s.routeCaptures r := by
  unfold Scene.routeCaptures
  rw [h.watcher, captures_of_same _ h.kin h.outputs]

theorem Alike.returnable (h : Alike s s') : Returnable s' r ↔ Returnable s r := by
  unfold Returnable
  rw [h.routeCaptures, h.kin.sources]

/-! ### Along a call -/

/-- The watcher and the playing streams are as they were when the call began, and these links are there. -/
structure Along (s₀ : Scene) (links : Set (String × String)) (s : Scene) : Prop where
  watcher : s.watcher = s₀.watcher
  kin : s₀.server.Kin s.server
  inputs : s.server.sinkInputs = s₀.server.sinkInputs
  links : s.server.places.links = links

/-- Nothing but links has been changed so far. -/
structure Linking (s₀ : Scene) (links : Set (String × String)) (tick : Nat) (s : Scene) : Prop
    extends Along s₀ links s where
  outputs : s.server.sourceOutputs = s₀.server.sourceOutputs
  tick : s.tick = tick

theorem Along.carried {effect : Effect} (h : Along s₀ links s) (hs' : Carried s effect s')
    (hmoves : effect.movesInput = false) :
    Along s₀ (s.server.places.after effect).links s' := by
  refine ⟨hs'.watcher.trans h.watcher, h.kin.trans hs'.kin, (hs'.inputs hmoves).trans h.inputs, ?_⟩
  rw [hs'.places]

theorem Linking.ticked {n : Nat} (h : Linking s₀ links n s) : Linking s₀ links (n + 1) s.ticked :=
  ⟨⟨h.watcher, h.kin, h.inputs, h.links⟩, h.outputs, congrArg (· + 1) h.tick⟩

/-- A link is made where it is missing and `pw-link` is not made to fail. -/
theorem Linking.connect_wp {n : Nat} {post : Call.Post Scene RoutingError Unit}
    (h : Linking s₀ links n s) (link : String × String) (hties : host.Tries)
    (hok : host.Links n link → link ∉ links → ∀ s', Linking s₀ (insert link links) (n + 1) s' →
      post.ok () s')
    (herr : ¬ host.Links n link ∨ link ∈ links → ∀ s', Linking s₀ links (n + 1) s' →
      post.err (RoutingError.new code) s')
    (hcrash : ∀ s', post.crash s') :
    (connectPipewireLink host link.1 link.2 code).wp post s := by
  refine command_wp hties rfl (fun hnot hpossible s' hs' => ?_) (fun hfails => ?_)
    (fun _ => hcrash s)
  · rw [h.tick] at hnot
    refine hok hnot (h.links ▸ hpossible) s' ⟨?_, (hs'.outputs rfl).trans h.outputs, ?_⟩
    · rw [← h.links]
      exact h.toAlong.carried hs' rfl
    · rw [hs'.tick, h.tick]
  · rw [h.tick] at hfails
    refine herr ?_ _ h.ticked
    rcases hfails with hfails | hnot
    · exact .inl (not_not.mpr hfails)
    · exact .inr (h.links ▸ not_not.mp hnot)

/-- A link is cut where it is there. -/
theorem Linking.disconnect_wp {n : Nat} {post : Call.Post Scene RoutingError Unit}
    (h : Linking s₀ links n s) (link : String × String) (hties : host.Tries)
    (hok : host.Cuts n link → link ∈ links → ∀ s', Linking s₀ (links \ {link}) (n + 1) s' →
      post.ok () s')
    (herr : ¬ host.Cuts n link ∨ link ∉ links → ∀ s', Linking s₀ links (n + 1) s' →
      post.err (RoutingError.new code) s')
    (hcrash : ∀ s', post.crash s') :
    (disconnectPipewireLink host link.1 link.2 code).wp post s := by
  refine command_wp hties rfl (fun hnot hpossible s' hs' => ?_) (fun hfails => ?_)
    (fun _ => hcrash s)
  · rw [h.tick] at hnot
    refine hok hnot (h.links ▸ hpossible) s' ⟨?_, (hs'.outputs rfl).trans h.outputs, ?_⟩
    · rw [← h.links]
      exact h.toAlong.carried hs' rfl
    · rw [hs'.tick, h.tick]
  · rw [h.tick] at hfails
    refine herr ?_ _ h.ticked
    rcases hfails with hfails | hnot
    · exact .inl (not_not.mpr hfails)
    · exact .inr (h.links ▸ hnot)

/-- A listing changes nothing. -/
theorem list_wp {post : Call.Post Scene RoutingError Unit} {what : Listing}
    (hok : ¬ (host.answer s.tick (.list what)).fails → post.ok () s.ticked)
    (herr : (host.answer s.tick (.list what)).fails → post.err (RoutingError.new code) s.ticked)
    (hcrash : ∀ s', post.crash s') : (perform host (.list what) code).wp post s := by
  unfold Call.wp perform
  split
  case h_1 => exact hcrash _
  case h_2 h => exact herr (.inl h)
  case h_3 h => exact herr (.inr h)
  case h_4 h => exact hok (by simp [Answer.fails, h])
  case h_5 h => exact hok (by simp [Answer.fails, h])

theorem discover_lists {post : Call.Post Scene RoutingError RoutingSnapshot} (htick : s.tick = 0)
    (hok : host.Lists → ∀ s', Linking s s.server.places.links 4 s' →
      post.ok (s.watcher.snapshot s.server) s')
    (herr : ¬ host.Lists → ∀ e s', Alike s s' → post.err e s') (hcrash : ∀ s', post.crash s') :
    (discover host).wp post s := by
  unfold discover
  rw [Call.wp_bind]
  refine list_wp (fun h₀ => ?_) (fun h₀ => herr ?_ _ _ ⟨rfl, .refl _, rfl, rfl, rfl⟩) hcrash
  · rw [Call.wp_bind]
    refine list_wp (fun h₁ => ?_) (fun h₁ => herr ?_ _ _ ⟨rfl, .refl _, rfl, rfl, rfl⟩) hcrash
    · rw [Call.wp_bind]
      refine list_wp (fun h₂ => ?_) (fun h₂ => herr ?_ _ _ ⟨rfl, .refl _, rfl, rfl, rfl⟩) hcrash
      · rw [Call.wp_bind]
        refine list_wp (fun h₃ => ?_) (fun h₃ => herr ?_ _ _ ⟨rfl, .refl _, rfl, rfl, rfl⟩) hcrash
        · simp only [Scene.ticked, htick] at h₀ h₁ h₂ h₃
          refine hok ⟨h₀, h₁, h₂, h₃⟩ _ ⟨⟨rfl, .refl _, rfl, rfl⟩, rfl, ?_⟩
          simp [Scene.ticked, htick]
        · simp only [Scene.ticked, htick] at h₃
          exact fun hlists => hlists.2.2.2 h₃
      · simp only [Scene.ticked, htick] at h₂
        exact fun hlists => hlists.2.2.1 h₂
    · simp only [Scene.ticked, htick] at h₁
      exact fun hlists => hlists.2.1 h₁
  · rw [htick] at h₀
    exact fun hlists => hlists.1 h₀

/-- Captures go back one by one, and no link changes. -/
theorem restoreOutputs_moves {source : String} (hties : host.Tries)
    (hsource : (nodeNamed s₀.server.sources source).isSome) :
    ∀ (outputs : List SourceOutputRouteCandidate) (n : Nat) (s : Scene), Along s₀ links s →
    s.tick = n → (∀ output ∈ outputs, (s₀.server.sourceOutput output.streamId).isSome) →
    (restoreOutputs host source outputs).wp
      ⟨fun _ s' => host.MovesAll source n outputs ∧ Along s₀ links s',
        fun _ s' => ¬ host.MovesAll source n outputs ∧ Along s₀ links s', fun _ => True⟩ s
  | [], n, s, hs, _, _ => ⟨trivial, hs⟩
  | output :: rest, n, s, hs, htick, houtputs => by
    have hpossible : (Effect.moveSourceOutput output.streamId source).Possible s.server := by
      refine ⟨?_, ?_⟩
      · have hident := congrArg Option.isSome (hs.kin.sourceOutput_ident output.streamId)
        simp only [Option.isSome_map] at hident
        rw [hident]
        exact houtputs output (List.mem_cons_self ..)
      · rw [hs.kin.sources]
        exact hsource
    unfold restoreOutputs
    rw [Call.wp_bind]
    refine command_wp hties rfl (fun hnot _ s₁ hs₁ => ?_) (fun hfails => ?_) (fun _ => trivial)
    · rw [htick] at hnot
      have halong : Along s₀ links s₁ := by
        have h := hs.carried hs₁ rfl
        rw [← hs.links]
        exact h
      refine Call.wp_mono (restoreOutputs_moves hties hsource rest (n + 1) s₁ halong
        (by rw [hs₁.tick, htick]) fun o hmem => houtputs o (List.mem_cons_of_mem _ hmem)) ?_ ?_
        (fun _ h => h)
      · rintro _ s₂ ⟨hmoves, hs₂⟩
        exact ⟨⟨hnot, hmoves⟩, hs₂⟩
      · rintro _ s₂ ⟨hnone, hs₂⟩
        exact ⟨fun hmoves => hnone hmoves.2, hs₂⟩
    · rw [htick] at hfails
      rcases hfails with hfails | hnot
      · exact ⟨fun hmoves => hmoves.1 hfails, hs.watcher, hs.kin, hs.inputs, hs.links⟩
      · exact absurd hpossible hnot

/-- The captures of the route go back, or one does not. -/
theorem restoreMatching_restores (hties : host.Tries) (hs : Linking s₀ links 8 s) :
    (restoreMatchingSourceOutputs host r (s₀.watcher.snapshot s₀.server).sourceOutputRoutes
      (s₀.watcher.snapshot s₀.server).fallbackRestoreSourceName).wp
      ⟨fun _ s' => host.RestoresCaptures s₀ r ∧ Along s₀ links s',
        fun _ s' => ¬ host.RestoresCaptures s₀ r ∧ Along s₀ links s', fun _ => True⟩ s := by
  have hfound : (s₀.watcher.snapshot s₀.server).fallbackRestoreSourceName
    = preferredRestoreSource s₀.server.sources := rfl
  unfold restoreMatchingSourceOutputs
  dsimp only
  rw [hfound]
  split
  case isTrue hempty => exact ⟨.inl (List.isEmpty_iff.mp hempty), hs.toAlong⟩
  case isFalse hne =>
    have hcons : s₀.routeCaptures r ≠ [] := fun hnil => hne (List.isEmpty_iff.mpr hnil)
    cases hfallback : preferredRestoreSource s₀.server.sources with
    | none =>
      refine ⟨?_, hs.toAlong⟩
      rintro (hnil | ⟨source, hsome, -⟩)
      · exact hcons hnil
      · rw [hfallback] at hsome
        cases hsome
    | some source =>
      have hthere : (nodeNamed s₀.server.sources source).isSome := by
        obtain ⟨-, node, hnode, rfl⟩ := preferredRestore_mem hfallback
        exact nodeNamed_of_mem hnode
      refine Call.wp_mono (restoreOutputs_moves hties hthere _ 8 s hs.toAlong hs.tick fun o hmem => ?_)
        ?_ ?_ (fun _ h => h)
      · obtain ⟨-, hsource, -, -⟩ := PulseRoutingWatcher.mem_outputs (List.mem_filter.mp hmem).1
        exact Server.sourceOutput_isSome_of_sourceOf hsource
      · rintro _ s₁ ⟨hmoves, hs₁⟩
        exact ⟨.inr ⟨source, hfallback, hmoves⟩, hs₁⟩
      · rintro _ s₁ ⟨hnot, hs₁⟩
        refine ⟨?_, hs₁⟩
        rintro (hnil | ⟨source', hsome, hmoves⟩)
        · exact hcons hnil
        · rw [hfallback] at hsome
          obtain rfl := Option.some.inj hsome
          exact hnot hmoves

/-! ### One call -/

theorem Linking.alike {n : Nat} (h : Linking s s.server.places.links n s') : Alike s s' :=
  ⟨h.watcher, h.kin, h.inputs, h.outputs, h.links⟩

theorem Along.stuck (h : Along s₀ links s) (hs₀ : ByLinks s₀ r node sink)
    (hleft : (linksTo node sink).1 ∈ links) : Stuck s r node sink :=
  ⟨hs₀.of_same h.watcher h.kin h.inputs, h.links ▸ hleft⟩

/-- The links go back, or the first of them is made and stays, or nothing has changed. -/
theorem restoreZoom_links (hs₀ : Routed s₀ r node sink) (hties : host.Tries)
    (hs : Linking s₀ s₀.server.places.links 4 s) :
    (restoreZoomPipewireLinks host r).wp
      ⟨fun _ s' => host.Links 4 (linksTo node sink).1 ∧ host.Links 5 (linksTo node sink).2
          ∧ host.Cuts 6 (linksTo node remoteInSink).1 ∧ host.Cuts 7 (linksTo node remoteInSink).2
          ∧ Linking s₀ (homeLinks s₀.server.places.links node sink) 8 s',
        fun _ s' =>
          (¬ host.Links 4 (linksTo node sink).1
            ∨ ¬ host.Links 5 (linksTo node sink).2 ∧ host.Cuts 6 (linksTo node sink).1) ∧ Alike s₀ s'
          ∨ host.Links 4 (linksTo node sink).1
            ∧ ¬ (¬ host.Links 5 (linksTo node sink).2 ∧ host.Cuts 6 (linksTo node sink).1)
            ∧ ¬ (host.Links 5 (linksTo node sink).2 ∧ host.Cuts 6 (linksTo node remoteInSink).1
              ∧ host.Cuts 7 (linksTo node remoteInSink).2) ∧ Stuck s' r node sink,
        fun _ => True⟩ s := by
  obtain ⟨hra, hla, h₁, h₂, h₃, h₄⟩ := linksTo_ne node hs₀.off
  unfold restoreZoomPipewireLinks
  rw [if_neg (not_not.mpr hs₀.zoom), hs₀.nodeName, hs₀.sinkName]
  dsimp only
  rw [Call.wp_bind]
  refine hs.connect_wp (linksTo node sink).1 hties (fun hlinks₁ _ s₁ hs₁ => ?_) (fun hnot s₁ hs₁ => ?_) (fun _ => trivial)
  · rw [Call.wp_bind, Call.wp_attempt]
    refine hs₁.connect_wp (linksTo node sink).2 hties (fun hlinks₂ _ s₂ hs₂ => ?_) (fun hnot s₂ hs₂ => ?_)
      (fun _ => trivial)
    · -- both links are made, and those to the translator go
      dsimp only
      rw [Call.wp_bind]
      have hleft : (linksTo node sink).1 ∈ insert (linksTo node sink).2
          (insert (linksTo node sink).1 s₀.server.places.links) := .inr (.inl rfl)
      refine hs₂.disconnect_wp (linksTo node remoteInSink).1 hties (fun hcuts₁ _ s₃ hs₃ => ?_) (fun hnot s₃ hs₃ => ?_)
        (fun _ => trivial)
      · refine hs₃.disconnect_wp (linksTo node remoteInSink).2 hties (fun hcuts₂ _ s₄ hs₄ => ?_) (fun hnot s₄ hs₄ => ?_) ?_
        · exact ⟨hlinks₁, hlinks₂, hcuts₁, hcuts₂, hs₄⟩
        swap
        · exact fun _ => trivial
        have hfails : ¬ host.Cuts 7 (linksTo node remoteInSink).2 := by
          refine hnot.resolve_right fun hmissing => hmissing ⟨.inr (.inr hs₀.remoteRight), ?_⟩
          exact hra.symm
        exact .inr ⟨hlinks₁, fun h => h.1 hlinks₂, fun h => hfails h.2.2,
          hs₄.stuck hs₀.toByLinks ⟨hleft, h₁⟩⟩
      · have hfails : ¬ host.Cuts 6 (linksTo node remoteInSink).1 :=
          hnot.resolve_right fun hmissing => hmissing (.inr (.inr hs₀.remoteLeft))
        exact .inr ⟨hlinks₁, fun h => h.1 hlinks₂, fun h => hfails h.2.1,
          hs₃.stuck hs₀.toByLinks hleft⟩
    · -- the second link is not made, and the first is taken back
      have hfails : ¬ host.Links 5 (linksTo node sink).2 := by
        refine hnot.resolve_right ?_
        rintro (hsame | hthere)
        · exact hla hsame.symm
        · exact hs₀.right hthere
      dsimp only
      rw [Call.wp_bind, Call.wp_attempt]
      refine hs₂.disconnect_wp (linksTo node sink).1 hties (fun hcuts _ s₃ hs₃ => ?_) (fun hnot s₃ hs₃ => ?_)
        (fun _ => trivial)
      · refine .inl ⟨.inr ⟨hfails, hcuts⟩, hs₃.watcher, hs₃.kin, hs₃.inputs, hs₃.outputs, ?_⟩
        rw [hs₃.links, undone_one hs₀.left]
      · have hstays : ¬ host.Cuts 6 (linksTo node sink).1 :=
          hnot.resolve_right fun hmissing => hmissing (.inl rfl)
        exact .inr ⟨hlinks₁, fun h => hstays h.2, fun h => hfails h.1,
          hs₃.stuck hs₀.toByLinks (.inl rfl)⟩
  · exact .inl ⟨.inl (hnot.resolve_right hs₀.left), hs₁.alike⟩

theorem undoStream_byLinks (h : ByLinks s r node sink) :
    undoStream host (s.watcher.snapshot s.server) r = restoreZoomPipewireLinks host r := by
  unfold undoStream
  obtain ⟨c, hc⟩ := Option.isSome_iff_exists.mp h.listed
  rw [hc, h.method]
  unfold restoreRoute
  rw [h.method]

/-- The journal is removed, or the removal is made to fail, and nothing else changes. -/
theorem clear_alike (s : Scene) : (clearRouteJournal host code).wp
    ⟨fun _ s' => s'.watcher = s.watcher ∧ s'.server = s.server,
      fun _ s' => ¬ host.Works ∧ s'.watcher = s.watcher ∧ s'.server = s.server, fun _ => True⟩ s := by
  unfold clearRouteJournal
  rw [Call.wp_bind, Call.wp_get]
  dsimp only
  split
  · unfold Call.wp perform
    split
    case h_1 => trivial
    case h_2 h => exact ⟨fun hworks => hworks _ _ (.inl h), rfl, rfl⟩
    case h_3 h => exact ⟨fun hworks => hworks _ _ (.inr h), rfl, rfl⟩
    case h_4 => exact ⟨rfl, rfl⟩
    case h_5 => exact ⟨rfl, rfl⟩
  · exact ⟨rfl, rfl⟩

/-- A call that has no route, or is through with it, forgets it and leaves the links alone. -/
theorem forget_home {snapshot : RoutingSnapshot} (hlinks : s.server.places.links = links) :
    (remember ({ · with activeRoute := none, selectedAppKey := none, routeRecoveryPending := false })
      >>= fun _ => clearRouteJournal host .restoreFailed >>= fun _ =>
        state snapshot snapshot.unrouted).wp
      ⟨fun _ s' => Home links s',
        fun _ s' => ¬ host.Works ∧ Home links s', fun _ => True⟩ s := by
  rw [Call.wp_bind, wp_remember]
  dsimp only
  rw [Call.wp_bind]
  refine Call.wp_mono (clear_alike _) ?_ ?_ (fun _ h => h)
  · rintro _ s₁ ⟨hwatcher, hserver⟩
    exact ⟨by rw [hwatcher]; rfl, by rw [hserver]; exact hlinks⟩
  · rintro _ s₁ ⟨hfails, hwatcher, hserver⟩
    exact ⟨hfails, by rw [hwatcher]; rfl, by rw [hserver]; exact hlinks⟩

/-- A call that finds the links as routing has left them. -/
theorem restoreActive_routed (hs : Routed s r node sink) (htick : s.tick = 0) (hties : host.Tries) :
    (restoreActive host).wp
      ⟨fun _ s' => ¬ host.Strands s r node sink ∧ Returnable s r
          ∧ Home (homeLinks s.server.places.links node sink) s',
        fun _ s' => ¬ (host.Works ∧ Returnable s r)
          ∧ (¬ host.Strands s r node sink ∧ Alike s s'
            ∨ host.Strands s r node sink ∧ Stuck s' r node sink
            ∨ ¬ host.Strands s r node sink ∧ Returnable s r
              ∧ Home (homeLinks s.server.places.links node sink) s'),
        fun _ => True⟩ s := by
  unfold restoreActive
  rw [Call.wp_bind]
  refine discover_lists htick (fun hlists s₁ hs₁ => ?_) (fun hnot e s₁ hs₁ => ?_) (fun _ => trivial)
  · dsimp only
    rw [Call.wp_bind, Call.wp_get]
    dsimp only
    rw [hs₁.watcher, hs.active]
    unfold undoRoute
    rw [Call.wp_bind, Call.wp_bind, undoStream_byLinks hs.toByLinks]
    refine Call.wp_mono (restoreZoom_links hs hties hs₁) ?_ ?_ (fun _ h => h)
    · rintro _ s₂ ⟨hlinks₁, hlinks₂, hcuts₁, hcuts₂, hs₂⟩
      refine Call.wp_mono (restoreMatching_restores hties hs₂) ?_ ?_ (fun _ h => h)
      · rintro _ s₃ ⟨hrestores, hs₃⟩
        have hnot : ¬ host.Strands s r node sink :=
          fun h => h.2.2.2 ⟨hlinks₂, hcuts₁, hcuts₂, hrestores⟩
        refine Call.wp_mono (forget_home hs₃.links) ?_ ?_ (fun _ h => h)
        · exact fun _ s₄ hs₄ => ⟨hnot, hrestores.returnable, hs₄⟩
        · exact fun _ s₄ hs₄ => ⟨fun h => hs₄.1 h.1, .inr (.inr ⟨hnot, hrestores.returnable, hs₄.2⟩)⟩
      · rintro _ s₃ ⟨hnot, hs₃⟩
        have hstrands : host.Strands s r node sink :=
          ⟨hlists, hlinks₁, fun h => h.1 hlinks₂, fun h => hnot h.2.2.2⟩
        refine ⟨fun h => hnot (h.1.restoresCaptures h.2), .inr (.inl ⟨hstrands, ?_⟩)⟩
        refine hs₃.stuck hs.toByLinks ?_
        obtain ⟨-, -, h₁, h₂, -, -⟩ := linksTo_ne node hs.off
        exact ⟨⟨.inr (.inl rfl), h₁⟩, h₂⟩
    · rintro _ s₂ (⟨hwhy, hs₂⟩ | ⟨hlinks₁, hback, hthrough, hs₂⟩)
      · refine ⟨fun h => ?_, .inl ⟨fun hstrands => ?_, hs₂⟩⟩
        · rcases hwhy with hfails | ⟨hfails, -⟩
          · exact hfails (h.1 _ _)
          · exact hfails (h.1 _ _)
        · rcases hwhy with hfails | hback
          · exact hfails hstrands.2.1
          · exact hstrands.2.2.1 hback
      · refine ⟨fun h => hthrough ⟨h.1 _ _, h.1 _ _, h.1 _ _⟩, .inr (.inl ⟨?_, hs₂⟩)⟩
        exact ⟨hlists, hlinks₁, hback, fun h => hthrough ⟨h.1, h.2.1, h.2.2.1⟩⟩
  · refine ⟨fun h => hnot ⟨h.1 _ _, h.1 _ _, h.1 _ _, h.1 _ _⟩, .inl ⟨fun h => hnot h.1, hs₁⟩⟩

/-- A call that is stuck stays stuck. -/
theorem restoreActive_stuck (hs : Stuck s r node sink) (htick : s.tick = 0) (hties : host.Tries) :
    (restoreActive host).wp ⟨fun _ _ => False, fun _ s' => Stuck s' r node sink, fun _ => True⟩ s := by
  have hkeeps : ∀ {s'}, Alike s s' → Stuck s' r node sink := fun h =>
    ⟨hs.toByLinks.of_same h.watcher h.kin h.inputs, h.links ▸ hs.left⟩
  unfold restoreActive
  rw [Call.wp_bind]
  refine discover_lists htick (fun _ s₁ hs₁ => ?_) (fun _ _ s₁ hs₁ => hkeeps hs₁) (fun _ => trivial)
  dsimp only
  rw [Call.wp_bind, Call.wp_get]
  dsimp only
  rw [hs₁.watcher, hs.active]
  unfold undoRoute
  rw [Call.wp_bind, Call.wp_bind, undoStream_byLinks hs.toByLinks]
  unfold restoreZoomPipewireLinks
  rw [if_neg (not_not.mpr hs.zoom), hs.nodeName, hs.sinkName]
  dsimp only
  rw [Call.wp_bind]
  refine hs₁.connect_wp (linksTo node sink).1 hties (fun _ hmissing _ _ => absurd hs.left hmissing)
    (fun _ s₂ hs₂ => hkeeps hs₂.alike) (fun _ => trivial)

/-- A call without a route changes no link. -/
theorem restoreActive_home (hs : Home links s) (htick : s.tick = 0) :
    (restoreActive host).wp ⟨fun _ s' => Home links s', fun _ s' => ¬ host.Works ∧ Home links s',
      fun _ => True⟩ s := by
  unfold restoreActive
  rw [Call.wp_bind]
  refine discover_lists htick (fun _ s₁ hs₁ => ?_) (fun hnot _ s₁ hs₁ => ?_) (fun _ => trivial)
  · dsimp only
    rw [Call.wp_bind, Call.wp_get]
    dsimp only
    rw [hs₁.watcher, hs.inactive]
    unfold undoRoute
    rw [Call.wp_bind, Call.wp_pure]
    exact forget_home (hs₁.links.trans hs.links)
  · exact ⟨fun h => hnot ⟨h _ _, h _ _, h _ _, h _ _⟩, by rw [hs₁.watcher]; exact hs.inactive,
      hs₁.links.trans hs.links⟩

/-! ### Calls one after the other -/

/-- Calls of `restore_active`, each with answers of its own. -/
def retry (calls : List Answers) : List Operation := calls.map (.call .restoreActive)

/-- While the route is active, the call does not strand its stream. -/
def Operation.Unstranded (codec : JournalCodec) (r : IncomingRoute) (node sink : String) (s : Scene) :
    Operation → Prop
  | .call _ answers =>
    s.watcher.activeRoute = some r → ¬ Host.Strands ⟨codec, answers⟩ s r node sink
  | .change .. => True

/-- Where earlier calls have left the stream: nothing has changed, or it is stuck, or home. -/
inductive Retried (s₀ : Scene) (r : IncomingRoute) (node sink : String) (s : Scene) : Prop
  | same (h : Alike s₀ s)
  | stuck (h : Stuck s r node sink)
  | home (hreturn : Returnable s₀ r) (h : Home (homeLinks s₀.server.places.links node sink) s)

theorem Alike.refl (s : Scene) : Alike s s := ⟨rfl, .refl _, rfl, rfl, rfl⟩

theorem Alike.trans {s₁ s₂ s₃ : Scene} (h : Alike s₁ s₂) (h' : Alike s₂ s₃) : Alike s₁ s₃ :=
  ⟨h'.watcher.trans h.watcher, h.kin.trans h'.kin, h'.inputs.trans h.inputs,
    h'.outputs.trans h.outputs, h'.links.trans h.links⟩

/-- A call starts its count of effects anew. -/
theorem Alike.started (s : Scene) : Alike s { s with tick := 0 } := ⟨rfl, .refl _, rfl, rfl, rfl⟩

theorem restoreActive_lives_step {answers : Answers} (hspares : Host.Spares ⟨codec, answers⟩)
    (s : Scene) : (Operation.call .restoreActive answers).Lives codec s := by
  have hlives := restoreActive_lives hspares { s with tick := 0 }
  intro hpanic
  exact hlives (Option.some.inj hpanic)

/-- What one more call makes of it: only a call that strands the stream makes it stuck. -/
theorem Retried.step {answers : Answers} (h : Retried s₀ r node sink s) (hs₀ : Routed s₀ r node sink)
    (hties : Host.Tries ⟨codec, answers⟩) (hspares : Host.Spares ⟨codec, answers⟩) :
    Retried s₀ r node sink (s.step codec (.call .restoreActive answers)).2
      ∧ (Stuck (s.step codec (.call .restoreActive answers)).2 r node sink
        ↔ Stuck s r node sink
          ∨ ¬ (Operation.call .restoreActive answers).Unstranded codec r node sink s) := by
  have hlives := restoreActive_lives_step hspares s
  have hunstuck : ∀ {s' : Scene}, Alike s₀ s' → ¬ Stuck s' r node sink :=
    fun hsame hstuck => hs₀.left (hsame.links ▸ hstuck.left)
  have hinactive : ∀ {s' : Scene} {links}, Home links s' → ¬ Stuck s' r node sink := by
    intro s' links hhome hstuck
    have hactive := hstuck.active
    rw [hhome.inactive] at hactive
    cases hactive
  cases h with
  | same hsame =>
    have hrouted := hsame.routed hs₀
    have hstranding : ¬ (Operation.call .restoreActive answers).Unstranded codec r node sink s
        ↔ Host.Strands ⟨codec, answers⟩ s r node sink :=
      ⟨fun hnot => not_not.mp fun h => hnot fun _ => h, fun h hnot => hnot hrouted.active h⟩
    rw [hstranding]
    have hwp := restoreActive_routed ((Alike.started s).routed hrouted) rfl hties
    have hnone : ¬ Stuck s r node sink := hunstuck hsame
    have hgone : ∀ {s' : Scene}, ¬ Stuck s' r node sink →
        ¬ Host.Strands ⟨codec, answers⟩ { s with tick := 0 } r node sink →
        (Stuck s' r node sink ↔ Stuck s r node sink ∨ Host.Strands ⟨codec, answers⟩ s r node sink) :=
      fun hnot hnot' => ⟨fun h => absurd h hnot, fun h => absurd h (not_or.mpr ⟨hnone, hnot'⟩)⟩
    rcases (@step_of_wp codec s .restoreActive answers _ hwp).1 hlives with
      ⟨_, -, hnot, hreturn, hhome⟩ | ⟨_, -, -, ⟨hnot, hs'⟩ | ⟨hstrands, hstuck⟩ | ⟨hnot, hreturn, hhome⟩⟩
    · exact ⟨.home (hsame.returnable.mp hreturn) (hsame.links ▸ hhome), hgone (hinactive hhome) hnot⟩
    · have hs' := (hsame.trans (Alike.started s)).trans hs'
      exact ⟨.same hs', hgone (hunstuck hs') hnot⟩
    · exact ⟨.stuck hstuck, fun _ => .inr hstrands, fun _ => hstuck⟩
    · exact ⟨.home (hsame.returnable.mp hreturn) (hsame.links ▸ hhome), hgone (hinactive hhome) hnot⟩
  | stuck hstuck =>
    have hstuck' : Stuck { s with tick := 0 } r node sink :=
      ⟨hstuck.toByLinks.of_same rfl (.refl _) rfl, hstuck.left⟩
    rcases (@step_of_wp codec s .restoreActive answers _ (restoreActive_stuck hstuck' rfl hties)).1 hlives
      with ⟨_, -, hfalse⟩ | ⟨_, -, hnext⟩
    · exact hfalse.elim
    · exact ⟨.stuck hnext, fun _ => .inl hstuck, fun _ => hnext⟩
  | home hreturn hhome =>
    have hhome' : Home (homeLinks s₀.server.places.links node sink) { s with tick := 0 } :=
      ⟨hhome.inactive, hhome.links⟩
    have hunstranded : (Operation.call .restoreActive answers).Unstranded codec r node sink s := by
      intro hactive
      rw [hhome.inactive] at hactive
      cases hactive
    have hnext : Home (homeLinks s₀.server.places.links node sink)
        (s.step codec (.call .restoreActive answers)).2 := by
      rcases (@step_of_wp codec s .restoreActive answers _ (restoreActive_home hhome' rfl)).1 hlives
        with ⟨_, -, hnext⟩ | ⟨_, -, -, hnext⟩
      · exact hnext
      · exact hnext
    refine ⟨.home hreturn hnext, fun h => absurd h (hinactive hnext), ?_⟩
    rintro (hstuck | hnot)
    · exact absurd hstuck (hinactive hhome)
    · exact absurd hunstranded hnot

/-- A run of calls leaves the stream stuck exactly if one of them strands it. -/
theorem Retried.run (hs₀ : Routed s₀ r node sink) (earlier : List Answers)
    (hearlier : ∀ answers ∈ earlier, Host.Tries ⟨codec, answers⟩ ∧ Host.Spares ⟨codec, answers⟩) :
    Retried s₀ r node sink (exec (Scene.step codec) s₀ (retry earlier)).2
      ∧ (Stuck (exec (Scene.step codec) s₀ (retry earlier)).2 r node sink
        ↔ ¬ Adm (Scene.step codec) (Operation.Unstranded codec r node sink) s₀ (retry earlier)) := by
  induction earlier using List.reverseRecOn with
  | nil =>
    refine ⟨.same (.refl _), fun hstuck => absurd hstuck.left hs₀.left, fun hnot => ?_⟩
    exact absurd (adm_nil _ _ _) hnot
  | append_singleton earlier answers ih =>
    obtain ⟨hretried, hstuck⟩ := ih fun a hmem => hearlier a (List.mem_append_left _ hmem)
    obtain ⟨hties, hspares⟩ := hearlier answers (List.mem_append_right _ (List.mem_singleton_self _))
    have hretry : retry (earlier ++ [answers]) = retry earlier ++ [.call .restoreActive answers] := by
      simp [retry]
    have hexec : (exec (Scene.step codec) s₀ (retry (earlier ++ [answers]))).2
        = ((exec (Scene.step codec) s₀ (retry earlier)).2.step codec (.call .restoreActive answers)).2 := by
      rw [hretry, exec_concat]
      rfl
    obtain ⟨hnext, hiff⟩ := hretried.step hs₀ hties hspares
    rw [hexec]
    refine ⟨hnext, ?_⟩
    rw [hiff, hstuck, hretry]
    constructor
    · rintro (hnot | hnot) hadm
      · exact hnot (adm_concat hadm).1
      · exact hnot (adm_concat hadm).2
    · intro hnot
      by_cases hadm : Adm (Scene.step codec) (Operation.Unstranded codec r node sink) s₀ (retry earlier)
      · exact .inr fun hlast => hnot (adm_snoc hadm hlast)
      · exact .inl hadm

/-- After calls of `restore_active` that may fail at any command, one in which none fails but where there
    is nothing to do brings the stream home, exactly if its captures have a source to go back to and no
    call has stranded it. -/
theorem retries_restore_iff (codec : JournalCodec) (s : Scene) (r : IncomingRoute) (node sink : String)
    (hs : Routed s r node sink) (earlier : List Answers) (later : Answers)
    (hcalls : ∀ answers ∈ later :: earlier,
      Host.Tries ⟨codec, answers⟩ ∧ Host.Spares ⟨codec, answers⟩)
    (hworks : Host.Works ⟨codec, later⟩) :
    (∃ state s', (exec (Scene.step codec) s (retry earlier)).2.step codec (.call .restoreActive later)
        = (some (.ok state), s') ∧ s'.server.places.links = homeLinks s.server.places.links node sink)
      ↔ Returnable s r
        ∧ Adm (Scene.step codec) (Operation.Unstranded codec r node sink) s (retry earlier) := by
  obtain ⟨hties, hspares⟩ := hcalls later (List.mem_cons_self ..)
  obtain ⟨hretried, hstuck⟩ := Retried.run hs earlier fun a hmem => hcalls a (List.mem_cons_of_mem _ hmem)
  have hlives := restoreActive_lives_step hspares (exec (Scene.step codec) s (retry earlier)).2
  have hadm : ¬ Stuck (exec (Scene.step codec) s (retry earlier)).2 r node sink
      ↔ Adm (Scene.step codec) (Operation.Unstranded codec r node sink) s (retry earlier) := by
    rw [hstuck, not_not]
  rw [← hadm]
  generalize (exec (Scene.step codec) s (retry earlier)).2 = s₁ at hretried hlives ⊢
  cases hretried with
  | same hsame =>
    have hrouted := (Alike.started s₁).routed (hsame.routed hs)
    have hnot : ¬ Stuck s₁ r node sink := fun h => hs.left (hsame.links ▸ h.left)
    have hwp := restoreActive_routed hrouted rfl hties
    rcases (@step_of_wp codec s₁ .restoreActive later _ hwp).1 hlives with
      ⟨state, hok, -, hreturn, hhome⟩ | ⟨e, herr, hwhy, -⟩
    · refine ⟨fun _ => ⟨hsame.returnable.mp hreturn, hnot⟩, fun _ => ⟨state, _, Prod.ext hok rfl, ?_⟩⟩
      rw [hhome.links, ← hsame.links]
    · constructor
      · rintro ⟨state, s', hstep, -⟩
        rw [hstep] at herr
        cases herr
      · rintro ⟨hreturn, -⟩
        exact absurd ⟨hworks, hsame.returnable.mpr hreturn⟩ hwhy
  | stuck hstuck =>
    have hstuck' : Stuck { s₁ with tick := 0 } r node sink :=
      ⟨hstuck.toByLinks.of_same rfl (.refl _) rfl, hstuck.left⟩
    rcases (@step_of_wp codec s₁ .restoreActive later _ (restoreActive_stuck hstuck' rfl hties)).1 hlives
      with ⟨_, -, hfalse⟩ | ⟨e, herr, -⟩
    · exact hfalse.elim
    · refine ⟨?_, fun h => absurd hstuck h.2⟩
      rintro ⟨state, s', hstep, -⟩
      rw [hstep] at herr
      cases herr
  | home hreturn hhome =>
    have hnot : ¬ Stuck s₁ r node sink := by
      intro h
      have hactive := h.active
      rw [hhome.inactive] at hactive
      cases hactive
    have hhome' : Home (homeLinks s.server.places.links node sink) { s₁ with tick := 0 } :=
      ⟨hhome.inactive, hhome.links⟩
    rcases (@step_of_wp codec s₁ .restoreActive later _ (restoreActive_home hhome' rfl)).1 hlives
      with ⟨state, hok, hnext⟩ | ⟨_, -, hfails, -⟩
    · exact ⟨fun _ => ⟨hreturn, hnot⟩, fun _ => ⟨state, _, Prod.ext hok rfl, hnext.links⟩⟩
    · exact absurd hworks hfails

/-! ### A call in Zoom -/

def zoomProperties : Properties :=
  [("application.name", "ZOOM VoiceEngine"), ("application.process.binary", "zoom"),
    ("media.role", "phone")]

theorem zoomPlaying_nodup : ([⟨7, 1, zoomProperties⟩].map RawSinkInput.index).Nodup := by decide

theorem zoomCaptured_nodup : ([⟨9, 5, zoomProperties⟩].map RawSourceOutput.index).Nodup := by decide

def zoomRoute : IncomingRoute where
  streamId := 7
  application := .zoom
  stableAppKey := "Zoom:zoom"
  originalSinkId := 1
  originalSinkName := "alsa_output.speakers"
  targetSinkName := remoteInSink
  routeMethod := .pipeWireLinks
  pipewireNodeName := some "ZOOM VoiceEngine"

def zoomServer : Server :=
  { desktop [⟨7, 1, zoomProperties⟩] [⟨9, 5, zoomProperties⟩] zoomPlaying_nodup zoomCaptured_nodup with
    sources := [⟨3, "alsa_input.desk", none⟩, ⟨5, virtualMicSource, none⟩]
    sources_nodup := by decide
    links := [(linksTo "ZOOM VoiceEngine" remoteInSink).1, (linksTo "ZOOM VoiceEngine" remoteInSink).2] }

/-- Zoom's stream, whose links the watcher has taken. -/
def zoomScene : Scene where
  watcher := { PulseRoutingWatcher.new .production with
    activeRoute := some zoomRoute, selectedAppKey := some "Zoom:zoom" }
  server := zoomServer
  journal := none
  ledger := .empty
  tick := 0

theorem zoomScene_routed : Routed zoomScene zoomRoute "ZOOM VoiceEngine" "alsa_output.speakers" where
  active := rfl
  method := rfl
  zoom := rfl
  nodeName := by decide +kernel
  sinkName := by decide +kernel
  listed := by decide +kernel
  off := by decide +kernel
  remoteLeft := List.mem_cons_self ..
  remoteRight := List.mem_cons_of_mem _ (List.mem_cons_self ..)
  left := by
    show _ ∉ zoomServer.links
    decide +kernel
  right := by
    show _ ∉ zoomServer.links
    decide +kernel

/-- Every command is left to do what it can. -/
def allTried : Answers := fun _ _ => .tried

/-- The command at this place in the call is refused. -/
def refusedAt (tick : Nat) : Answers := fun n _ => if n = tick then .refused else .tried

theorem refusedAt_fair (codec : JournalCodec) (tick : Nat) :
    Host.Tries ⟨codec, refusedAt tick⟩ ∧ Host.Spares ⟨codec, refusedAt tick⟩ := by
  refine ⟨fun n output input => ⟨?_, ?_⟩, fun n effect => ?_⟩ <;>
    (show (if n = tick then Answer.refused else .tried) ≠ _; split <;> simp)

theorem allTried_fair (codec : JournalCodec) :
    Host.Tries ⟨codec, allTried⟩ ∧ Host.Spares ⟨codec, allTried⟩ :=
  ⟨fun _ _ _ => ⟨by simp [allTried], by simp [allTried]⟩, fun _ _ => by simp [allTried]⟩

theorem allTried_works (codec : JournalCodec) : Host.Works ⟨codec, allTried⟩ :=
  fun _ _ => by simp [allTried, Answer.fails]

theorem zoomCalls_fair (tick : Nat) : ∀ answers ∈ [allTried, refusedAt tick],
    Host.Tries ⟨desktopCodec, answers⟩ ∧ Host.Spares ⟨desktopCodec, answers⟩ := by
  intro answers hmem
  rcases List.mem_cons.mp hmem with rfl | hmem
  · exact allTried_fair _
  · rw [List.mem_singleton.mp hmem]
    exact refusedAt_fair _ _

/-- The second link is refused and the first taken back; then the stream comes home. -/
theorem retries_restore_zoom : ∃ state s',
    (exec (Scene.step desktopCodec) zoomScene (retry [refusedAt 5])).2.step desktopCodec
        (.call .restoreActive allTried) = (some (.ok state), s')
      ∧ s'.server.places.links
        = homeLinks zoomScene.server.places.links "ZOOM VoiceEngine" "alsa_output.speakers" := by
  refine (retries_restore_iff desktopCodec zoomScene zoomRoute _ _ zoomScene_routed [refusedAt 5] allTried
    (zoomCalls_fair 5) (allTried_works _)).mpr ⟨.inr (by decide +kernel), adm_cons ?_ (adm_nil _ _ _)⟩
  intro _ hstrands
  refine hstrands.2.2.1 ⟨fun hlinks => hlinks (.inl rfl), ?_⟩
  simp [Host.Cuts, refusedAt, Answer.fails]

/-- The last cut is refused after both links are made, and from then on every call fails. -/
theorem cutRefused_stuck : Routed zoomScene zoomRoute "ZOOM VoiceEngine" "alsa_output.speakers"
    ∧ (∀ answers ∈ [allTried, refusedAt 7],
      Host.Tries ⟨desktopCodec, answers⟩ ∧ Host.Spares ⟨desktopCodec, answers⟩)
    ∧ Host.Works ⟨desktopCodec, allTried⟩
    ∧ ¬ ∃ state s', (exec (Scene.step desktopCodec) zoomScene (retry [refusedAt 7])).2.step desktopCodec
        (.call .restoreActive allTried) = (some (.ok state), s') := by
  have hfails : ((exec (Scene.step desktopCodec) zoomScene (retry [refusedAt 7])).2.step desktopCodec
      (.call .restoreActive allTried)).1 = some (.err (RoutingError.new .restoreFailed)) := by
    decide +kernel
  refine ⟨zoomScene_routed, zoomCalls_fair 7, allTried_works _, ?_⟩
  rintro ⟨state, s', hstep⟩
  rw [hstep] at hfails
  cases hfails

end Translator.Routing
