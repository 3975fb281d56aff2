import Translator.Routing.Attachment
import Translator.Routing.Living
import Translator.Routing.Places

/-! A routing that fails takes itself back. Whichever of its commands fails, those before it are undone
    one by one, so that where undoing works everything is where it was. The journal is another matter: a
    save that fails after its file was replaced leaves the route of the failed call in it. -/

namespace Translator.Routing

open Schemes

variable {host : Host} {s s₀ s' : Scene} {code : RoutingErrorCode} {c : RouteCandidate}
  {p : Places} {journal : Option JournalFile} {outputs : List SourceOutputRouteCandidate}

/-- A command takes back what brings a stream or a link to one of the translator's endpoints. -/
def Effect.TakesBack : Effect → Prop
  | .moveSinkInput _ sink => sink ≠ remoteInSink
  | .moveSourceOutput _ source => source ≠ virtualMicSource
  | .link _ input => input ≠ (playbackPorts remoteInSink).1 ∧ input ≠ (playbackPorts remoteInSink).2
  | .unlink _ input => input = (playbackPorts remoteInSink).1 ∨ input = (playbackPorts remoteInSink).2
  | .removeJournal => True
  | _ => False

/-- The commands that take something back do not fail. -/
def Host.TakesBack (host : Host) : Prop :=
  ∀ n effect, effect.TakesBack → ¬ (host.answer n effect).fails

/-- The candidate plays where it says, and not to the translator's sink. -/
structure RouteCandidate.Listed (c : RouteCandidate) (server : Server) : Prop where
  sink : server.sinkOf c.streamId = some c.currentSinkName
  off : c.currentSinkName ≠ remoteInSink

/-- The captures that can be taken along record from where they say. -/
def Describes (outputs : List SourceOutputRouteCandidate) (server : Server) : Prop :=
  ∀ output ∈ outputs, output.physicalSource = true →
    server.sourceOf output.streamId = some output.sourceName ∧ output.sourceName ≠ virtualMicSource

/-- What discovery lists where no route is active. -/
theorem listed_of_mem (hnone : s.watcher.activeRoute = none)
    (hc : c ∈ (s.watcher.snapshot s.server).candidates) : c.Listed s.server := by
  have hoffered := offered_of_mem hc
  refine ⟨hoffered.sink, hoffered.off fun r hr => ?_⟩
  rw [show s.watcher.activeRoute = some r from hr] at hnone
  cases hnone

theorem describes_snapshot (s : Scene) :
    Describes (s.watcher.snapshot s.server).sourceOutputRoutes s.server := by
  intro output hmem hphysical
  obtain ⟨-, hsource, hsafe, -⟩ := PulseRoutingWatcher.mem_outputs hmem
  exact ⟨hsource, safeCaptureSourceName_ne (hsafe.symm.trans hphysical)⟩

/-- A command that takes something back succeeds, or the process dies in it. -/
theorem At.takesBack_wp {effect : Effect} {post : Call.Post Scene RoutingError Unit}
    (h : At s₀ p journal s) (hties : host.Tries) (hback : host.TakesBack)
    (hfile : effect.onFile = false) (htakes : effect.TakesBack)
    (hpossible : effect.Possible s.server)
    (hok : ∀ s', At s₀ (p.after effect) journal s' → post.ok () s') (hcrash : ∀ s', post.crash s') :
    (perform host effect code).wp post s := by
  refine Routing.command_wp hties hfile (fun _ _ s' hs' => hok s' (h.carried hs')) (fun hfails => ?_)
    (fun _ => hcrash s)
  rcases hfails with hfails | hnot
  · exact absurd hfails (hback _ _ htakes)
  · exact absurd hpossible hnot

/-! ### Links -/

/-- The ports of two nodes are apart, and so are the two of one node. -/
theorem ports_ne (node : String) {sink : String} (hoff : sink ≠ remoteInSink) :
    (outputPorts node).1 ≠ (outputPorts node).2
      ∧ (playbackPorts sink).1 ≠ (playbackPorts remoteInSink).1
      ∧ (playbackPorts sink).1 ≠ (playbackPorts remoteInSink).2
      ∧ (playbackPorts sink).2 ≠ (playbackPorts remoteInSink).1
      ∧ (playbackPorts sink).2 ≠ (playbackPorts remoteInSink).2 := by
  refine ⟨?_, ?_, ?_, ?_, ?_⟩
  · intro h
    have hlist := congrArg String.toList h
    simp [outputPorts, pipewirePort] at hlist
  · intro h
    exact hoff (pipewirePort_inj rfl h)
  · intro h
    exact hoff (@pipewirePort_inj sink remoteInSink "playback_FL" "playback_FR" (by decide) h)
  · intro h
    exact hoff (@pipewirePort_inj sink remoteInSink "playback_FR" "playback_FL" (by decide) h)
  · intro h
    exact hoff (pipewirePort_inj rfl h)

/-- The links of a node, left and right, to a sink. -/
def linksTo (node sink : String) : (String × String) × (String × String) :=
  (((outputPorts node).1, (playbackPorts sink).1), ((outputPorts node).2, (playbackPorts sink).2))

/-- A node is linked to the translator's sink too. -/
def Places.joined (p : Places) (node : String) : Places :=
  { p with
    links := insert (linksTo node remoteInSink).2 (insert (linksTo node remoteInSink).1 p.links) }

/-- The links of a node are taken from its sink to the translator's. -/
def Places.linked (p : Places) (node sink : String) : Places :=
  { p with
    links := ((p.joined node).links \ {(linksTo node sink).1}) \ {(linksTo node sink).2} }

/-- A node is linked to its sink and not to the translator's. -/
structure Places.Unrouted (p : Places) (node sink : String) : Prop where
  left : (linksTo node sink).1 ∈ p.links
  right : (linksTo node sink).2 ∈ p.links
  remoteLeft : (linksTo node remoteInSink).1 ∉ p.links
  remoteRight : (linksTo node remoteInSink).2 ∉ p.links

/-- The four links are four. -/
theorem linksTo_ne (node : String) {sink : String} (hoff : sink ≠ remoteInSink) :
    (linksTo node remoteInSink).1 ≠ (linksTo node remoteInSink).2
      ∧ (linksTo node sink).1 ≠ (linksTo node sink).2
      ∧ (linksTo node sink).1 ≠ (linksTo node remoteInSink).1
      ∧ (linksTo node sink).1 ≠ (linksTo node remoteInSink).2
      ∧ (linksTo node sink).2 ≠ (linksTo node remoteInSink).1
      ∧ (linksTo node sink).2 ≠ (linksTo node remoteInSink).2 := by
  obtain ⟨hcross, hll, -, -, hrr⟩ := ports_ne node hoff
  refine ⟨?_, ?_, ?_, ?_, ?_, ?_⟩
  · exact fun h => hcross (congrArg (fun link => link.1) h)
  · exact fun h => hcross (congrArg (fun link => link.1) h)
  · exact fun h => hll (congrArg (fun link => link.2) h)
  · exact fun h => hcross (congrArg (fun link => link.1) h)
  · exact fun h => hcross (congrArg (fun link => link.1) h).symm
  · exact fun h => hrr (congrArg (fun link => link.2) h)

section Links

variable {α : Type} {links : Set α} {a b c d : α}

theorem undone_one (ha : a ∉ links) : insert a links \ {a} = links := by
  rw [Set.insert_sdiff_of_mem _ (Set.mem_singleton a), Set.sdiff_singleton_eq_self ha]

theorem undone_two (ha : a ∉ links) (hb : b ∉ links) :
    (insert b (insert a links) \ {a}) \ {b} = links := by
  ext x
  simp only [Set.mem_sdiff, Set.mem_insert_iff, Set.mem_singleton_iff]
  constructor
  · rintro ⟨⟨rfl | rfl | hx, hxa⟩, hxb⟩
    · exact absurd rfl hxb
    · exact absurd rfl hxa
    · exact hx
  · intro hx
    refine ⟨⟨.inr (.inr hx), ?_⟩, ?_⟩
    · rintro rfl
      exact ha hx
    · rintro rfl
      exact hb hx

/-- A link that was cut is made again. -/
theorem undone_three (hc : c ∈ links) : insert c (insert b (insert a links) \ {c})
    = insert b (insert a links) := by
  rw [Set.insert_sdiff_singleton, Set.insert_eq_of_mem (.inr (.inr hc))]

theorem undone_four (hc : c ∈ links) (hd : d ∈ links) :
    insert d (insert c ((insert b (insert a links) \ {c}) \ {d})) = insert b (insert a links) := by
  rw [Set.insert_comm, Set.insert_sdiff_singleton, Set.insert_comm, Set.insert_sdiff_singleton]
  have hc' : c ∈ insert b (insert a links) := .inr (.inr hc)
  have hd' : d ∈ insert b (insert a links) := .inr (.inr hd)
  rw [Set.insert_eq_of_mem hc', Set.insert_eq_of_mem hd']

end Links

theorem At.of_links (p : Places) {links : Set (String × String)}
    (h : At s₀ { p with links := links } journal s) (hlinks : links = p.links) :
    At s₀ p journal s := by
  subst hlinks
  exact h

/-- Either all links are changed, or those that were are changed back. -/
theorem routeZoom_places (hat : At s₀ p journal s) (hties : host.Tries) (hback : host.TakesBack)
    (hoff : pipewireNodeName c.currentSinkName ≠ some remoteInSink) :
    (routeZoomWithPipewireLinks host c).wp
      ⟨fun _ s' => ∃ node sink, c.application = .zoom ∧ pipewireRouteNodeName c = some node
          ∧ pipewireNodeName c.currentSinkName = some sink ∧ p.Unrouted node sink
          ∧ At s₀ (p.linked node sink) journal s',
        fun _ s' => At s₀ p journal s', fun _ => True⟩ s := by
  unfold routeZoomWithPipewireLinks
  split
  case isTrue => exact hat
  case isFalse hzoom =>
    split
    case h_2 => exact hat
    case h_1 node sink hnode hsink =>
      have hne : sink ≠ remoteInSink := by
        rintro rfl
        exact hoff hsink
      obtain ⟨hra, hla, h₁, h₂, h₃, h₄⟩ := linksTo_ne node hne
      obtain ⟨-, hp₁, hp₂, hp₃, hp₄⟩ := ports_ne node hne
      dsimp only
      -- the first link is new
      rw [Call.wp_bind]
      refine hat.command_wp hties rfl (fun hnew s₁ hat₁ => ?_) (fun _ h => h) (fun _ => trivial)
      have ha : (linksTo node remoteInSink).1 ∉ p.links := hat.possible_link.mp hnew
      rw [Call.wp_bind, Call.wp_attempt]
      refine hat₁.command_wp hties rfl (fun hnew s₂ hat₂ => ?_) (fun s₂ hat₂ => ?_)
        (fun _ => trivial)
      · have hb : (linksTo node remoteInSink).2 ∉ p.links :=
          fun hmem => hat₁.possible_link.mp hnew (.inr hmem)
        dsimp only
        rw [Call.wp_bind, Call.wp_attempt]
        refine hat₂.command_wp hties rfl (fun hthere s₃ hat₃ => ?_) (fun s₃ hat₃ => ?_)
          (fun _ => trivial)
        · have hc : (linksTo node sink).1 ∈ p.links :=
            ((hat₂.possible_unlink.mp hthere).resolve_left h₂).resolve_left h₁
          dsimp only
          rw [Call.wp_bind, Call.wp_attempt]
          refine hat₃.command_wp hties rfl (fun hthere s₄ hat₄ => ?_) (fun s₄ hat₄ => ?_)
            (fun _ => trivial)
          · have hd : (linksTo node sink).2 ∈ p.links :=
              ((hat₃.possible_unlink.mp hthere).1.resolve_left h₄).resolve_left h₃
            exact ⟨node, sink, not_not.mp hzoom, hnode, hsink, ⟨hc, hd, ha, hb⟩, hat₄⟩
          · -- the last cut failed
            dsimp only
            rw [Call.wp_bind, Call.wp_attempt]
            refine hat₄.takesBack_wp hties hback rfl ⟨hp₁, hp₂⟩
              (hat₄.possible_link.mpr fun hmem => hmem.2 rfl) (fun s₅ hat₅ => ?_) (fun _ => trivial)
            have hat₅' := hat₅.of_links (p.joined node) (undone_three hc)
            dsimp only
            rw [Call.wp_bind, Call.wp_attempt]
            refine hat₅'.takesBack_wp hties hback rfl (.inl rfl)
              (hat₅'.possible_unlink.mpr (.inr (.inl rfl))) (fun s₆ hat₆ => ?_) (fun _ => trivial)
            dsimp only
            rw [Call.wp_bind, Call.wp_attempt]
            refine hat₆.takesBack_wp hties hback rfl (.inr rfl)
              (hat₆.possible_unlink.mpr ⟨.inl rfl, hra.symm⟩) (fun s₇ hat₇ => ?_) (fun _ => trivial)
            exact hat₇.of_links p (undone_two ha hb)
        · -- the first cut failed
          dsimp only
          rw [Call.wp_bind, Call.wp_attempt]
          refine hat₃.takesBack_wp hties hback rfl (.inl rfl)
            (hat₃.possible_unlink.mpr (.inr (.inl rfl))) (fun s₄ hat₄ => ?_) (fun _ => trivial)
          dsimp only
          rw [Call.wp_bind, Call.wp_attempt]
          refine hat₄.takesBack_wp hties hback rfl (.inr rfl)
            (hat₄.possible_unlink.mpr ⟨.inl rfl, hra.symm⟩) (fun s₅ hat₅ => ?_) (fun _ => trivial)
          exact hat₅.of_links p (undone_two ha hb)
      · -- the second link was not made
        dsimp only
        rw [Call.wp_bind, Call.wp_attempt]
        refine hat₂.takesBack_wp hties hback rfl (.inl rfl)
          (hat₂.possible_unlink.mpr (.inl rfl)) (fun s₃ hat₃ => ?_) (fun _ => trivial)
        exact hat₃.of_links p (undone_one ha)

/-! ### The stream -/

/-- What taking the stream makes of where everything is. -/
def Took (p : Places) (c : RouteCandidate) (p' : Places) : RouteMethod → Prop
  | .pulseMove => p' = p.after (.moveSinkInput c.streamId remoteInSink)
  | .pipeWireLinks => ∃ node sink, c.application = .zoom ∧ pipewireRouteNodeName c = some node
    ∧ pipewireNodeName c.currentSinkName = some sink ∧ p.Unrouted node sink
    ∧ p' = p.linked node sink

theorem takeStream_places (hat : At s₀ p journal s) (hties : host.Tries) (hback : host.TakesBack)
    (hoff : pipewireNodeName c.currentSinkName ≠ some remoteInSink) :
    (takeStream host c).wp ⟨fun method s' => ∃ p', Took p c p' method ∧ At s₀ p' journal s',
      fun _ s' => At s₀ p journal s', fun _ => True⟩ s := by
  unfold takeStream
  rw [Call.wp_bind, Call.wp_attempt]
  refine hat.command_wp hties rfl (fun _ s₁ hat₁ => ⟨_, rfl, hat₁⟩) (fun s₁ hat₁ => ?_)
    (fun _ => trivial)
  dsimp only
  rw [Call.wp_bind, Call.wp_attempt]
  refine Call.wp_mono (routeZoom_places hat₁ hties hback hoff) ?_ (fun _ s₂ hat₂ => ?_) (fun _ h => h)
  · rintro _ s₂ ⟨node, sink, hzoom, hnode, hsink, hunrouted, hat₂⟩
    exact ⟨_, ⟨node, sink, hzoom, hnode, hsink, hunrouted, rfl⟩, hat₂⟩
  · dsimp only
    rw [Call.wp_bind, wp_remember]
    exact hat₂.remember _ rfl rfl

/-- The links of a node go back to its sink. -/
theorem restoreZoom_undoes {r : IncomingRoute} {node sink : String} (hzoom : r.application = .zoom)
    (hnode : r.pipewireNodeName.bind pipewireNodeName = some node)
    (hsink : pipewireNodeName r.originalSinkName = some sink) (hne : sink ≠ remoteInSink)
    (hunrouted : p.Unrouted node sink) (hat : At s₀ (p.linked node sink) journal s)
    (hties : host.Tries) (hback : host.TakesBack) :
    (restoreZoomPipewireLinks host r).wp
      ⟨fun _ s' => At s₀ p journal s', fun _ _ => False, fun _ => True⟩ s := by
  obtain ⟨hra, hla, h₁, h₂, h₃, h₄⟩ := linksTo_ne node hne
  obtain ⟨-, hp₁, hp₂, hp₃, hp₄⟩ := ports_ne node hne
  unfold restoreZoomPipewireLinks
  rw [if_neg (not_not.mpr hzoom), hnode, hsink]
  dsimp only
  rw [Call.wp_bind]
  refine hat.takesBack_wp hties hback rfl ⟨hp₁, hp₂⟩
    (hat.possible_link.mpr fun hmem => hmem.1.2 rfl) (fun s₁ hat₁ => ?_) (fun _ => trivial)
  rw [Call.wp_bind, Call.wp_attempt]
  refine hat₁.takesBack_wp hties hback rfl ⟨hp₃, hp₄⟩ (hat₁.possible_link.mpr ?_)
    (fun s₂ hat₂ => ?_) (fun _ => trivial)
  · rintro (hmem | hmem)
    · exact hla hmem.symm
    · exact hmem.2 rfl
  have hat₂' := hat₂.of_links (p.joined node) (undone_four hunrouted.left hunrouted.right)
  dsimp only
  rw [Call.wp_bind]
  refine hat₂'.takesBack_wp hties hback rfl (.inl rfl)
    (hat₂'.possible_unlink.mpr (.inr (.inl rfl))) (fun s₃ hat₃ => ?_) (fun _ => trivial)
  refine hat₃.takesBack_wp hties hback rfl (.inr rfl)
    (hat₃.possible_unlink.mpr ⟨.inl rfl, hra.symm⟩) (fun s₄ hat₄ => ?_) (fun _ => trivial)
  exact hat₄.of_links p (undone_two hunrouted.remoteLeft hunrouted.remoteRight)

/-- The stream of a route that was just made goes back. -/
theorem restoreRoute_undoes {method : RouteMethod} {p' : Places} (htook : Took p c p' method)
    (hsink : s₀.server.sinkOf c.streamId = some c.currentSinkName)
    (hp : p.sinkOf c.streamId = some c.currentSinkName) (hremote : c.currentSinkName ≠ remoteInSink)
    (hoff : pipewireNodeName c.currentSinkName ≠ some remoteInSink) (hat : At s₀ p' journal s)
    (hties : host.Tries) (hback : host.TakesBack) :
    (restoreRoute host (c.route method)).wp
      ⟨fun _ s' => At s₀ p journal s', fun _ _ => False, fun _ => True⟩ s := by
  cases method with
  | pulseMove =>
    obtain rfl := htook
    refine hat.takesBack_wp hties hback rfl hremote (hat.possible_moveSinkInput hsink)
      (fun s₁ hat₁ => ?_) (fun _ => trivial)
    have hsame : (p.after (.moveSinkInput c.streamId remoteInSink)).after
        (.moveSinkInput c.streamId c.currentSinkName) = p := by
      simp only [Places.after, Function.update_idem]
      rw [← hp, Function.update_eq_self]
    exact hsame ▸ hat₁
  | pipeWireLinks =>
    obtain ⟨node, sink, hzoom, hnode, hname, hunrouted, rfl⟩ := htook
    refine restoreZoom_undoes hzoom ?_ hname ?_ hunrouted hat hties hback
    · simp [RouteCandidate.route, hnode, pipewireRouteNodeName_self hnode]
    · rintro rfl
      exact hoff hname

/-! ### The captures -/

/-- Captures that were taken along go back, one by one. -/
theorem takeBackOutputs_undoes : ∀ (moved : List (Nat × String)) {p' : Places} {s : Scene},
    At s₀ p' journal s → host.Tries → host.TakesBack →
    (∀ entry ∈ moved, s₀.server.sourceOf entry.1 = some entry.2
      ∧ p.sourceOf entry.1 = some entry.2 ∧ entry.2 ≠ virtualMicSource) →
    p'.sinkOf = p.sinkOf → p'.links = p.links →
    (∀ i, (∀ entry ∈ moved, entry.1 ≠ i) → p'.sourceOf i = p.sourceOf i) →
    (takeBackOutputs host moved).wp
      ⟨fun _ s' => At s₀ p journal s', fun _ _ => False, fun _ => True⟩ s
  | [], p', s, hat, _, _, _, hsinks, hlinks, hsources => by
    have hsame : p' = p := by
      have hsource : p'.sourceOf = p.sourceOf := by
        funext i
        exact hsources i (by simp)
      cases p'
      cases p
      simp_all
    exact hsame ▸ hat
  | (i, source) :: rest, p', s, hat, hties, hback, hmoved, hsinks, hlinks, hsources => by
    obtain ⟨hthere, hwas, hne⟩ := hmoved (i, source) (List.mem_cons_self ..)
    unfold takeBackOutputs
    rw [Call.wp_bind, Call.wp_attempt]
    refine hat.takesBack_wp hties hback rfl hne (hat.possible_moveSourceOutput hthere)
      (fun s₁ hat₁ => ?_) (fun _ => trivial)
    refine takeBackOutputs_undoes rest hat₁ hties hback
      (fun entry hmem => hmoved entry (List.mem_cons_of_mem _ hmem)) hsinks hlinks fun j hj => ?_
    -- this one is back, and the others are yet to come
    by_cases hij : j = i
    · subst hij
      exact (Function.update_self ..).trans hwas.symm
    · refine (Function.update_of_ne hij ..).trans (hsources j fun entry hmem => ?_)
      rcases List.mem_cons.mp hmem with rfl | hmem
      · exact fun h => hij h.symm
      · exact hj entry hmem

/-- Where one capture cannot be taken along, those that were go back. -/
theorem routeOutputs_undoes : ∀ (outputs : List SourceOutputRouteCandidate)
    (moved : List (Nat × String)) {p' : Places} {s : Scene},
    At s₀ p' journal s → host.Tries → host.TakesBack →
    (∀ entry ∈ moved, s₀.server.sourceOf entry.1 = some entry.2
      ∧ p.sourceOf entry.1 = some entry.2 ∧ entry.2 ≠ virtualMicSource) →
    (∀ output ∈ outputs, s₀.server.sourceOf output.streamId = some output.sourceName
      ∧ p.sourceOf output.streamId = some output.sourceName ∧ output.sourceName ≠ virtualMicSource) →
    p'.sinkOf = p.sinkOf → p'.links = p.links →
    (∀ i, (∀ entry ∈ moved, entry.1 ≠ i) → p'.sourceOf i = p.sourceOf i) →
    (routeOutputs host moved outputs).wp
      ⟨fun _ _ => True, fun _ s' => At s₀ p journal s', fun _ => True⟩ s
  | [], _, _, _, _, _, _, _, _, _, _, _ => trivial
  | output :: rest, moved, p', s, hat, hties, hback, hmoved, houtputs, hsinks, hlinks, hsources => by
    unfold routeOutputs
    rw [Call.wp_bind, Call.wp_attempt]
    refine hat.command_wp hties rfl (fun _ s₁ hat₁ => ?_) (fun s₁ hat₁ => ?_) (fun _ => trivial)
    · refine routeOutputs_undoes rest _ hat₁ hties hback (fun entry hmem => ?_)
        (fun o hmem => houtputs o (List.mem_cons_of_mem _ hmem)) hsinks hlinks fun i hi => ?_
      · rcases List.mem_cons.mp hmem with rfl | hmem
        · exact houtputs output (List.mem_cons_self ..)
        · exact hmoved entry hmem
      · have hne : i ≠ output.streamId :=
          fun h => hi (output.streamId, output.sourceName) (List.mem_cons_self ..) h.symm
        exact (Function.update_of_ne hne ..).trans
          (hsources i fun entry hmem => hi entry (List.mem_cons_of_mem _ hmem))
    · dsimp only
      rw [Call.wp_bind]
      exact Call.wp_mono (takeBackOutputs_undoes moved hat₁ hties hback hmoved hsinks hlinks hsources)
        (fun _ s₂ hat₂ => hat₂) (fun _ _ h => h.elim) (fun _ h => h)

theorem routeMatching_undoes {r : IncomingRoute} (hat : At s₀ p journal s) (hties : host.Tries)
    (hback : host.TakesBack) (houtputs : Describes outputs s₀.server)
    (hp : p.sourceOf = s₀.server.sourceOf) :
    (routeMatchingSourceOutputs host r outputs).wp
      ⟨fun _ _ => True, fun _ s' => At s₀ p journal s', fun _ => True⟩ s := by
  refine routeOutputs_undoes _ [] hat hties hback (by simp) (fun output hmem => ?_) rfl rfl
    (fun _ _ => rfl)
  obtain ⟨hmem, hmatch⟩ := List.mem_filter.mp hmem
  obtain ⟨hsource, hne⟩ := houtputs output hmem (Bool.and_eq_true .. ▸ hmatch).2
  exact ⟨hsource, hp ▸ hsource, hne⟩

/-! ### The journal -/

/-- The answer to the save of a route. A route that may not be written down is refused. -/
def Host.saves (host : Host) (s : Scene) (r : IncomingRoute) : Answer :=
  if validRoute r then
    host.answer s.tick (.saveJournal (host.codec.toVec ⟨routeJournalSchemaVersion, r⟩))
  else .refused

/-- What a save makes of the journal. -/
theorem persist_places {r : IncomingRoute} (hat : At s₀ p journal s)
    (hj : s.watcher.hasRouteJournal = true) :
    (persistActiveRoute host r code).wp
      ⟨fun _ s' => ¬ (host.saves s r).fails ∧ At s₀ p (savedRoute host.codec r) s',
        fun _ s' => host.saves s r = .refused ∧ At s₀ p journal s'
          ∨ host.saves s r = .unconfirmed ∧ At s₀ p (savedRoute host.codec r) s',
        fun _ => True⟩ s := by
  unfold persistActiveRoute
  rw [Call.wp_bind, Call.wp_get]
  dsimp only
  rw [if_pos hj, Call.wp_mapErr]
  unfold saveActiveRoute
  dsimp only
  by_cases hvalid : validRoute r = true
  · have hjournal : validRouteJournal ⟨routeJournalSchemaVersion, r⟩ = true := by
      simp [validRouteJournal, hvalid]
    have hsaves : host.saves s r
        = host.answer s.tick (.saveJournal (host.codec.toVec ⟨routeJournalSchemaVersion, r⟩)) :=
      if_pos hvalid
    rw [hjournal, if_neg (by simp), hsaves]
    have hwritten : At s₀ p (savedRoute host.codec r) { s.ticked with journal := savedRoute host.codec r } :=
      ⟨hat.kin, hat.places, rfl, hat.active, hat.hasJournal⟩
    unfold Call.wp perform
    split
    case h_1 => trivial
    case h_2 h => exact .inl ⟨h, hat.ticked⟩
    case h_3 h => exact .inr ⟨h, hwritten⟩
    case h_4 h => exact ⟨by simp [Answer.fails, h], hwritten⟩
    case h_5 h => exact ⟨by simp [Answer.fails, h], hwritten⟩
  · have hjournal : validRouteJournal ⟨routeJournalSchemaVersion, r⟩ = false := by
      simp [validRouteJournal, hvalid]
    rw [hjournal, if_pos (by simp)]
    exact .inl ⟨if_neg hvalid, hat⟩

/-- The journal is removed. -/
theorem clear_places (hat : At s₀ p journal s) (hj : s.watcher.hasRouteJournal = true)
    (hback : host.TakesBack) : (clearRouteJournal host code).wp
      ⟨fun _ s' => At s₀ p none s', fun _ _ => False, fun _ => True⟩ s := by
  unfold clearRouteJournal
  rw [Call.wp_bind, Call.wp_get]
  dsimp only
  have hremoved : At s₀ p none { s.ticked with journal := none } :=
    ⟨hat.kin, hat.places, rfl, hat.active, hat.hasJournal⟩
  have hremoves : ¬ (host.answer s.tick .removeJournal).fails := hback s.tick .removeJournal trivial
  rw [if_pos hj]
  unfold Call.wp perform
  split
  case h_1 => trivial
  case h_2 h => exact hremoves (.inl h)
  case h_3 h => exact hremoves (.inr h)
  case h_4 => exact hremoved
  case h_5 => exact hremoved

/-- Without a journal a save does nothing. -/
theorem persist_nothing {r : IncomingRoute} (hat : At s₀ p journal s)
    (hj : s.watcher.hasRouteJournal = false) :
    (persistActiveRoute host r code).wp
      ⟨fun _ s' => At s₀ p journal s', fun _ _ => False, fun _ => True⟩ s := by
  unfold persistActiveRoute
  rw [Call.wp_bind, Call.wp_get]
  dsimp only
  rw [hj, if_neg (by simp)]
  exact hat

theorem clear_nothing (hat : At s₀ p journal s) (hj : s.watcher.hasRouteJournal = false) :
    (clearRouteJournal host code).wp
      ⟨fun _ s' => At s₀ p journal s', fun _ _ => False, fun _ => True⟩ s := by
  unfold clearRouteJournal
  rw [Call.wp_bind, Call.wp_get]
  dsimp only
  rw [hj, if_neg (by simp)]
  exact hat

/-- What a call that fails has made of the journal, going by the answer to its save. -/
def Fate (answer : Answer) (journal saved journal' : Option JournalFile) : Prop :=
  answer = .refused ∧ journal' = journal ∨ answer = .unconfirmed ∧ journal' = saved
    ∨ ¬ answer.fails ∧ journal' = none

/-- A stream that was taken is settled, or it goes back with all that came along. -/
theorem settleRoute_undoes {method : RouteMethod} {p' : Places} (htook : Took p c p' method)
    (hp : p = s₀.server.places) (hlisted : c.Listed s₀.server)
    (hoff : pipewireNodeName c.currentSinkName ≠ some remoteInSink)
    (houtputs : Describes outputs s₀.server) (hat : At s₀ p' journal s) (hties : host.Tries)
    (hback : host.TakesBack) :
    (settleRoute host c method outputs).wp
      ⟨fun _ _ => s.watcher.hasRouteJournal = true → ¬ (host.saves s (c.route method)).fails,
        fun _ s' => ∃ journal', At s₀ p journal' s' ∧ (s.watcher.hasRouteJournal = true →
          Fate (host.saves s (c.route method)) journal (savedRoute host.codec (c.route method)) journal'),
        fun _ => True⟩ s := by
  have hrestore : ∀ {j s₁}, At s₀ p' j s₁ → (restoreRoute host (c.route method)).wp
      ⟨fun _ s' => At s₀ p j s', fun _ _ => False, fun _ => True⟩ s₁ :=
    fun hat₁ => restoreRoute_undoes htook hlisted.sink (hp ▸ hlisted.sink) hlisted.off hoff hat₁
      hties hback
  have hsources : p'.sourceOf = s₀.server.sourceOf := by
    cases method with
    | pulseMove =>
      obtain rfl := htook
      exact hp ▸ rfl
    | pipeWireLinks =>
      obtain ⟨node, sink, -, -, -, -, rfl⟩ := htook
      exact hp ▸ rfl
  unfold settleRoute
  rw [Call.wp_bind, wp_remember]
  dsimp only
  have hat₀ := hat.remember ({ · with selectedAppKey := some c.stableAppKey }) rfl rfl
  rw [Call.wp_bind, Call.wp_attempt]
  cases hj : s.watcher.hasRouteJournal with
  | true =>
    refine Call.wp_mono (persist_places hat₀ hj) ?_ ?_ (fun _ h => h)
    · rintro _ s₁ ⟨hsaved, hat₁⟩
      dsimp only
      rw [Call.wp_bind, Call.wp_attempt]
      refine Call.wp_mono (routeMatching_undoes hat₁ hties hback houtputs hsources) ?_ ?_
        (fun _ h => h)
      · intro _ s₂ _
        exact fun _ => hsaved
      · intro _ s₂ hat₂
        dsimp only
        rw [Call.wp_bind, Call.wp_attempt]
        refine Call.wp_mono (hrestore hat₂) (fun _ s₃ hat₃ => ?_) (fun _ _ h => h.elim) (fun _ h => h)
        dsimp only
        rw [Call.wp_bind, wp_remember]
        dsimp only
        rw [Call.wp_bind]
        have hat₃' := hat₃.remember ({ · with selectedAppKey := none }) rfl rfl
        refine Call.wp_mono (clear_places hat₃' ?_ hback) (fun _ s₄ hat₄ => ?_) (fun _ _ h => h.elim)
          (fun _ h => h)
        · rw [hat₃'.hasJournal, ← hat.hasJournal, hj]
        · exact ⟨none, hat₄, fun _ => .inr (.inr ⟨hsaved, rfl⟩)⟩
    · intro e s₁ hfate
      dsimp only
      rw [Call.wp_bind, Call.wp_attempt]
      rcases hfate with ⟨hrefused, hat₁⟩ | ⟨hcut, hat₁⟩
      · refine Call.wp_mono (hrestore hat₁) (fun _ s₂ hat₂ => ?_) (fun _ _ h => h.elim) (fun _ h => h)
        exact ⟨_, hat₂.remember _ rfl rfl, fun _ => .inl ⟨hrefused, rfl⟩⟩
      · refine Call.wp_mono (hrestore hat₁) (fun _ s₂ hat₂ => ?_) (fun _ _ h => h.elim) (fun _ h => h)
        exact ⟨_, hat₂.remember _ rfl rfl, fun _ => .inr (.inl ⟨hcut, rfl⟩)⟩
  | false =>
    refine Call.wp_mono (persist_nothing hat₀ hj) ?_ (fun _ _ h => h.elim) (fun _ h => h)
    intro _ s₁ hat₁
    dsimp only
    rw [Call.wp_bind, Call.wp_attempt]
    refine Call.wp_mono (routeMatching_undoes hat₁ hties hback houtputs hsources) ?_ ?_
      (fun _ h => h)
    · intro _ s₂ _ htrue
      cases htrue
    · intro _ s₂ hat₂
      dsimp only
      rw [Call.wp_bind, Call.wp_attempt]
      refine Call.wp_mono (hrestore hat₂) (fun _ s₃ hat₃ => ?_) (fun _ _ h => h.elim) (fun _ h => h)
      dsimp only
      rw [Call.wp_bind, wp_remember]
      dsimp only
      rw [Call.wp_bind]
      have hat₃' := hat₃.remember ({ · with selectedAppKey := none }) rfl rfl
      refine Call.wp_mono (clear_nothing hat₃' ?_) (fun _ s₄ hat₄ => ?_) (fun _ _ h => h.elim)
        (fun _ h => h)
      · rw [hat₃'.hasJournal, ← hat.hasJournal, hj]
      · exact ⟨_, hat₄, fun htrue => by cases htrue⟩

/-! ### What a failed call leaves -/

/-- Everything is where it was, and there is no route, in memory or in the journal. -/
structure Undone (codec : JournalCodec) (s s' : Scene) : Prop where
  places : s'.server.places = s.server.places
  active : s'.watcher.activeRoute = none
  blank : s'.watcher.hasRouteJournal = true → loadActiveRoute codec s'.journal = none

/-- The answer to the save of the candidate's route, if its stream can be taken. -/
def Host.saveAnswer (host : Host) (s : Scene) (c : RouteCandidate) : Option Answer :=
  match takeStream host c s with
  | (.ok method, s₁) => some (host.saves s₁ (c.route method))
  | _ => none

/-- The call that fails leaves no route in the journal: its save does not fail with the file replaced,
    and the journal was blank before, or is replaced and then removed. -/
structure Host.Tidy (host : Host) (s : Scene) (c : RouteCandidate) : Prop where
  confirmed : host.saveAnswer s c ≠ some .unconfirmed
  blank : (∃ answer, host.saveAnswer s c = some answer ∧ ¬ answer.fails)
    ∨ loadActiveRoute host.codec s.journal = none

/-- A call that finds the stream taken is settled from there. -/
theorem enterRoute_of_took {method : RouteMethod} {s₁ : Scene}
    (h : takeStream host c s = (.ok method, s₁)) :
    enterRoute host c outputs s = settleRoute host c method outputs s₁ := by
  show Call.next _ (takeStream host c s) = _
  rw [h]
  rfl

theorem enterRoute_of_failed {e : RoutingError} {s₁ : Scene}
    (h : takeStream host c s = (.err e, s₁)) : enterRoute host c outputs s = (.err e, s₁) := by
  show Call.next _ (takeStream host c s) = _
  rw [h]
  rfl

/-- A routing that fails leaves everything as it was, with undoing at work, exactly if it leaves no route in
    the journal. -/
theorem failed_undone_iff (host : Host) (s : Scene) (c : RouteCandidate)
    (outputs : List SourceOutputRouteCandidate) (fallback : Option String) (hspares : host.Spares)
    (hties : host.Tries) (hback : host.TakesBack) (hnone : s.watcher.activeRoute = none)
    (hlisted : c.Listed s.server) (houtputs : Describes outputs s.server) :
    (∀ e s', routeCandidateStream host c outputs fallback s = (.err e, s') → Undone host.codec s s')
      ↔ (s.watcher.hasRouteJournal = true → host.Tidy s c) := by
  have hcall : routeCandidateStream host c outputs fallback s = enterRoute host c outputs s := by
    unfold routeCandidateStream
    show Call.next _ (.ok s, s) = _
    simp only [Call.next, hnone]
  rw [hcall]
  have hlives := enterRoute_lives hspares c outputs s
  have hoff := ports_off hlisted.sink hlisted.off
  have htaken := takeStream_places (c := c) (At.refl s) hties hback hoff
  have hundone : ∀ {j s'}, At s s.server.places j s' →
      (s.watcher.hasRouteJournal = true → loadActiveRoute host.codec j = none) →
      Undone host.codec s s' := by
    intro j s' hat hblank
    refine ⟨hat.places, hat.active.trans hnone, fun hj => ?_⟩
    rw [hat.journal]
    exact hblank (hat.hasJournal ▸ hj)
  rcases htake : takeStream host c s with ⟨method | e | _, s₁⟩
  · -- the stream is taken, and the rest is settled
    have hsaves : host.saveAnswer s c = some (host.saves s₁ (c.route method)) := by
      unfold Host.saveAnswer
      rw [htake]
    obtain ⟨p', htook, hat⟩ := Call.met_of_wp htaken htake
    have hj₁ : s₁.watcher.hasRouteJournal = s.watcher.hasRouteJournal := hat.hasJournal
    have hsettled := settleRoute_undoes htook rfl hlisted hoff houtputs hat hties hback
    rw [enterRoute_of_took htake] at hlives ⊢
    rw [hj₁] at hsettled
    rcases hrun : settleRoute host c method outputs s₁ with ⟨u | e | _, s₂⟩
    · have hsaved := Call.met_of_wp hsettled hrun
      refine ⟨fun _ hj => ⟨?_, .inl ⟨_, hsaves, hsaved hj⟩⟩, fun _ e s' h => by cases h⟩
      rw [hsaves]
      intro hcut
      exact hsaved hj (.inr (Option.some.inj hcut))
    · obtain ⟨j, hat₂, hfate⟩ := Call.met_of_wp hsettled hrun
      constructor
      · intro h hj
        have hblank := (h e s₂ rfl).blank (hat₂.hasJournal.trans hj)
        rw [hat₂.journal] at hblank
        rcases hfate hj with ⟨hrefused, rfl⟩ | ⟨hcut, rfl⟩ | ⟨hsaved, rfl⟩
        · refine ⟨?_, .inr hblank⟩
          rw [hsaves, hrefused]
          simp
        · -- what was saved is read back
          have hvalid : validRoute (c.route method) = true := by
            by_contra hnot
            rw [Host.saves, if_neg hnot] at hcut
            cases hcut
          rw [loadActiveRoute_saved hvalid] at hblank
          cases hblank
        · refine ⟨?_, .inl ⟨_, hsaves, hsaved⟩⟩
          rw [hsaves]
          intro hcut
          exact hsaved (.inr (Option.some.inj hcut))
      · intro htidy e' s' h
        cases h
        refine hundone hat₂ fun hj => ?_
        obtain ⟨hconfirmed, hblank⟩ := htidy hj
        rw [hsaves] at hconfirmed hblank
        rcases hfate hj with ⟨hrefused, rfl⟩ | ⟨hcut, -⟩ | ⟨-, rfl⟩
        · rcases hblank with ⟨answer, hanswer, hsaved⟩ | hblank
          · rw [← Option.some.inj hanswer] at hsaved
            exact absurd (.inl hrefused) hsaved
          · exact hblank
        · exact absurd (congrArg some hcut) hconfirmed
        · rfl
    · rw [hrun] at hlives
      exact absurd rfl hlives
  · -- nothing was taken, and the journal was not touched
    have hsaves : host.saveAnswer s c = none := by
      unfold Host.saveAnswer
      rw [htake]
    have hat := Call.met_of_wp htaken htake
    rw [enterRoute_of_failed htake]
    constructor
    · intro h hj
      have hblank := (h e s₁ rfl).blank (hat.hasJournal.trans hj)
      rw [hat.journal] at hblank
      exact ⟨by simp [hsaves], .inr hblank⟩
    · intro htidy e' s' h
      cases h
      refine hundone hat fun hj => ?_
      rcases (htidy hj).blank with ⟨answer, hanswer, -⟩ | hblank
      · rw [hsaves] at hanswer
        cases hanswer
      · exact hblank
  · have hpanic : (enterRoute host c outputs s).1 = .panic := by
      show (Call.next _ (takeStream host c s)).1 = _
      rw [htake]
      rfl
    exact absurd hpanic hlives

/-! ### A call in a browser -/

/-- The stream of the call, as discovery lists it. -/
def desktopCandidate : RouteCandidate where
  streamId := 7
  application := .firefox
  stableAppKey := "Firefox:firefox"
  applicationName := "Firefox"
  processBinary := "firefox"
  pipewireNodeName := none
  mediaRole := some "phone"
  description := none
  currentSinkId := 1
  currentSinkName := "alsa_output.speakers"
  callLike := true

theorem desktopCandidate_listed : desktopCandidate.Listed desktopScene.server :=
  @listed_of_mem desktopScene desktopCandidate rfl (by decide +kernel)

/-- No capture comes along. -/
def captureRefused : Answers
  | _, .moveSourceOutput _ source => if source = virtualMicSource then .refused else .tried
  | _, _ => .tried

/-- The file is replaced, and its directory cannot be synced. -/
def saveUnsynced : Answers
  | _, .saveJournal _ => .unconfirmed
  | _, _ => .tried

theorem captureRefused_takesBack (codec : JournalCodec) :
    Host.TakesBack ⟨codec, captureRefused⟩ := by
  intro n effect htakes
  cases effect with
  | moveSourceOutput i source =>
    have hne : source ≠ virtualMicSource := htakes
    simp [captureRefused, hne, Answer.fails]
  | _ => simp [captureRefused, Answer.fails]

theorem saveUnsynced_takesBack (codec : JournalCodec) :
    Host.TakesBack ⟨codec, saveUnsynced⟩ := by
  intro n effect htakes
  cases effect with
  | saveJournal bytes => exact htakes.elim
  | _ => simp [saveUnsynced, Answer.fails]

theorem saveUnsynced_spares (codec : JournalCodec) : Host.Spares ⟨codec, saveUnsynced⟩ := by
  intro n effect
  cases effect <;> simp [saveUnsynced]

theorem failed_undone_desktop :
    (routeCandidateStream ⟨desktopCodec, captureRefused⟩ desktopCandidate
        (desktopScene.watcher.snapshot desktopScene.server).sourceOutputRoutes none desktopScene).1
      = .err (RoutingError.new .moveFailed)
    ∧ Undone desktopCodec desktopScene
        (routeCandidateStream ⟨desktopCodec, captureRefused⟩ desktopCandidate
          (desktopScene.watcher.snapshot desktopScene.server).sourceOutputRoutes none
          desktopScene).2 := by
  have hfails : (routeCandidateStream ⟨desktopCodec, captureRefused⟩ desktopCandidate
      (desktopScene.watcher.snapshot desktopScene.server).sourceOutputRoutes none desktopScene).1
        = .err (RoutingError.new .moveFailed) := by decide +kernel
  refine ⟨hfails, (failed_undone_iff ⟨desktopCodec, captureRefused⟩ desktopScene desktopCandidate
    _ none ?_ ?_ (captureRefused_takesBack _) rfl desktopCandidate_listed
    (describes_snapshot _)).mpr ?_ _ _ (Prod.ext hfails rfl)⟩
  · intro n effect
    cases effect with
    | moveSourceOutput i source =>
      show (if source = virtualMicSource then Answer.refused else .tried) ≠ .crash
      split <;> simp
    | _ => simp [captureRefused]
  · exact fun n output input => ⟨by simp [captureRefused], by simp [captureRefused]⟩
  · exact fun _ => ⟨by decide +kernel, .inr rfl⟩

/-- The call that fails at its save leaves its route in the journal. -/
theorem saveUnsynced_kept : Host.Spares ⟨desktopCodec, saveUnsynced⟩
    ∧ Host.Tries ⟨desktopCodec, saveUnsynced⟩ ∧ Host.TakesBack ⟨desktopCodec, saveUnsynced⟩
    ∧ desktopScene.watcher.activeRoute = none ∧ desktopCandidate.Listed desktopScene.server
    ∧ ∃ e s', routeCandidateStream ⟨desktopCodec, saveUnsynced⟩ desktopCandidate [] none desktopScene
        = (.err e, s') ∧ loadActiveRoute desktopCodec s'.journal = some desktopRoute
      ∧ ¬ Undone desktopCodec desktopScene s' := by
  have hfails : (routeCandidateStream ⟨desktopCodec, saveUnsynced⟩ desktopCandidate [] none
      desktopScene).1 = .err (RoutingError.new .moveFailed) := by decide +kernel
  have hkept : loadActiveRoute desktopCodec (routeCandidateStream ⟨desktopCodec, saveUnsynced⟩
      desktopCandidate [] none desktopScene).2.journal = some desktopRoute := by decide +kernel
  have hjournal : (routeCandidateStream ⟨desktopCodec, saveUnsynced⟩ desktopCandidate [] none
      desktopScene).2.watcher.hasRouteJournal = true := by decide +kernel
  have hrun : routeCandidateStream ⟨desktopCodec, saveUnsynced⟩ desktopCandidate [] none desktopScene
      = (.err (RoutingError.new .moveFailed), (routeCandidateStream ⟨desktopCodec, saveUnsynced⟩
        desktopCandidate [] none desktopScene).2) := Prod.ext hfails rfl
  refine ⟨saveUnsynced_spares _, fun n output input => ⟨by simp [saveUnsynced], by simp [saveUnsynced]⟩,
    saveUnsynced_takesBack _, rfl, desktopCandidate_listed, _, _, hrun, hkept, fun hundone => ?_⟩
  cases hkept.symm.trans (hundone.blank hjournal)

end Translator.Routing
