import Translator.Routing.Branches

/-! What the watcher sends to the translator's sink. Every command that moves a stream there, or links a
    port to one of its ports, is issued for a candidate of the call's own discovery, whatever the host
    answers and wherever the process dies. For a route that is given back this rests on the routes that
    are remembered: none of them came from the translator's sink. -/

namespace Translator.Routing

open Schemes

/-! ### Commands -/

/-- The effect brings sound to the translator's sink. -/
def Effect.TowardsRemote : Effect → Prop
  | .moveSinkInput _ sink => sink = remoteInSink
  | .link _ input =>
    input = (playbackPorts remoteInSink).1 ∨ input = (playbackPorts remoteInSink).2
  | _ => False

/-- The effect moves the candidate's stream there, or links one of its ports. -/
def Effect.Takes (candidate : RouteCandidate) : Effect → Prop
  | .moveSinkInput index sink => index = candidate.streamId ∧ sink = remoteInSink
  | .link output input => ∃ node, pipewireRouteNodeName candidate = some node
      ∧ ((output, input) = ((outputPorts node).1, (playbackPorts remoteInSink).1)
        ∨ (output, input) = ((outputPorts node).2, (playbackPorts remoteInSink).2))
  | _ => False

/-- The ports of another sink are not those of the translator's. -/
theorem not_towards_playback {node output : String} (h : node ≠ remoteInSink) :
    ¬ (Effect.link output (playbackPorts node).1).TowardsRemote
      ∧ ¬ (Effect.link output (playbackPorts node).2).TowardsRemote := by
  constructor <;> rintro (heq | heq) <;> exact h (pipewirePort_inj (by decide) heq)

/-! ### Routes that are remembered -/

/-- Giving the route back does not bring it to the translator's sink. -/
structure IncomingRoute.Away (r : IncomingRoute) : Prop where
  sink : r.originalSinkName ≠ remoteInSink
  node : Routing.pipewireNodeName r.originalSinkName ≠ some remoteInSink

/-- The route in memory and the one in the journal. -/
structure Scene.Sound (codec : JournalCodec) (s : Scene) : Prop where
  active : ∀ r, s.watcher.activeRoute = some r → r.Away
  journal : ∀ r, loadActiveRoute codec s.journal = some r → r.Away

theorem away_of_trimmed {r : IncomingRoute} (htrimmed : trim r.originalSinkName = r.originalSinkName)
    (h : r.originalSinkName ≠ remoteInSink) : r.Away := by
  refine ⟨h, fun hnode => h ?_⟩
  unfold pipewireNodeName at hnode
  simp only at hnode
  split at hnode
  · cases hnode
  · rw [← htrimmed]
    exact Option.some.inj hnode

theorem nodeName_trimmed {server : Server} {i : Nat} {name : String}
    (h : nodeName server.sinks i = some name) : trim name = name := by
  obtain ⟨node, hnode, rfl⟩ := Option.map_eq_some_iff.mp h
  exact server.sinks_trimmed node (List.mem_of_find?_eq_some hnode)

/-! ### Calls that are permitted what they do -/

/-- What is read back is what was written. -/
theorem load_of_written {codec : JournalCodec} {journal : RouteJournal} {r : IncomingRoute}
    (h : loadActiveRoute codec (some (.saved (codec.toVec journal))) = some r) :
    r = journal.activeRoute := by
  simp only [loadActiveRoute, JournalFile.saved, Option.bind_eq_bind, Option.bind_some,
    codec.fromSlice_toVec] at h
  split at h
  · cases h
  · split at h
    · exact (Option.some.inj h).symm
    · cases h

section Careful

variable (host : Host) (allowed : Effect → Prop)

/-- The process dies at an effect that is allowed. -/
def DiesAllowed (s : Scene) : Prop :=
  s.Sound host.codec ∧ ∃ effect, allowed effect ∧ host.answer s.tick effect = .crash

/-- The call keeps the routes sound, and all it does is allowed. -/
def Careful {α : Type} (c : RoutingCall α) : Prop :=
  Call.Maintains (Scene.Sound host.codec) (DiesAllowed host allowed) c

variable {host allowed}

theorem sound_of_same {codec : JournalCodec} {s s' : Scene} (h : s.Sound codec)
    (hactive : s'.watcher.activeRoute = s.watcher.activeRoute) (hjournal : s'.journal = s.journal) :
    s'.Sound codec :=
  ⟨fun r hr => h.active r (hactive ▸ hr), fun r hr => h.journal r (hjournal ▸ hr)⟩

/-- An effect is careful when it is allowed, and what it writes to the journal is sound. -/
theorem careful_perform {effect : Effect} {code : RoutingErrorCode} (hallowed : allowed effect)
    (hwrite : ∀ bytes, effect = .saveJournal bytes →
      ∀ r, loadActiveRoute host.codec (some (.saved bytes)) = some r → r.Away) :
    Careful host allowed (perform host effect code) := by
  intro s hs
  refine perform_wp (fun hdies => ⟨hs, effect, hallowed, hdies⟩)
    (fun _ => sound_of_same hs rfl rfl) (fun _ _ => ?_) fun s' hdone => ?_
  · cases effect with
    | saveJournal bytes => exact ⟨hs.active, hwrite bytes rfl⟩
    | _ => exact sound_of_same hs rfl rfl
  · cases effect with
    | saveJournal bytes =>
      obtain rfl := Option.some.inj hdone
      exact ⟨hs.active, hwrite bytes rfl⟩
    | removeJournal =>
      obtain rfl := Option.some.inj hdone
      exact ⟨hs.active, nofun⟩
    | moveSinkInput i sink =>
      obtain ⟨server, -, rfl⟩ := Option.map_eq_some_iff.mp hdone
      exact sound_of_same hs rfl rfl
    | moveSourceOutput i source =>
      obtain ⟨server, -, rfl⟩ := Option.map_eq_some_iff.mp hdone
      exact sound_of_same hs rfl rfl
    | list what =>
      obtain rfl := Option.some.inj hdone
      exact sound_of_same hs rfl rfl
    | link output input =>
      obtain rfl := Option.some.inj hdone
      exact sound_of_same hs rfl rfl
    | unlink output input =>
      obtain rfl := Option.some.inj hdone
      exact sound_of_same hs rfl rfl

theorem careful_remember {f : PulseRoutingWatcher → PulseRoutingWatcher}
    (hf : ∀ w r, (f w).activeRoute = some r → w.activeRoute = some r ∨ r.Away) :
    Careful host allowed (remember f) := by
  refine Call.maintains_modify fun s hs => ⟨fun r hr => ?_, hs.journal⟩
  rcases hf s.watcher r hr with hold | haway
  · exact hs.active r hold
  · exact haway

/-- The watcher remembers something else. -/
theorem careful_keep {f : PulseRoutingWatcher → PulseRoutingWatcher}
    (hf : ∀ w, (f w).activeRoute = w.activeRoute) : Careful host allowed (remember f) :=
  careful_remember fun w _ hr => .inl ((hf w) ▸ hr)

/-- The watcher forgets its route. -/
theorem careful_forget {f : PulseRoutingWatcher → PulseRoutingWatcher}
    (hf : ∀ w, (f w).activeRoute = none) : Careful host allowed (remember f) :=
  careful_remember fun w _ hr => by rw [hf w] at hr; cases hr

theorem careful_state (snapshot : RoutingSnapshot) (resolution : RouteResolution) :
    Careful host allowed (state snapshot resolution) :=
  Call.maintains_get fun _ _ => Call.maintains_pure _

section Calls

variable (hfree : ∀ effect : Effect, ¬ effect.TowardsRemote → allowed effect)

include hfree

/-- An effect that brings nothing to the translator's sink, and is not a journal write. -/
theorem careful_free {effect : Effect} {code : RoutingErrorCode} (htowards : ¬ effect.TowardsRemote)
    (hwrite : ∀ bytes, effect ≠ .saveJournal bytes) :
    Careful host allowed (perform host effect code) :=
  careful_perform (hfree effect htowards) fun bytes h => absurd h (hwrite bytes)

theorem careful_discover : Careful host allowed (discover host) := by
  have hlist : ∀ what, Careful host allowed (perform host (.list what) .discoveryFailed) :=
    fun what => careful_free hfree not_false nofun
  refine Call.maintains_bind (hlist _) fun _ => ?_
  refine Call.maintains_bind (hlist _) fun _ => ?_
  refine Call.maintains_bind (hlist _) fun _ => ?_
  refine Call.maintains_bind (hlist _) fun _ => ?_
  exact Call.maintains_get fun _ _ => Call.maintains_pure _

theorem careful_persist {r : IncomingRoute} (haway : r.Away) (code : RoutingErrorCode) :
    Careful host allowed (persistActiveRoute host r code) := by
  refine Call.maintains_get fun s _ => Call.maintains_ite ?_ (Call.maintains_pure _)
  refine Call.maintains_mapErr ?_
  unfold saveActiveRoute
  refine Call.maintains_ite (Call.maintains_fail _) ?_
  refine careful_perform (hfree _ not_false) ?_
  rintro _ ⟨⟩ r' hr'
  -- what is read back is what was written
  rw [load_of_written hr']
  exact haway

theorem careful_clear (code : RoutingErrorCode) : Careful host allowed (clearRouteJournal host code) :=
  Call.maintains_get fun _ _ =>
    Call.maintains_ite (careful_free hfree not_false nofun) (Call.maintains_pure _)

theorem careful_moveSourceOutput (i : Nat) (source : String) (code : RoutingErrorCode) :
    Careful host allowed (moveSourceOutput host i source code) :=
  careful_free hfree not_false nofun

theorem careful_takeBackOutputs (moved : List (Nat × String)) :
    Careful host allowed (takeBackOutputs host moved) := by
  induction moved with
  | nil => exact Call.maintains_pure _
  | cons output rest ih =>
    exact Call.maintains_bind (Call.maintains_attempt (careful_moveSourceOutput hfree _ _ _)) fun _ => ih

theorem careful_routeOutputs (moved : List (Nat × String)) (outputs : List SourceOutputRouteCandidate) :
    Careful host allowed (routeOutputs host moved outputs) := by
  induction outputs generalizing moved with
  | nil => exact Call.maintains_pure _
  | cons output rest ih =>
    refine Call.maintains_bind (Call.maintains_attempt (careful_moveSourceOutput hfree _ _ _)) fun x => ?_
    cases x with
    | ok u => exact ih _
    | error e =>
      exact Call.maintains_bind (careful_takeBackOutputs hfree _) fun _ => Call.maintains_fail _

theorem careful_restoreOutputs (source : String) (outputs : List SourceOutputRouteCandidate) :
    Careful host allowed (restoreOutputs host source outputs) := by
  induction outputs with
  | nil => exact Call.maintains_pure _
  | cons output rest ih =>
    exact Call.maintains_bind (careful_moveSourceOutput hfree _ _ _) fun _ => ih

theorem careful_restoreMatching (r : IncomingRoute) (outputs : List SourceOutputRouteCandidate)
    (fallback : Option String) :
    Careful host allowed (restoreMatchingSourceOutputs host r outputs fallback) := by
  unfold restoreMatchingSourceOutputs
  refine Call.maintains_ite (Call.maintains_pure _) ?_
  cases fallback with
  | none => exact Call.maintains_fail _
  | some source => exact careful_restoreOutputs hfree source _

theorem careful_unlink (output input : String) (code : RoutingErrorCode) :
    Careful host allowed (disconnectPipewireLink host output input code) :=
  careful_free hfree not_false nofun

/-- Giving a route back that came from another sink. -/
theorem careful_restoreRoute {r : IncomingRoute} (haway : r.Away) :
    Careful host allowed (restoreRoute host r) := by
  unfold restoreRoute
  cases r.routeMethod with
  | pulseMove => exact careful_free hfree haway.sink nofun
  | pipeWireLinks =>
    show Careful host allowed (restoreZoomPipewireLinks host r)
    unfold restoreZoomPipewireLinks
    refine Call.maintains_ite (Call.maintains_fail _) ?_
    split
    case h_2 => exact Call.maintains_fail _
    case h_1 node original hnode horiginal =>
      have hne : original ≠ remoteInSink := fun h => haway.node (h ▸ horiginal)
      refine Call.maintains_bind (careful_free hfree (not_towards_playback hne).1 nofun) fun _ => ?_
      refine Call.maintains_bind (Call.maintains_attempt
        (careful_free hfree (not_towards_playback hne).2 nofun)) fun x => ?_
      cases x with
      | error e =>
        exact Call.maintains_bind (Call.maintains_attempt (careful_unlink hfree _ _ _))
          fun _ => Call.maintains_fail _
      | ok u => exact Call.maintains_bind (careful_unlink hfree _ _ _) fun _ => careful_unlink hfree _ _ _

theorem careful_releaseRoute (r : IncomingRoute) (outputs : List SourceOutputRouteCandidate)
    (fallback : Option String) (code : RoutingErrorCode) :
    Careful host allowed (releaseRoute host r outputs fallback code) := by
  refine Call.maintains_bind (careful_restoreMatching hfree _ _ _) fun _ => ?_
  refine Call.maintains_bind (careful_forget fun _ => rfl) fun _ => ?_
  exact Call.maintains_bind (careful_clear hfree _) fun _ => careful_keep fun _ => rfl

theorem careful_leaveRoute {r : IncomingRoute} (haway : r.Away) (c : RouteCandidate)
    (outputs : List SourceOutputRouteCandidate) (fallback : Option String) :
    Careful host allowed (leaveRoute host r c outputs fallback) := by
  unfold leaveRoute
  refine Call.maintains_ite (careful_releaseRoute hfree _ _ _ _) ?_
  exact Call.maintains_bind (Call.maintains_mapErr (careful_restoreRoute hfree haway))
    fun _ => careful_releaseRoute hfree _ _ _ _

/-! ### Taking a candidate -/

section Take

variable {c : RouteCandidate} (htakes : ∀ effect : Effect, effect.Takes c → allowed effect)
  (haway : ∀ method, (c.route method).Away)

include htakes haway

/-- The links of a candidate: those to the translator's sink are its own, and those that are put back go
    to the sink it came from. -/
theorem careful_routeZoom : Careful host allowed (routeZoomWithPipewireLinks host c) := by
  unfold routeZoomWithPipewireLinks
  refine Call.maintains_ite (Call.maintains_fail _) ?_
  split
  case h_2 => exact Call.maintains_fail _
  case h_1 node original hnode horiginal =>
    have hne : original ≠ remoteInSink := fun h => (haway .pipeWireLinks).node (h ▸ horiginal)
    have hleft : Careful host allowed (connectPipewireLink host (outputPorts node).1
        (playbackPorts remoteInSink).1 .moveFailed) :=
      careful_perform (htakes _ ⟨node, hnode, .inl rfl⟩) nofun
    have hright : Careful host allowed (connectPipewireLink host (outputPorts node).2
        (playbackPorts remoteInSink).2 .moveFailed) :=
      careful_perform (htakes _ ⟨node, hnode, .inr rfl⟩) nofun
    have hunlink : ∀ {output input : String}, Careful host allowed (Call.attempt
        (disconnectPipewireLink host output input .moveFailed)) :=
      Call.maintains_attempt (careful_unlink hfree _ _ _)
    refine Call.maintains_bind hleft fun _ => ?_
    refine Call.maintains_bind (Call.maintains_attempt hright) fun x => ?_
    cases x with
    | error e => exact Call.maintains_bind hunlink fun _ => Call.maintains_fail _
    | ok u =>
      refine Call.maintains_bind hunlink fun x => ?_
      cases x with
      | error e =>
        exact Call.maintains_bind hunlink fun _ => Call.maintains_bind hunlink fun _ =>
          Call.maintains_fail _
      | ok u =>
        refine Call.maintains_bind hunlink fun x => ?_
        cases x with
        | error e =>
          refine Call.maintains_bind (Call.maintains_attempt
            (careful_free hfree (not_towards_playback hne).1 nofun)) fun _ => ?_
          exact Call.maintains_bind hunlink fun _ => Call.maintains_bind hunlink fun _ =>
            Call.maintains_fail _
        | ok u => exact Call.maintains_pure _

theorem careful_takeStream : Careful host allowed (takeStream host c) := by
  refine Call.maintains_bind (Call.maintains_attempt (careful_perform (htakes _ ⟨rfl, rfl⟩) nofun))
    fun x => ?_
  cases x with
  | ok u => exact Call.maintains_pure _
  | error e =>
    refine Call.maintains_bind (Call.maintains_attempt (careful_routeZoom hfree htakes haway))
      fun x => ?_
    cases x with
    | ok u => exact Call.maintains_pure _
    | error e => exact Call.maintains_bind (careful_keep fun _ => rfl) fun _ => Call.maintains_fail _

omit htakes in
theorem careful_settleRoute (method : RouteMethod) (outputs : List SourceOutputRouteCandidate) :
    Careful host allowed (settleRoute host c method outputs) := by
  refine Call.maintains_bind (careful_keep fun _ => rfl) fun _ => ?_
  refine Call.maintains_bind (Call.maintains_attempt (careful_persist hfree (haway method) _))
    fun x => ?_
  cases x with
  | error e =>
    refine Call.maintains_bind (Call.maintains_attempt (careful_restoreRoute hfree (haway method)))
      fun _ => ?_
    exact Call.maintains_bind (careful_keep fun _ => rfl) fun _ => Call.maintains_fail _
  | ok u =>
    refine Call.maintains_bind (Call.maintains_attempt (careful_routeOutputs hfree _ _)) fun x => ?_
    cases x with
    | error e =>
      refine Call.maintains_bind (Call.maintains_attempt (careful_restoreRoute hfree (haway method)))
        fun _ => ?_
      refine Call.maintains_bind (careful_keep fun _ => rfl) fun _ => ?_
      exact Call.maintains_bind (careful_clear hfree _) fun _ => Call.maintains_fail _
    | ok u =>
      refine careful_remember ?_
      rintro w _ ⟨⟩
      exact .inr (haway method)

theorem careful_enterRoute (outputs : List SourceOutputRouteCandidate) :
    Careful host allowed (enterRoute host c outputs) :=
  Call.maintains_bind (careful_takeStream hfree htakes haway)
    fun method => careful_settleRoute hfree haway method outputs

end Take

end Calls

end Careful

/-! ### Why a candidate is taken -/

theorem single_eq {α : Type} {l : List α} {a : α} (h : single l = some a) : l = [a] := by
  match l, h with
  | [b], h => rw [Option.some.inj h]

/-- The candidate a call takes: the one that was asked for, or else the one the active route names, the
    only one of an application that is routed without being asked for, the only call, the only fallback
    where there is no call, or the only call a browser's fallback yields to. -/
inductive Chosen (w : PulseRoutingWatcher) (snapshot : RoutingSnapshot) :
    Option Nat → RouteCandidate → Prop
  | asked (c : RouteCandidate) : Chosen w snapshot (some c.streamId) c
  | named (r : IncomingRoute) (c : RouteCandidate) (hr : w.activeRoute = some r)
      (hsame : sameRouteIdentity r c = true) : Chosen w snapshot none c
  | application (key : String) (c : RouteCandidate)
      (hkey : (∃ r, w.activeRoute = some r ∧ r.stableAppKey = key)
        ∨ w.activeRoute = none ∧ w.selectedAppKey = some key)
      (honly : snapshot.candidates.filter (fun candidate => candidate.stableAppKey = key
        && isAutoRouteCandidate candidate snapshot.sourceOutputRoutes) = [c]) :
      Chosen w snapshot none c
  | call (c : RouteCandidate) (honly : snapshot.candidates.filter RouteCandidate.callLike = [c]) :
      Chosen w snapshot none c
  | fallback (c : RouteCandidate) (hnone : snapshot.candidates.filter RouteCandidate.callLike = [])
      (honly : snapshot.candidates.filter
        (isBrowserDuplexCandidate · snapshot.sourceOutputRoutes) = [c]) : Chosen w snapshot none c
  | replacement (r : IncomingRoute) (c : RouteCandidate) (hr : w.activeRoute = some r)
      (honly : snapshot.candidates.filter (fun candidate =>
        candidate.callLike && !sameRouteIdentity r candidate) = [c]) : Chosen w snapshot none c

theorem chosen_auto {w : PulseRoutingWatcher} {snapshot : RoutingSnapshot} {c : RouteCandidate}
    (h : singleAutoRouteCandidate snapshot.candidates snapshot.sourceOutputRoutes = some c) :
    Chosen w snapshot none c := by
  unfold singleAutoRouteCandidate at h
  simp only at h
  split at h
  · exact .call c (single_eq h)
  · next hnone => exact .fallback c (by simpa using hnone) (single_eq h)

/-- A command toward the translator's sink is for a candidate that was chosen, with nothing foreign on
    the sink. -/
def Permitted (w : PulseRoutingWatcher) (server : Server) (manualStreamId : Option Nat)
    (effect : Effect) : Prop :=
  effect.TowardsRemote → ∃ c ∈ (w.snapshot server).candidates, effect.Takes c
    ∧ (w.snapshot server).conflictingStreamIds = []
    ∧ Chosen w (w.snapshot server) manualStreamId c

/-- A candidate that is not there as the active route is on another sink. -/
theorem away_of_candidate {w : PulseRoutingWatcher} {server : Server} {c : RouteCandidate}
    (hc : c ∈ (w.snapshot server).candidates)
    (hother : ∀ r, w.activeRoute = some r → sameRouteIdentity r c = false) (method : RouteMethod) :
    (c.route method).Away := by
  obtain ⟨hcandidate, hlisted⟩ := PulseRoutingWatcher.mem_candidates.mp hc
  obtain ⟨stream, -, hc⟩ := Option.bind_eq_some_iff.mp hcandidate
  obtain ⟨-, -, hsink⟩ := PulseRoutingWatcher.routeCandidate_spec hc
  exact away_of_trimmed (nodeName_trimmed hsink)
    (PulseRoutingWatcher.listed_off_remote hlisted hother)

section Reconcile

variable {host : Host} {allowed : Effect → Prop} {s s' : Scene} {c : RouteCandidate}

/-- What a careful call comes to. -/
def carefulPost (host : Host) (allowed : Effect → Prop) {α : Type} :
    Call.Post Scene RoutingError α :=
  ⟨fun _ => Scene.Sound host.codec, fun _ => Scene.Sound host.codec, DiesAllowed host allowed⟩

/-- Routing a candidate: the one that is routed already, or one from another sink. -/
theorem routeAndReport_careful (hfree : ∀ effect : Effect, ¬ effect.TowardsRemote → allowed effect)
    (htakes : ∀ effect : Effect, effect.Takes c → allowed effect) (snapshot : RoutingSnapshot)
    (hs : s.Sound host.codec)
    (hc : (∃ r, s.watcher.activeRoute = some r ∧ sameRouteIdentity r c = true)
      ∨ ∀ method, (c.route method).Away) :
    (routeAndReport host snapshot c).wp (carefulPost host allowed) s := by
  unfold routeAndReport
  rw [Call.wp_bind]
  have hroute : (routeCandidateStream host c snapshot.sourceOutputRoutes
      snapshot.fallbackRestoreSourceName).wp (carefulPost host allowed) s := by
    unfold routeCandidateStream
    simp only [Call.wp_bind, Call.wp_get]
    cases hactive : s.watcher.activeRoute with
    | none =>
      have haway : ∀ method, (c.route method).Away := by
        refine hc.resolve_left ?_
        rintro ⟨r, hr, -⟩
        cases hactive.symm.trans hr
      exact careful_enterRoute hfree htakes haway _ s hs
    | some r =>
      have hr : r.Away := hs.active r hactive
      dsimp only
      split
      · refine Call.maintains_bind (careful_persist hfree hr _) (fun _ => ?_) s hs
        exact Call.maintains_bind (careful_routeOutputs hfree _ _) fun _ => careful_keep fun _ => rfl
      · next hother =>
        have haway : ∀ method, (c.route method).Away := by
          refine hc.resolve_left ?_
          rintro ⟨r', hr', hsame⟩
          cases hactive.symm.trans hr'
          exact hother hsame
        exact Call.maintains_bind (careful_leaveRoute hfree hr c _ _)
          (fun _ => careful_enterRoute hfree htakes haway _) s hs
  exact Call.wp_mono hroute (fun _ s' hs' => @careful_state host allowed snapshot .routed s' hs')
    (fun _ _ h => h) (fun _ h => h)

theorem careful_restoreActive (hfree : ∀ effect : Effect, ¬ effect.TowardsRemote → allowed effect) :
    Careful host allowed (restoreActive host) := by
  refine Call.maintains_bind (careful_discover hfree) fun snapshot => ?_
  refine Call.maintains_get fun s hs => ?_
  refine Call.maintains_bind ?_ fun _ => ?_
  · cases hactive : s.watcher.activeRoute with
    | none => exact Call.maintains_pure _
    | some r =>
      have hr : r.Away := hs.active r hactive
      refine Call.maintains_bind ?_ fun _ => careful_restoreMatching hfree _ _ _
      unfold undoStream
      split
      case h_2 => exact Call.maintains_pure _
      case h_1 =>
        split
        · exact Call.maintains_ite (careful_restoreRoute hfree hr) (Call.maintains_pure _)
        · exact careful_restoreRoute hfree hr
  · refine Call.maintains_bind (careful_forget fun _ => rfl) fun _ => ?_
    exact Call.maintains_bind (careful_clear hfree _) fun _ => careful_state _ _

theorem careful_restoreStaleStream
    (hfree : ∀ effect : Effect, ¬ effect.TowardsRemote → allowed effect) (c : RouteCandidate)
    {sink : String} (hsink : sink ≠ remoteInSink) :
    Careful host allowed (restoreStaleStream host c sink) := by
  refine Call.maintains_bind (careful_free hfree hsink nofun) fun _ => ?_
  refine Call.maintains_bind (careful_keep fun _ => rfl) fun _ => ?_
  refine Call.maintains_bind (careful_clear hfree _) fun _ => ?_
  exact Call.maintains_bind (careful_discover hfree) fun _ => careful_state _ _

theorem careful_forgetRoute (hfree : ∀ effect : Effect, ¬ effect.TowardsRemote → allowed effect)
    (snapshot : RoutingSnapshot) (r : IncomingRoute) :
    Careful host allowed (forgetRoute host snapshot r) := by
  refine Call.maintains_bind (careful_forget fun _ => rfl) fun _ => ?_
  refine Call.maintains_bind (careful_restoreMatching hfree _ _ _) fun _ => ?_
  exact Call.maintains_bind (careful_clear hfree _) fun _ => careful_keep fun _ => rfl

/-- A stream left on the translator's sink goes to another one. -/
theorem careful_restoreStale (hfree : ∀ effect : Effect, ¬ effect.TowardsRemote → allowed effect)
    (ids : List Nat) (stale : List RouteCandidate) {server : Server} :
    Careful host allowed
      (restoreStaleRemoteConflict host ids stale (preferredRestoreSink server.sinks)) := by
  unfold restoreStaleRemoteConflict
  split
  case h_2 => exact Call.maintains_pure _
  case h_1 =>
    refine Call.maintains_ite (Call.maintains_pure _) ?_
    cases hfallback : preferredRestoreSink server.sinks with
    | none => exact Call.maintains_pure _
    | some sink =>
      have hsink : sink ≠ remoteInSink := safeRestoreSinkName_ne (preferredRestore_mem hfallback).1
      exact Call.maintains_bind (careful_restoreStaleStream hfree _ hsink)
        fun _ => Call.maintains_pure _

/-- A discovery is of the scene the call finds. -/
theorem discover_careful {α : Type} {f : RoutingSnapshot → RoutingCall α}
    (hfree : ∀ effect : Effect, ¬ effect.TowardsRemote → allowed effect) (hs : s.Sound host.codec)
    (hf : ∀ s', s'.still = s.still → s'.Sound host.codec →
      (f (s.watcher.snapshot s.server)).wp (carefulPost host allowed) s') :
    (discover host >>= f).wp (carefulPost host allowed) s := by
  have hdiscover : (discover host).wp (carefulPost host allowed) s := careful_discover hfree s hs
  have hsnapshot : (discover host).wp ⟨fun snapshot s' => snapshot = s.watcher.snapshot s.server
      ∧ s'.still = s.still, fun _ _ => True, fun _ => True⟩ s :=
    discover_wp (fun _ _ _ => trivial) (fun _ _ _ => trivial) fun s' hs' => ⟨rfl, hs'⟩
  rw [Call.wp_bind]
  refine Call.wp_mono (Call.wp_and hdiscover hsnapshot) ?_ (fun _ _ h => h.1) (fun _ h => h.1)
  rintro _ s' ⟨hsound, rfl, hstill⟩
  exact hf s' hstill hsound

/-! ### The watcher's calls -/

variable {manualStreamId : Option Nat}

theorem permitted_free (w : PulseRoutingWatcher) (server : Server) (manualStreamId : Option Nat)
    (effect : Effect) (h : ¬ effect.TowardsRemote) : Permitted w server manualStreamId effect :=
  fun htowards => absurd htowards h

/-- Routing a candidate that was chosen. -/
theorem route_permitted (hc : c ∈ (s.watcher.snapshot s.server).candidates)
    (hclean : (s.watcher.snapshot s.server).conflictingStreamIds = [])
    (hchosen : Chosen s.watcher (s.watcher.snapshot s.server) manualStreamId c)
    (hs' : s'.Sound host.codec)
    (hother : (∃ r, s'.watcher.activeRoute = some r ∧ sameRouteIdentity r c = true)
      ∨ ∀ r, s.watcher.activeRoute = some r → sameRouteIdentity r c = false) :
    (routeAndReport host (s.watcher.snapshot s.server) c).wp
      (carefulPost host (Permitted s.watcher s.server manualStreamId)) s' :=
  routeAndReport_careful (permitted_free _ _ _) (fun _ htakes _ => ⟨c, hc, htakes, hclean, hchosen⟩) _
    hs' (hother.imp_right fun h => away_of_candidate hc h)

/-- The stream of the active route is moved again. -/
theorem refreshRoute_permitted {r : IncomingRoute}
    (hc : c ∈ (s.watcher.snapshot s.server).candidates)
    (hclean : (s.watcher.snapshot s.server).conflictingStreamIds = [])
    (hr : s.watcher.activeRoute = some r) (haway : r.Away) (hsame : sameRouteIdentity r c = true) :
    Careful host (Permitted s.watcher s.server none)
      (refreshRoute host (s.watcher.snapshot s.server) r c) := by
  have hfree := permitted_free s.watcher s.server none
  refine Call.maintains_bind ?_ fun _ => Call.maintains_bind (careful_routeOutputs hfree _ _)
    fun _ => careful_state _ _
  refine Call.maintains_ite (careful_persist hfree haway _) (Call.maintains_ite ?_
    (Call.maintains_pure _))
  have hmove : Careful host (Permitted s.watcher s.server none)
      (moveStream host c.streamId remoteInSink .moveFailed) :=
    careful_perform (fun _ => ⟨c, hc, ⟨rfl, rfl⟩, hclean, .named r c hr hsame⟩) nofun
  exact Call.maintains_bind hmove fun _ => careful_persist hfree haway _

theorem dropRoute_permitted {r : IncomingRoute}
    (hclean : (s.watcher.snapshot s.server).conflictingStreamIds = [])
    (hr : s.watcher.activeRoute = some r)
    (hgone : (s.watcher.snapshot s.server).candidates.find? (sameRouteIdentity r) = none)
    (hs' : s'.Sound host.codec) :
    (dropRoute host (s.watcher.snapshot s.server) r).wp
      (carefulPost host (Permitted s.watcher s.server none)) s' := by
  have hother : ∀ c ∈ (s.watcher.snapshot s.server).candidates, ∀ r', s.watcher.activeRoute = some r' →
      sameRouteIdentity r' c = false := by
    intro c hc r' hr'
    cases hr.symm.trans hr'
    simpa using List.find?_eq_none.mp hgone c hc
  unfold dropRoute
  rw [Call.wp_bind]
  refine Call.wp_mono (careful_forgetRoute (permitted_free _ _ _) _ r s' hs') (fun _ s₁ hs₁ => ?_)
    (fun _ _ h => h) (fun _ h => h)
  dsimp only at hs₁ ⊢
  cases hreplacement : single ((s.watcher.snapshot s.server).replacements r.stableAppKey) with
  | some c =>
    have hc := (List.mem_filter.mp (single_mem hreplacement)).1
    exact route_permitted hc hclean (.application _ c (.inl ⟨r, hr, rfl⟩) (single_eq hreplacement)) hs₁
      (.inr (hother c hc))
  | none =>
    dsimp only
    split
    · exact careful_state _ _ s₁ hs₁
    · cases hauto : singleAutoRouteCandidate (s.watcher.snapshot s.server).candidates
        (s.watcher.snapshot s.server).sourceOutputRoutes with
      | some c =>
        have hc := singleAuto_mem hauto
        exact route_permitted hc hclean (chosen_auto hauto) hs₁ (.inr (hother c hc))
      | none =>
        dsimp only
        have hforget : Careful host (Permitted s.watcher s.server none) (remember fun w =>
            { w with selectedAppKey := none }) := careful_keep fun _ => rfl
        exact Call.maintains_bind hforget (fun _ => careful_state _ _) s₁ hs₁

theorem findRoute_permitted (hclean : (s.watcher.snapshot s.server).conflictingStreamIds = [])
    (hnone : s.watcher.activeRoute = none) (hs' : s'.Sound host.codec) :
    (findRoute host (s.watcher.snapshot s.server) s.watcher.selectedAppKey).wp
      (carefulPost host (Permitted s.watcher s.server none)) s' := by
  have hother : ∀ c r, s.watcher.activeRoute = some r → sameRouteIdentity r c = false := by
    intro c r hr
    cases hnone.symm.trans hr
  unfold findRoute
  cases hselected : s.watcher.selectedAppKey with
  | some key =>
    dsimp only
    cases hreplacement : single ((s.watcher.snapshot s.server).replacements key) with
    | some c =>
      exact route_permitted (List.mem_filter.mp (single_mem hreplacement)).1 hclean
        (.application key c (.inr ⟨hnone, hselected⟩) (single_eq hreplacement)) hs' (.inr (hother c))
    | none => exact careful_state _ _ s' hs'
  | none =>
    dsimp only
    cases hauto : singleAutoRouteCandidate (s.watcher.snapshot s.server).candidates
      (s.watcher.snapshot s.server).sourceOutputRoutes with
    | some c =>
      exact route_permitted (singleAuto_mem hauto) hclean (chosen_auto hauto) hs' (.inr (hother c))
    | none => exact careful_state _ _ s' hs'

/-- All that `reconcile` does is permitted by its own discovery. -/
theorem reconcile_permitted (manualStreamId : Option Nat) (hs : s.Sound host.codec) :
    (reconcile host manualStreamId).wp
      (carefulPost host (Permitted s.watcher s.server manualStreamId)) s := by
  have hfree := permitted_free s.watcher s.server manualStreamId
  unfold reconcile
  simp only [Call.wp_bind, Call.wp_get]
  split
  · exact careful_restoreActive hfree s hs
  · refine discover_careful hfree hs fun s' hs' hsound => ?_
    simp only [Call.wp_bind, Call.wp_get]
    split
    · -- another stream is on the sink
      refine Call.maintains_get (fun s₁ _ => ?_) s' hsound
      dsimp only
      split
      · refine Call.maintains_bind (careful_restoreStale hfree _ _) fun restored => ?_
        cases restored with
        | some restored => exact Call.maintains_pure _
        | none => exact careful_state _ _
      · refine Call.maintains_bind (Call.maintains_pure _) fun restored => ?_
        cases restored with
        | some restored => exact Call.maintains_pure _
        | none => exact careful_state _ _
    · next hconflicts =>
      have hclean : (s.watcher.snapshot s.server).conflictingStreamIds = [] := by simpa using hconflicts
      have hsame : s'.watcher.activeRoute = s.watcher.activeRoute := by rw [still_watcher hs']
      cases manualStreamId with
      | some id =>
        dsimp only
        cases hfind : (s.watcher.snapshot s.server).candidates.find?
            (fun candidate => candidate.streamId == id) with
        | none => exact hsound
        | some c =>
          have hc := List.mem_of_find?_eq_some hfind
          obtain rfl : c.streamId = id := by simpa using List.find?_some hfind
          refine route_permitted hc hclean (.asked c) hsound ?_
          -- what was asked for may be what is routed
          by_cases hrouted : ∃ r, s.watcher.activeRoute = some r ∧ sameRouteIdentity r c = true
          · exact .inl (hsame ▸ hrouted)
          · refine .inr fun r hr => ?_
            rw [← Bool.not_eq_true]
            exact fun hsame => hrouted ⟨r, hr, hsame⟩
      | none =>
        dsimp only
        rw [still_watcher hs']
        cases hactive : s.watcher.activeRoute with
        | none => exact findRoute_permitted hclean hactive hsound
        | some r =>
          dsimp only
          cases hfind : (s.watcher.snapshot s.server).candidates.find? (sameRouteIdentity r) with
          | none => exact dropRoute_permitted hclean hactive hfind hsound
          | some c =>
            have hc := List.mem_of_find?_eq_some hfind
            dsimp only
            unfold keepRoute
            cases hyield : (s.watcher.snapshot s.server).yieldsTo r c with
            | none =>
              exact refreshRoute_permitted hc hclean hactive (hs.active r hactive)
                (List.find?_some hfind) s' hsound
            | some c' =>
              obtain ⟨hc', hother⟩ := yieldsTo_mem hyield
              refine route_permitted hc' hclean (.replacement r c' hactive ?_) hsound (.inr ?_)
              · unfold RoutingSnapshot.yieldsTo at hyield
                split at hyield
                · exact single_eq hyield
                · cases hyield
              · intro r' hr'
                cases hactive.symm.trans hr'
                exact hother

/-- Looking moves nothing. -/
theorem careful_inspect (hfree : ∀ effect : Effect, ¬ effect.TowardsRemote → allowed effect) :
    Careful host allowed (inspect host) :=
  Call.maintains_bind (careful_discover hfree) fun _ => Call.maintains_get fun _ _ => careful_state _ _

/-- All that `try_virtual_peer` does is permitted by the discovery of its `reconcile`. -/
theorem tryVirtualPeer_permitted (capability : VirtualPeerCapability) (hs : s.Sound host.codec) :
    (tryVirtualPeer host capability).wp
      (carefulPost host (Permitted s.watcher s.server (some capability.streamId))) s := by
  have hinspect : Careful host (Permitted s.watcher s.server (some capability.streamId))
      (inspect host) := careful_inspect (permitted_free _ _ _)
  unfold tryVirtualPeer
  rw [Call.wp_bind]
  refine Call.wp_mono (reconcile_permitted (some capability.streamId) hs) (fun _ s' hs' => ?_)
    (fun _ _ h => h) (fun _ h => h)
  exact Call.maintains_bind hinspect (fun _ => Call.maintains_ite (Call.maintains_pure _)
    (Call.maintains_fail _)) s' hs'

end Reconcile

end Translator.Routing
