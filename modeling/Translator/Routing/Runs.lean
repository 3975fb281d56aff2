import Translator.Routing.Captures
import Translator.Schemes.Run

/-! Runs of the watcher: its calls one after the other, each with answers of its own, and the streams
    coming and going in between. A call keeps the book under the terms that its answers and the
    changes before it allow, so a run whose operations all meet the terms keeps it from its start. -/

namespace Translator.Routing

open Schemes

/-- The calls of the watcher that change anything. -/
inductive WatcherCall where
  | reconcile (manualStreamId : Option Nat)
  | restoreActive
  | routeVirtualPeer (capability : VirtualPeerCapability)
  | restoreVirtualPeer

def WatcherCall.run (host : Host) : WatcherCall → RoutingCall RoutingState
  | .reconcile manualStreamId => Routing.reconcile host manualStreamId
  | .restoreActive => Routing.restoreActive host
  | .routeVirtualPeer capability => Routing.routeVirtualPeer host capability
  | .restoreVirtualPeer => Routing.restoreVirtualPeer host

/-- A call, or a change of the streams between two calls. The fresh streams are those that were not
    there before, even where they have the index of one that was. -/
inductive Operation where
  | call (request : WatcherCall) (answers : Answers)
  | change (server : Server) (fresh freshOutputs : List Nat)

def Scene.step (codec : JournalCodec) (s : Scene) :
    Operation → Option (Outcome RoutingError RoutingState) × Scene
  | .call request answers =>
    let (outcome, s') := request.run ⟨codec, answers⟩ { s with tick := 0 }
    (some outcome, s')
  | .change server fresh freshOutputs =>
    (none, { s with server := server, ledger := s.ledger.carriedOn server fresh freshOutputs })

/-- The process lives through the operation. -/
def Operation.Lives (codec : JournalCodec) (s : Scene) (op : Operation) : Prop :=
  (s.step codec op).1 ≠ some .panic

/-- What the earlier process of a watcher moved, going by the route that was recovered. -/
def Ledger.inherited (w : PulseRoutingWatcher) (server : Server) : Ledger :=
  match w.activeRoute with
  | none => .empty
  | some r =>
    { sinkInputs :=
        if r.routeMethod = .pulseMove ∧ w.keyOf server r.streamId = some r.stableAppKey then
          { moved := [r.streamId]
            homes := [(r.streamId, r.originalSinkName)]
            held := [r.streamId].filter (fun i => server.sinkOf i = some remoteInSink) }
        else ⟨[], [], []⟩
      heldOutputs := (server.sourceOutputs.map RawSourceOutput.index).filter (fun i =>
        server.sourceOf i = some virtualMicSource ∧ w.outputKeyOf server i = some r.stableAppKey) }

/-- A watcher that was just built, with or without a journal. -/
structure Scene.Starts (codec : JournalCodec) (s : Scene) : Prop where
  watcher : s.watcher = .new s.watcher.profile
    ∨ s.watcher = .newWithRouteJournal codec s.watcher.profile s.journal
  ledger : s.ledger = .inherited s.watcher s.server

/-! ### What keeps the terms -/

/-- A stream that is taken within the call can be given back. -/
def Host.GivesBack (host : Host) (server : Server) : Prop :=
  ∀ i name, server.sinkOf i = some name → name ≠ remoteInSink → host.Moves i name

/-- The captures of a route whose stream is gone can go back, where the call is to forget it. -/
def Host.GivesUp (host : Host) (s : Scene) : Prop :=
  ∀ r, s.watcher.activeRoute = some r →
    (s.watcher.snapshot s.server).conflictingStreamIds = [] →
    (s.watcher.snapshot s.server).candidates.find? (sameRouteIdentity r) = none →
    Returns host r (s.watcher.snapshot s.server).sourceOutputRoutes
      (preferredRestoreSource s.server.sources)

/-- What a call has to meet for the terms to stand through it. -/
def WatcherCall.Meets (host : Host) (t : Terms) (s : Scene) : WatcherCall → Prop
  | .reconcile manualStreamId => (t.takesBack → host.GivesBack s.server)
    ∧ (t.mirrored → host.Confirms ∧ host.Clears ∧ (manualStreamId = none → host.GivesUp s))
  | .restoreActive => t.mirrored → host.Clears
  | .routeVirtualPeer _ => ¬ t.undisturbed
    ∧ (t.takesBack → host.GivesBack s.server ∧ host.Reports ∧ s.watcher.activeRoute = none)
    ∧ (t.mirrored → host.Confirms ∧ host.Clears)
  | .restoreVirtualPeer => ¬ t.undisturbed ∧ (t.mirrored → host.Clears)

/-- A stream that is held stays what it was, and the sink it came from stays. -/
structure KeepsHeld (s : Scene) (server : Server) (fresh : List Nat) : Prop where
  same : ∀ i ∈ s.ledger.sinkInputs.held, i ∉ fresh → server.sinkOf i = some remoteInSink →
    s.watcher.keyOf server i = s.watcher.keyOf s.server i
  sink : ∀ r, s.watcher.activeRoute = some r →
    (nodeNamed s.server.sinks r.originalSinkName).isSome →
    (nodeNamed server.sinks r.originalSinkName).isSome

/-- Nobody else moves a stream or changes what it is, no sink goes, and no fresh stream has the index
    and the application of the one that is routed. -/
structure LeftAlone (s : Scene) (server : Server) (fresh : List Nat) : Prop where
  same : ∀ i, i ∉ fresh → (server.sinkInput i).isSome →
    server.sinkOf i = s.server.sinkOf i ∧ s.watcher.keyOf server i = s.watcher.keyOf s.server i
  sinks : ∀ name, (nodeNamed s.server.sinks name).isSome → (nodeNamed server.sinks name).isSome
  distinct : ∀ r, s.watcher.activeRoute = some r → r.streamId ∈ fresh →
    s.watcher.keyOf server r.streamId ≠ some r.stableAppKey

/-- What an operation has to meet for the terms to stand through it. -/
def Operation.Meets (codec : JournalCodec) (t : Terms) (s : Scene) : Operation → Prop
  | .call request answers => request.Meets ⟨codec, answers⟩ t s
  | .change server fresh _ => (t.takesBack → KeepsHeld s server fresh)
    ∧ (t.undisturbed → LeftAlone s server fresh)

variable {codec : JournalCodec} {host : Host} {t : Terms} {s : Scene}

/-! ### The start -/

theorem lookup_singleton {i j : Nat} {home home' : String} :
    [(j, home')].lookup i = some home ↔ i = j ∧ home = home' := by
  rw [List.lookup_cons]
  by_cases hij : i = j
  · simp [hij, eq_comm]
  · have hne : (i == j) = false := by simpa using hij
    simp [hne, hij]

theorem Scene.Starts.recorded (h : s.Starts codec) (hj : s.watcher.hasRouteJournal = true) :
    loadActiveRoute codec s.journal = s.watcher.activeRoute := by
  rcases h.watcher with hw | hw
  · rw [hw] at hj
    cases hj
  · rw [hw]
    rfl

/-- What the recovered route has to be for the terms to stand at the start. -/
structure Scene.StartsWell (t : Terms) (s : Scene) : Prop where
  original : t.takesBack → ∀ r, s.watcher.activeRoute = some r → r.originalSinkName ≠ remoteInSink
  place : t.undisturbed → ∀ r, s.watcher.activeRoute = some r → r.routeMethod = .pulseMove →
    s.watcher.keyOf s.server r.streamId = some r.stableAppKey →
    s.server.sinkOf r.streamId = some remoteInSink
      ∨ s.server.sinkOf r.streamId = some r.originalSinkName
  journaled : t.journaled → s.watcher.hasRouteJournal = true
  named : t.takesBack → ∀ r, s.watcher.activeRoute = some r → r.routeMethod = .pulseMove →
    (nodeNamed s.server.sinks r.originalSinkName).isSome
  restorable : t.takesBack → ∀ r, s.watcher.activeRoute = some r → Restorable r

theorem startsWell_of_none (hnone : s.watcher.activeRoute = none)
    (hjournal : t.journaled → s.watcher.hasRouteJournal = true) : s.StartsWell t := by
  refine ⟨fun _ r hr => ?_, fun _ r hr => ?_, hjournal, fun _ r hr => ?_, fun _ r hr => ?_⟩ <;>
    rw [hnone] at hr <;> cases hr

/-- A watcher that was just built keeps its book. -/
theorem Scene.Starts.accounted (h : s.Starts codec) (hwell : s.StartsWell t) :
    Accounted codec t s.sinkSide := by
  have hledger : s.sinkSide.ledger = (Ledger.inherited s.watcher s.server).sinkInputs := by
    rw [← h.ledger]
    rfl
  -- the ledger knows the stream of the recovered route at most
  have hknown : s.sinkSide.ledger = ⟨[], [], []⟩ ∨ ∃ r, s.watcher.activeRoute = some r
      ∧ r.routeMethod = .pulseMove ∧ s.sinkSide.keyOf r.streamId = some r.stableAppKey
      ∧ s.sinkSide.ledger = ⟨[r.streamId], [(r.streamId, r.originalSinkName)],
        [r.streamId].filter (fun i => s.server.sinkOf i = some remoteInSink)⟩ := by
    rw [hledger]
    unfold Ledger.inherited
    cases hr : s.watcher.activeRoute with
    | none => exact .inl rfl
    | some r =>
      dsimp only
      split
      case isTrue hpulse => exact .inr ⟨r, rfl, hpulse.1, hpulse.2, rfl⟩
      case isFalse => exact .inl rfl
  have hactive : ∀ r, s.sinkSide.active = some r → s.watcher.activeRoute = some r := fun _ hr => hr
  refine ⟨fun ht r hr => hwell.original ht r hr, ?_, ?_, ?_, ?_, ?_, ?_, ?_, hwell.journaled,
    hwell.named, hwell.restorable⟩
  · intro hj r hr
    exact (h.recorded hj).trans hr
  · intro _ hj hnone
    exact (h.recorded hj).trans hnone
  · intro _ i hi
    rcases hknown with hl | ⟨r, hr, hm, hkey, hl⟩ <;> rw [hl] at hi
    · cases hi
    · obtain ⟨hi, hsink⟩ := List.mem_filter.mp hi
      obtain rfl := List.mem_singleton.mp hi
      exact ⟨of_decide_eq_true hsink, r, hr, rfl, hm, hkey⟩
  · intro hund i home hlook
    rcases hknown with hl | ⟨r, hr, hm, hkey, hl⟩ <;> rw [hl] at hlook
    · cases hlook
    · obtain ⟨rfl, rfl⟩ := lookup_singleton.mp hlook
      refine ⟨hwell.original (t.undisturbed_takesBack hund) r hr, fun hnot => ?_⟩
      rcases hwell.place hund r hr hm hkey with hsink | hsink
      · rw [hl] at hnot
        have hheld : r.streamId ∈ [r.streamId].filter (fun i =>
            s.server.sinkOf i = some remoteInSink) :=
          List.mem_filter.mpr ⟨List.mem_singleton_self _, decide_eq_true hsink⟩
        exact absurd hheld hnot
      · exact hsink
  · intro _ i hi hnot hsink
    rcases hknown with hl | ⟨r, -, -, -, hl⟩ <;> rw [hl] at hi hnot
    · cases hi
    · exact hnot (List.mem_filter.mpr ⟨hi, decide_eq_true hsink⟩)
  · intro _ r hr _ home hlook
    rcases hknown with hl | ⟨r', hr', -, -, hl⟩ <;> rw [hl] at hlook
    · cases hlook
    · obtain rfl := Option.some.inj ((hactive r hr).symm.trans hr')
      exact (lookup_singleton.mp hlook).2
  · intro _ r hr hm hkey
    rw [hledger]
    unfold Ledger.inherited
    rw [hactive r hr]
    dsimp only
    rw [if_pos ⟨hm, hkey⟩]
    simp

/-! ### One call -/

theorem mem_stale_remote {c : RouteCandidate}
    (h : c ∈ (s.watcher.snapshot s.server).staleRemoteCandidates) :
    s.server.sinkOf c.streamId = some remoteInSink := by
  obtain ⟨hcand, hlisted⟩ := PulseRoutingWatcher.mem_stale.mp h
  obtain ⟨-, -, hsink⟩ := PulseRoutingWatcher.candidateOf_spec hcand
  rw [hsink]
  simp only [PulseRoutingWatcher.listed, Bool.or_eq_false_iff, decide_eq_false_iff_not,
    not_not] at hlisted
  rw [hlisted.1]

/-- Where the stream of the route is not listed, every listed stream is off the translator's sink. -/
theorem off_of_unlisted {r : IncomingRoute} {c : RouteCandidate}
    (hr : s.watcher.activeRoute = some r)
    (hgone : (s.watcher.snapshot s.server).candidates.find? (sameRouteIdentity r) = none)
    (hc : c ∈ (s.watcher.snapshot s.server).candidates) : c.currentSinkName ≠ remoteInSink := by
  refine (offered_of_mem hc).off fun r' hr' => ?_
  obtain rfl := Option.some.inj (hr.symm.trans hr')
  simpa using List.find?_eq_none.mp hgone c hc

/-- `reconcile` keeps the book. -/
theorem reconcile_sink {manualStreamId : Option Nat} (hacc : Accounted host.codec t s.sinkSide)
    (hmeets : (WatcherCall.reconcile manualStreamId).Meets host t s) :
    (reconcile host manualStreamId).wp (accountPost host.codec t) s := by
  obtain ⟨hback, hjournal⟩ := hmeets
  have hmir : t.mirrored → host.Confirms ∧ host.Clears :=
    fun hm => ⟨(hjournal hm).1, (hjournal hm).2.1⟩
  have hacc' : ∀ s' : Scene, s'.still = s.still → Accounted host.codec t s'.sinkSide :=
    fun s' hs' => sinkSide_of_still hs' ▸ hacc
  have hgive : ∀ c : RouteCandidate, c ∈ (s.watcher.snapshot s.server).candidates →
      t.takesBack → c.currentSinkName ≠ remoteInSink →
      host.Moves c.streamId c.currentSinkName :=
    fun c hc ht hoff => hback ht _ _ (offered_of_mem hc).sink hoff
  refine reconcile_wp ⟨fun s' hs' _ => (hacc' s' hs').crashed, fun s' e hs' => hacc' s' hs',
    fun s' state hs' _ => hacc' s' hs', ?_, ?_, ?_, ?_, ?_⟩
  · intro _ _
    exact Call.wp_mono (restoreActive_sink (fun hm => (hmir hm).2) hacc) (fun _ _ h => h.1)
      (fun _ _ h => h) (fun _ h => h)
  · intro s' c sink hs' _ hnone hstale _ _ hsink
    refine restoreStaleStream_sink hacc hmir (sinkSide_of_still hs') hnone
      (mem_stale_remote (hstale ▸ List.mem_singleton_self c)) ?_
    exact safeRestoreSinkName_ne (preferredRestore_mem hsink).1
  · intro s' c hs' _ hc _ _ _
    exact routeAndReport_sink hacc hmir (sinkSide_of_still hs') (offered_of_mem hc) (hgive c hc)
  · intro s' r c hs' _ _ hr hfind _
    obtain ⟨hid, hkey⟩ := PulseRoutingWatcher.sameRouteIdentity_iff.mp (List.find?_some hfind)
    have hoffer := offered_of_mem (List.mem_of_find?_eq_some hfind)
    exact refreshRoute_sink hacc (sinkSide_of_still hs') hr hid
      (by rw [← hid, ← hkey]; exact hoffer.key)
  · intro s' r hs' hmanual hclean hr hgone
    refine Call.wp_mono (forgetRoute_sink hacc hmir (sinkSide_of_still hs')
      (fun ht => held_nil_of_unlisted hacc hr hgone ht) fun hm s₁ hs₁ => ?_) ?_ (fun _ _ h => h)
      (fun _ h => h)
    · -- the captures can go back, so the journal follows
      have hframe : s₁.captureSide.frame = s.captureSide.frame := by
        rw [captureSide_of_still hs₁]
        show s'.captureSide.frame = s.captureSide.frame
        rw [captureSide_of_still hs']
      exact restoreMatching_granted hframe ((hjournal hm).2.2 hmanual r hr hclean hgone)
    · rintro _ s₁ ⟨hacc₁, hs₁⟩
      refine ⟨fun _ _ => hacc₁, fun _ _ => hacc₁, fun c hc => ?_⟩
      have hoffer := offered_of_mem hc
      have hfree : Free s.sinkSide c :=
        ⟨hoffer.key, hoffer.sink, hoffer.named, off_of_unlisted hr hgone hc⟩
      have hfree₁ := hfree.active_write none none
      rw [← hs₁] at hfree₁
      exact routeAndReport_sink hacc₁ hmir rfl
        ⟨hfree₁.key, hfree₁.sink, hfree₁.named, fun _ => hfree₁.off⟩ (hgive c hc)

/-- What `route_virtual_peer` finds after `reconcile`: the stream is routed, or nothing is held. -/
def Peered (streamId : Nat) (s : Scene) : Prop :=
  s.sinkSide.ledger.held = [] ∨ ((s.watcher.snapshot s.server).conflictingStreamIds = []
    ∧ ∃ c ∈ (s.watcher.snapshot s.server).candidates,
      c.streamId = streamId ∧ c.currentSinkName = remoteInSink)

/-- A stream that was just entered, while nothing else was on the translator's sink. -/
theorem peered_of_entered {s s' : Scene} {c : RouteCandidate} {method : RouteMethod}
    {journal : Option JournalFile} (hheld : s.sinkSide.ledger.held = [])
    (hnone : s.watcher.activeRoute = none)
    (hclean : (s.watcher.snapshot s.server).conflictingStreamIds = [])
    (hkey : s.sinkSide.keyOf c.streamId = some c.stableAppKey)
    (hs' : s'.sinkSide = { (s.sinkSide.write journal).taken c method with
      active := some (c.route method) }) : Peered c.streamId s' := by
  have hwrite : ∀ d : SinkSide, (d.write journal).sinkOf = d.sinkOf
      ∧ (d.write journal).keyOf = d.keyOf ∧ (d.write journal).ledger = d.ledger := by
    intro d
    unfold SinkSide.write
    split <;> exact ⟨rfl, rfl, rfl⟩
  obtain ⟨hwsink, hwkey, hwledger⟩ := hwrite s.sinkSide
  cases method with
  | pipeWireLinks =>
    refine .inl ?_
    rw [hs']
    exact hwledger ▸ hheld
  | pulseMove =>
    have hactive : s'.watcher.activeRoute = some (c.route .pulseMove) :=
      congrArg SinkSide.active hs'
    have hsinks : s'.server.sinkOf
        = Function.update s.server.sinkOf c.streamId (some remoteInSink) :=
      (congrArg SinkSide.sinkOf hs').trans (congrArg (Function.update · _ _) hwsink)
    have hkeys : s'.watcher.keyOf s'.server = s.watcher.keyOf s.server :=
      (congrArg SinkSide.keyOf hs').trans hwkey
    have hkey' : s'.watcher.keyOf s'.server c.streamId = some c.stableAppKey := by
      rw [hkeys]
      exact hkey
    refine .inr ⟨PulseRoutingWatcher.no_conflict_of hactive fun i hi => ?_, ?_⟩
    · -- what else is on the translator's sink was there before
      by_cases hic : i = c.streamId
      · rw [hic]
        exact ⟨rfl, hkey'⟩
      · rw [hsinks, Function.update_of_ne hic] at hi
        obtain ⟨r, hr, -⟩ := PulseRoutingWatcher.route_of_no_conflict hclean hi
        rw [hnone] at hr
        cases hr
    · have hsink : s'.server.sinkOf c.streamId = some remoteInSink := by
        rw [hsinks]
        exact Function.update_self ..
      obtain ⟨c', hfind, hname⟩ := PulseRoutingWatcher.find_route hactive hkey' hsink
      have hid := (PulseRoutingWatcher.sameRouteIdentity_iff.mp (List.find?_some hfind)).1
      exact ⟨c', List.mem_of_find?_eq_some hfind, hid, hname⟩

/-- `reconcile` as `route_virtual_peer` calls it. -/
theorem reconcile_peer {streamId : Nat} (hacc : Accounted host.codec t s.sinkSide)
    (hmeets : (WatcherCall.reconcile (some streamId)).Meets host t s)
    (hnone : t.takesBack → s.watcher.activeRoute = none) :
    (reconcile host (some streamId)).wp
      ⟨fun _ s' => Accounted host.codec t s'.sinkSide ∧ (t.takesBack → Peered streamId s'),
        fun _ s' => Accounted host.codec t s'.sinkSide
          ∧ (t.takesBack → s'.sinkSide.ledger.held = []),
        fun s' => Crashed host.codec t s'.sinkSide⟩ s := by
  by_cases ht : t.takesBack
  · have hnone := hnone ht
    have hheld := hacc.held_nil ht hnone
    have hsame : ∀ s' : Scene, s'.still = s.still → Accounted host.codec t s'.sinkSide
        ∧ (t.takesBack → s'.sinkSide.ledger.held = []) := by
      intro s' hs'
      rw [sinkSide_of_still hs']
      exact ⟨hacc, fun _ => hheld⟩
    have hmanual : some streamId ≠ none := Option.some_ne_none streamId
    refine reconcile_wp ⟨fun s' hs' _ => (hsame s' hs').1.crashed, fun s' _ hs' => hsame s' hs',
      fun s' _ hs' _ => ⟨(hsame s' hs').1, fun ht => .inl ((hsame s' hs').2 ht)⟩,
      fun h => absurd h hmanual, fun _ _ _ _ h => absurd h hmanual, ?_,
      fun _ _ _ _ h => absurd h hmanual, fun _ _ _ h => absurd h hmanual⟩
    intro s' c hs' hclean hc hid _ _
    obtain rfl := hid _ rfl
    have hoffer := offered_of_mem hc
    have hfree : Free s.sinkSide c := ⟨hoffer.key, hoffer.sink, hoffer.named,
      hoffer.off fun r hr => by rw [show s.sinkSide.active = none from hnone] at hr; cases hr⟩
    obtain ⟨hback, hjournal⟩ := hmeets
    have henter : (enterRoute host c (s.watcher.snapshot s.server).sourceOutputRoutes).wp
        (enterPost host.codec t s.sinkSide c) s' :=
      enterRoute_sink hacc hnone hfree (fun ht => hback ht _ _ hoffer.sink hfree.off)
        (fun hm => ⟨(hjournal hm).1, (hjournal hm).2.1⟩) (sinkSide_of_still hs')
    unfold routeAndReport routeCandidateStream
    simp only [Call.wp_bind, Call.wp_get, still_watcher hs', hnone]
    refine Call.wp_mono henter ?_ ?_ (fun _ h => h)
    · rintro _ s₁ ⟨hacc₁, method, hs₁⟩
      exact ⟨hacc₁, fun _ => peered_of_entered hheld hnone hclean hoffer.key hs₁⟩
    · rintro _ s₁ ⟨hacc₁, hnone₁⟩
      exact ⟨hacc₁, fun ht => hacc₁.held_nil ht hnone₁⟩
  · exact Call.wp_mono (reconcile_sink hacc hmeets) (fun _ _ h => ⟨h, fun h' => absurd h' ht⟩)
      (fun _ _ h => ⟨h, fun h' => absurd h' ht⟩) (fun _ h => h)

theorem inspect_wp {post : Call.Post Scene RoutingError RoutingState}
    (hcrash : ∀ s', s'.still = s.still → post.crash s')
    (herr : ∀ e s', s'.still = s.still → ¬ host.Reports → post.err e s')
    (hok : ∀ s' state, s'.still = s.still →
      state.candidates = (s.watcher.snapshot s.server).candidates →
      state.conflictingStreamIds = (s.watcher.snapshot s.server).conflictingStreamIds →
      post.ok state s') : (inspect host).wp post s := by
  unfold inspect
  rw [Call.wp_bind]
  refine discover_wp (fun s' hs' _ => hcrash s' hs') (fun s' hs' => herr _ s' hs') fun s' hs' => ?_
  exact hok s' _ hs' rfl rfl

/-- The book does not depend on what streams are known by while nothing is held. -/
theorem Accounted.unknown {d : SinkSide} (h : Accounted codec t d) (hund : ¬ t.undisturbed)
    (hheld : t.takesBack → d.ledger.held = []) (keyOf : Nat → Option String) :
    Accounted codec t { d with keyOf := keyOf } where
  original := h.original
  recorded := h.recorded
  blank := h.blank
  held ht i hi := by
    have hi : i ∈ d.ledger.held := hi
    rw [hheld ht] at hi
    cases hi
  home h' := absurd h' hund
  off h' := absurd h' hund
  own h' := absurd h' hund
  journaled := h.journaled
  named := h.named
  restorable := h.restorable
  living h' := absurd h' hund

theorem tryVirtualPeer_sink {capability : VirtualPeerCapability}
    (hacc : Accounted host.codec t s.sinkSide)
    (hmeets : (WatcherCall.reconcile (some capability.streamId)).Meets host t s)
    (hpeer : t.takesBack → host.Reports ∧ s.watcher.activeRoute = none) :
    (tryVirtualPeer host capability).wp
      ⟨fun _ s' => Accounted host.codec t s'.sinkSide,
        fun _ s' => Accounted host.codec t s'.sinkSide
          ∧ (t.takesBack → s'.sinkSide.ledger.held = []),
        fun s' => Crashed host.codec t s'.sinkSide⟩ s := by
  unfold tryVirtualPeer
  simp only [Call.wp_bind]
  refine Call.wp_mono (reconcile_peer hacc hmeets fun ht => (hpeer ht).2) ?_ (fun _ _ h => h)
    (fun _ h => h)
  rintro _ s₁ ⟨hacc₁, hpeered⟩
  have hsame : ∀ s' : Scene, s'.still = s₁.still → Accounted host.codec t s'.sinkSide :=
    fun s' hs' => sinkSide_of_still hs' ▸ hacc₁
  refine inspect_wp (fun s' hs' => (hsame s' hs').crashed)
    (fun e s' hs' hnot => ⟨hsame s' hs', fun ht => absurd (hpeer ht).1 hnot⟩)
    fun s' state hs' hcand hconf => ?_
  dsimp only
  split
  case isTrue => exact hsame s' hs'
  case isFalse hnot =>
    refine ⟨hsame s' hs', fun ht => ?_⟩
    rw [sinkSide_of_still hs']
    rcases hpeered ht with hheld | ⟨hclean, c, hc, hid, hname⟩
    · exact hheld
    · -- a routed peer is verified
      refine absurd ?_ hnot
      rw [hcand, hconf, hclean, Bool.and_eq_true]
      refine ⟨List.any_eq_true.mpr ⟨c, hc, ?_⟩, rfl⟩
      simp [hid, hname]

theorem routeVirtualPeer_sink {capability : VirtualPeerCapability}
    (hacc : Accounted host.codec t s.sinkSide)
    (hmeets : (WatcherCall.routeVirtualPeer capability).Meets host t s) :
    (routeVirtualPeer host capability).wp (accountPost host.codec t) s := by
  obtain ⟨hund, hback, hmir⟩ := hmeets
  have hacc₁ : Accounted host.codec t
      (s.remember ({ · with virtualPeerCapability := some capability })).sinkSide :=
    hacc.unknown hund (fun ht => hacc.held_nil ht (hback ht).2.2) _
  unfold routeVirtualPeer
  simp only [Call.wp_bind, wp_remember, Call.wp_attempt]
  refine Call.wp_mono (tryVirtualPeer_sink hacc₁ ⟨fun ht => (hback ht).1, fun hm =>
    ⟨(hmir hm).1, (hmir hm).2, nofun⟩⟩ fun ht => (hback ht).2) (fun _ _ h => h) ?_ (fun _ h => h)
  rintro e s₂ ⟨hacc₂, hheld⟩
  exact hacc₂.unknown hund hheld _

theorem restoreVirtualPeer_sink (hacc : Accounted host.codec t s.sinkSide)
    (hmeets : WatcherCall.restoreVirtualPeer.Meets host t s) :
    (restoreVirtualPeer host).wp (accountPost host.codec t) s := by
  obtain ⟨hund, hmir⟩ := hmeets
  unfold restoreVirtualPeer
  rw [Call.wp_bind]
  refine Call.wp_mono (restoreActive_sink hmir hacc) ?_ (fun _ _ h => h) (fun _ h => h)
  rintro state s₁ ⟨hacc₁, hnone⟩
  exact hacc₁.unknown hund (fun ht => hacc₁.held_nil ht hnone) _

/-- A call keeps the book, and a crash in it leaves what a crash may leave. -/
theorem call_sink (request : WatcherCall) (hacc : Accounted host.codec t s.sinkSide)
    (hmeets : request.Meets host t s) : (request.run host).wp (accountPost host.codec t) s := by
  cases request with
  | reconcile manualStreamId => exact reconcile_sink hacc hmeets
  | restoreActive =>
    exact Call.wp_mono (restoreActive_sink hmeets hacc) (fun _ _ h => h.1) (fun _ _ h => h)
      (fun _ h => h)
  | routeVirtualPeer capability => exact routeVirtualPeer_sink hacc hmeets
  | restoreVirtualPeer => exact restoreVirtualPeer_sink hacc hmeets

/-! ### Changes between the calls -/

theorem lookup_filter (p : Nat → Bool) (i : Nat) : ∀ homes : List (Nat × String),
    (homes.filter (fun home => p home.1)).lookup i = if p i then homes.lookup i else none
  | [] => by simp
  | (j, name) :: homes => by
    have ih := lookup_filter p i homes
    by_cases hij : i = j
    · subst hij
      by_cases hp : p i = true
      · simp [hp]
      · simpa [hp] using ih
    · have hne : (i == j) = false := by simpa using hij
      by_cases hp : p j = true <;> simp [hp, List.lookup_cons, hne, ih]

/-- The book after the streams came and went. -/
theorem Accounted.carriedOn {server : Server} {fresh freshOutputs : List Nat}
    (h : Accounted codec t s.sinkSide) (hkeep : t.takesBack → KeepsHeld s server fresh)
    (halone : t.undisturbed → LeftAlone s server fresh) :
    Accounted codec t (Scene.sinkSide { s with
      server := server, ledger := s.ledger.carriedOn server fresh freshOutputs }) := by
  have hheld : ∀ i, i ∈ (s.ledger.carriedOn server fresh freshOutputs).sinkInputs.held ↔
      i ∈ s.ledger.sinkInputs.held ∧ i ∉ fresh ∧ server.sinkOf i = some remoteInSink := by
    intro i
    simp [Ledger.carriedOn]
  have hlook : ∀ i, (s.ledger.carriedOn server fresh freshOutputs).sinkInputs.homes.lookup i
      = if i ∉ fresh ∧ (server.sinkInput i).isSome then s.ledger.sinkInputs.homes.lookup i
        else none := by
    intro i
    have := lookup_filter (fun i => decide (i ∉ fresh ∧ (server.sinkInput i).isSome)) i
      s.ledger.sinkInputs.homes
    simpa [Ledger.carriedOn] using this
  refine ⟨h.original, h.recorded, h.blank, ?_, ?_, ?_, ?_, ?_, h.journaled,
    fun ht r hr hm => (hkeep ht).sink r hr (h.named ht r hr hm), h.restorable⟩
  · intro ht i hi
    obtain ⟨hi, hfresh, hsink⟩ := (hheld i).mp hi
    obtain ⟨-, r, hr, hid, hm, hkey⟩ := h.held ht i hi
    exact ⟨hsink, r, hr, hid, hm, ((hkeep ht).same i hi hfresh hsink).trans hkey⟩
  · intro hund i home hhome
    replace hhome := (hlook i).symm.trans hhome
    split at hhome
    case isFalse => cases hhome
    case isTrue hlives =>
      obtain ⟨hoff, hat⟩ := h.home hund i home hhome
      refine ⟨hoff, fun hnot => ?_⟩
      have hsame := ((halone hund).same i hlives.1 hlives.2).1
      show server.sinkOf i = some home
      by_cases hi : i ∈ s.ledger.sinkInputs.held
      · have hsink := (h.held (t.undisturbed_takesBack hund) i hi).1
        exact absurd ((hheld i).mpr ⟨hi, hlives.1, hsame.trans hsink⟩) hnot
      · exact hsame.trans (hat hi)
  · intro hund i hi hnot hsink
    have hsink : server.sinkOf i = some remoteInSink := hsink
    obtain ⟨hi, hlives⟩ := List.mem_filter.mp hi
    have hlives : i ∉ fresh ∧ (server.sinkInput i).isSome := of_decide_eq_true hlives
    have hsame := ((halone hund).same i hlives.1 hlives.2).1
    refine h.off hund i hi (fun hmem => ?_) (hsame.symm.trans hsink)
    exact hnot ((hheld i).mpr ⟨hmem, hlives.1, hsink⟩)
  · intro hund r hr hm home hhome
    replace hhome := (hlook _).symm.trans hhome
    split at hhome
    case isFalse => cases hhome
    case isTrue => exact h.own hund r hr hm home hhome
  · intro hund r hr hm hkey
    have hkey : s.watcher.keyOf server r.streamId = some r.stableAppKey := hkey
    -- the stream of the route is the one that was there before
    have hfresh : r.streamId ∉ fresh := fun hf => (halone hund).distinct r hr hf hkey
    have hlives : (server.sinkInput r.streamId).isSome := by
      obtain ⟨stream, hs, -⟩ := Option.bind_eq_some_iff.mp hkey
      simp [hs]
    have hsame := ((halone hund).same _ hfresh hlives).2
    show ((s.ledger.carriedOn server fresh freshOutputs).sinkInputs.homes.lookup _).isSome
    rw [hlook, if_pos ⟨hfresh, hlives⟩]
    exact h.living hund r hr hm (hsame.symm.trans hkey)

/-! ### Runs -/

/-- What a call that meets a post-condition comes to in a run. -/
theorem step_of_wp {request : WatcherCall} {answers : Answers}
    {post : Call.Post Scene RoutingError RoutingState}
    (h : (request.run ⟨codec, answers⟩).wp post { s with tick := 0 }) :
    ((Operation.call request answers).Lives codec s →
      (∃ state, (s.step codec (.call request answers)).1 = some (.ok state)
          ∧ post.ok state (s.step codec (.call request answers)).2)
        ∨ ∃ e, (s.step codec (.call request answers)).1 = some (.err e)
          ∧ post.err e (s.step codec (.call request answers)).2)
      ∧ (¬ (Operation.call request answers).Lives codec s →
        post.crash (s.step codec (.call request answers)).2) := by
  have hstep : s.step codec (.call request answers)
      = (some (request.run ⟨codec, answers⟩ { s with tick := 0 }).1,
        (request.run ⟨codec, answers⟩ { s with tick := 0 }).2) := rfl
  unfold Operation.Lives
  rw [hstep]
  unfold Call.wp at h
  revert h
  rcases request.run ⟨codec, answers⟩ { s with tick := 0 } with ⟨state | e | _, s'⟩ <;> intro h
  · exact ⟨fun _ => .inl ⟨state, rfl, h⟩, fun hcrash => absurd (by simp) hcrash⟩
  · exact ⟨fun _ => .inr ⟨e, rfl, h⟩, fun hcrash => absurd (by simp) hcrash⟩
  · exact ⟨fun hlives => absurd rfl hlives, fun _ => h⟩

/-- An operation keeps the book. -/
theorem step_accounted {op : Operation} (hacc : Accounted codec t s.sinkSide)
    (hmeets : op.Meets codec t s) (hlives : op.Lives codec s) :
    Accounted codec t (s.step codec op).2.sinkSide := by
  cases op with
  | change server fresh freshOutputs => exact hacc.carriedOn hmeets.1 hmeets.2
  | call request answers =>
    have hacc₀ : Accounted codec t ({ s with tick := 0 } : Scene).sinkSide := hacc
    have hcall := @call_sink ⟨codec, answers⟩ t _ request hacc₀ hmeets
    rcases (step_of_wp hcall).1 hlives with ⟨_, -, h⟩ | ⟨_, -, h⟩
    · exact h
    · exact h

/-- What is left when the process dies in a call. -/
theorem step_crashed {op : Operation} (hacc : Accounted codec t s.sinkSide)
    (hmeets : op.Meets codec t s) (hcrash : ¬ op.Lives codec s) :
    Crashed codec t (s.step codec op).2.sinkSide := by
  cases op with
  | change server fresh freshOutputs =>
    exact absurd (by simp [Operation.Lives, Scene.step]) hcrash
  | call request answers =>
    have hacc₀ : Accounted codec t ({ s with tick := 0 } : Scene).sinkSide := hacc
    exact (step_of_wp (@call_sink ⟨codec, answers⟩ t _ request hacc₀ hmeets)).2 hcrash

/-- A run whose operations all meet the terms keeps the book. -/
theorem run_accounted (h₀ : Accounted codec t s.sinkSide) (ops : List Operation)
    (hadm : Adm (Scene.step codec) (fun s op => op.Meets codec t s ∧ op.Lives codec s) s ops) :
    Accounted codec t (exec (Scene.step codec) s ops).2.sinkSide :=
  exec_invariant (I := fun _ s => Accounted codec t s.sinkSide) h₀
    (fun _ _ _ hacc hop => step_accounted hacc hop.1 hop.2) ops hadm

end Translator.Routing
