import Translator.Routing.Watcher

/-! What a snapshot says about the server, and what a move changes there. A stream is known by its
    index and its properties, which no command touches: servers that differ only in where the
    streams are attached are `Kin`, and the application a stream is taken for is the same on both. -/

namespace Translator.Routing

variable {w : PulseRoutingWatcher} {server server' : Server} {i j : Nat} {name key : String}

/-- An element is found by its index where the indexes are distinct. -/
theorem find_of_mem {α : Type} {f : α → Nat} {l : List α} (hnd : (l.map f).Nodup) {x : α}
    (hx : x ∈ l) : l.find? (fun y => f y == f x) = some x := by
  induction l with
  | nil => simp at hx
  | cons y l ih =>
    rw [List.map_cons, List.nodup_cons] at hnd
    rcases List.mem_cons.mp hx with rfl | hx
    · simp
    · have hne : f y ≠ f x := fun h => hnd.1 (h ▸ List.mem_map_of_mem hx)
      simp [hne, ih hnd.2 hx]

theorem nodeName_of_named {nodes : List RawNode} (hnd : (nodes.map RawNode.index).Nodup)
    {node : RawNode} (h : nodeNamed nodes name = some node) :
    nodeName nodes node.index = some name := by
  have hmem := List.mem_of_find?_eq_some h
  have hname := List.find?_some h
  unfold nodeName
  rw [find_of_mem hnd hmem]
  simpa using hname

theorem nodeNamed_of_mem {nodes : List RawNode} {node : RawNode} (h : node ∈ nodes) :
    (nodeNamed nodes node.name).isSome := by
  unfold nodeNamed
  rw [List.find?_isSome]
  exact ⟨node, h, by simp⟩

theorem nodeNamed_of_nodeName {nodes : List RawNode} {index : Nat}
    (h : nodeName nodes index = some name) : (nodeNamed nodes name).isSome := by
  obtain ⟨node, hnode, rfl⟩ := Option.map_eq_some_iff.mp h
  exact nodeNamed_of_mem (List.mem_of_find?_eq_some hnode)

/-! ### Servers that differ in attachments only -/

/-- What a stream is known by. -/
def RawSinkInput.ident (stream : RawSinkInput) : Nat × Properties :=
  (stream.index, stream.properties)

def RawSourceOutput.ident (stream : RawSourceOutput) : Nat × Properties :=
  (stream.index, stream.properties)

namespace Server

/-- The same streams and devices, wherever the streams are attached. -/
structure Kin (a b : Server) : Prop where
  sinks : b.sinks = a.sinks
  sources : b.sources = a.sources
  processes : b.processes = a.processes
  sinkInputs : b.sinkInputs.map RawSinkInput.ident = a.sinkInputs.map RawSinkInput.ident
  sourceOutputs :
    b.sourceOutputs.map RawSourceOutput.ident = a.sourceOutputs.map RawSourceOutput.ident

theorem Kin.refl (a : Server) : Kin a a := ⟨rfl, rfl, rfl, rfl, rfl⟩

theorem Kin.trans {a b c : Server} (h : Kin a b) (h' : Kin b c) : Kin a c where
  sinks := h'.sinks.trans h.sinks
  sources := h'.sources.trans h.sources
  processes := h'.processes.trans h.processes
  sinkInputs := h'.sinkInputs.trans h.sinkInputs
  sourceOutputs := h'.sourceOutputs.trans h.sourceOutputs

theorem sinkInput_ident (server : Server) (i : Nat) :
    (server.sinkInput i).map RawSinkInput.ident
      = (server.sinkInputs.map RawSinkInput.ident).find? (fun ident => ident.1 == i) := by
  rw [List.find?_map]
  rfl

theorem sourceOutput_ident (server : Server) (i : Nat) :
    (server.sourceOutput i).map RawSourceOutput.ident
      = (server.sourceOutputs.map RawSourceOutput.ident).find? (fun ident => ident.1 == i) := by
  rw [List.find?_map]
  rfl

theorem Kin.sinkInput_ident {a b : Server} (h : Kin a b) (i : Nat) :
    (b.sinkInput i).map RawSinkInput.ident = (a.sinkInput i).map RawSinkInput.ident := by
  rw [Server.sinkInput_ident, Server.sinkInput_ident, h.sinkInputs]

theorem Kin.sourceOutput_ident {a b : Server} (h : Kin a b) (i : Nat) :
    (b.sourceOutput i).map RawSourceOutput.ident
      = (a.sourceOutput i).map RawSourceOutput.ident := by
  rw [Server.sourceOutput_ident, Server.sourceOutput_ident, h.sourceOutputs]

theorem Kin.isSome {a b : Server} (h : Kin a b) (i : Nat) :
    (b.sinkInput i).isSome = (a.sinkInput i).isSome := by
  have := congrArg Option.isSome (h.sinkInput_ident i)
  simpa using this

/-! ### Moving a stream -/

theorem sinkInput_index {stream : RawSinkInput} (h : server.sinkInput i = some stream) :
    stream.index = i := by
  simpa using List.find?_some h

theorem sourceOutput_index {stream : RawSourceOutput} (h : server.sourceOutput i = some stream) :
    stream.index = i := by
  simpa using List.find?_some h

/-- A move that is carried out moves the one stream, and nothing else changes. -/
theorem moveSinkInput_spec (h : server.moveSinkInput i name = some server') :
    server.Kin server' ∧ (∀ j, server'.sinkOf j = if j = i then some name else server.sinkOf j)
      ∧ server'.sourceOutputs = server.sourceOutputs ∧ server'.links = server.links := by
  unfold moveSinkInput at h
  split at h
  case h_2 => simp at h
  case h_1 stream node hstream hnode =>
    obtain rfl := Option.some.inj h
    refine ⟨⟨rfl, rfl, rfl, ?_, rfl⟩, ?_, rfl, rfl⟩
    · simp only [List.map_map]
      refine List.map_congr_left fun stream _ => ?_
      simp only [Function.comp, RawSinkInput.ident]
      split <;> rfl
    · intro j
      -- the stream is looked up by its index, which the move keeps
      have hfind : ∀ l : List RawSinkInput, (l.map (fun stream =>
          if stream.index = i then { stream with sink := node.index } else stream)).find?
            (fun stream => stream.index == j)
          = (l.find? (fun stream => stream.index == j)).map (fun stream =>
            if stream.index = i then { stream with sink := node.index } else stream) := by
        intro l
        rw [List.find?_map]
        congr 2
        funext stream
        simp only [Function.comp]
        split <;> rfl
      unfold sinkOf sinkInput
      rw [hfind]
      by_cases hj : j = i
      · subst hj
        rw [if_pos rfl]
        unfold sinkInput at hstream
        rw [hstream]
        simp [sinkInput_index hstream, nodeName_of_named server.sinks_nodup hnode]
      · rw [if_neg hj]
        cases hs : server.sinkInputs.find? (fun stream => stream.index == j) with
        | none => rfl
        | some stream =>
          have hindex : stream.index = j := by simpa using List.find?_some hs
          simp [hindex, hj]

theorem moveSourceOutput_spec (h : server.moveSourceOutput i name = some server') :
    server.Kin server'
      ∧ (∀ j, server'.sourceOf j = if j = i then some name else server.sourceOf j)
      ∧ server'.sinkInputs = server.sinkInputs ∧ server'.links = server.links := by
  unfold moveSourceOutput at h
  split at h
  case h_2 => simp at h
  case h_1 stream node hstream hnode =>
    obtain rfl := Option.some.inj h
    refine ⟨⟨rfl, rfl, rfl, rfl, ?_⟩, ?_, rfl, rfl⟩
    · simp only [List.map_map]
      refine List.map_congr_left fun stream _ => ?_
      simp only [Function.comp, RawSourceOutput.ident]
      split <;> rfl
    · intro j
      have hfind : ∀ l : List RawSourceOutput, (l.map (fun stream =>
          if stream.index = i then { stream with source := node.index } else stream)).find?
            (fun stream => stream.index == j)
          = (l.find? (fun stream => stream.index == j)).map (fun stream =>
            if stream.index = i then { stream with source := node.index } else stream) := by
        intro l
        rw [List.find?_map]
        congr 2
        funext stream
        simp only [Function.comp]
        split <;> rfl
      unfold sourceOf sourceOutput
      rw [hfind]
      by_cases hj : j = i
      · subst hj
        rw [if_pos rfl]
        unfold sourceOutput at hstream
        rw [hstream]
        simp [sourceOutput_index hstream, nodeName_of_named server.sources_nodup hnode]
      · rw [if_neg hj]
        cases hs : server.sourceOutputs.find? (fun stream => stream.index == j) with
        | none => rfl
        | some stream =>
          have hindex : stream.index = j := by simpa using List.find?_some hs
          simp [hindex, hj]

/-- A stream that is there can be moved to every sink that is there. -/
theorem moveSinkInput_isSome (hi : (server.sinkInput i).isSome)
    (hname : (nodeNamed server.sinks name).isSome) : (server.moveSinkInput i name).isSome := by
  obtain ⟨stream, hs⟩ := Option.isSome_iff_exists.mp hi
  obtain ⟨node, hn⟩ := Option.isSome_iff_exists.mp hname
  simp [moveSinkInput, hs, hn]

theorem moveSourceOutput_isSome (hi : (server.sourceOutput i).isSome)
    (hname : (nodeNamed server.sources name).isSome) :
    (server.moveSourceOutput i name).isSome := by
  obtain ⟨stream, hs⟩ := Option.isSome_iff_exists.mp hi
  obtain ⟨node, hn⟩ := Option.isSome_iff_exists.mp hname
  simp [moveSourceOutput, hs, hn]

theorem sinkInput_isSome_of_sinkOf (h : server.sinkOf i = some name) :
    (server.sinkInput i).isSome := by
  obtain ⟨stream, hs, -⟩ := Option.bind_eq_some_iff.mp h
  simp [hs]

theorem nodeNamed_of_sinkOf (h : server.sinkOf i = some name) :
    (nodeNamed server.sinks name).isSome := by
  obtain ⟨stream, -, hn⟩ := Option.bind_eq_some_iff.mp h
  exact nodeNamed_of_nodeName hn

theorem sourceOutput_isSome_of_sourceOf (h : server.sourceOf i = some name) :
    (server.sourceOutput i).isSome := by
  obtain ⟨stream, hs, -⟩ := Option.bind_eq_some_iff.mp h
  simp [hs]

theorem nodeNamed_of_sourceOf (h : server.sourceOf i = some name) :
    (nodeNamed server.sources name).isSome := by
  obtain ⟨stream, -, hn⟩ := Option.bind_eq_some_iff.mp h
  exact nodeNamed_of_nodeName hn

end Server

/-! ### The application of a stream -/

namespace PulseRoutingWatcher

/-- The application `route_candidate` takes a stream for. -/
def applicationOf (w : PulseRoutingWatcher) (server : Server) (stream : RawSinkInput) :
    Option AllowedApplication :=
  let virtualPeer := w.isAuthorizedVirtualPeer server stream
  if !virtualPeer && isTranslatorOwned stream.properties w.profile then none
  else if virtualPeer then some .syntheticValidation
  else classifyApplication ((property stream.properties "application.name").getD "")
    ((property stream.properties "application.process.binary").getD "") w.profile

/-- The key of the application. -/
def streamKey (w : PulseRoutingWatcher) (server : Server) (stream : RawSinkInput) :
    Option String :=
  (w.applicationOf server stream).map (stableAppKey ·
    ((property stream.properties "application.process.binary").getD ""))

/-- The application key of the sink-input with this index. -/
def keyOf (w : PulseRoutingWatcher) (server : Server) (i : Nat) : Option String :=
  (server.sinkInput i).bind (w.streamKey server)

/-- The application key of the source-output with this index. -/
def outputKeyOf (w : PulseRoutingWatcher) (server : Server) (i : Nat) : Option String :=
  (server.sourceOutput i).bind (fun stream =>
    if isTranslatorOwned stream.properties w.profile then none
    else
      let processBinary := (property stream.properties "application.process.binary").getD ""
      (classifyApplication ((property stream.properties "application.name").getD "") processBinary
        w.profile).map (stableAppKey · processBinary))

/-- What the watcher knows a stream by does not depend on where it is attached. -/
theorem keyOf_kin (w : PulseRoutingWatcher) (h : server.Kin server') (i : Nat) :
    w.keyOf server' i = w.keyOf server i := by
  have hauth : ∀ s t : RawSinkInput, t.ident = s.ident →
      w.streamKey server' t = w.streamKey server s := by
    rintro ⟨index, sink, properties⟩ ⟨index', sink', properties'⟩ hident
    obtain ⟨rfl, rfl⟩ := Prod.mk.injEq .. ▸ hident
    unfold streamKey applicationOf isAuthorizedVirtualPeer Server.inspectProcess
    simp only [h.processes]
  have hident := h.sinkInput_ident i
  unfold keyOf
  cases hs : server.sinkInput i with
  | none =>
    have : server'.sinkInput i = none := by simpa [hs] using hident
    simp [this]
  | some s =>
    rw [hs, Option.map_some, Option.map_eq_some_iff] at hident
    obtain ⟨t, ht, hts⟩ := hident
    simp [ht, hauth s t hts]

theorem outputKeyOf_kin (w : PulseRoutingWatcher) (h : server.Kin server') (i : Nat) :
    w.outputKeyOf server' i = w.outputKeyOf server i := by
  have hident := h.sourceOutput_ident i
  unfold outputKeyOf
  cases hs : server.sourceOutput i with
  | none =>
    have : server'.sourceOutput i = none := by simpa [hs] using hident
    simp [this]
  | some s =>
    rw [hs, Option.map_some, Option.map_eq_some_iff] at hident
    obtain ⟨t, ht, hts⟩ := hident
    have hprops : t.properties = s.properties := congrArg Prod.snd hts
    simp [ht, hprops]

/-- A candidate is its stream, with the key of its application and the sink it is on. -/
theorem routeCandidate_spec {stream : RawSinkInput} {c : RouteCandidate}
    (h : w.routeCandidate server stream = some c) :
    c.streamId = stream.index ∧ w.streamKey server stream = some c.stableAppKey
      ∧ nodeName server.sinks stream.sink = some c.currentSinkName := by
  unfold routeCandidate at h
  simp only at h
  split at h
  case isTrue => simp at h
  case isFalse hseen =>
    obtain ⟨application, happ, h⟩ := Option.bind_eq_some_iff.mp h
    obtain ⟨sinkName, hsink, h⟩ := Option.bind_eq_some_iff.mp h
    obtain rfl := Option.some.inj h
    refine ⟨rfl, ?_, hsink⟩
    unfold streamKey applicationOf
    rw [if_neg hseen, happ]
    rfl

/-- A stream with an application key on a known sink is a candidate. -/
theorem routeCandidate_of_key {stream : RawSinkInput} (hkey : w.streamKey server stream = some key)
    (hsink : nodeName server.sinks stream.sink = some name) :
    ∃ c, w.routeCandidate server stream = some c := by
  obtain ⟨application, happ, -⟩ := Option.map_eq_some_iff.mp hkey
  unfold applicationOf at happ
  simp only at happ
  split at happ
  case isTrue => simp at happ
  case isFalse hseen =>
    unfold routeCandidate
    simp only
    rw [if_neg hseen, happ, hsink]
    exact ⟨_, rfl⟩

/-! ### What is in a snapshot -/

theorem sinkInput_of_mem {stream : RawSinkInput} (h : stream ∈ server.sinkInputs) :
    server.sinkInput stream.index = some stream :=
  find_of_mem server.sinkInputs_nodup h

/-- The candidate a stream gives, by its index. -/
def candidateOf (w : PulseRoutingWatcher) (server : Server) (i : Nat) : Option RouteCandidate :=
  (server.sinkInput i).bind (w.routeCandidate server)

theorem candidateOf_spec {c : RouteCandidate} (h : w.candidateOf server i = some c) :
    c.streamId = i ∧ w.keyOf server i = some c.stableAppKey
      ∧ server.sinkOf i = some c.currentSinkName := by
  obtain ⟨stream, hs, hc⟩ := Option.bind_eq_some_iff.mp h
  obtain ⟨hid, hkey, hsink⟩ := routeCandidate_spec hc
  refine ⟨hid.trans (Server.sinkInput_index hs), ?_, ?_⟩
  · simp [keyOf, hs, hkey]
  · simp [Server.sinkOf, hs, hsink]

theorem candidateOf_of_key (hkey : w.keyOf server i = some key)
    (hsink : server.sinkOf i = some name) : ∃ c, w.candidateOf server i = some c := by
  obtain ⟨stream, hs, hkey⟩ := Option.bind_eq_some_iff.mp hkey
  rw [Server.sinkOf, hs, Option.bind_some] at hsink
  obtain ⟨c, hc⟩ := routeCandidate_of_key hkey hsink
  exact ⟨c, by simp [candidateOf, hs, hc]⟩

theorem mem_candidates {c : RouteCandidate} :
    c ∈ (w.snapshot server).candidates
      ↔ w.candidateOf server c.streamId = some c ∧ w.listed c = true := by
  unfold snapshot
  simp only [List.mem_filter, List.mem_filterMap]
  refine and_congr_left fun _ => ⟨?_, ?_⟩
  · rintro ⟨stream, hmem, hc⟩
    rw [(routeCandidate_spec hc).1]
    simp [candidateOf, sinkInput_of_mem hmem, hc]
  · intro h
    obtain ⟨stream, hs, hc⟩ := Option.bind_eq_some_iff.mp h
    exact ⟨stream, List.mem_of_find?_eq_some hs, hc⟩

theorem mem_stale {c : RouteCandidate} :
    c ∈ (w.snapshot server).staleRemoteCandidates
      ↔ w.candidateOf server c.streamId = some c ∧ w.listed c = false := by
  unfold snapshot
  simp only [List.mem_filter, List.mem_filterMap, Bool.not_eq_true']
  refine and_congr_left fun _ => ⟨?_, ?_⟩
  · rintro ⟨stream, hmem, hc⟩
    rw [(routeCandidate_spec hc).1]
    simp [candidateOf, sinkInput_of_mem hmem, hc]
  · intro h
    obtain ⟨stream, hs, hc⟩ := Option.bind_eq_some_iff.mp h
    exact ⟨stream, List.mem_of_find?_eq_some hs, hc⟩

theorem sameRouteIdentity_iff {r : IncomingRoute} {c : RouteCandidate} :
    sameRouteIdentity r c = true ↔ c.streamId = r.streamId ∧ c.stableAppKey = r.stableAppKey := by
  rw [sameRouteIdentity, Bool.and_eq_true, beq_iff_eq, beq_iff_eq, eq_comm,
    @eq_comm _ r.stableAppKey]

/-- The stream of the active route is found in the snapshot, wherever it is attached. -/
theorem find_route {r : IncomingRoute} (hr : w.activeRoute = some r)
    (hkey : w.keyOf server r.streamId = some r.stableAppKey)
    (hsink : server.sinkOf r.streamId = some name) :
    ∃ c, (w.snapshot server).candidates.find? (sameRouteIdentity r) = some c
      ∧ c.currentSinkName = name := by
  obtain ⟨c, hc⟩ := candidateOf_of_key hkey hsink
  obtain ⟨hid, hk, hs⟩ := candidateOf_spec hc
  have hsame : sameRouteIdentity r c = true :=
    sameRouteIdentity_iff.mpr ⟨hid, Option.some.inj (hk.symm.trans hkey)⟩
  have hmem : c ∈ (w.snapshot server).candidates := by
    rw [mem_candidates, hid]
    exact ⟨hc, by simp [listed, routes, hr, hsame]⟩
  cases hfind : (w.snapshot server).candidates.find? (sameRouteIdentity r) with
  | none =>
    rw [List.find?_eq_none] at hfind
    exact absurd hsame (hfind c hmem)
  | some c' =>
    have hmem' := mem_candidates.mp (List.mem_of_find?_eq_some hfind)
    have hid' := (sameRouteIdentity_iff.mp (List.find?_some hfind)).1
    rw [hid', hc] at hmem'
    obtain rfl := Option.some.inj hmem'.1
    exact ⟨c, rfl, Option.some.inj (hs.symm.trans hsink)⟩

/-- Without a conflict, only the stream of the active route is on the translator's sink. -/
theorem route_of_no_conflict (hnone : (w.snapshot server).conflictingStreamIds = [])
    (hsink : server.sinkOf i = some remoteInSink) :
    ∃ r, w.activeRoute = some r ∧ r.streamId = i ∧ w.keyOf server i = some r.stableAppKey := by
  obtain ⟨stream, hs, hname⟩ := Option.bind_eq_some_iff.mp hsink
  have hmem := List.mem_of_find?_eq_some hs
  have hnot : w.conflicts server stream = false := by
    unfold snapshot at hnone
    simp only [List.map_eq_nil_iff, List.filter_eq_nil_iff] at hnone
    simpa using hnone stream hmem
  simp only [conflicts, hname, decide_true, Bool.true_and, Bool.not_eq_false', Option.any_eq_true,
    routes] at hnot
  obtain ⟨c, hc, r, hr, hsame⟩ := hnot
  have hcand : w.candidateOf server i = some c := by simp [candidateOf, hs, hc]
  obtain ⟨hid, hkey, -⟩ := candidateOf_spec hcand
  obtain ⟨hid', hkey'⟩ := sameRouteIdentity_iff.mp hsame
  exact ⟨r, hr, by rw [← hid', hid], by rw [hkey, hkey']⟩

/-- Without an active route, every stream on the translator's sink is a conflict. -/
theorem mem_conflicts (hnone : w.activeRoute = none)
    (hsink : server.sinkOf i = some remoteInSink) :
    i ∈ (w.snapshot server).conflictingStreamIds := by
  obtain ⟨stream, hs, hname⟩ := Option.bind_eq_some_iff.mp hsink
  obtain rfl := Server.sinkInput_index hs
  unfold snapshot
  refine List.mem_map_of_mem (List.mem_filter.mpr ⟨List.mem_of_find?_eq_some hs, ?_⟩)
  have hroutes : ∀ c, w.routes c = false := fun c => by simp [routes, hnone]
  cases hc : w.routeCandidate server stream <;> simp [conflicts, hname, hc, hroutes]

/-- There is no conflict where every stream on the translator's sink is there as the active route. -/
theorem no_conflict_of {r : IncomingRoute} (hr : w.activeRoute = some r)
    (h : ∀ i, server.sinkOf i = some remoteInSink →
      i = r.streamId ∧ w.keyOf server i = some r.stableAppKey) :
    (w.snapshot server).conflictingStreamIds = [] := by
  unfold snapshot
  simp only [List.map_eq_nil_iff, List.filter_eq_nil_iff]
  intro stream hmem hconflict
  have hs := sinkInput_of_mem hmem
  rw [conflicts, Bool.and_eq_true, decide_eq_true_eq] at hconflict
  obtain ⟨hname, hnot⟩ := hconflict
  have hsink : server.sinkOf stream.index = some remoteInSink := by
    simp [Server.sinkOf, hs, hname]
  obtain ⟨hid, hkey⟩ := h _ hsink
  obtain ⟨c, hc⟩ := candidateOf_of_key hkey hsink
  obtain ⟨hcid, hckey, -⟩ := candidateOf_spec hc
  have hroutes : w.routes c = true := by
    rw [routes, hr, Option.any_some, sameRouteIdentity_iff]
    exact ⟨hcid.trans hid, Option.some.inj (hckey.symm.trans hkey)⟩
  rw [candidateOf, hs, Option.bind_some] at hc
  simp [hc, hroutes] at hnot

/-- A stream that can be routed anew is not on the translator's sink. -/
theorem listed_off_remote {c : RouteCandidate} (hlisted : w.listed c = true)
    (hother : ∀ r, w.activeRoute = some r → sameRouteIdentity r c = false) :
    c.currentSinkName ≠ remoteInSink := by
  intro hremote
  rcases Bool.or_eq_true .. ▸ hlisted with hoff | hroutes
  · exact absurd hremote (of_decide_eq_true hoff)
  · obtain ⟨r, hr, hsame⟩ := (Option.any_eq_true _ _).mp hroutes
    rw [hother r hr] at hsame
    exact absurd hsame (by simp)

/-- A capture of the snapshot: its application and the source it records from. -/
theorem mem_outputs {output : SourceOutputRouteCandidate}
    (h : output ∈ (w.snapshot server).sourceOutputRoutes) :
    w.outputKeyOf server output.streamId = some output.stableAppKey
      ∧ server.sourceOf output.streamId = some output.sourceName
      ∧ output.physicalSource = safeCaptureSourceName output.sourceName
      ∧ output.virtualSource = decide (output.sourceName = virtualMicSource) := by
  unfold snapshot at h
  simp only [List.mem_filterMap] at h
  obtain ⟨stream, hmem, h⟩ := h
  split at h
  case isTrue => simp at h
  case isFalse howned =>
    obtain ⟨sourceName, hname, h⟩ := Option.bind_eq_some_iff.mp h
    unfold sourceOutputRouteCandidate at h
    simp only at h
    split at h
    case isTrue => simp at h
    case isFalse =>
      obtain ⟨application, happ, rfl⟩ := Option.map_eq_some_iff.mp h
      have hs : server.sourceOutput stream.index = some stream :=
        find_of_mem server.sourceOutputs_nodup hmem
      refine ⟨?_, ?_, rfl, rfl⟩
      · simp [outputKeyOf, hs, howned, happ]
      · simp [Server.sourceOf, hs, hname]

/-- A capture of an application on the virtual microphone is in the snapshot. -/
theorem virtual_output (hkey : w.outputKeyOf server i = some key)
    (hsource : server.sourceOf i = some virtualMicSource) :
    ∃ output ∈ (w.snapshot server).sourceOutputRoutes,
      output.streamId = i ∧ output.stableAppKey = key ∧ output.virtualSource = true := by
  obtain ⟨stream, hs, hname⟩ := Option.bind_eq_some_iff.mp hsource
  have hindex := Server.sourceOutput_index hs
  rw [outputKeyOf, hs, Option.bind_some] at hkey
  split at hkey
  case isTrue => simp at hkey
  case isFalse howned =>
    obtain ⟨application, happ, rfl⟩ := Option.map_eq_some_iff.mp hkey
    refine ⟨⟨stream.index, application, stableAppKey application
      ((property stream.properties "application.process.binary").getD ""), virtualMicSource,
      safeCaptureSourceName virtualMicSource, true⟩, ?_, hindex, rfl, rfl⟩
    unfold snapshot
    simp only [List.mem_filterMap]
    refine ⟨stream, List.mem_of_find?_eq_some hs, ?_⟩
    simp [howned, hname, sourceOutputRouteCandidate, happ]

end PulseRoutingWatcher

end Translator.Routing
