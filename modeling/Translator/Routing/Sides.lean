import Translator.Routing.Discovery

/-! The watcher's steps, seen from two sides. The sink side is where the playing streams are, what
    the watcher remembers of its route and what the journal has on it; the capture side is where the
    recording streams are. A step of the watcher touches one of the two, and what it does there is
    said once, for every way it can end. -/

namespace Translator.Routing

open Schemes

/-- The route, its journal and the sink-inputs. -/
structure SinkSide where
  active : Option IncomingRoute
  hasJournal : Bool
  journal : Option JournalFile
  sinkOf : Nat → Option String
  keyOf : Nat → Option String
  hasSink : String → Bool
  ledger : SinkLedger

/-- The route and the source-outputs. -/
structure CaptureSide where
  active : Option IncomingRoute
  sourceOf : Nat → Option String
  keyOf : Nat → Option String
  alive : Nat → Bool
  hasSource : String → Bool
  fallback : Option String
  held : List Nat

namespace SinkSide

/-- A sink-input is moved. -/
def move (d : SinkSide) (i : Nat) (sink : String) : SinkSide :=
  { d with
    sinkOf := Function.update d.sinkOf i (some sink)
    ledger := d.ledger.move i ((d.sinkOf i).getD "") sink }

/-- The journal, where there is one, is written or removed. -/
def write (d : SinkSide) (journal : Option JournalFile) : SinkSide :=
  if d.hasJournal then { d with journal := journal } else d

end SinkSide

namespace CaptureSide

/-- A source-output is moved. -/
def move (d : CaptureSide) (i : Nat) (source : String) : CaptureSide :=
  { d with
    sourceOf := Function.update d.sourceOf i (some source)
    held := if source = virtualMicSource then i :: d.held else d.held.filter (· ≠ i) }

end CaptureSide

namespace Scene

def sinkSide (s : Scene) : SinkSide where
  active := s.watcher.activeRoute
  hasJournal := s.watcher.hasRouteJournal
  journal := s.journal
  sinkOf := s.server.sinkOf
  keyOf := s.watcher.keyOf s.server
  hasSink := fun name => (nodeNamed s.server.sinks name).isSome
  ledger := s.ledger.sinkInputs

def captureSide (s : Scene) : CaptureSide where
  active := s.watcher.activeRoute
  sourceOf := s.server.sourceOf
  keyOf := s.watcher.outputKeyOf s.server
  alive := fun i => (s.server.sourceOutput i).isSome
  hasSource := fun name => (nodeNamed s.server.sources name).isSome
  fallback := preferredRestoreSource s.server.sources
  held := s.ledger.heldOutputs

variable {s s' : Scene} {i : Nat} {name : String}

theorem carryOut_sinkMove (h : s.carryOut (.moveSinkInput i name) = some s') :
    s'.sinkSide = s.sinkSide.move i name ∧ s'.captureSide = s.captureSide
      ∧ s'.watcher = s.watcher ∧ s.server.Kin s'.server := by
  obtain ⟨server', hmove, rfl⟩ := Option.map_eq_some_iff.mp h
  obtain ⟨hkin, hsink, houtputs, -⟩ := Server.moveSinkInput_spec hmove
  refine ⟨?_, ?_, rfl, hkin⟩
  · have hsinkOf : server'.sinkOf = Function.update s.server.sinkOf i (some name) := by
      funext j
      rw [hsink, Function.update_apply]
    have hkey : s.watcher.keyOf server' = s.watcher.keyOf s.server := by
      funext j
      exact s.watcher.keyOf_kin hkin j
    simp [sinkSide, SinkSide.move, hsinkOf, hkey, hkin.sinks, Ledger.movedSinkInput]
  · have hsource : server'.sourceOf = s.server.sourceOf := by
      funext j
      simp [Server.sourceOf, Server.sourceOutput, houtputs, hkin.sources]
    have hkey : s.watcher.outputKeyOf server' = s.watcher.outputKeyOf s.server := by
      funext j
      exact s.watcher.outputKeyOf_kin hkin j
    have halive : server'.sourceOutput = s.server.sourceOutput := by
      funext j
      simp [Server.sourceOutput, houtputs]
    simp [captureSide, hsource, hkey, halive, hkin.sources, Ledger.movedSinkInput]

theorem carryOut_captureMove (h : s.carryOut (.moveSourceOutput i name) = some s') :
    s'.captureSide = s.captureSide.move i name ∧ s'.sinkSide = s.sinkSide
      ∧ s'.watcher = s.watcher ∧ s.server.Kin s'.server := by
  obtain ⟨server', hmove, rfl⟩ := Option.map_eq_some_iff.mp h
  obtain ⟨hkin, hsource, hinputs, -⟩ := Server.moveSourceOutput_spec hmove
  refine ⟨?_, ?_, rfl, hkin⟩
  · have hsourceOf : server'.sourceOf = Function.update s.server.sourceOf i (some name) := by
      funext j
      rw [hsource, Function.update_apply]
    have hkey : s.watcher.outputKeyOf server' = s.watcher.outputKeyOf s.server := by
      funext j
      exact s.watcher.outputKeyOf_kin hkin j
    have halive : (fun j => (server'.sourceOutput j).isSome)
        = fun j => (s.server.sourceOutput j).isSome := by
      funext j
      simpa using congrArg Option.isSome (hkin.sourceOutput_ident j)
    simp [captureSide, CaptureSide.move, hsourceOf, hkey, halive, hkin.sources,
      Ledger.movedSourceOutput]
  · have hsink : server'.sinkOf = s.server.sinkOf := by
      funext j
      simp [Server.sinkOf, Server.sinkInput, hinputs, hkin.sinks]
    have hkey : s.watcher.keyOf server' = s.watcher.keyOf s.server := by
      funext j
      exact s.watcher.keyOf_kin hkin j
    simp [sinkSide, hsink, hkey, hkin.sinks, Ledger.movedSourceOutput]

end Scene

variable {host : Host} {s : Scene} {code : RoutingErrorCode}

/-! ### One effect -/

/-- The effect is never refused. -/
def Host.Grants (host : Host) (effect : Effect) : Prop :=
  ∀ n, host.answer n effect = .done ∨ host.answer n effect = .crash

theorem carryOut_of_tryOut {s s' : Scene} {effect : Effect} (h : s.tryOut effect = some s') :
    s.carryOut effect = some s' := by
  unfold Scene.tryOut at h
  split at h
  case isTrue => cases h
  case isFalse => exact h

/-- How an effect can end. -/
theorem perform_wp {effect : Effect} {post : Call.Post Scene RoutingError Unit}
    (hcrash : host.answer s.tick effect = .crash → post.crash s)
    (hrefused : (host.Grants effect → ¬ (s.carryOut effect).isSome) →
      post.err (RoutingError.new code) s.ticked)
    (hcut : ¬ host.Grants effect → host.answer s.tick effect = .unconfirmed →
      post.err (RoutingError.new code) (s.ticked.cutShort effect))
    (hdone : ∀ s', s.ticked.carryOut effect = some s' → post.ok () s') :
    (perform host effect code).wp post s := by
  have hsame : (s.carryOut effect).isSome = (s.ticked.carryOut effect).isSome := by
    cases effect <;> simp [Scene.carryOut, Scene.ticked]
  unfold Call.wp perform
  split
  case h_1 h => exact hcrash h
  case h_2 h => exact hrefused fun hgrants => by simpa [h] using hgrants s.tick
  case h_3 h => exact hcut (fun hgrants => by simpa [h] using hgrants s.tick) h
  case h_4 h =>
    split
    case h_1 s' hs' => exact hdone s' hs'
    case h_2 hs' => exact hrefused fun _ => by simp [hsame, hs']
  case h_5 h =>
    split
    case h_1 s' hs' => exact hdone s' (carryOut_of_tryOut hs')
    case h_2 => exact hrefused fun hgrants => by simpa [h] using hgrants s.tick

/-- An effect on neither side leaves both as they are. -/
theorem perform_keeps {β : Type} {view : Scene → β} {effect : Effect}
    (htick : ∀ s : Scene, view s.ticked = view s)
    (hcut : ∀ s : Scene, view (s.cutShort effect) = view s)
    (hdone : ∀ s s' : Scene, s.carryOut effect = some s' → view s' = view s) :
    Call.Keeps view (perform host effect code) := by
  intro s
  unfold perform
  split
  · rfl
  · exact htick s
  · exact (hcut _).trans (htick s)
  · split
    case h_1 s' hs' => exact (hdone _ s' hs').trans (htick s)
    case h_2 => exact htick s
  · split
    case h_1 s' hs' => exact (hdone _ s' (carryOut_of_tryOut hs')).trans (htick s)
    case h_2 => exact htick s

theorem list_keeps {β : Type} {view : Scene → β} (htick : ∀ s : Scene, view s.ticked = view s)
    (what : Listing) : Call.Keeps view (perform host (.list what) code) :=
  perform_keeps htick (fun _ => rfl) (fun _ _ h => by obtain rfl := Option.some.inj h; rfl)

theorem discover_keeps {β : Type} {view : Scene → β}
    (htick : ∀ s : Scene, view s.ticked = view s) : Call.Keeps view (discover host) := by
  unfold discover
  refine Call.keeps_bind (list_keeps htick _) fun _ => ?_
  refine Call.keeps_bind (list_keeps htick _) fun _ => ?_
  refine Call.keeps_bind (list_keeps htick _) fun _ => ?_
  refine Call.keeps_bind (list_keeps htick _) fun _ => ?_
  exact Call.keeps_bind Call.keeps_get fun _ => Call.keeps_pure _

theorem state_keeps {β : Type} {view : Scene → β} (snapshot : RoutingSnapshot)
    (resolution : RouteResolution) : Call.Keeps view (state snapshot resolution) :=
  Call.keeps_bind Call.keeps_get fun _ => Call.keeps_pure _

/-! ### What stays apart -/

/-- Everything of a scene except the count of effects. -/
def Scene.still (s : Scene) :
    PulseRoutingWatcher × Server × Option JournalFile × Ledger :=
  (s.watcher, s.server, s.journal, s.ledger)

theorem discover_still : Call.Keeps Scene.still (discover host) := discover_keeps fun _ => rfl

/-- No effect kills the process. -/
def Host.Spares (host : Host) : Prop := ∀ n effect, host.answer n effect ≠ .crash

/-- No listing is refused. -/
def Host.Reports (host : Host) : Prop := ∀ what, host.Grants (.list what)

/-- A snapshot is of the scene the call finds. -/
theorem discover_wp {post : Call.Post Scene RoutingError RoutingSnapshot}
    (hcrash : ∀ s', s'.still = s.still → ¬ host.Spares → post.crash s')
    (herr : ∀ s', s'.still = s.still → ¬ host.Reports →
      post.err (RoutingError.new .discoveryFailed) s')
    (hok : ∀ s', s'.still = s.still → post.ok (s.watcher.snapshot s.server) s') :
    (discover host).wp post s := by
  have hlist : ∀ {s₁ : Scene} (what : Listing) {next : Unit → Scene → Prop},
      s₁.still = s.still → (∀ s', s'.still = s.still → next () s') →
      (perform host (.list what) .discoveryFailed).wp ⟨next, post.err, post.crash⟩ s₁ := by
    intro s₁ what next hs₁ hnext
    refine perform_wp (fun hdies => hcrash s₁ hs₁ fun hspares => hspares _ _ hdies)
      (fun hnot => herr _ hs₁ fun hreports => ?_)
      (fun hnot _ => herr _ hs₁ fun hreports => hnot (hreports what)) (fun s' h => ?_)
    · exact hnot (hreports what) rfl
    · obtain rfl := Option.some.inj h
      exact hnext _ hs₁
  unfold discover
  simp only [Call.wp_bind]
  refine hlist _ rfl fun s₁ h₁ => ?_
  refine hlist _ h₁ fun s₂ h₂ => ?_
  refine hlist _ h₂ fun s₃ h₃ => ?_
  refine hlist _ h₃ fun s₄ h₄ => ?_
  have hw : s₄.watcher = s.watcher := congrArg Prod.fst h₄
  have hv : s₄.server = s.server := congrArg (fun x => x.2.1) h₄
  simp only [Call.wp_get, Call.wp_pure, hw, hv]
  exact hok s₄ h₄

theorem sinkSide_of_still {s s' : Scene} (h : s'.still = s.still) : s'.sinkSide = s.sinkSide := by
  obtain ⟨hw, hv, hj, hl⟩ : s'.watcher = s.watcher ∧ s'.server = s.server ∧ s'.journal = s.journal
      ∧ s'.ledger = s.ledger := by simpa [Scene.still] using h
  simp [Scene.sinkSide, hw, hv, hj, hl]

theorem captureSide_of_still {s s' : Scene} (h : s'.still = s.still) :
    s'.captureSide = s.captureSide := by
  obtain ⟨hw, hv, hj, hl⟩ : s'.watcher = s.watcher ∧ s'.server = s.server ∧ s'.journal = s.journal
      ∧ s'.ledger = s.ledger := by simpa [Scene.still] using h
  simp [Scene.captureSide, hw, hv, hl]

/-- A link is on neither side. -/
theorem link_keeps {β : Type} {view : Scene → β} (htick : ∀ s : Scene, view s.ticked = view s)
    (hlinks : ∀ (s : Scene) (links : List (String × String)),
      view { s with server := { s.server with links := links } } = view s)
    (output input : String) (unlink : Bool) :
    Call.Keeps view (perform host (if unlink then .unlink output input else .link output input)
      code) := by
  cases unlink
  · exact perform_keeps htick (fun _ => rfl)
      (fun s s' h => by obtain rfl := Option.some.inj h; exact hlinks s _)
  · exact perform_keeps htick (fun _ => rfl)
      (fun s s' h => by obtain rfl := Option.some.inj h; exact hlinks s _)

section Links

variable {β : Type} {view : Scene → β} (htick : ∀ s : Scene, view s.ticked = view s)
  (hlinks : ∀ (s : Scene) (links : List (String × String)),
    view { s with server := { s.server with links := links } } = view s)

include htick hlinks

theorem connect_keeps (output input : String) :
    Call.Keeps view (connectPipewireLink host output input code) :=
  link_keeps htick hlinks output input false

theorem disconnect_keeps (output input : String) :
    Call.Keeps view (disconnectPipewireLink host output input code) :=
  link_keeps htick hlinks output input true

theorem routeZoom_keeps (c : RouteCandidate) :
    Call.Keeps view (routeZoomWithPipewireLinks host c) := by
  have hconnect := fun {code} => @connect_keeps host code β view htick hlinks
  have hdisconnect := fun {code} => @disconnect_keeps host code β view htick hlinks
  unfold routeZoomWithPipewireLinks
  refine Call.keeps_ite (Call.keeps_fail _) ?_
  split
  case h_2 => exact Call.keeps_fail _
  case h_1 =>
    refine Call.keeps_bind (hconnect _ _) fun _ => ?_
    refine Call.keeps_bind (Call.keeps_attempt (hconnect _ _)) fun r => ?_
    rcases r with e | ⟨⟩
    · exact Call.keeps_bind (Call.keeps_attempt (hdisconnect _ _)) fun _ => Call.keeps_fail _
    refine Call.keeps_bind (Call.keeps_attempt (hdisconnect _ _)) fun r => ?_
    rcases r with e | ⟨⟩
    · refine Call.keeps_bind (Call.keeps_attempt (hdisconnect _ _)) fun _ => ?_
      exact Call.keeps_bind (Call.keeps_attempt (hdisconnect _ _)) fun _ => Call.keeps_fail _
    refine Call.keeps_bind (Call.keeps_attempt (hdisconnect _ _)) fun r => ?_
    rcases r with e | ⟨⟩
    · refine Call.keeps_bind (Call.keeps_attempt (hconnect _ _)) fun _ => ?_
      refine Call.keeps_bind (Call.keeps_attempt (hdisconnect _ _)) fun _ => ?_
      exact Call.keeps_bind (Call.keeps_attempt (hdisconnect _ _)) fun _ => Call.keeps_fail _
    · exact Call.keeps_pure _

theorem restoreZoom_keeps (r : IncomingRoute) :
    Call.Keeps view (restoreZoomPipewireLinks host r) := by
  have hconnect := fun {code} => @connect_keeps host code β view htick hlinks
  have hdisconnect := fun {code} => @disconnect_keeps host code β view htick hlinks
  unfold restoreZoomPipewireLinks
  refine Call.keeps_ite (Call.keeps_fail _) ?_
  split
  case h_2 => exact Call.keeps_fail _
  case h_1 =>
    refine Call.keeps_bind (hconnect _ _) fun _ => ?_
    refine Call.keeps_bind (Call.keeps_attempt (hconnect _ _)) fun r => ?_
    rcases r with e | ⟨⟩
    · exact Call.keeps_bind (Call.keeps_attempt (hdisconnect _ _)) fun _ => Call.keeps_fail _
    · exact Call.keeps_bind (hdisconnect _ _) fun _ => hdisconnect _ _

end Links

/-! ### The sink side of each step -/

theorem moveSourceOutput_keeps_sinkSide (i : Nat) (source : String) :
    Call.Keeps Scene.sinkSide (moveSourceOutput host i source code) :=
  perform_keeps (fun _ => rfl) (fun _ => rfl) (fun _ _ h => (Scene.carryOut_captureMove h).2.1)

theorem takeBackOutputs_keeps_sinkSide : ∀ moved : List (Nat × String),
    Call.Keeps Scene.sinkSide (takeBackOutputs host moved)
  | [] => Call.keeps_pure _
  | (_, _) :: rest => Call.keeps_bind
      (Call.keeps_attempt (moveSourceOutput_keeps_sinkSide _ _))
      fun _ => takeBackOutputs_keeps_sinkSide rest

theorem routeOutputs_keeps_sinkSide : ∀ (moved : List (Nat × String))
    (outputs : List SourceOutputRouteCandidate),
    Call.Keeps Scene.sinkSide (routeOutputs host moved outputs)
  | _, [] => Call.keeps_pure _
  | moved, output :: rest => by
    refine Call.keeps_bind (Call.keeps_attempt (moveSourceOutput_keeps_sinkSide _ _)) fun r => ?_
    rcases r with e | ⟨⟩
    · exact Call.keeps_bind (takeBackOutputs_keeps_sinkSide _) fun _ => Call.keeps_fail _
    · exact routeOutputs_keeps_sinkSide _ rest

theorem routeMatching_keeps_sinkSide (r : IncomingRoute)
    (outputs : List SourceOutputRouteCandidate) :
    Call.Keeps Scene.sinkSide (routeMatchingSourceOutputs host r outputs) :=
  routeOutputs_keeps_sinkSide _ _

theorem restoreOutputs_keeps_sinkSide (source : String) :
    ∀ outputs : List SourceOutputRouteCandidate,
    Call.Keeps Scene.sinkSide (restoreOutputs host source outputs)
  | [] => Call.keeps_pure _
  | _ :: rest => Call.keeps_bind (moveSourceOutput_keeps_sinkSide _ _)
      fun _ => restoreOutputs_keeps_sinkSide source rest

theorem restoreMatching_keeps_sinkSide (r : IncomingRoute)
    (outputs : List SourceOutputRouteCandidate) (fallback : Option String) :
    Call.Keeps Scene.sinkSide (restoreMatchingSourceOutputs host r outputs fallback) := by
  unfold restoreMatchingSourceOutputs
  refine Call.keeps_ite (Call.keeps_pure _) ?_
  cases fallback with
  | none => exact Call.keeps_fail _
  | some name => exact restoreOutputs_keeps_sinkSide name _

section SinkSteps

variable {post : Call.Post Scene RoutingError Unit}

/-- A move of a sink-input that is never refused. -/
def Host.Moves (host : Host) (i : Nat) (sink : String) : Prop :=
  host.Grants (.moveSinkInput i sink)

theorem moveStream_sink {i : Nat} {sink : String}
    (hok : ∀ s', s'.sinkSide = s.sinkSide.move i sink → post.ok () s')
    (herr : ∀ e s', s'.sinkSide = s.sinkSide →
      ¬ (host.Moves i sink ∧ (s.sinkSide.sinkOf i).isSome ∧ s.sinkSide.hasSink sink) →
      post.err e s')
    (hcrash : ∀ s', s'.sinkSide = s.sinkSide → post.crash s') :
    (moveStream host i sink code).wp post s := by
  refine perform_wp (fun _ => hcrash s rfl) (fun hnot => herr _ _ rfl ?_)
    (fun hnot _ => herr _ _ rfl fun h => hnot h.1)
    (fun s' hs' => hok s' (Scene.carryOut_sinkMove hs').1)
  rintro ⟨hmoves, hon, hsink⟩
  obtain ⟨name, hname⟩ := Option.isSome_iff_exists.mp hon
  refine hnot hmoves ?_
  simpa [Scene.carryOut] using
    Server.moveSinkInput_isSome (Server.sinkInput_isSome_of_sinkOf hname) hsink

/-- No journal write fails after the file is replaced. -/
def Host.Confirms (host : Host) : Prop :=
  ∀ n bytes, host.answer n (.saveJournal bytes) ≠ .unconfirmed

/-- No removal of the journal is refused. -/
def Host.Clears (host : Host) : Prop := host.Grants .removeJournal

/-- The file of a route. -/
def savedRoute (codec : JournalCodec) (r : IncomingRoute) : Option JournalFile :=
  some (.saved (codec.toVec ⟨routeJournalSchemaVersion, r⟩))

/-- A route that may be written down is read back as it is. -/
theorem loadActiveRoute_saved {codec : JournalCodec} {r : IncomingRoute}
    (h : validRoute r = true) : loadActiveRoute codec (savedRoute codec r) = some r := by
  simp [loadActiveRoute, savedRoute, JournalFile.saved, codec.fromSlice_toVec, validRouteJournal, h]

theorem loadActiveRoute_valid {codec : JournalCodec} {file : Option JournalFile}
    {r : IncomingRoute} (h : loadActiveRoute codec file = some r) : validRoute r = true := by
  unfold loadActiveRoute at h
  obtain ⟨file, -, h⟩ := Option.bind_eq_some_iff.mp h
  split at h
  case isTrue => simp at h
  case isFalse =>
    obtain ⟨journal, -, h⟩ := Option.bind_eq_some_iff.mp h
    split at h
    case isTrue hvalid =>
      obtain rfl := Option.some.inj h
      exact (Bool.and_eq_true .. ▸ hvalid).2
    case isFalse => simp at h

theorem persist_sink {r : IncomingRoute}
    (hok : ∀ s', s'.sinkSide = s.sinkSide.write (savedRoute host.codec r) →
      (s.sinkSide.hasJournal = true → validRoute r = true) → post.ok () s')
    (herr : ∀ e s', s'.sinkSide = s.sinkSide → post.err e s')
    (hcut : ∀ e s', s'.sinkSide = s.sinkSide.write (savedRoute host.codec r) →
      ¬ host.Confirms → validRoute r = true → post.err e s')
    (hcrash : ∀ s', s'.sinkSide = s.sinkSide → post.crash s') :
    (persistActiveRoute host r code).wp post s := by
  unfold persistActiveRoute
  simp only [Call.wp_bind, Call.wp_get]
  by_cases hj : s.watcher.hasRouteJournal = true
  · have hwrite : s.sinkSide.write (savedRoute host.codec r)
        = { s.sinkSide with journal := savedRoute host.codec r } := by
      simp [SinkSide.write, Scene.sinkSide, hj]
    rw [hwrite] at hok hcut
    rw [if_pos hj, Call.wp_mapErr]
    unfold saveActiveRoute
    by_cases hvalid : validRoute r = true
    · have hjournal : validRouteJournal ⟨routeJournalSchemaVersion, r⟩ = true := by
        simp [validRouteJournal, hvalid]
      simp only [hjournal, Bool.not_true, Bool.false_eq_true, if_false]
      refine perform_wp (fun _ => hcrash s rfl) (fun _ => herr _ _ rfl) (fun _ h => ?_)
        (fun s' hs' => ?_)
      · exact hcut _ _ rfl (fun hconfirms => hconfirms _ _ h) hvalid
      · obtain rfl := Option.some.inj hs'
        exact hok _ rfl fun _ => hvalid
    · have hjournal : validRouteJournal ⟨routeJournalSchemaVersion, r⟩ = false := by
        simp [validRouteJournal, hvalid]
      simp only [hjournal, Bool.not_false, if_true, Call.wp_fail]
      exact herr _ s rfl
  · have hwrite : s.sinkSide.write (savedRoute host.codec r) = s.sinkSide := by
      simp [SinkSide.write, Scene.sinkSide, hj]
    rw [if_neg hj]
    exact hok s hwrite.symm fun h => absurd h hj

theorem clear_sink (hok : ∀ s', s'.sinkSide = s.sinkSide.write none → post.ok () s')
    (herr : ∀ e s', s'.sinkSide = s.sinkSide → ¬ host.Clears → post.err e s')
    (hcrash : ∀ s', s'.sinkSide = s.sinkSide → post.crash s') :
    (clearRouteJournal host code).wp post s := by
  unfold clearRouteJournal
  simp only [Call.wp_bind, Call.wp_get]
  by_cases hj : s.watcher.hasRouteJournal = true
  · have hwrite : s.sinkSide.write none = { s.sinkSide with journal := none } := by
      simp [SinkSide.write, Scene.sinkSide, hj]
    rw [hwrite] at hok
    rw [if_pos hj]
    refine perform_wp (fun _ => hcrash s rfl) (fun h => herr _ _ rfl fun hclears => ?_)
      (fun h _ => herr _ _ rfl h) (fun s' hs' => ?_)
    · exact h hclears rfl
    · obtain rfl := Option.some.inj hs'
      exact hok _ rfl
  · have hwrite : s.sinkSide.write none = s.sinkSide := by
      simp [SinkSide.write, Scene.sinkSide, hj]
    rw [if_neg hj]
    exact hok s hwrite.symm

/-- Undoing a route moves its stream back, or changes links only. -/
theorem restoreRoute_sink {r : IncomingRoute}
    (hmove : ∀ s', r.routeMethod = .pulseMove →
      s'.sinkSide = s.sinkSide.move r.streamId r.originalSinkName → post.ok () s')
    (hlinks : ∀ s', r.routeMethod = .pipeWireLinks → s'.sinkSide = s.sinkSide → post.ok () s')
    (herr : ∀ e s', s'.sinkSide = s.sinkSide →
      ¬ (r.routeMethod = .pulseMove ∧ host.Moves r.streamId r.originalSinkName
        ∧ (s.sinkSide.sinkOf r.streamId).isSome ∧ s.sinkSide.hasSink r.originalSinkName) →
      post.err e s')
    (hcrash : ∀ s', s'.sinkSide = s.sinkSide → post.crash s') :
    (restoreRoute host r).wp post s := by
  unfold restoreRoute
  cases hm : r.routeMethod with
  | pulseMove =>
    refine moveStream_sink (fun s' => hmove s' hm) (fun e s' hs' hnot => herr e s' hs' ?_) hcrash
    rintro ⟨-, h⟩
    exact hnot h
  | pipeWireLinks =>
    refine Call.wp_of_keeps (restoreZoom_keeps (fun _ => rfl) (fun _ _ => rfl) r)
      (fun _ s' => hlinks s' hm) (fun e s' hs' => herr e s' hs' ?_) hcrash
    rintro ⟨h, -⟩
    rw [hm] at h
    cases h

end SinkSteps

end Translator.Routing
