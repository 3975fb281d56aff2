import Translator.Routing.Runs
import Translator.Schemes.Coding

/-! The journal against the watcher's memory. After every call of a run whose calls all remove the
    journal when they are to, and can give back the captures of a route they forget, a watcher started
    from the journal would have the route of the one that is running. -/

namespace Translator.Routing

open Schemes

variable {codec : JournalCodec} {s : Scene}

/-- The journal is on the way of the calls alone. -/
def journalTerms : Terms := ⟨False, False, True, True, nofun⟩

/-- What keeps the journal with the memory: no removal of it is refused, no save fails after the new
    file is in place, and where the route of a stream that is gone is forgotten, its captures can go
    back. -/
def Operation.Follows (codec : JournalCodec) (s : Scene) : Operation → Prop
  | .change _ _ _ => True
  | .call request answers => Host.Clears ⟨codec, answers⟩ ∧ Host.Confirms ⟨codec, answers⟩
    ∧ (request = .reconcile none → Host.GivesUp ⟨codec, answers⟩ s)

theorem Operation.Follows.meets {op : Operation} (h : op.Follows codec s) :
    op.Meets codec journalTerms s := by
  cases op with
  | change server fresh freshOutputs => exact ⟨nofun, nofun⟩
  | call request answers =>
    obtain ⟨hclears, hconfirms, hforget⟩ := h
    cases request with
    | reconcile manualStreamId =>
      refine ⟨nofun, fun _ => ⟨hconfirms, hclears, fun hmanual => hforget ?_⟩⟩
      rw [hmanual]
    | restoreActive => exact fun _ => hclears
    | routeVirtualPeer capability => exact ⟨nofun, nofun, fun _ => ⟨hconfirms, hclears⟩⟩
    | restoreVirtualPeer => exact ⟨nofun, fun _ => hclears⟩

/-- A book that is kept with a journal has the journal mirror the memory. -/
theorem Accounted.mirrors {d : SinkSide} {t : Terms} (h : Accounted codec t d) (hmir : t.mirrored)
    (hj : t.journaled) : loadActiveRoute codec d.journal = d.active := by
  have hjournal := h.journaled hj
  cases hr : d.active with
  | none => exact h.blank hmir hjournal hr
  | some r => exact h.recorded hjournal r hr

/-- What `save_active_route` accepts is read back as it was. -/
theorem load_of_saved {answers : Answers} {r : IncomingRoute} {s' : Scene}
    (h : saveActiveRoute ⟨codec, answers⟩ r s = (.ok (), s')) :
    loadActiveRoute codec s'.journal = some r := by
  unfold saveActiveRoute at h
  cases hvalid : validRouteJournal ⟨routeJournalSchemaVersion, r⟩ with
  | false =>
    simp only [hvalid, Bool.not_false, if_true, Call.fail, Prod.mk.injEq] at h
    cases h.1
  | true =>
    simp only [hvalid, Bool.not_true, Bool.false_eq_true, if_false] at h
    unfold perform at h
    split at h
    case h_1 => cases h
    case h_2 => cases h
    case h_3 => cases h
    case h_4 =>
      obtain rfl : _ = s' := congrArg Prod.snd h
      exact loadActiveRoute_saved (by simpa [validRouteJournal] using hvalid)
    case h_5 =>
      obtain rfl : _ = s' := congrArg Prod.snd h
      exact loadActiveRoute_saved (by simpa [validRouteJournal] using hvalid)

/-- In every run whose calls keep the journal with the memory, it mirrors the memory after each of
    them, and every route that is saved is read back. -/
theorem journal_mirrors (hstart : s.Starts codec) (hjournal : s.watcher.hasRouteJournal = true)
    (ops : List Operation)
    (hadm : Adm (Scene.step codec) (fun s op => op.Follows codec s ∧ op.Lives codec s) s ops) :
    loadActiveRoute codec (exec (Scene.step codec) s ops).2.journal
        = (exec (Scene.step codec) s ops).2.watcher.activeRoute
      ∧ ∀ (answers : Answers) (r : IncomingRoute) (s₁ s₂ : Scene),
        saveActiveRoute ⟨codec, answers⟩ r s₁ = (.ok (), s₂) →
        loadActiveRoute codec s₂.journal = some r := by
  have h₀ : Accounted codec journalTerms s.sinkSide :=
    hstart.accounted ⟨nofun, nofun, fun _ => hjournal, nofun, nofun⟩
  have hacc := run_accounted h₀ ops fun pre op hp => ⟨(hadm pre op hp).1.meets, (hadm pre op hp).2⟩
  exact ⟨hacc.mirrors trivial trivial, fun _ _ _ _ hsaved => load_of_saved hsaved⟩

/-! ### A route that is forgotten in memory alone -/

deriving instance Encodable for AllowedApplication, RouteMethod, IncomingRoute, RouteJournal

/-- A codec that writes one journal as these bytes, and every other as a longer file. -/
def JournalCodec.writing (journal : RouteJournal) (bytes : List UInt8) : JournalCodec where
  toVec other := if other = journal then bytes
    else List.replicate (bytes.length + 1 + Encodable.encode other) 0
  fromSlice file := if file = bytes then some journal
    else Encodable.decode (file.length - (bytes.length + 1))
  fromSlice_toVec other := by
    by_cases hother : other = journal
    · simp [hother]
    · have hne : List.replicate (bytes.length + 1 + Encodable.encode other) (0 : UInt8) ≠ bytes := by
        intro h
        have hlength := congrArg List.length h
        rw [List.length_replicate] at hlength
        omega
      simp [hother, hne]

/-- A call in a browser. -/
def browserProperties : Properties :=
  [("application.name", "Firefox"), ("application.process.binary", "firefox"),
    ("media.role", "phone")]

/-- A desktop with two outputs and two microphones, where a browser has these playing and recording streams. -/
def desktop (sinkInputs : List RawSinkInput) (sourceOutputs : List RawSourceOutput)
    (hinputs : (sinkInputs.map RawSinkInput.index).Nodup)
    (houtputs : (sourceOutputs.map RawSourceOutput.index).Nodup) : Server where
  sinkInputs := sinkInputs
  sourceOutputs := sourceOutputs
  sources := [⟨3, "alsa_input.desk", none⟩, ⟨4, "alsa_input.headset", none⟩,
    ⟨5, virtualMicSource, none⟩]
  sinks := [⟨1, "alsa_output.speakers", none⟩, ⟨2, remoteInSink, none⟩,
    ⟨6, "alsa_output.headphones", none⟩]
  links := []
  processes := []
  sinkInputs_nodup := hinputs
  sourceOutputs_nodup := houtputs
  sources_nodup := by decide
  sinks_nodup := by decide
  sinks_trimmed := by decide +kernel

theorem playing_nodup : ([⟨7, 1, browserProperties⟩].map RawSinkInput.index).Nodup := by decide

theorem notPlaying_nodup : ([].map RawSinkInput.index).Nodup := by decide

theorem captured_nodup : ([⟨9, 5, browserProperties⟩].map RawSourceOutput.index).Nodup := by decide

theorem notCaptured_nodup : ([].map RawSourceOutput.index).Nodup := by decide

def desktopRoute : IncomingRoute where
  streamId := 7
  application := .firefox
  stableAppKey := "Firefox:firefox"
  originalSinkId := 1
  originalSinkName := "alsa_output.speakers"
  targetSinkName := remoteInSink
  routeMethod := .pulseMove
  pipewireNodeName := none

/-- The codec, as it writes the route above. -/
def desktopCodec : JournalCodec := .writing ⟨routeJournalSchemaVersion, desktopRoute⟩
  (("\x7b\"schema_version\":1,\"active_route\":\x7b\"stream_id\":7,\"application\":\"firefox\",".toList
    ++ "\"stable_app_key\":\"Firefox:firefox\",\"original_sink_id\":1,".toList
    ++ "\"original_sink_name\":\"alsa_output.speakers\",".toList
    ++ "\"target_sink_name\":\"translator_remote_in\",\"route_method\":\"pulse_move\",".toList
    ++ "\"pipewire_node_name\":null\x7d\x7d".toList).map (fun c => c.toNat.toUInt8))

/-- A watcher with an empty journal, and a call about to begin. -/
def desktopScene : Scene where
  watcher := .newWithRouteJournal desktopCodec .production none
  server := desktop [⟨7, 1, browserProperties⟩] [⟨9, 3, browserProperties⟩] playing_nodup (by decide)
  journal := none
  ledger := .empty
  tick := 0

/-- What a call reports, where it returns. -/
def reported : Outcome RoutingError RoutingState → Option RouteResolution
  | .ok state => some state.resolution
  | _ => none

theorem exists_of_reported {o : Outcome RoutingError RoutingState} {resolution : RouteResolution}
    (h : reported o = some resolution) : ∃ state, o = .ok state ∧ state.resolution = resolution := by
  cases o with
  | ok state => exact ⟨state, rfl, Option.some.inj h⟩
  | err e => cases h
  | panic => cases h

theorem allDone_grants (codec : JournalCodec) (effect : Effect) :
    Host.Grants ⟨codec, allDone⟩ effect := fun _ => .inl rfl

/-- A call is routed and given back, with nothing refused. -/
def thereAndBack : List Operation :=
  [.call (.reconcile none) allDone, .call .restoreActive allDone]

theorem thereAndBack_follows : Adm (Scene.step desktopCodec)
    (fun s op => op.Follows desktopCodec s ∧ op.Lives desktopCodec s) desktopScene thereAndBack := by
  refine adm_cons ⟨⟨allDone_grants _ _, nofun, fun _ r hr => by cases hr⟩, ?_⟩
    (adm_cons ⟨⟨allDone_grants _ _, nofun, nofun⟩, ?_⟩ (adm_nil _ _ _))
  · unfold Operation.Lives
    decide +kernel
  · unfold Operation.Lives
    decide +kernel

theorem thereAndBack_mirrors :
    loadActiveRoute desktopCodec
        (exec (Scene.step desktopCodec) desktopScene thereAndBack).2.journal
      = (exec (Scene.step desktopCodec) desktopScene thereAndBack).2.watcher.activeRoute :=
  (journal_mirrors ⟨.inr rfl, rfl⟩ rfl thereAndBack thereAndBack_follows).1

/-- The call is routed, its playing stream ends, and the watcher looks twice. -/
def hangUp : List Operation :=
  [.call (.reconcile none) allDone,
    .change (desktop [] [⟨9, 5, browserProperties⟩] notPlaying_nodup captured_nodup) [] [],
    .call (.reconcile none) allDone, .call (.reconcile none) allDone]

/-- Nothing is refused in the run. The first look after the end forgets the route and then cannot
    choose a microphone for the capture, so the journal stays, and the second look returns. -/
theorem hangUp_unmirrored : desktopScene.Starts desktopCodec
    ∧ desktopScene.watcher.hasRouteJournal = true
    ∧ (exec (Scene.step desktopCodec) desktopScene hangUp).1.getLast?.map (fun entry =>
        entry.2.bind reported) = some (some .routeRemoved)
    ∧ (exec (Scene.step desktopCodec) desktopScene hangUp).2.watcher.activeRoute = none
    ∧ loadActiveRoute desktopCodec (exec (Scene.step desktopCodec) desktopScene hangUp).2.journal
      = some desktopRoute :=
  ⟨⟨.inr rfl, rfl⟩, rfl, by decide +kernel, by decide +kernel, by decide +kernel⟩

end Translator.Routing
