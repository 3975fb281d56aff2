import Translator.Routing.Permits
import Translator.Routing.Mirror

/-! What may be heard. In every run of the watcher, over its restarts and whatever the host answers, a
    stream that is brought to the translator's sink was a candidate of that very call: nobody else's, of
    a known application, with nothing foreign on the sink, and for a reason. -/

namespace Translator.Routing

open Schemes

/-! ### Runs over restarts -/

/-- An operation of the watcher, or a process starting, with or without the journal. -/
inductive Life where
  | does (op : Operation)
  | starts (profile : RoutingProfile) (journaled : Bool)

/-- A watcher is built. -/
def Scene.started (codec : JournalCodec) (s : Scene) (profile : RoutingProfile) (journaled : Bool) :
    Scene :=
  { s with
    watcher := if journaled then .newWithRouteJournal codec profile s.journal else .new profile }

def Scene.live (codec : JournalCodec) (s : Scene) :
    Life → Option (Outcome RoutingError RoutingState) × Scene
  | .does op => s.step codec op
  | .starts profile journaled => (none, s.started codec profile journaled)

/-! ### The commands of a call -/

/-- The host, but for the process dying at this effect if it is the one at this tick. -/
def Host.dyingAt (host : Host) (tick : Nat) (effect : Effect) : Host where
  codec := host.codec
  answer n e := if n = tick then (if e = effect then .crash else .refused) else host.answer n e

/-- The call comes to the effect: up to there the host answers as it does, and were the process to die
    at the effect, that is where the call would end. -/
def WatcherCall.Issues (request : WatcherCall) (host : Host) (s : Scene) (effect : Effect) : Prop :=
  ∃ tick s', request.run (host.dyingAt tick effect) { s with tick := 0 } = (.panic, s') ∧ s'.tick = tick

/-- The watcher at the discovery of the call: the peer it is to route is authorized first. -/
def WatcherCall.discovers : WatcherCall → PulseRoutingWatcher → PulseRoutingWatcher
  | .routeVirtualPeer capability, w => { w with virtualPeerCapability := some capability }
  | _, w => w

/-- `manual_stream_id`, as the call hands it on. -/
def WatcherCall.manualStreamId : WatcherCall → Option Nat
  | .reconcile manualStreamId => manualStreamId
  | .routeVirtualPeer capability => some capability.streamId
  | _ => none

variable {codec : JournalCodec} {host : Host} {s : Scene}

/-- All that a call does is permitted by its discovery. -/
theorem call_permitted (request : WatcherCall) (hs : s.Sound host.codec) :
    (request.run host).wp (carefulPost host
      (Permitted (request.discovers s.watcher) s.server request.manualStreamId)) s := by
  cases request with
  | reconcile manualStreamId => exact reconcile_permitted manualStreamId hs
  | restoreActive => exact careful_restoreActive (permitted_free _ _ _) s hs
  | routeVirtualPeer capability =>
    show (routeVirtualPeer host capability).wp _ s
    unfold routeVirtualPeer
    rw [Call.wp_bind, wp_remember, Call.wp_bind, Call.wp_attempt]
    have hsound : (s.remember ({ · with virtualPeerCapability := some capability })).Sound host.codec :=
      sound_of_same hs rfl rfl
    refine Call.wp_mono (tryVirtualPeer_permitted capability hsound) (fun _ s' hs' => hs')
      (fun error s' hs' => ?_) (fun _ h => h)
    exact sound_of_same hs' rfl rfl
  | restoreVirtualPeer =>
    refine Call.maintains_bind (careful_restoreActive (permitted_free _ _ _)) (fun _ => ?_) s hs
    exact Call.maintains_bind (careful_keep fun _ => rfl) fun _ => Call.maintains_pure _

/-- What a call issues is permitted by its discovery. -/
theorem issues_permitted {request : WatcherCall} {effect : Effect} (hs : s.Sound host.codec)
    (hissues : request.Issues host s effect) :
    Permitted (request.discovers s.watcher) s.server request.manualStreamId effect := by
  obtain ⟨tick, s', hrun, htick⟩ := hissues
  have hstart : Scene.Sound host.codec { s with tick := 0 } := sound_of_same hs rfl rfl
  have h := @call_permitted (host.dyingAt tick effect) _ request hstart
  unfold Call.wp at h
  rw [hrun] at h
  obtain ⟨-, effect', hpermitted, hdies⟩ := h
  simp only [Host.dyingAt, htick, if_true] at hdies
  split at hdies
  case isTrue heq => exact heq ▸ hpermitted
  case isFalse => cases hdies

/-! ### What a stream has to be -/

/-- The stream is brought to the sink for a reason: it was a candidate at the discovery, it is not the
    translator's own unless it is the peer that is authorized, and else of an application the profile
    knows, every stream that was on the sink was there as the active route, and it was chosen. -/
structure Audible (w : PulseRoutingWatcher) (server : Server) (manualStreamId : Option Nat)
    (c : RouteCandidate) : Prop where
  candidate : c ∈ (w.snapshot server).candidates
  known : ∃ stream ∈ server.sinkInputs, stream.index = c.streamId
    ∧ (w.isAuthorizedVirtualPeer server stream = true
      ∨ isTranslatorOwned stream.properties w.profile = false
        ∧ classifyApplication ((property stream.properties "application.name").getD "")
          ((property stream.properties "application.process.binary").getD "") w.profile
          = some c.application)
  alone : ∀ stream ∈ server.sinkInputs, nodeName server.sinks stream.sink = some remoteInSink →
    ∃ r c', w.activeRoute = some r ∧ w.routeCandidate server stream = some c'
      ∧ sameRouteIdentity r c' = true
  chosen : Chosen w (w.snapshot server) manualStreamId c

theorem candidate_known {w : PulseRoutingWatcher} {server : Server} {stream : RawSinkInput}
    {c : RouteCandidate} (h : w.routeCandidate server stream = some c) :
    w.isAuthorizedVirtualPeer server stream = true
      ∨ isTranslatorOwned stream.properties w.profile = false
        ∧ classifyApplication ((property stream.properties "application.name").getD "")
          ((property stream.properties "application.process.binary").getD "") w.profile
          = some c.application := by
  unfold PulseRoutingWatcher.routeCandidate at h
  simp only at h
  split at h
  case isTrue => cases h
  case isFalse howned =>
    obtain ⟨application, happ, h⟩ := Option.bind_eq_some_iff.mp h
    obtain ⟨sinkName, -, h⟩ := Option.bind_eq_some_iff.mp h
    obtain rfl := Option.some.inj h
    by_cases hpeer : w.isAuthorizedVirtualPeer server stream = true
    · exact .inl hpeer
    · rw [if_neg hpeer] at happ
      exact .inr ⟨by simpa [hpeer] using howned, happ⟩

/-- Without a conflict, what is on the sink is there as the active route. -/
theorem alone_of_no_conflict {w : PulseRoutingWatcher} {server : Server}
    (h : (w.snapshot server).conflictingStreamIds = []) {stream : RawSinkInput}
    (hmem : stream ∈ server.sinkInputs) (hsink : nodeName server.sinks stream.sink = some remoteInSink) :
    ∃ r c', w.activeRoute = some r ∧ w.routeCandidate server stream = some c'
      ∧ sameRouteIdentity r c' = true := by
  have hnot : w.conflicts server stream = false := by
    unfold PulseRoutingWatcher.snapshot at h
    simp only [List.map_eq_nil_iff, List.filter_eq_nil_iff] at h
    simpa using h stream hmem
  simp only [PulseRoutingWatcher.conflicts, hsink, decide_true, Bool.true_and, Bool.not_eq_false',
    Option.any_eq_true, PulseRoutingWatcher.routes] at hnot
  obtain ⟨c', hc', r, hr, hsame⟩ := hnot
  exact ⟨r, c', hr, hc', hsame⟩

theorem audible_of_permitted {w : PulseRoutingWatcher} {server : Server}
    {manualStreamId : Option Nat} {effect : Effect} (h : Permitted w server manualStreamId effect)
    (htowards : effect.TowardsRemote) :
    ∃ c, effect.Takes c ∧ Audible w server manualStreamId c := by
  obtain ⟨c, hc, htakes, hclean, hchosen⟩ := h htowards
  obtain ⟨stream, hs, hcandidate⟩ :=
    Option.bind_eq_some_iff.mp (PulseRoutingWatcher.mem_candidates.mp hc).1
  refine ⟨c, htakes, hc, ⟨stream, List.mem_of_find?_eq_some hs, ?_, candidate_known hcandidate⟩,
    fun _ => alone_of_no_conflict hclean, hchosen⟩
  exact (PulseRoutingWatcher.routeCandidate_spec hcandidate).1.symm

/-! ### Whole runs -/

theorem live_sound (hs : s.Sound codec) (life : Life) : (s.live codec life).2.Sound codec := by
  cases life with
  | starts profile journaled =>
    refine ⟨fun r hr => ?_, hs.journal⟩
    cases journaled with
    | false => cases hr
    | true => exact hs.journal r hr
  | does op =>
    cases op with
    | change server fresh freshOutputs => exact sound_of_same hs rfl rfl
    | call request answers =>
      have hstart : Scene.Sound codec { s with tick := 0 } := sound_of_same hs rfl rfl
      have h := @call_permitted ⟨codec, answers⟩ _ request hstart
      unfold Call.wp at h
      show (request.run ⟨codec, answers⟩ { s with tick := 0 }).2.Sound codec
      revert h
      rcases request.run ⟨codec, answers⟩ { s with tick := 0 } with ⟨state | error | _, s'⟩
      · exact id
      · exact id
      · exact And.left

/-- Before the first watcher there is no route to give back. -/
theorem sound_of_blank (hw : s.watcher = .new s.watcher.profile)
    (hjournal : loadActiveRoute codec s.journal = none) : s.Sound codec := by
  refine ⟨fun r hr => ?_, fun r hr => ?_⟩
  · rw [hw] at hr
    cases hr
  · rw [hjournal] at hr
    cases hr

/-- In every run over every list of streams, through restarts and whatever fails, each command that
    brings sound to the translator's sink is for one candidate of its call that may be heard there. -/
theorem run_audible (hw : s.watcher = .new s.watcher.profile)
    (hjournal : loadActiveRoute codec s.journal = none) (lives : List Life) (request : WatcherCall)
    (answers : Answers) (effect : Effect)
    (hissues : request.Issues ⟨codec, answers⟩ (exec (Scene.live codec) s lives).2 effect)
    (htowards : effect.TowardsRemote) :
    ∃ c, effect.Takes c
      ∧ Audible (request.discovers (exec (Scene.live codec) s lives).2.watcher)
        (exec (Scene.live codec) s lives).2.server request.manualStreamId c := by
  have hsound : (exec (Scene.live codec) s lives).2.Sound codec :=
    exec_state_invariant (sound_of_blank hw hjournal) (fun s life hs => live_sound hs life) lives
  exact audible_of_permitted (issues_permitted hsound hissues) htowards

/-! ### A call before other browsers, and a peer of no application -/

theorem issues_of {request : WatcherCall} {effect : Effect} (tick : Nat)
    (hdies : (request.run (host.dyingAt tick effect) { s with tick := 0 }).1 = .panic)
    (htick : (request.run (host.dyingAt tick effect) { s with tick := 0 }).2.tick = tick) :
    request.Issues host s effect :=
  ⟨tick, _, Prod.ext hdies rfl, htick⟩

/-- A second browser that plays and records, but not in a call. -/
def chromeProperties : Properties :=
  [("application.name", "Google Chrome"), ("application.process.binary", "chrome")]

/-- Two browsers, one of them in a call. -/
def twoBrowsers : Scene where
  watcher := .new .production
  server := desktop [⟨7, 1, browserProperties⟩, ⟨8, 1, chromeProperties⟩]
    [⟨9, 3, browserProperties⟩, ⟨10, 3, chromeProperties⟩] (by decide) (by decide)
  journal := none
  ledger := .empty
  tick := 0

/-- The call is moved. -/
theorem twoBrowsers_audible :
    ∃ c, (Effect.moveSinkInput 7 remoteInSink).Takes c
      ∧ Audible twoBrowsers.watcher twoBrowsers.server none c :=
  @run_audible desktopCodec twoBrowsers rfl rfl [] (.reconcile none) allDone _
    (issues_of 4 (by decide +kernel) (by decide +kernel)) rfl

/-- The process of the peer. -/
def peerProcess : ProcessIdentity := ⟨4242, 1000, 1, 77⟩

def peerCapability : VirtualPeerCapability := ⟨0, 41, 7001, peerProcess, "pacat"⟩

def peerProperties : Properties :=
  [("application.name", "translator-virtual-peer"), ("application.process.binary", "pacat"),
    ("application.process.id", "4242"), ("object.serial", "7001"), ("media.role", "communication"),
    ("media.name", "translator-virtual-peer"), ("translator.owner", "true"),
    ("translator.test_profile", "human_round_trip"),
    ("translator.self_test_session", "00000000-0000-0000-0000-000000000000")]

/-- The peer plays to the speakers. -/
def peerScene : Scene where
  watcher := .new .production
  server := { desktop [⟨41, 1, peerProperties⟩] [] (by decide) notCaptured_nodup with
    processes := [peerProcess] }
  journal := none
  ledger := .empty
  tick := 0

/-- With nothing asked for, the browser in a call is moved although it is not the only candidate that
    is routed without being asked for, and no route or selection names it. And the authorized peer is
    moved although no application of the profile is its own. -/
theorem taken_otherwise :
    ((WatcherCall.reconcile none).Issues ⟨desktopCodec, allDone⟩ twoBrowsers
        (.moveSinkInput 7 remoteInSink)
      ∧ twoBrowsers.watcher.activeRoute = none ∧ twoBrowsers.watcher.selectedAppKey = none
      ∧ ((twoBrowsers.watcher.snapshot twoBrowsers.server).candidates.filter (isAutoRouteCandidate ·
          (twoBrowsers.watcher.snapshot twoBrowsers.server).sourceOutputRoutes)).map
            RouteCandidate.streamId = [7, 8])
    ∧ (WatcherCall.routeVirtualPeer peerCapability).Issues ⟨desktopCodec, allDone⟩ peerScene
        (.moveSinkInput 41 remoteInSink)
      ∧ peerScene.server.sinkInput 41 = some ⟨41, 1, peerProperties⟩
      ∧ classifyApplication ((property peerProperties "application.name").getD "")
        ((property peerProperties "application.process.binary").getD "") .production = none := by
  refine ⟨⟨issues_of 4 (by decide +kernel) (by decide +kernel), rfl, rfl, by decide +kernel⟩,
    issues_of 4 (by decide +kernel) (by decide +kernel), by decide +kernel, by decide +kernel⟩

end Translator.Routing
