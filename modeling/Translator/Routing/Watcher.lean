import Translator.Routing.Server
import Translator.Wire.Contract

/-! The routing watcher of `routing.rs`: it finds the call among the playing streams, moves it to the
    translator's sink and its capture to the translator's microphone, remembers where it came from in
    memory and in a journal, and moves it back. -/

namespace Translator.Routing

open Schemes
open Wire (Uuid)

structure VirtualPeerCapability where
  sessionId : Uuid
  streamId : Nat
  objectSerial : Nat
  process : ProcessIdentity
  processBinary : String
  deriving DecidableEq, Repr

inductive RouteResolution where
  | noCandidate | awaitingSelection | routed | routeRemoved | routeConflict
  deriving DecidableEq, Repr

inductive RouteMethod where | pulseMove | pipeWireLinks
  deriving DecidableEq, Repr

structure RouteCandidate where
  streamId : Nat
  application : AllowedApplication
  stableAppKey : String
  applicationName : String
  processBinary : String
  pipewireNodeName : Option String
  mediaRole : Option String
  description : Option String
  currentSinkId : Nat
  currentSinkName : String
  callLike : Bool
  deriving DecidableEq, Repr

structure SourceOutputState where
  streamId : Nat
  sourceId : Nat
  sourceName : Option String
  translatorOwned : Bool
  captureAllowed : Bool
  deriving DecidableEq, Repr

structure IncomingRoute where
  streamId : Nat
  application : AllowedApplication
  stableAppKey : String
  originalSinkId : Nat
  originalSinkName : String
  targetSinkName : String
  routeMethod : RouteMethod
  pipewireNodeName : Option String
  deriving DecidableEq, Repr

structure RoutingState where
  candidates : List RouteCandidate
  sourceOutputs : List SourceOutputState
  conflictingStreamIds : List Nat
  activeRoute : Option IncomingRoute
  resolution : RouteResolution
  deriving DecidableEq, Repr

structure SourceOutputRouteCandidate where
  streamId : Nat
  application : AllowedApplication
  stableAppKey : String
  sourceName : String
  physicalSource : Bool
  virtualSource : Bool
  deriving DecidableEq, Repr

structure RoutingSnapshot where
  candidates : List RouteCandidate
  sourceOutputs : List SourceOutputState
  conflictingStreamIds : List Nat
  staleRemoteCandidates : List RouteCandidate
  sourceOutputRoutes : List SourceOutputRouteCandidate
  fallbackRestoreSourceName : Option String
  fallbackRestoreSinkName : Option String
  deriving DecidableEq, Repr

/-! ### Choosing a stream -/

def sameRouteIdentity (active : IncomingRoute) (candidate : RouteCandidate) : Bool :=
  active.streamId == candidate.streamId && active.stableAppKey == candidate.stableAppKey

def pipewireRouteNodeName (candidate : RouteCandidate) : Option String :=
  if candidate.application = .zoom then
    (candidate.pipewireNodeName.bind pipewireNodeName).or
      (pipewireNodeName candidate.applicationName)
  else none

def isBrowserDuplexCandidate (candidate : RouteCandidate)
    (sourceOutputRoutes : List SourceOutputRouteCandidate) : Bool :=
  (candidate.application = .firefox || candidate.application = .chromium
    || candidate.application = .chrome)
  && sourceOutputRoutes.any (fun output =>
    output.application = candidate.application && output.stableAppKey = candidate.stableAppKey
      && (output.physicalSource || output.virtualSource))

def isAutoRouteCandidate (candidate : RouteCandidate)
    (sourceOutputRoutes : List SourceOutputRouteCandidate) : Bool :=
  candidate.callLike || isBrowserDuplexCandidate candidate sourceOutputRoutes

def shouldYieldBrowserFallback (candidate : RouteCandidate)
    (sourceOutputRoutes : List SourceOutputRouteCandidate) : Bool :=
  !candidate.callLike && isBrowserDuplexCandidate candidate sourceOutputRoutes

/-- The element of a list of one. -/
def single {α : Type} : List α → Option α
  | [a] => some a
  | _ => none

theorem single_mem {α : Type} {l : List α} {a : α} (h : single l = some a) : a ∈ l := by
  match l, h with
  | [b], h => simp_all [single]

def singleAutoRouteCandidate (candidates : List RouteCandidate)
    (sourceOutputRoutes : List SourceOutputRouteCandidate) : Option RouteCandidate :=
  let callLike := candidates.filter RouteCandidate.callLike
  if !callLike.isEmpty then single callLike
  else single (candidates.filter (isBrowserDuplexCandidate · sourceOutputRoutes))

def singleCallLikeReplacement (candidates : List RouteCandidate) (active : IncomingRoute) :
    Option RouteCandidate :=
  single (candidates.filter (fun candidate =>
    candidate.callLike && !sameRouteIdentity active candidate))

/-! ### The journal -/

structure RouteJournal where
  schemaVersion : Nat
  activeRoute : IncomingRoute
  deriving DecidableEq, Repr

def routeJournalSchemaVersion : Nat := 1

def validRoute (route : IncomingRoute) : Bool :=
  route.targetSinkName = remoteInSink
  && !route.stableAppKey.isEmpty
  && route.stableAppKey.utf8ByteSize ≤ 256
  && !route.originalSinkName.isEmpty
  && route.originalSinkName.utf8ByteSize ≤ 256
  && 0 < route.streamId
  && match route.routeMethod with
    | .pulseMove => true
    | .pipeWireLinks =>
      route.application = .zoom && (route.pipewireNodeName.bind pipewireNodeName).isSome

def validRouteJournal (journal : RouteJournal) : Bool :=
  journal.schemaVersion = routeJournalSchemaVersion && validRoute journal.activeRoute

/-- The JSON form of the journal: what `serde_json` writes, and what it reads back. -/
structure JournalCodec where
  toVec : RouteJournal → List UInt8
  fromSlice : List UInt8 → Option RouteJournal
  fromSlice_toVec : ∀ journal, fromSlice (toVec journal) = some journal

def loadActiveRoute (codec : JournalCodec) (file : Option JournalFile) : Option IncomingRoute := do
  let file ← file
  if !file.isFile || file.isSymlink || file.nlink ≠ 1 then none
  else
    let journal ← codec.fromSlice file.bytes
    if validRouteJournal journal then some journal.activeRoute else none

/-! ### The watcher and its surroundings -/

structure PulseRoutingWatcher where
  profile : RoutingProfile
  activeRoute : Option IncomingRoute
  selectedAppKey : Option String
  virtualPeerCapability : Option VirtualPeerCapability
  hasRouteJournal : Bool
  routeRecoveryPending : Bool
  deriving DecidableEq, Repr

namespace PulseRoutingWatcher

def new (profile : RoutingProfile) : PulseRoutingWatcher :=
  ⟨profile, none, none, none, false, false⟩

def newWithRouteJournal (codec : JournalCodec) (profile : RoutingProfile)
    (file : Option JournalFile) : PulseRoutingWatcher :=
  let activeRoute := loadActiveRoute codec file
  ⟨profile, activeRoute, activeRoute.map IncomingRoute.stableAppKey, none, true,
    activeRoute.isSome⟩

end PulseRoutingWatcher

/-- The watcher and everything it acts on, with the number of effects the call has had so far. -/
structure Scene where
  watcher : PulseRoutingWatcher
  server : Server
  journal : Option JournalFile
  ledger : Ledger
  tick : Nat

/-- How the journal is encoded, and what becomes of each effect of a call. -/
structure Host where
  codec : JournalCodec
  answer : Answers

abbrev RoutingCall (α : Type) : Type := Call Scene RoutingError α

namespace Scene

/-- The effect is carried out: nothing, where its stream or device is not there. -/
def carryOut (s : Scene) : Effect → Option Scene
  | .list _ => some s
  | .moveSinkInput index sink => (s.server.moveSinkInput index sink).map (fun server =>
      { s with
        server := server
        ledger := s.ledger.movedSinkInput index ((s.server.sinkOf index).getD "") sink })
  | .moveSourceOutput index source => (s.server.moveSourceOutput index source).map (fun server =>
      { s with server := server, ledger := s.ledger.movedSourceOutput index source })
  | .link output input => some { s with server := s.server.link output input }
  | .unlink output input => some { s with server := s.server.unlink output input }
  | .saveJournal bytes => some { s with journal := some (.saved bytes) }
  | .removeJournal => some { s with journal := none }

/-- The effect is carried out if there is anything to do in it. -/
def tryOut (s : Scene) (effect : Effect) : Option Scene :=
  if effect.idle s.server then none else s.carryOut effect

/-- A write that fails in its last step has replaced the file all the same. -/
def cutShort (s : Scene) : Effect → Scene
  | .saveJournal bytes => { s with journal := some (.saved bytes) }
  | _ => s

def ticked (s : Scene) : Scene := { s with tick := s.tick + 1 }

/-- The watcher's own memory changes. -/
def remember (s : Scene) (f : PulseRoutingWatcher → PulseRoutingWatcher) : Scene :=
  { s with watcher := f s.watcher }

end Scene

section Watcher

variable (host : Host)

/-- One effect. A failed command has no effect. -/
def perform (effect : Effect) (code : RoutingErrorCode) : RoutingCall Unit := fun s =>
  match host.answer s.tick effect with
  | .crash => (.panic, s)
  | .refused => (.err (RoutingError.new code), s.ticked)
  | .unconfirmed => (.err (RoutingError.new code), s.ticked.cutShort effect)
  | .done => match s.ticked.carryOut effect with
    | some s => (.ok (), s)
    | none => (.err (RoutingError.new code), s.ticked)
  | .tried => match s.ticked.tryOut effect with
    | some s => (.ok (), s)
    | none => (.err (RoutingError.new code), s.ticked)

def remember (f : PulseRoutingWatcher → PulseRoutingWatcher) : RoutingCall Unit :=
  Call.modify (Scene.remember · f)

def moveStream (streamId : Nat) (sink : String) (code : RoutingErrorCode) : RoutingCall Unit :=
  perform host (.moveSinkInput streamId sink) code

def moveSourceOutput (streamId : Nat) (source : String) (code : RoutingErrorCode) :
    RoutingCall Unit :=
  perform host (.moveSourceOutput streamId source) code

def connectPipewireLink (output input : String) (code : RoutingErrorCode) : RoutingCall Unit :=
  perform host (.link output input) code

def disconnectPipewireLink (output input : String) (code : RoutingErrorCode) : RoutingCall Unit :=
  perform host (.unlink output input) code

/-- `save_active_route`. -/
def saveActiveRoute (route : IncomingRoute) : RoutingCall Unit :=
  let journal : RouteJournal := ⟨routeJournalSchemaVersion, route⟩
  if !validRouteJournal journal then Call.fail (RoutingError.new .moveFailed)
  else perform host (.saveJournal (host.codec.toVec journal)) .moveFailed

def persistActiveRoute (route : IncomingRoute) (code : RoutingErrorCode) : RoutingCall Unit := do
  let s ← Call.get
  if s.watcher.hasRouteJournal then
    Call.mapErr (fun _ => RoutingError.new code) (saveActiveRoute host route)
  else pure ()

def clearRouteJournal (code : RoutingErrorCode) : RoutingCall Unit := do
  let s ← Call.get
  if s.watcher.hasRouteJournal then perform host .removeJournal code else pure ()

/-! ### Discovery -/

/-- `Uuid::to_string`: thirty-two hexadecimal digits in five groups. -/
def uuidText (id : Uuid) : String :=
  let digit (n : Nat) : Char := Nat.digitChar (id.toNat / 16 ^ (31 - n) % 16)
  String.ofList (((List.range 8).map digit) ++ '-' :: ((List.range' 8 4).map digit)
    ++ '-' :: ((List.range' 12 4).map digit) ++ '-' :: ((List.range' 16 4).map digit)
    ++ '-' :: ((List.range' 20 12).map digit))

namespace PulseRoutingWatcher

def isAuthorizedVirtualPeer (watcher : PulseRoutingWatcher) (server : Server)
    (stream : RawSinkInput) : Bool :=
  match watcher.virtualPeerCapability with
  | none => false
  | some capability =>
    let property := property stream.properties
    stream.index = capability.streamId
    && (property "object.serial").bind (parseUnsigned (2 ^ 64 - 1)) = some capability.objectSerial
    && property "translator.owner" = some "true"
    && property "application.name" = some "translator-virtual-peer"
    && property "media.name" = some "translator-virtual-peer"
    && property "translator.test_profile" = some "human_round_trip"
    && property "translator.self_test_session" = some (uuidText capability.sessionId)
    && (property "application.process.id").bind (parseUnsigned (2 ^ 32 - 1))
      = some capability.process.pid
    && property "application.process.binary" = some capability.processBinary
    && server.inspectProcess capability.process.pid = some capability.process

/-- `route_candidate`. -/
def routeCandidate (watcher : PulseRoutingWatcher) (server : Server) (stream : RawSinkInput) :
    Option RouteCandidate :=
  let virtualPeer := watcher.isAuthorizedVirtualPeer server stream
  if !virtualPeer && isTranslatorOwned stream.properties watcher.profile then none
  else
    let applicationName := (property stream.properties "application.name").getD ""
    let processBinary := (property stream.properties "application.process.binary").getD ""
    let pipewireNodeName := (property stream.properties "node.name").bind pipewireNodeName
    (if virtualPeer then some AllowedApplication.syntheticValidation
      else classifyApplication applicationName processBinary watcher.profile).bind
    fun application => (nodeName server.sinks stream.sink).bind fun currentSinkName =>
      let mediaRole := property stream.properties "media.role"
      let description := (property stream.properties "media.name").or
        (property stream.properties "stream.description")
      some
        { streamId := stream.index
          application := application
          stableAppKey := stableAppKey application processBinary
          applicationName := applicationName
          processBinary := processBinary
          pipewireNodeName := pipewireNodeName
          mediaRole := mediaRole
          description := description
          currentSinkId := stream.sink
          currentSinkName := currentSinkName
          callLike := isCallLike application mediaRole description }

/-- `source_output_route_candidate`. -/
def sourceOutputRouteCandidate (watcher : PulseRoutingWatcher) (stream : RawSourceOutput)
    (sourceName : String) : Option SourceOutputRouteCandidate :=
  let physicalSource := safeCaptureSourceName sourceName
  let virtualSource : Bool := sourceName = virtualMicSource
  if !physicalSource && !virtualSource then none
  else
    let applicationName := (property stream.properties "application.name").getD ""
    let processBinary := (property stream.properties "application.process.binary").getD ""
    (classifyApplication applicationName processBinary watcher.profile).map fun application =>
      { streamId := stream.index
        application := application
        stableAppKey := stableAppKey application processBinary
        sourceName := sourceName
        physicalSource := physicalSource
        virtualSource := virtualSource }

/-- Whether the active route names this stream. -/
def routes (watcher : PulseRoutingWatcher) (candidate : RouteCandidate) : Bool :=
  watcher.activeRoute.any (sameRouteIdentity · candidate)

/-- A stream that can be routed: it is not on the translator's sink, unless as the active route. -/
def listed (watcher : PulseRoutingWatcher) (candidate : RouteCandidate) : Bool :=
  candidate.currentSinkName ≠ remoteInSink || watcher.routes candidate

/-- A stream on the translator's sink that is not there as the active route. -/
def conflicts (watcher : PulseRoutingWatcher) (server : Server) (stream : RawSinkInput) : Bool :=
  nodeName server.sinks stream.sink = some remoteInSink
    && !(watcher.routeCandidate server stream).any watcher.routes

/-- What `discover` makes of the lists. -/
def snapshot (watcher : PulseRoutingWatcher) (server : Server) : RoutingSnapshot where
  candidates := (server.sinkInputs.filterMap (watcher.routeCandidate server)).filter watcher.listed
  sourceOutputs := server.sourceOutputs.map fun stream =>
    let sourceName := nodeName server.sources stream.source
    let translatorOwned := isTranslatorOwned stream.properties watcher.profile
    { streamId := stream.index
      sourceId := stream.source
      sourceName := sourceName
      translatorOwned := translatorOwned
      captureAllowed := sourceName.any safeCaptureSourceName && !translatorOwned }
  conflictingStreamIds :=
    (server.sinkInputs.filter (watcher.conflicts server)).map RawSinkInput.index
  staleRemoteCandidates :=
    (server.sinkInputs.filterMap (watcher.routeCandidate server)).filter (!watcher.listed ·)
  sourceOutputRoutes := server.sourceOutputs.filterMap fun stream =>
    if isTranslatorOwned stream.properties watcher.profile then none
    else (nodeName server.sources stream.source).bind (watcher.sourceOutputRouteCandidate stream)
  fallbackRestoreSourceName := preferredRestoreSource server.sources
  fallbackRestoreSinkName := preferredRestoreSink server.sinks

end PulseRoutingWatcher

def discover : RoutingCall RoutingSnapshot := do
  perform host (.list .sinkInputs) .discoveryFailed
  perform host (.list .sourceOutputs) .discoveryFailed
  perform host (.list .sources) .discoveryFailed
  perform host (.list .sinks) .discoveryFailed
  let s ← Call.get
  pure (s.watcher.snapshot s.server)

/-- `state`: the snapshot with the route that is active now. -/
def state (snapshot : RoutingSnapshot) (resolution : RouteResolution) :
    RoutingCall RoutingState := do
  let s ← Call.get
  pure ⟨snapshot.candidates, snapshot.sourceOutputs, snapshot.conflictingStreamIds,
    s.watcher.activeRoute, resolution⟩

/-! ### Moving streams -/

/-- Undo moves of source-outputs, newest first, whatever becomes of each. -/
def takeBackOutputs : List (Nat × String) → RoutingCall Unit
  | [] => pure ()
  | (streamId, sourceName) :: rest => do
    let _ ← Call.attempt (moveSourceOutput host streamId sourceName .restoreFailed)
    takeBackOutputs rest

/-- The loop of `route_matching_source_outputs`, with what it has moved so far. -/
def routeOutputs : List (Nat × String) → List SourceOutputRouteCandidate → RoutingCall Unit
  | _, [] => pure ()
  | moved, output :: rest => do
    match ← Call.attempt (moveSourceOutput host output.streamId virtualMicSource .moveFailed) with
    | .ok () => routeOutputs ((output.streamId, output.sourceName) :: moved) rest
    | .error error =>
      takeBackOutputs host moved
      Call.fail error

def routeMatchingSourceOutputs (active : IncomingRoute)
    (sourceOutputRoutes : List SourceOutputRouteCandidate) : RoutingCall Unit :=
  routeOutputs host [] (sourceOutputRoutes.filter (fun output =>
    output.stableAppKey = active.stableAppKey && output.physicalSource))

/-- The loop of `restore_matching_source_outputs`. -/
def restoreOutputs (sourceName : String) : List SourceOutputRouteCandidate → RoutingCall Unit
  | [] => pure ()
  | output :: rest => do
    moveSourceOutput host output.streamId sourceName .restoreFailed
    restoreOutputs sourceName rest

def restoreMatchingSourceOutputs (active : IncomingRoute)
    (sourceOutputRoutes : List SourceOutputRouteCandidate)
    (fallbackRestoreSourceName : Option String) : RoutingCall Unit :=
  let matchingVirtual := sourceOutputRoutes.filter (fun output =>
    output.stableAppKey = active.stableAppKey && output.virtualSource)
  if matchingVirtual.isEmpty then pure ()
  else match fallbackRestoreSourceName with
    | none => Call.fail (RoutingError.new .restoreFailed)
    | some sourceName => restoreOutputs host sourceName matchingVirtual

/-- The two ports of a node, left and right. -/
def outputPorts (node : String) : String × String :=
  (pipewirePort node "output_FL", pipewirePort node "output_FR")

def playbackPorts (node : String) : String × String :=
  (pipewirePort node "playback_FL", pipewirePort node "playback_FR")

def routeZoomWithPipewireLinks (candidate : RouteCandidate) : RoutingCall Unit :=
  if candidate.application ≠ .zoom then Call.fail (RoutingError.new .moveFailed)
  else match pipewireRouteNodeName candidate, pipewireNodeName candidate.currentSinkName with
  | some nodeName, some originalSinkName => do
    let (zoomFl, zoomFr) := outputPorts nodeName
    let (originalFl, originalFr) := playbackPorts originalSinkName
    let (remoteFl, remoteFr) := playbackPorts remoteInSink
    connectPipewireLink host zoomFl remoteFl .moveFailed
    match ← Call.attempt (connectPipewireLink host zoomFr remoteFr .moveFailed) with
    | .error _ =>
      let _ ← Call.attempt (disconnectPipewireLink host zoomFl remoteFl .moveFailed)
      Call.fail (RoutingError.new .moveFailed)
    | .ok () =>
      match ← Call.attempt (disconnectPipewireLink host zoomFl originalFl .moveFailed) with
      | .error _ =>
        let _ ← Call.attempt (disconnectPipewireLink host zoomFl remoteFl .moveFailed)
        let _ ← Call.attempt (disconnectPipewireLink host zoomFr remoteFr .moveFailed)
        Call.fail (RoutingError.new .moveFailed)
      | .ok () =>
        match ← Call.attempt (disconnectPipewireLink host zoomFr originalFr .moveFailed) with
        | .error _ =>
          let _ ← Call.attempt (connectPipewireLink host zoomFl originalFl .moveFailed)
          let _ ← Call.attempt (disconnectPipewireLink host zoomFl remoteFl .moveFailed)
          let _ ← Call.attempt (disconnectPipewireLink host zoomFr remoteFr .moveFailed)
          Call.fail (RoutingError.new .moveFailed)
        | .ok () => pure ()
  | _, _ => Call.fail (RoutingError.new .moveFailed)

def restoreZoomPipewireLinks (active : IncomingRoute) : RoutingCall Unit :=
  if active.application ≠ .zoom then Call.fail (RoutingError.new .restoreFailed)
  else match active.pipewireNodeName.bind pipewireNodeName,
    pipewireNodeName active.originalSinkName with
  | some nodeName, some originalSinkName => do
    let (zoomFl, zoomFr) := outputPorts nodeName
    let (originalFl, originalFr) := playbackPorts originalSinkName
    let (remoteFl, remoteFr) := playbackPorts remoteInSink
    connectPipewireLink host zoomFl originalFl .restoreFailed
    match ← Call.attempt (connectPipewireLink host zoomFr originalFr .restoreFailed) with
    | .error _ =>
      let _ ← Call.attempt (disconnectPipewireLink host zoomFl originalFl .restoreFailed)
      Call.fail (RoutingError.new .restoreFailed)
    | .ok () =>
      disconnectPipewireLink host zoomFl remoteFl .restoreFailed
      disconnectPipewireLink host zoomFr remoteFr .restoreFailed
  | _, _ => Call.fail (RoutingError.new .restoreFailed)

def restoreRoute (active : IncomingRoute) : RoutingCall Unit :=
  match active.routeMethod with
  | .pulseMove => moveStream host active.streamId active.originalSinkName .restoreFailed
  | .pipeWireLinks => restoreZoomPipewireLinks host active

/-- The route a candidate gets. -/
def RouteCandidate.route (candidate : RouteCandidate) (method : RouteMethod) : IncomingRoute where
  streamId := candidate.streamId
  application := candidate.application
  stableAppKey := candidate.stableAppKey
  originalSinkId := candidate.currentSinkId
  originalSinkName := candidate.currentSinkName
  targetSinkName := remoteInSink
  routeMethod := method
  pipewireNodeName := if method = .pipeWireLinks then pipewireRouteNodeName candidate else none

/-- Let go of a route whose stream needs nothing more: its captures go back, and it is forgotten. -/
def releaseRoute (active : IncomingRoute) (sourceOutputRoutes : List SourceOutputRouteCandidate)
    (fallbackRestoreSourceName : Option String) (code : RoutingErrorCode) : RoutingCall Unit := do
  restoreMatchingSourceOutputs host active sourceOutputRoutes fallbackRestoreSourceName
  remember ({ · with activeRoute := none })
  clearRouteJournal host code
  remember ({ · with routeRecoveryPending := false })

/-- The part of `route_candidate_stream` that leaves the route there was before. Where its index now
    belongs to the candidate, its own stream is gone. -/
def leaveRoute (active : IncomingRoute) (candidate : RouteCandidate)
    (sourceOutputRoutes : List SourceOutputRouteCandidate)
    (fallbackRestoreSourceName : Option String) : RoutingCall Unit := do
  if active.streamId = candidate.streamId then
    releaseRoute host active sourceOutputRoutes fallbackRestoreSourceName .moveFailed
  else
    Call.mapErr (fun _ => RoutingError.new .restoreFailed) (restoreRoute host active)
    releaseRoute host active sourceOutputRoutes fallbackRestoreSourceName .restoreFailed

/-- Move the stream, or link it where moving is refused. -/
def takeStream (candidate : RouteCandidate) : RoutingCall RouteMethod := do
  match ← Call.attempt (moveStream host candidate.streamId remoteInSink .moveFailed) with
  | .ok () => pure .pulseMove
  | .error _ =>
    match ← Call.attempt (routeZoomWithPipewireLinks host candidate) with
    | .ok () => pure .pipeWireLinks
    | .error _ =>
      remember ({ · with selectedAppKey := none })
      Call.fail (RoutingError.new .moveFailed)

/-- Record and remember the route of a stream just taken, and take its captures along. -/
def settleRoute (candidate : RouteCandidate) (method : RouteMethod)
    (sourceOutputRoutes : List SourceOutputRouteCandidate) : RoutingCall Unit := do
  remember ({ · with selectedAppKey := some candidate.stableAppKey })
  let activeRoute := candidate.route method
  match ← Call.attempt (persistActiveRoute host activeRoute .moveFailed) with
  | .error error =>
    let _ ← Call.attempt (restoreRoute host activeRoute)
    remember ({ · with selectedAppKey := none })
    Call.fail error
  | .ok () =>
    match ← Call.attempt (routeMatchingSourceOutputs host activeRoute sourceOutputRoutes) with
    | .error error =>
      let _ ← Call.attempt (restoreRoute host activeRoute)
      remember ({ · with selectedAppKey := none })
      clearRouteJournal host .restoreFailed
      Call.fail error
    | .ok () =>
      remember ({ · with activeRoute := some activeRoute, routeRecoveryPending := false })

/-- The part of `route_candidate_stream` that makes the new route. -/
def enterRoute (candidate : RouteCandidate)
    (sourceOutputRoutes : List SourceOutputRouteCandidate) : RoutingCall Unit := do
  let method ← takeStream host candidate
  settleRoute host candidate method sourceOutputRoutes

def routeCandidateStream (candidate : RouteCandidate)
    (sourceOutputRoutes : List SourceOutputRouteCandidate)
    (fallbackRestoreSourceName : Option String) : RoutingCall Unit := do
  let s ← Call.get
  match s.watcher.activeRoute with
  | some active =>
    if sameRouteIdentity active candidate then
      persistActiveRoute host active .moveFailed
      routeMatchingSourceOutputs host active sourceOutputRoutes
      remember ({ · with routeRecoveryPending := false })
    else
      leaveRoute host active candidate sourceOutputRoutes fallbackRestoreSourceName
      enterRoute host candidate sourceOutputRoutes
  | none => enterRoute host candidate sourceOutputRoutes

/-! ### The watcher's calls -/

def inspect : RoutingCall RoutingState := do
  let snapshot ← discover host
  let s ← Call.get
  state snapshot <|
    if !snapshot.conflictingStreamIds.isEmpty then .routeConflict
    else if s.watcher.activeRoute.isSome then .routed
    else if s.watcher.selectedAppKey.isSome then .routeRemoved
    else if snapshot.candidates.isEmpty then .noCandidate
    else .awaitingSelection

/-- What a snapshot without a route amounts to. -/
def RoutingSnapshot.unrouted (snapshot : RoutingSnapshot) : RouteResolution :=
  if snapshot.candidates.isEmpty then .noCandidate else .awaitingSelection

/-- Move a stream left on the translator's sink to the fallback, and look again. -/
def restoreStaleStream (candidate : RouteCandidate) (restoreSink : String) :
    RoutingCall RoutingState := do
  moveStream host candidate.streamId restoreSink .restoreFailed
  remember ({ · with selectedAppKey := none })
  clearRouteJournal host .restoreFailed
  let snapshot ← discover host
  state snapshot (if !snapshot.conflictingStreamIds.isEmpty then .routeConflict
    else snapshot.unrouted)

def restoreStaleRemoteConflict (conflictingStreamIds : List Nat)
    (staleRemoteCandidates : List RouteCandidate) (fallbackRestoreSinkName : Option String) :
    RoutingCall (Option RoutingState) :=
  match conflictingStreamIds, staleRemoteCandidates with
  | [streamId], [candidate] =>
    if candidate.callLike || candidate.streamId ≠ streamId then pure none
    else match fallbackRestoreSinkName with
    | none => pure none
    | some restoreSink => do
      let restored ← restoreStaleStream host candidate restoreSink
      pure (some restored)
  | _, _ => pure none

/-- What `restore_active` does to the stream of the route. -/
def undoStream (snapshot : RoutingSnapshot) (active : IncomingRoute) : RoutingCall Unit :=
  match snapshot.candidates.find? (sameRouteIdentity active) with
  | some candidate =>
    match active.routeMethod with
    | .pulseMove =>
      if candidate.currentSinkName = remoteInSink then restoreRoute host active else pure ()
    | .pipeWireLinks => restoreRoute host active
  | none => pure ()

/-- What `restore_active` does to the streams of the route there is. -/
def undoRoute (snapshot : RoutingSnapshot) : Option IncomingRoute → RoutingCall Unit
  | some active => do
    undoStream host snapshot active
    restoreMatchingSourceOutputs host active snapshot.sourceOutputRoutes
      snapshot.fallbackRestoreSourceName
  | none => pure ()

def restoreActive : RoutingCall RoutingState := do
  let snapshot ← discover host
  let s ← Call.get
  undoRoute host snapshot s.watcher.activeRoute
  remember ({ · with activeRoute := none, selectedAppKey := none, routeRecoveryPending := false })
  clearRouteJournal host .restoreFailed
  state snapshot snapshot.unrouted

/-- Route the candidate and report it. -/
def routeAndReport (snapshot : RoutingSnapshot) (candidate : RouteCandidate) :
    RoutingCall RoutingState := do
  routeCandidateStream host candidate snapshot.sourceOutputRoutes snapshot.fallbackRestoreSourceName
  state snapshot .routed

/-- The stream of the active route is moved again where somebody moved it away. -/
def takeAgain (active : IncomingRoute) (candidate : RouteCandidate) : RoutingCall Unit :=
  if active.routeMethod = .pipeWireLinks then persistActiveRoute host active .moveFailed
  else if candidate.currentSinkName ≠ remoteInSink then do
    moveStream host candidate.streamId remoteInSink .moveFailed
    persistActiveRoute host active .moveFailed
  else pure ()

/-- The active route stays. -/
def refreshRoute (snapshot : RoutingSnapshot) (active : IncomingRoute)
    (candidate : RouteCandidate) : RoutingCall RoutingState := do
  takeAgain host active candidate
  routeMatchingSourceOutputs host active snapshot.sourceOutputRoutes
  state snapshot .routed

/-- The stream the active route yields to: a call, where the route is a browser's fallback. -/
def RoutingSnapshot.yieldsTo (snapshot : RoutingSnapshot) (active : IncomingRoute)
    (candidate : RouteCandidate) : Option RouteCandidate :=
  if shouldYieldBrowserFallback candidate snapshot.sourceOutputRoutes then
    singleCallLikeReplacement snapshot.candidates active
  else none

/-- `reconcile` where the stream of the active route is listed. -/
def keepRoute (snapshot : RoutingSnapshot) (active : IncomingRoute) (candidate : RouteCandidate) :
    RoutingCall RoutingState :=
  match snapshot.yieldsTo active candidate with
  | some replacement => routeAndReport host snapshot replacement
  | none => refreshRoute host snapshot active candidate

/-- The candidates of an application that are routed without being asked for. -/
def RoutingSnapshot.replacements (snapshot : RoutingSnapshot) (appKey : String) :
    List RouteCandidate :=
  snapshot.candidates.filter (fun candidate =>
    candidate.stableAppKey = appKey && isAutoRouteCandidate candidate snapshot.sourceOutputRoutes)

/-- The route is dropped, and the captures taken along with it go back. -/
def forgetRoute (snapshot : RoutingSnapshot) (active : IncomingRoute) : RoutingCall Unit := do
  remember ({ · with activeRoute := none })
  restoreMatchingSourceOutputs host active snapshot.sourceOutputRoutes
    snapshot.fallbackRestoreSourceName
  clearRouteJournal host .moveFailed
  remember ({ · with routeRecoveryPending := false })

/-- `reconcile` where the stream of the active route is gone. -/
def dropRoute (snapshot : RoutingSnapshot) (active : IncomingRoute) : RoutingCall RoutingState := do
  forgetRoute host snapshot active
  match single (snapshot.replacements active.stableAppKey) with
  | some replacement => routeAndReport host snapshot replacement
  | none =>
    if snapshot.candidates.any (fun candidate => candidate.streamId = active.streamId) then
      state snapshot .routeRemoved
    else
      match singleAutoRouteCandidate snapshot.candidates snapshot.sourceOutputRoutes with
      | some candidate => routeAndReport host snapshot candidate
      | none =>
        remember ({ · with selectedAppKey := none })
        state snapshot .routeRemoved

/-- `reconcile` without an active route. -/
def findRoute (snapshot : RoutingSnapshot) (selectedAppKey : Option String) :
    RoutingCall RoutingState :=
  match selectedAppKey with
  | some appKey =>
    match single (snapshot.replacements appKey) with
    | some replacement => routeAndReport host snapshot replacement
    | none => state snapshot .routeRemoved
  | none =>
    match singleAutoRouteCandidate snapshot.candidates snapshot.sourceOutputRoutes with
    | some candidate => routeAndReport host snapshot candidate
    | none => state snapshot snapshot.unrouted

/-- `reconcile` where other streams are on the translator's sink. -/
def reportConflict (snapshot : RoutingSnapshot) (manualStreamId : Option Nat) :
    RoutingCall RoutingState := do
  let s ← Call.get
  let restored ← if manualStreamId.isNone && s.watcher.activeRoute.isNone then
      restoreStaleRemoteConflict host snapshot.conflictingStreamIds snapshot.staleRemoteCandidates
        snapshot.fallbackRestoreSinkName
    else pure none
  match restored with
  | some restored => pure restored
  | none => state snapshot .routeConflict

def reconcile (manualStreamId : Option Nat) : RoutingCall RoutingState := do
  let s ← Call.get
  if manualStreamId.isNone && s.watcher.routeRecoveryPending then restoreActive host
  else
    let snapshot ← discover host
    let s ← Call.get
    if !snapshot.conflictingStreamIds.isEmpty then reportConflict host snapshot manualStreamId
    else match manualStreamId with
    | some streamId =>
      match snapshot.candidates.find? (fun candidate => candidate.streamId == streamId) with
      | some candidate => routeAndReport host snapshot candidate
      | none => Call.fail (RoutingError.new .invalidManualOverride)
    | none =>
      match s.watcher.activeRoute with
      | some active =>
        match snapshot.candidates.find? (sameRouteIdentity active) with
        | some candidate => keepRoute host snapshot active candidate
        | none => dropRoute host snapshot active
      | none => findRoute host snapshot s.watcher.selectedAppKey

def validateVirtualPeerRoute (capability : VirtualPeerCapability) (expectedTarget : String) :
    RoutingCall RoutingState := do
  let s ← Call.get
  if expectedTarget ≠ remoteInSink ∨ s.watcher.virtualPeerCapability ≠ some capability
      ∨ s.server.inspectProcess capability.process.pid ≠ some capability.process then
    Call.fail (RoutingError.new .moveFailed)
  else
    let state ← inspect host
    let verified := state.resolution = .routed
      && state.conflictingStreamIds.isEmpty
      && state.activeRoute = s.watcher.activeRoute
      && s.watcher.activeRoute.any (fun route => route.streamId = capability.streamId
        && route.application = .syntheticValidation && route.targetSinkName = expectedTarget)
      && state.candidates.any (fun candidate => candidate.streamId = capability.streamId
        && candidate.application = .syntheticValidation
        && candidate.currentSinkName = expectedTarget)
    if verified then pure state else Call.fail (RoutingError.new .moveFailed)

/-- What `route_virtual_peer` does before it looks at the result. -/
def tryVirtualPeer (capability : VirtualPeerCapability) : RoutingCall RoutingState := do
  let _ ← reconcile host (some capability.streamId)
  let state ← inspect host
  if state.candidates.any (fun candidate => candidate.streamId = capability.streamId
      && candidate.currentSinkName = remoteInSink) && state.conflictingStreamIds.isEmpty then
    pure state
  else Call.fail (RoutingError.new .moveFailed)

def routeVirtualPeer (capability : VirtualPeerCapability) : RoutingCall RoutingState := do
  remember ({ · with virtualPeerCapability := some capability })
  match ← Call.attempt (tryVirtualPeer host capability) with
  | .ok state => pure state
  | .error error =>
    remember ({ · with virtualPeerCapability := none, routeRecoveryPending := false })
    Call.fail error

def restoreVirtualPeer : RoutingCall RoutingState := do
  let state ← restoreActive host
  remember ({ · with virtualPeerCapability := none })
  pure state

end Watcher

end Translator.Routing
