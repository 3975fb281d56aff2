import Translator.Core.Contracts
import Translator.Schemes.Run
import Translator.Wire.Contract

/-! `RoundTripSelfTest`: the session of the human round trip and the checkpoints it passes. Most calls
    go through `active_session_mut`, which turns away a call for another session or for one that is
    over; `stop`, `expire` and the recursion counter look for themselves. -/

namespace Translator.Control
open Schemes
open Wire (Uuid)

def maxSessionMs : Nat := 5 * 60 * 1000

structure ExactPcmProof where
  sampleRateHz : Nat
  channels : Nat
  frameDurationMs : Nat
  frameCount : Nat
  capturedFrameCount : Nat
  reinjectedFrameCount : Nat
  firstSequence : Option Nat
  lastSequence : Option Nat
  capturedRollingHash : String
  reinjectedRollingHash : String
  formatMatches : Bool
  sequenceMonotonic : Bool
  exactMatch : Bool
  deriving DecidableEq, Repr

structure RoundTripPreconditions where
  headphones : Bool
  outgoingProviderReady : Bool
  incomingProviderReady : Bool
  virtualGraphReady : Bool
  incomingRouteIdle : Bool
  deriving DecidableEq, Repr

inductive RoundTripCheckpoint where
  | waitingForSpeech | outgoingVad | outgoingAsrFinal | outgoingTranslationFinal
  | englishFirstAudio | virtualPeerReinjecting | incomingAsrFinal | incomingTranslationFinal
  | russianFirstAudio | completed | failed | stopped
  deriving DecidableEq, Repr

namespace RoundTripCheckpoint

def isTerminal : RoundTripCheckpoint → Bool
  | .completed | .failed | .stopped => true
  | _ => false

def next : RoundTripCheckpoint → Option RoundTripCheckpoint
  | .waitingForSpeech => some .outgoingVad
  | .outgoingVad => some .outgoingAsrFinal
  | .outgoingAsrFinal => some .outgoingTranslationFinal
  | .outgoingTranslationFinal => some .englishFirstAudio
  | .englishFirstAudio => some .virtualPeerReinjecting
  | .virtualPeerReinjecting => some .incomingAsrFinal
  | .incomingAsrFinal => some .incomingTranslationFinal
  | .incomingTranslationFinal => some .russianFirstAudio
  | .russianFirstAudio => some .completed
  | .completed | .failed | .stopped => none

end RoundTripCheckpoint

structure RoundTripLatency where
  outgoingFirstAudioMs : Option Nat
  englishMonitorCompleteMs : Option Nat
  incomingFirstAudioMs : Option Nat
  physicalMicOnsetToReturnedRuFirstAudibleMs : Option Nat
  deriving DecidableEq, Repr

def RoundTripLatency.default : RoundTripLatency := ⟨none, none, none, none⟩

/-- `merge_latency`: what is not measured anew stays. -/
def mergeLatency (current update : RoundTripLatency) : RoundTripLatency where
  outgoingFirstAudioMs := update.outgoingFirstAudioMs <|> current.outgoingFirstAudioMs
  englishMonitorCompleteMs := update.englishMonitorCompleteMs <|> current.englishMonitorCompleteMs
  incomingFirstAudioMs := update.incomingFirstAudioMs <|> current.incomingFirstAudioMs
  physicalMicOnsetToReturnedRuFirstAudibleMs :=
    update.physicalMicOnsetToReturnedRuFirstAudibleMs
      <|> current.physicalMicOnsetToReturnedRuFirstAudibleMs

inductive RoundTripErrorCode where
  | headphonesRequired | providerUnavailable | virtualGraphUnavailable | incomingRouteConflict
  | alreadyRunning | notRunning | sessionMismatch | invalidCheckpoint | exactPcmMismatch
  | runtimeFailed | timeout
  deriving DecidableEq, Repr

structure RoundTripDebugText where
  transcript : String
  translation : String
  deriving DecidableEq, Repr

structure RoundTripStatus where
  sessionId : Option Uuid
  checkpoint : Option RoundTripCheckpoint
  recursionCount : Nat
  latency : RoundTripLatency
  exactPcm : Option ExactPcmProof
  safeError : Option RoundTripErrorCode
  debugText : Option RoundTripDebugText
  deriving DecidableEq, Repr

def RoundTripStatus.default : RoundTripStatus := ⟨none, none, 0, .default, none, none, none⟩

namespace RoundTripSelfTest

structure Session where
  id : Uuid
  startedAtMs : Nat
  checkpoint : RoundTripCheckpoint
  recursionCount : Nat
  latency : RoundTripLatency
  safeError : Option RoundTripErrorCode
  debugText : Option RoundTripDebugText
  exactPcm : Option ExactPcmProof
  deriving DecidableEq, Repr

end RoundTripSelfTest

structure RoundTripSelfTest where
  session : Option RoundTripSelfTest.Session
  deriving DecidableEq, Repr

def validatePreconditions (preconditions : RoundTripPreconditions) : Except RoundTripErrorCode Unit :=
  if !preconditions.headphones then .error .headphonesRequired
  else if !preconditions.outgoingProviderReady || !preconditions.incomingProviderReady then
    .error .providerUnavailable
  else if !preconditions.virtualGraphReady then .error .virtualGraphUnavailable
  else if !preconditions.incomingRouteIdle then .error .incomingRouteConflict
  else .ok ()

namespace RoundTripSelfTest

def default : RoundTripSelfTest := ⟨none⟩

variable (test : RoundTripSelfTest)

/-- `active_session_mut`. -/
def activeSession (sessionId : Uuid) : Except RoundTripErrorCode Session :=
  match test.session with
  | none => .error .notRunning
  | some session =>
    if session.id ≠ sessionId then .error .sessionMismatch
    else if session.checkpoint.isTerminal then .error .notRunning
    else .ok session

/-- `freshId` is what `Uuid::new_v4` draws. -/
def start (preconditions : RoundTripPreconditions) (atMs : Nat) (freshId : Uuid) :
    Except RoundTripErrorCode Uuid × RoundTripSelfTest :=
  if test.session.any fun session => !session.checkpoint.isTerminal then
    (.error .alreadyRunning, test)
  else
    match validatePreconditions preconditions with
    | .error error => (.error error, test)
    | .ok () =>
      (.ok freshId, ⟨some ⟨freshId, atMs, .waitingForSpeech, 0, .default, none, none, none⟩⟩)

/-- A call that goes through `active_session_mut` and changes the session. -/
def onActive (sessionId : Uuid) (call : Session → Except RoundTripErrorCode Session) :
    Except RoundTripErrorCode Unit × RoundTripSelfTest :=
  match test.activeSession sessionId with
  | .error error => (.error error, test)
  | .ok session =>
    match call session with
    | .error error => (.error error, test)
    | .ok session => (.ok (), ⟨some session⟩)

/-- The next checkpoint; to be reinjected, a session needs an exact proof and the monitor's time. -/
def Session.advance (session : Session) (checkpoint : RoundTripCheckpoint)
    (latency : RoundTripLatency) : Except RoundTripErrorCode Session :=
  if session.checkpoint.next ≠ some checkpoint
      ∨ (checkpoint = .virtualPeerReinjecting ∧ (latency.englishMonitorCompleteMs = none
        ∨ session.exactPcm.all (fun proof => !proof.exactMatch) = true)) then
    .error .invalidCheckpoint
  else
    .ok { session with checkpoint := checkpoint, latency := mergeLatency session.latency latency }

def advance (sessionId : Uuid) (checkpoint : RoundTripCheckpoint) (latency : RoundTripLatency) :
    Except RoundTripErrorCode Unit × RoundTripSelfTest :=
  test.onActive sessionId fun session => session.advance checkpoint latency

/-- `saturating_add` on a `u32`. -/
def recordRecursionTrigger (sessionId : Uuid) :
    Except RoundTripErrorCode Unit × RoundTripSelfTest :=
  match test.session with
  | none => (.error .notRunning, test)
  | some session =>
    if session.id ≠ sessionId then (.error .sessionMismatch, test)
    else
      (.ok (), ⟨some { session with recursionCount := min (session.recursionCount + 1) (2 ^ 32 - 1) }⟩)

def setExactPcmProof (sessionId : Uuid) (proof : ExactPcmProof) :
    Except RoundTripErrorCode Unit × RoundTripSelfTest :=
  test.onActive sessionId fun session =>
    if session.checkpoint ≠ .englishFirstAudio ∨ proof.exactMatch = false then
      .error .exactPcmMismatch
    else .ok { session with exactPcm := some proof }

def setDebugText (sessionId : Uuid) (transcript translation : String) :
    Except RoundTripErrorCode Unit × RoundTripSelfTest :=
  test.onActive sessionId fun session =>
    .ok { session with debugText := some ⟨transcript, translation⟩ }

def stop (sessionId : Uuid) : Bool × RoundTripSelfTest :=
  match test.session with
  | none => (false, test)
  | some session =>
    if session.id ≠ sessionId ∨ session.checkpoint.isTerminal then (false, test)
    else (true, ⟨some { session with checkpoint := .stopped, debugText := none }⟩)

def fail (sessionId : Uuid) (error : RoundTripErrorCode) : Bool × RoundTripSelfTest :=
  match test.activeSession sessionId with
  | .error _ => (false, test)
  | .ok session =>
    (true,
      ⟨some { session with checkpoint := .failed, safeError := some error, debugText := none }⟩)

def expire (atMs : Nat) : Bool × RoundTripSelfTest :=
  match test.session with
  | none => (false, test)
  | some session =>
    if session.checkpoint.isTerminal ∨ atMs - session.startedAtMs < maxSessionMs then (false, test)
    else
      (true,
        ⟨some
          { session with checkpoint := .stopped, safeError := some .timeout, debugText := none }⟩)

def status (includeDebugText : Bool) : RoundTripStatus :=
  match test.session with
  | none => .default
  | some session =>
    { sessionId := some session.id
      checkpoint := some session.checkpoint
      recursionCount := session.recursionCount
      latency := session.latency
      exactPcm := session.exactPcm
      safeError := session.safeError
      debugText := if includeDebugText then session.debugText else none }

inductive Op where
  | start (preconditions : RoundTripPreconditions) (atMs : Nat) (freshId : Uuid)
  | advance (sessionId : Uuid) (checkpoint : RoundTripCheckpoint) (latency : RoundTripLatency)
  | recordRecursionTrigger (sessionId : Uuid)
  | setExactPcmProof (sessionId : Uuid) (proof : ExactPcmProof)
  | setDebugText (sessionId : Uuid) (transcript translation : String)
  | stop (sessionId : Uuid)
  | fail (sessionId : Uuid) (error : RoundTripErrorCode)
  | expire (atMs : Nat)
  deriving DecidableEq, Repr

inductive Answer where
  | started (result : Except RoundTripErrorCode Uuid)
  | done (result : Except RoundTripErrorCode Unit)
  | ended (changed : Bool)
  deriving DecidableEq

def apply : Op → Answer × RoundTripSelfTest
  | .start preconditions atMs freshId =>
    let (result, test) := test.start preconditions atMs freshId
    (.started result, test)
  | .advance sessionId checkpoint latency =>
    let (result, test) := test.advance sessionId checkpoint latency
    (.done result, test)
  | .recordRecursionTrigger sessionId =>
    let (result, test) := test.recordRecursionTrigger sessionId
    (.done result, test)
  | .setExactPcmProof sessionId proof =>
    let (result, test) := test.setExactPcmProof sessionId proof
    (.done result, test)
  | .setDebugText sessionId transcript translation =>
    let (result, test) := test.setDebugText sessionId transcript translation
    (.done result, test)
  | .stop sessionId =>
    let (changed, test) := test.stop sessionId
    (.ended changed, test)
  | .fail sessionId error =>
    let (changed, test) := test.fail sessionId error
    (.ended changed, test)
  | .expire atMs =>
    let (changed, test) := test.expire atMs
    (.ended changed, test)

/-- The session a call is for. -/
def Op.sessionId : Op → Option Uuid
  | .advance id _ _ | .recordRecursionTrigger id | .setExactPcmProof id _ | .setDebugText id _ _
  | .stop id | .fail id _ => some id
  | .start _ _ _ | .expire _ => none

/-! ### What a call can do -/

/-- The outcomes of a call. -/
inductive Turn (test : RoundTripSelfTest) : Op → Answer → RoundTripSelfTest → Prop
  /-- Turned away. -/
  | refused (op : Op) (answer : Answer) (hstart : ∀ id, answer ≠ .started (.ok id))
      (hdone : answer ≠ .done (.ok ())) (hended : answer ≠ .ended true) : Turn test op answer test
  | started (preconditions : RoundTripPreconditions) (atMs : Nat) (id : Uuid)
      (hover : ∀ s, test.session = some s → s.checkpoint.isTerminal = true) :
      Turn test (.start preconditions atMs id) (.started (.ok id))
        ⟨some ⟨id, atMs, .waitingForSpeech, 0, .default, none, none, none⟩⟩
  | advanced (s : Session) (checkpoint : RoundTripCheckpoint) (latency : RoundTripLatency)
      (hs : test.session = some s) (hnext : s.checkpoint.next = some checkpoint)
      (hproof : checkpoint = .virtualPeerReinjecting → latency.englishMonitorCompleteMs ≠ none
        ∧ ∃ proof, s.exactPcm = some proof ∧ proof.exactMatch = true) :
      Turn test (.advance s.id checkpoint latency) (.done (.ok ()))
        ⟨some { s with checkpoint := checkpoint, latency := mergeLatency s.latency latency }⟩
  | counted (s : Session) (count : Nat) (hs : test.session = some s) :
      Turn test (.recordRecursionTrigger s.id) (.done (.ok ()))
        ⟨some { s with recursionCount := count }⟩
  | proved (s : Session) (proof : ExactPcmProof) (hs : test.session = some s)
      (hat : s.checkpoint = .englishFirstAudio) (hexact : proof.exactMatch = true) :
      Turn test (.setExactPcmProof s.id proof) (.done (.ok ()))
        ⟨some { s with exactPcm := some proof }⟩
  | noted (s : Session) (transcript translation : String) (hs : test.session = some s)
      (hactive : s.checkpoint.isTerminal = false) :
      Turn test (.setDebugText s.id transcript translation) (.done (.ok ()))
        ⟨some { s with debugText := some ⟨transcript, translation⟩ }⟩
  /-- Stopped, failed or expired. -/
  | ended (op : Op) (s : Session) (checkpoint : RoundTripCheckpoint)
      (error : Option RoundTripErrorCode) (hs : test.session = some s)
      (hop : op.sessionId = some s.id ∨ op.sessionId = none)
      (hactive : s.checkpoint.isTerminal = false)
      (hend : checkpoint = .failed ∨ checkpoint = .stopped) :
      Turn test op (.ended true)
        ⟨some { s with checkpoint := checkpoint, safeError := error, debugText := none }⟩

variable {test}

theorem activeSession_ok {id : Uuid} {s : Session} (h : test.activeSession id = .ok s) :
    test.session = some s ∧ s.id = id ∧ s.checkpoint.isTerminal = false := by
  unfold activeSession at h
  split at h
  · cases h
  · next session hs =>
    split at h
    · cases h
    · next hid =>
      split at h
      · cases h
      · next hactive =>
        cases h
        exact ⟨hs, not_not.mp hid, by simpa using hactive⟩

/-- A call through `active_session_mut` is turned away, or it changes the session it is for. -/
theorem onActive_cases (test : RoundTripSelfTest) (id : Uuid)
    (call : Session → Except RoundTripErrorCode Session) :
    (∃ error, test.onActive id call = (.error error, test))
      ∨ ∃ s s', test.session = some s ∧ s.id = id ∧ s.checkpoint.isTerminal = false
        ∧ call s = .ok s' ∧ test.onActive id call = (.ok (), ⟨some s'⟩) := by
  unfold onActive
  cases hactive : test.activeSession id with
  | error error => exact .inl ⟨error, rfl⟩
  | ok s =>
    obtain ⟨hs, hid, hover⟩ := activeSession_ok hactive
    cases hcall : call s with
    | error error => exact .inl ⟨error, by simp only [hcall]⟩
    | ok s' => exact .inr ⟨s, s', hs, hid, hover, hcall, by simp only [hcall]⟩

theorem refused_done (op : Op) (error : RoundTripErrorCode) :
    Turn test op (.done (.error error)) test := .refused op _ nofun nofun nofun

theorem refused_ended (op : Op) : Turn test op (.ended false) test := .refused op _ nofun nofun nofun

theorem start_turn (preconditions : RoundTripPreconditions) (atMs : Nat) (id : Uuid) :
    Turn test (.start preconditions atMs id) (test.apply (.start preconditions atMs id)).1
      (test.apply (.start preconditions atMs id)).2 := by
  simp only [apply, start]
  split
  · exact .refused _ _ nofun nofun nofun
  · next hover =>
    cases validatePreconditions preconditions with
    | error error => exact .refused _ _ nofun nofun nofun
    | ok u =>
      refine .started preconditions atMs id fun s hs => ?_
      simpa [hs] using hover

theorem advance_turn (id : Uuid) (checkpoint : RoundTripCheckpoint) (latency : RoundTripLatency) :
    Turn test (.advance id checkpoint latency) (test.apply (.advance id checkpoint latency)).1
      (test.apply (.advance id checkpoint latency)).2 := by
  simp only [apply, advance]
  rcases test.onActive_cases id fun s => s.advance checkpoint latency with
    ⟨error, h⟩ | ⟨s, s', hs, rfl, -, hcall, h⟩
  · rw [h]
    exact refused_done _ _
  · rw [h]
    unfold Session.advance at hcall
    split at hcall
    · cases hcall
    · next hok =>
      cases hcall
      rw [not_or, not_not] at hok
      obtain ⟨hnext, hproof⟩ := hok
      refine .advanced s checkpoint latency hs hnext fun hat => ?_
      rw [not_and, not_or] at hproof
      obtain ⟨hmonitor, hexact⟩ := hproof hat
      refine ⟨hmonitor, ?_⟩
      cases hpcm : s.exactPcm with
      | none => simp [hpcm] at hexact
      | some proof => exact ⟨proof, rfl, by simpa [hpcm] using hexact⟩

theorem apply_turn (test : RoundTripSelfTest) (op : Op) :
    Turn test op (test.apply op).1 (test.apply op).2 := by
  cases op with
  | start preconditions atMs id => exact start_turn preconditions atMs id
  | advance id checkpoint latency => exact advance_turn id checkpoint latency
  | recordRecursionTrigger id =>
    simp only [apply, recordRecursionTrigger]
    split
    · exact refused_done _ _
    · next s hs =>
      split
      · exact refused_done _ _
      · next hid =>
        obtain rfl := not_not.mp hid
        exact .counted s _ hs
  | setExactPcmProof id proof =>
    simp only [apply, setExactPcmProof]
    rcases test.onActive_cases id _ with ⟨error, h⟩ | ⟨s, s', hs, rfl, -, hcall, h⟩
    · rw [h]
      exact refused_done _ _
    · rw [h]
      split at hcall
      · cases hcall
      · next hok =>
        cases hcall
        rw [not_or, not_not, Bool.not_eq_false] at hok
        exact .proved s proof hs hok.1 hok.2
  | setDebugText id transcript translation =>
    simp only [apply, setDebugText]
    rcases test.onActive_cases id _ with ⟨error, h⟩ | ⟨s, s', hs, rfl, hactive, hcall, h⟩
    · rw [h]
      exact refused_done _ _
    · rw [h]
      cases hcall
      exact .noted s transcript translation hs hactive
  | stop id =>
    simp only [apply, stop]
    split
    · exact refused_ended _
    · next s hs =>
      split
      · exact refused_ended _
      · next hok =>
        rw [not_or, not_not, Bool.not_eq_true] at hok
        obtain ⟨rfl, hactive⟩ := hok
        exact .ended _ s .stopped s.safeError hs (.inl rfl) hactive (.inr rfl)
  | fail id error =>
    simp only [apply, fail]
    split
    · exact refused_ended _
    · next s hactive =>
      obtain ⟨hs, rfl, hover⟩ := activeSession_ok hactive
      exact .ended _ s .failed (some error) hs (.inl rfl) hover (.inl rfl)
  | expire atMs =>
    simp only [apply, expire]
    split
    · exact refused_ended _
    · next s hs =>
      split
      · exact refused_ended _
      · next hok =>
        rw [not_or, Bool.not_eq_true] at hok
        exact .ended _ s .stopped (some .timeout) hs (.inr rfl) hok.1 (.inr rfl)

/-! ### The way to the end -/

/-- What a session has come by. -/
inductive Milestone where
  | reached (checkpoint : RoundTripCheckpoint)
  | proved (proof : ExactPcmProof)
  deriving DecidableEq

/-- The milestones of the session that was started last. -/
def pass (milestones : List Milestone) : Op × Answer → List Milestone
  | (.start .., .started (.ok _)) => []
  | (.advance _ checkpoint _, .done (.ok ())) => milestones ++ [.reached checkpoint]
  | (.setExactPcmProof _ proof, .done (.ok ())) => milestones ++ [.proved proof]
  | _ => milestones

def milestones (log : List (Op × Answer)) : List Milestone := log.foldl pass []

/-- The checkpoints among them. -/
def reached (milestones : List Milestone) : List RoundTripCheckpoint :=
  milestones.filterMap fun
    | .reached checkpoint => some checkpoint
    | .proved _ => none

/-- The checkpoints between the start and this one. -/
def passed : RoundTripCheckpoint → List RoundTripCheckpoint
  | .waitingForSpeech | .failed | .stopped => []
  | .outgoingVad => [.outgoingVad]
  | .outgoingAsrFinal => [.outgoingVad, .outgoingAsrFinal]
  | .outgoingTranslationFinal => [.outgoingVad, .outgoingAsrFinal, .outgoingTranslationFinal]
  | .englishFirstAudio =>
    [.outgoingVad, .outgoingAsrFinal, .outgoingTranslationFinal, .englishFirstAudio]
  | .virtualPeerReinjecting =>
    [.outgoingVad, .outgoingAsrFinal, .outgoingTranslationFinal, .englishFirstAudio,
      .virtualPeerReinjecting]
  | .incomingAsrFinal =>
    [.outgoingVad, .outgoingAsrFinal, .outgoingTranslationFinal, .englishFirstAudio,
      .virtualPeerReinjecting, .incomingAsrFinal]
  | .incomingTranslationFinal =>
    [.outgoingVad, .outgoingAsrFinal, .outgoingTranslationFinal, .englishFirstAudio,
      .virtualPeerReinjecting, .incomingAsrFinal, .incomingTranslationFinal]
  | .russianFirstAudio =>
    [.outgoingVad, .outgoingAsrFinal, .outgoingTranslationFinal, .englishFirstAudio,
      .virtualPeerReinjecting, .incomingAsrFinal, .incomingTranslationFinal, .russianFirstAudio]
  | .completed =>
    [.outgoingVad, .outgoingAsrFinal, .outgoingTranslationFinal, .englishFirstAudio,
      .virtualPeerReinjecting, .incomingAsrFinal, .incomingTranslationFinal, .russianFirstAudio,
      .completed]

theorem passed_next {c c' : RoundTripCheckpoint} (h : c.next = some c') :
    passed c' = passed c ++ [c'] := by
  cases c <;> cases h <;> rfl

/-- A proof was stored at `EnglishFirstAudio`. -/
def Proving (ms : List Milestone) (proof : ExactPcmProof) : Prop :=
  ∃ before after, ms = before ++ .reached .englishFirstAudio :: after ∧ .proved proof ∈ after

/-- A proof was stored between `EnglishFirstAudio` and the reinjection. -/
def Proved (ms : List Milestone) (proof : ExactPcmProof) : Prop :=
  ∃ before after later,
    ms = before ++ .reached .englishFirstAudio :: after ++ .reached .virtualPeerReinjecting :: later
      ∧ .proved proof ∈ after

/-- How a session has come to its checkpoint. -/
structure Followed (s : Session) (ms : List Milestone) : Prop where
  path : s.checkpoint ≠ .failed → s.checkpoint ≠ .stopped → reached ms = passed s.checkpoint
  early : s.checkpoint ≠ .failed → s.checkpoint ≠ .stopped →
    .englishFirstAudio ∉ passed s.checkpoint → s.exactPcm = none
  arrived : s.checkpoint = .englishFirstAudio →
    ∃ before after, ms = before ++ .reached .englishFirstAudio :: after
  proving : s.checkpoint = .englishFirstAudio → ∀ proof, s.exactPcm = some proof →
    proof.exactMatch = true ∧ Proving ms proof
  proved : .virtualPeerReinjecting ∈ passed s.checkpoint →
    s.latency.englishMonitorCompleteMs ≠ none
      ∧ ∃ proof, s.exactPcm = some proof ∧ proof.exactMatch = true ∧ Proved ms proof
  silent : s.checkpoint = .failed ∨ s.checkpoint = .stopped → s.debugText = none

theorem mergeLatency_monitor {current update : RoundTripLatency}
    (h : current.englishMonitorCompleteMs ≠ none ∨ update.englishMonitorCompleteMs ≠ none) :
    (mergeLatency current update).englishMonitorCompleteMs ≠ none := by
  unfold mergeLatency
  cases hu : update.englishMonitorCompleteMs with
  | some ms => simp
  | none => simpa [hu] using h

section Milestones

variable {s : Session} {ms : List Milestone}

theorem reached_concat (ms : List Milestone) (m : Milestone) :
    reached (ms ++ [m]) = reached ms ++ reached [m] := by
  unfold reached
  rw [List.filterMap_append]

theorem proving_concat {proof : ExactPcmProof} (h : Proving ms proof) (m : Milestone) :
    Proving (ms ++ [m]) proof := by
  obtain ⟨before, after, rfl, hmem⟩ := h
  exact ⟨before, after ++ [m], by simp, List.mem_append_left _ hmem⟩

theorem proved_concat {proof : ExactPcmProof} (h : Proved ms proof) (m : Milestone) :
    Proved (ms ++ [m]) proof := by
  obtain ⟨before, after, later, rfl, hmem⟩ := h
  exact ⟨before, after, later ++ [m], by simp, hmem⟩

theorem proved_of_proving {proof : ExactPcmProof} (h : Proving ms proof) :
    Proved (ms ++ [.reached .virtualPeerReinjecting]) proof := by
  obtain ⟨before, after, rfl, hmem⟩ := h
  exact ⟨before, after, [], by simp, hmem⟩

theorem followed_advanced {checkpoint : RoundTripCheckpoint} {latency : RoundTripLatency}
    (h : Followed s ms) (hnext : s.checkpoint.next = some checkpoint)
    (hproof : checkpoint = .virtualPeerReinjecting → latency.englishMonitorCompleteMs ≠ none
      ∧ ∃ proof, s.exactPcm = some proof ∧ proof.exactMatch = true) :
    Followed { s with checkpoint := checkpoint, latency := mergeLatency s.latency latency }
      (ms ++ [.reached checkpoint]) := by
  have hlive : s.checkpoint ≠ .failed ∧ s.checkpoint ≠ .stopped := by
    constructor <;> intro heq <;> rw [heq] at hnext <;> cases hnext
  have hpassed := passed_next hnext
  refine ⟨fun _ _ => ?_, fun _ _ hnot => ?_, fun heq => ?_, fun heq proof hpcm => ?_, fun hmem => ?_,
    fun hend => ?_⟩
  · rw [reached_concat, h.path hlive.1 hlive.2, hpassed]
    rfl
  · refine h.early hlive.1 hlive.2 fun hold => hnot ?_
    rw [hpassed]
    exact List.mem_append_left _ hold
  · obtain rfl : checkpoint = .englishFirstAudio := heq
    exact ⟨ms, [], rfl⟩
  · -- no proof is stored before `EnglishFirstAudio`
    obtain rfl : checkpoint = .englishFirstAudio := heq
    have hnone : s.exactPcm = none := by
      refine h.early hlive.1 hlive.2 ?_
      revert hnext
      cases s.checkpoint <;> decide
    rw [show s.exactPcm = some proof from hpcm] at hnone
    cases hnone
  · by_cases hat : checkpoint = .virtualPeerReinjecting
    · subst hat
      obtain ⟨hmonitor, proof, hpcm, hexact⟩ := hproof rfl
      have hbefore : s.checkpoint = .englishFirstAudio := by
        revert hnext
        cases s.checkpoint <;> decide
      exact ⟨mergeLatency_monitor (.inr hmonitor), proof, hpcm, hexact,
        proved_of_proving (h.proving hbefore proof hpcm).2⟩
    · have hold : .virtualPeerReinjecting ∈ passed s.checkpoint := by
        rw [hpassed] at hmem
        rcases List.mem_append.mp hmem with hold | hnew
        · exact hold
        · exact absurd (List.mem_singleton.mp hnew).symm hat
      obtain ⟨hmonitor, proof, hpcm, hexact, hpr⟩ := h.proved hold
      exact ⟨mergeLatency_monitor (.inl hmonitor), proof, hpcm, hexact, proved_concat hpr _⟩
  · -- no checkpoint leads to `Failed` or `Stopped`
    revert hnext
    rcases hend with hend | hend <;>
      (obtain rfl := hend; cases s.checkpoint <;> simp [RoundTripCheckpoint.next])

theorem followed_proved {proof : ExactPcmProof} (h : Followed s ms)
    (hat : s.checkpoint = .englishFirstAudio) (hexact : proof.exactMatch = true) :
    Followed { s with exactPcm := some proof } (ms ++ [.proved proof]) := by
  obtain ⟨before, after, hms⟩ := h.arrived hat
  have hproving : Proving (ms ++ [.proved proof]) proof :=
    ⟨before, after ++ [.proved proof], by rw [hms]; simp, by simp⟩
  refine ⟨fun hf hs => ?_, fun _ _ hnot => ?_, fun _ => ?_, fun _ other hother => ?_, fun hmem => ?_,
    h.silent⟩
  · rw [reached_concat, h.path hf hs]
    exact List.append_nil _
  · rw [show s.checkpoint = _ from hat] at hnot
    exact absurd (by decide) hnot
  · exact ⟨before, after ++ [.proved proof], by rw [hms]; simp⟩
  · cases hother
    exact ⟨hexact, hproving⟩
  · rw [show s.checkpoint = _ from hat] at hmem
    exact absurd hmem (by decide)

theorem followed_ended {checkpoint : RoundTripCheckpoint} {error : Option RoundTripErrorCode}
    (hend : checkpoint = .failed ∨ checkpoint = .stopped) :
    Followed { s with checkpoint := checkpoint, safeError := error, debugText := none } ms := by
  rcases hend with rfl | rfl
  · exact ⟨fun hne _ => absurd rfl hne, fun hne _ => absurd rfl hne, nofun, nofun, nofun, fun _ => rfl⟩
  · exact ⟨fun _ hne => absurd rfl hne, fun _ hne => absurd rfl hne, nofun, nofun, nofun, fun _ => rfl⟩

end Milestones

/-- The session, when there is one, is followed by the milestones. -/
def Tracked (test : RoundTripSelfTest) (ms : List Milestone) : Prop :=
  ∀ s, test.session = some s → Followed s ms

/-- A call that is turned away passes no milestone. -/
theorem pass_refused {op : Op} {answer : Answer} (ms : List Milestone)
    (hstart : ∀ id, answer ≠ .started (.ok id)) (hdone : answer ≠ .done (.ok ())) :
    pass ms (op, answer) = ms := by
  unfold pass
  split
  · next heq => exact absurd (congrArg Prod.snd heq) (hstart _)
  · next heq => exact absurd (congrArg Prod.snd heq) hdone
  · next heq => exact absurd (congrArg Prod.snd heq) hdone
  · rfl

theorem tracked_turn {op : Op} {answer : Answer} {test' : RoundTripSelfTest} {ms : List Milestone}
    (h : Tracked test ms) (ht : Turn test op answer test') : Tracked test' (pass ms (op, answer)) := by
  cases ht with
  | refused op answer hstart hdone hended => rwa [pass_refused ms hstart hdone]
  | started preconditions atMs id hover =>
    rintro _ ⟨⟩
    exact ⟨fun _ _ => rfl, fun _ _ _ => rfl, nofun, nofun, nofun, nofun⟩
  | advanced s checkpoint latency hs hnext hproof =>
    rintro _ ⟨⟩
    exact followed_advanced (h s hs) hnext hproof
  | counted s count hs =>
    rintro _ ⟨⟩
    have hf := h s hs
    exact ⟨hf.path, hf.early, hf.arrived, hf.proving, hf.proved, hf.silent⟩
  | proved s proof hs hat hexact =>
    rintro _ ⟨⟩
    exact followed_proved (h s hs) hat hexact
  | noted s transcript translation hs hactive =>
    rintro _ ⟨⟩
    have hf := h s hs
    refine ⟨hf.path, hf.early, hf.arrived, hf.proving, hf.proved, fun hend => ?_⟩
    rcases hend with hend | hend <;>
      (rw [show s.checkpoint = _ from hend] at hactive; cases hactive)
  | ended op s checkpoint error hs hop hactive hend =>
    rintro _ ⟨⟩
    exact followed_ended hend

/-- A terminal session stays at its checkpoint until another one is started. -/
theorem terminal_turn {op : Op} {answer : Answer} {test' : RoundTripSelfTest} {s : Session}
    (ht : Turn test op answer test') (hs : test.session = some s)
    (hover : s.checkpoint.isTerminal = true) (hstart : ∀ id, answer ≠ .started (.ok id)) :
    ∃ s', test'.session = some s' ∧ s'.id = s.id ∧ s'.checkpoint = s.checkpoint := by
  cases ht with
  | refused => exact ⟨s, hs, rfl, rfl⟩
  | started preconditions atMs id => exact absurd rfl (hstart id)
  | advanced s₁ checkpoint latency hs₁ hnext =>
    obtain rfl : s₁ = s := Option.some.inj (hs₁.symm.trans hs)
    revert hnext hover
    cases s₁.checkpoint <;> simp [RoundTripCheckpoint.next, RoundTripCheckpoint.isTerminal]
  | counted s₁ count hs₁ =>
    obtain rfl : s₁ = s := Option.some.inj (hs₁.symm.trans hs)
    exact ⟨_, rfl, rfl, rfl⟩
  | proved s₁ proof hs₁ hat =>
    obtain rfl : s₁ = s := Option.some.inj (hs₁.symm.trans hs)
    rw [hat] at hover
    cases hover
  | noted s₁ transcript translation hs₁ hactive =>
    obtain rfl : s₁ = s := Option.some.inj (hs₁.symm.trans hs)
    rw [hactive] at hover
    cases hover
  | ended op s₁ checkpoint error hs₁ hop hactive =>
    obtain rfl : s₁ = s := Option.some.inj (hs₁.symm.trans hs)
    rw [hactive] at hover
    cases hover

theorem terminal_run {s : Session} (hs : test.session = some s)
    (hover : s.checkpoint.isTerminal = true) (ops : List Op)
    (hstart : ∀ entry ∈ (exec apply test ops).1, ∀ id, entry.2 ≠ .started (.ok id)) :
    ∃ s', (exec apply test ops).2.session = some s' ∧ s'.id = s.id
      ∧ s'.checkpoint = s.checkpoint := by
  induction ops using List.reverseRecOn with
  | nil => exact ⟨s, hs, rfl, rfl⟩
  | append_singleton ops op ih =>
    rw [exec_concat] at hstart ⊢
    obtain ⟨s₁, hs₁, hid, hcheckpoint⟩ := ih fun entry hentry =>
      hstart entry (List.mem_append_left _ hentry)
    obtain ⟨s₂, hs₂, hid₂, hcheckpoint₂⟩ := terminal_turn (apply_turn _ op) hs₁
      (by rw [hcheckpoint]; exact hover)
      (hstart _ (List.mem_append_right _ (List.mem_singleton_self _)))
    exact ⟨s₂, hs₂, hid₂.trans hid, hcheckpoint₂.trans hcheckpoint⟩

/-- While a session is on, another one is refused. -/
theorem start_refused {s : Session} (hs : test.session = some s)
    (hactive : s.checkpoint.isTerminal = false) (preconditions : RoundTripPreconditions)
    (atMs : Nat) (id : Uuid) :
    test.apply (.start preconditions atMs id) = (.started (.error .alreadyRunning), test) := by
  simp [apply, start, hs, hactive]

/-- A call for another session changes nothing. -/
theorem other_session {op : Op} {answer : Answer} {test' : RoundTripSelfTest} {id : Uuid}
    (ht : Turn test op answer test') (hop : op.sessionId = some id)
    (hother : ∀ s, test.session = some s → s.id ≠ id) : test' = test := by
  cases ht with
  | refused => rfl
  | started => cases hop
  | advanced s _ _ hs => cases hop; exact absurd rfl (hother s hs)
  | counted s _ hs => cases hop; exact absurd rfl (hother s hs)
  | proved s _ hs => cases hop; exact absurd rfl (hother s hs)
  | noted s _ _ hs => cases hop; exact absurd rfl (hother s hs)
  | ended op s checkpoint error hs hmine =>
    rw [hop] at hmine
    rcases hmine with hmine | hmine
    · cases hmine
      exact absurd rfl (hother s hs)
    · cases hmine

/-- In every run: a session that is completed has passed every checkpoint in order, with an exact proof
    stored before the reinjection; a session that is over stays so until another is started, and
    another is started only then; nothing is changed for another session; and a session that was
    stopped, failed or expired has no debug text. -/
theorem run_passes (ops : List Op) :
    let test := (exec apply default ops).2
    let ms := milestones (exec apply default ops).1
    (∀ s, test.session = some s → s.checkpoint = .completed →
        reached ms = passed .completed ∧ s.latency.englishMonitorCompleteMs ≠ none
          ∧ ∃ proof, s.exactPcm = some proof ∧ proof.exactMatch = true ∧ Proved ms proof)
      ∧ (∀ s, test.session = some s → s.checkpoint.isTerminal = true → ∀ more,
        (∀ entry ∈ (exec apply test more).1, ∀ id, entry.2 ≠ .started (.ok id)) →
        ∃ s', (exec apply test more).2.session = some s' ∧ s'.id = s.id
          ∧ s'.checkpoint = s.checkpoint)
      ∧ (∀ s, test.session = some s → s.checkpoint.isTerminal = false →
        ∀ preconditions atMs id, test.apply (.start preconditions atMs id)
          = (.started (.error .alreadyRunning), test))
      ∧ (∀ op : Op, ∀ id, op.sessionId = some id → (∀ s, test.session = some s → s.id ≠ id) →
        (test.apply op).2 = test)
      ∧ (∀ s, test.session = some s → s.checkpoint = .failed ∨ s.checkpoint = .stopped →
        s.debugText = none)
      ∧ (∀ op : Op, (test.apply op).1 = .ended true → ∃ s, (test.apply op).2.session = some s
        ∧ (s.checkpoint = .failed ∨ s.checkpoint = .stopped) ∧ s.debugText = none) := by
  intro test ms
  have htracked : Tracked test ms := by
    refine exec_invariant (I := fun log (test : RoundTripSelfTest) => Tracked test (milestones log))
      (fun s hs => by cases hs) ?_ ops (adm_true apply default ops)
    rintro log test op h -
    have hstep := tracked_turn h (apply_turn test op)
    unfold milestones at hstep ⊢
    rwa [List.foldl_append]
  refine ⟨fun s hs hcompleted => ?_, fun s hs hover more hstart => terminal_run hs hover more hstart,
    fun s hs hactive preconditions atMs id => start_refused hs hactive preconditions atMs id,
    fun op id hop hother => other_session (apply_turn test op) hop hother,
    fun s hs hend => (htracked s hs).silent hend, fun op hended => ?_⟩
  · have hf := htracked s hs
    refine ⟨?_, hf.proved (by rw [hcompleted]; decide)⟩
    rw [hf.path (by rw [hcompleted]; decide) (by rw [hcompleted]; decide), hcompleted]
  · have hturn := apply_turn test op
    rw [hended] at hturn
    generalize hanswer : Answer.ended true = answer at hturn
    generalize (test.apply op).2 = test' at hturn
    cases hturn with
    | refused _ _ _ _ hnot => exact absurd hanswer.symm hnot
    | ended op s checkpoint error hs hop hactive hend => exact ⟨_, rfl, hend, rfl⟩
    | _ => cases hanswer

end RoundTripSelfTest

end Translator.Control
