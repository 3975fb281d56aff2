import Translator.Graph.Modules
import Translator.Graph.Ownership
import Translator.Schemes.Run

/-! `PulseDeviceWatcher`: which physical source and sink the translator works with.

    A call of `reconcile` looks at the devices and moves the pins on; it returns either an error, with
    the watcher as it was, or the state of the devices. What `serde_json` makes of a listing is a
    parameter, and what the commands and the graph validator answer is an argument of the call. The
    model keeps what the validator was asked. -/

namespace Translator.Audio
open Schemes
open Graph (CommandResult CommandRunError collect fromUtf8)
open Routing (trim toAsciiLowercase eqIgnoreAsciiCase startsWith endsWith containsText)

inductive AecCapability where
  | unavailable | availableUnvalidated | validationFailed
  | validatedFor (sourceName sinkName : String)
  deriving DecidableEq, Repr

inductive DeviceHealth where | available | deviceUnavailable
  deriving DecidableEq, Repr

inductive OutputMode where | headphones | openSpeaker | unknownUnsafe
  deriving DecidableEq, Repr

inductive AcousticWarning where
  | deviceUnavailable | aecNotValidated | aecValidationFailed | unknownOutput
  deriving DecidableEq, Repr

structure PhysicalDevice where
  id : Nat
  name : String
  description : String
  activePort : Option String
  activePortType : Option String
  available : Bool
  deriving DecidableEq, Repr

structure DeviceSelectionState where
  health : DeviceHealth
  selected : Option PhysicalDevice
  pinnedName : Option String
  currentDefault : Option String
  pendingDefault : Option String
  deriving DecidableEq, Repr

structure AcousticSafety where
  mode : OutputMode
  aecCapability : AecCapability
  fullDuplexAllowed : Bool
  warning : Option AcousticWarning
  deriving DecidableEq, Repr

structure DeviceState where
  source : DeviceSelectionState
  sink : DeviceSelectionState
  acoustic : AcousticSafety
  deriving DecidableEq, Repr

structure DeviceOverride where
  sourceName : Option String
  sinkName : Option String
  deriving DecidableEq, Repr

inductive DeviceWatcherErrorCode where
  | discoveryFailed | invalidPhysicalDevice | graphValidationFailed
  deriving DecidableEq, Repr

/-- The message and whether to try again, as `DeviceWatcherError::new` has them. -/
def DeviceWatcherErrorCode.status : DeviceWatcherErrorCode → String × Bool
  | .discoveryFailed => ("Audio device discovery failed", true)
  | .invalidPhysicalDevice => ("Selected physical audio device is unavailable", false)
  | .graphValidationFailed => ("Physical audio sink validation failed", true)

/-! ### Listings -/

structure RawPort where
  name : String
  portType : String
  availability : String
  deriving DecidableEq, Repr

structure RawDevice where
  index : Nat
  name : String
  description : String
  state : String
  properties : Table String String
  ports : List RawPort
  activePort : Option String

def isPhysicalSink (device : RawDevice) : Bool :=
  !startsWith device.name "translator_" && !endsWith device.name ".monitor"
    && (device.properties.lookup "device.class").all fun cls => !eqIgnoreAsciiCase cls "monitor"

def isPhysicalSource (device : RawDevice) : Bool :=
  isPhysicalSink device && !endsWith device.name ".monitor"
    && (device.properties.lookup "media.class").all fun cls => eqIgnoreAsciiCase cls "Audio/Source"

def deviceAvailable (device : RawDevice) : Bool :=
  if eqIgnoreAsciiCase device.state "unavailable" then false
  else
    match device.activePort.filter (· ≠ "") with
    | none => true
    | some activePort =>
      if device.ports.isEmpty then true
      else
        (device.ports.find? (·.name = activePort)).all fun port =>
          !eqIgnoreAsciiCase port.availability "not available"

/-- `PhysicalDevice::from`. -/
def physicalDevice (device : RawDevice) : PhysicalDevice :=
  let activePort := device.activePort.filter (· ≠ "")
  { id := device.index
    name := device.name
    description := device.description
    activePort := activePort
    activePortType :=
      ((device.ports.find? fun port => some port.name = activePort).map fun port =>
        trim port.portType).filter (· ≠ "")
    available := deviceAvailable device }

def classifyOutputMode (device : PhysicalDevice) : OutputMode :=
  let portName := toAsciiLowercase (device.activePort.getD "")
  let portType := toAsciiLowercase (device.activePortType.getD "")
  if containsText portName "headphone" || containsText portType "headphone" then .headphones
  else if containsText portName "speaker" || containsText portType "speaker" then .openSpeaker
  else .unknownUnsafe

structure DeviceSnapshot where
  defaultSink : String
  defaultSource : String
  sinks : Table String PhysicalDevice
  sources : Table String PhysicalDevice

/-- What the commands of one call come to. -/
structure PactlAnswers where
  defaultSink : Except CommandRunError CommandResult
  defaultSource : Except CommandRunError CommandResult
  sinks : Except CommandRunError CommandResult
  sources : Except CommandRunError CommandResult

/-- A call of `reconcile`, with what it meets. -/
structure ReconcileCall where
  deviceOverride : DeviceOverride
  pactl : PactlAnswers
  /-- The graph validator's answers. -/
  validates : PhysicalDevice → Bool

def run (answer : Except CommandRunError CommandResult) :
    Except DeviceWatcherErrorCode CommandResult :=
  match answer with
  | .error _ => .error .discoveryFailed
  | .ok result => if result.success then .ok result else .error .discoveryFailed

def runText (answer : Except CommandRunError CommandResult) : Except DeviceWatcherErrorCode String := do
  let result ← run answer
  match ((fromUtf8 result.stdout).map trim).filter (· ≠ "") with
  | none => .error .discoveryFailed
  | some value => .ok value

section Watching

-- `serde_json::from_slice`
variable (decode : List UInt8 → Option (List RawDevice))

def runJson (answer : Except CommandRunError CommandResult) :
    Except DeviceWatcherErrorCode (List RawDevice) := do
  let result ← run answer
  match decode result.stdout with
  | none => .error .discoveryFailed
  | some devices => .ok devices

/-- The devices by their names; of two with one name the last one stays. -/
def byName (devices : List RawDevice) : Table String PhysicalDevice :=
  collect ((devices.map physicalDevice).map fun device => (device.name, device))

def inspect (pactl : PactlAnswers) : Except DeviceWatcherErrorCode DeviceSnapshot := do
  let defaultSink ← runText pactl.defaultSink
  let defaultSource ← runText pactl.defaultSource
  let rawSinks ← runJson decode pactl.sinks
  let rawSources ← runJson decode pactl.sources
  .ok {
    defaultSink := defaultSink
    defaultSource := defaultSource
    sinks := byName (rawSinks.filter isPhysicalSink)
    sources := byName (rawSources.filter isPhysicalSource) }

/-! ### The watcher -/

structure PulseDeviceWatcher where
  aecCapability : AecCapability
  explicitHeadphoneSink : Option String
  pinnedSourceName : Option String
  pinnedSinkName : Option String
  sinkValidationRequired : Bool
  deriving DecidableEq, Repr

/-- `with_validator` and `with_explicit_headphone_sink`. -/
def PulseDeviceWatcher.new (aecCapability : AecCapability) (explicitHeadphoneSink : Option String) :
    PulseDeviceWatcher := ⟨aecCapability, explicitHeadphoneSink, none, none, true⟩

/-- What a call comes to, and what it asked the graph validator. -/
structure Reconciled where
  result : Except DeviceWatcherErrorCode DeviceState
  asked : List (PhysicalDevice × Bool)
  watcher : PulseDeviceWatcher

/-- `devices.get(name)` when it is available. -/
def availableDevice (devices : Table String PhysicalDevice) (name : String) : Option PhysicalDevice :=
  (devices.lookup name).filter PhysicalDevice.available

def selectionState (pinnedName : Option String) (currentDefault : String)
    (devices : Table String PhysicalDevice) : DeviceSelectionState :=
  let selected := pinnedName.bind devices.lookup
  let defaultIsPhysical := decide (currentDefault ∈ devices)
  { health := if selected.any PhysicalDevice.available then .available else .deviceUnavailable
    selected := selected
    pinnedName := pinnedName
    currentDefault := if defaultIsPhysical then some currentDefault else none
    pendingDefault := pinnedName.bind fun pinned =>
      if defaultIsPhysical && currentDefault ≠ pinned then some currentDefault else none }

namespace PulseDeviceWatcher

variable (w : PulseDeviceWatcher)

/-- The source pin a call proposes. -/
def proposeSource (snapshot : DeviceSnapshot) (deviceOverride : DeviceOverride) :
    Except DeviceWatcherErrorCode (Option String) :=
  match deviceOverride.sourceName with
  | some sourceName =>
    match availableDevice snapshot.sources sourceName with
    | some _ => .ok (some sourceName)
    | none => .error .invalidPhysicalDevice
  | none =>
    if w.pinnedSourceName.isNone && (availableDevice snapshot.sources snapshot.defaultSource).isSome then
      .ok (some snapshot.defaultSource)
    else .ok w.pinnedSourceName

/-- The sink pin a call proposes and whether it is still to be validated, and what was asked. -/
def proposeSink (snapshot : DeviceSnapshot) (call : ReconcileCall) :
    Except DeviceWatcherErrorCode (Option String × Bool) × List (PhysicalDevice × Bool) :=
  match call.deviceOverride.sinkName with
  | some sinkName =>
    match availableDevice snapshot.sinks sinkName with
    | none => (.error .invalidPhysicalDevice, [])
    | some device =>
      (if call.validates device then .ok (some sinkName, false) else .error .graphValidationFailed,
        [(device, call.validates device)])
  | none =>
    match w.pinnedSinkName with
    | some pinnedSinkName =>
      match availableDevice snapshot.sinks pinnedSinkName with
      | none => (.ok (some pinnedSinkName, true), [])
      | some sink =>
        if w.sinkValidationRequired then
          (if call.validates sink then .ok (some pinnedSinkName, false)
            else .error .graphValidationFailed, [(sink, call.validates sink)])
        else (.ok (some pinnedSinkName, false), [])
    | none =>
      match availableDevice snapshot.sinks snapshot.defaultSink with
      | none => (.ok (none, w.sinkValidationRequired), [])
      | some defaultSink =>
        (if call.validates defaultSink then .ok (some snapshot.defaultSink, false)
          else .error .graphValidationFailed, [(defaultSink, call.validates defaultSink)])

def acousticSafety (source sink : DeviceSelectionState) : AcousticSafety :=
  let mode := match sink.selected with
    | none => .unknownUnsafe
    | some device =>
      if w.explicitHeadphoneSink = some device.name then .headphones else classifyOutputMode device
  let safety (allowed : Bool) (warning : Option AcousticWarning) : AcousticSafety :=
    ⟨mode, w.aecCapability, allowed, warning⟩
  if source.health ≠ .available ∨ sink.health ≠ .available then safety false (some .deviceUnavailable)
  else
    match mode with
    | .headphones => safety true none
    | .unknownUnsafe => safety false (some .unknownOutput)
    | .openSpeaker =>
      match w.aecCapability with
      | .validatedFor sourceName sinkName =>
        if source.selected.map PhysicalDevice.name = some sourceName
            ∧ sink.selected.map PhysicalDevice.name = some sinkName then
          safety true none
        else safety false (some .aecNotValidated)
      | .validationFailed => safety false (some .aecValidationFailed)
      | _ => safety false (some .aecNotValidated)

/-- The state a call returns once the pins are set. -/
def state (snapshot : DeviceSnapshot) : DeviceState :=
  let source := selectionState w.pinnedSourceName snapshot.defaultSource snapshot.sources
  let sink := selectionState w.pinnedSinkName snapshot.defaultSink snapshot.sinks
  ⟨source, sink, w.acousticSafety source sink⟩

def reconcile (call : ReconcileCall) : Reconciled :=
  match inspect decode call.pactl with
  | .error error => ⟨.error error, [], w⟩
  | .ok snapshot =>
    match w.proposeSource snapshot call.deviceOverride with
    | .error error => ⟨.error error, [], w⟩
    | .ok pinnedSourceName =>
      match w.proposeSink snapshot call with
      | (.error error, asked) => ⟨.error error, asked, w⟩
      | (.ok (pinnedSinkName, sinkValidationRequired), asked) =>
        let w := { w with
          pinnedSourceName := pinnedSourceName
          pinnedSinkName := pinnedSinkName
          sinkValidationRequired := sinkValidationRequired }
        ⟨.ok (w.state snapshot), asked, w⟩

/-! ### What a call can do -/

/-- How the source pin moves. -/
inductive SourceMove (w : PulseDeviceWatcher) (snapshot : DeviceSnapshot)
    (deviceOverride : DeviceOverride) : Option String → Prop
  | overridden (name : String) (device : PhysicalDevice) (h : deviceOverride.sourceName = some name)
      (havailable : availableDevice snapshot.sources name = some device) :
      SourceMove w snapshot deviceOverride (some name)
  | adopted (device : PhysicalDevice) (h : deviceOverride.sourceName = none)
      (hunset : w.pinnedSourceName = none)
      (havailable : availableDevice snapshot.sources snapshot.defaultSource = some device) :
      SourceMove w snapshot deviceOverride (some snapshot.defaultSource)
  | kept : SourceMove w snapshot deviceOverride w.pinnedSourceName

/-- How the sink pin moves, what the validator was asked, and whether it is still to be asked. -/
inductive SinkMove (w : PulseDeviceWatcher) (snapshot : DeviceSnapshot) (call : ReconcileCall) :
    List (PhysicalDevice × Bool) → Option String → Bool → Prop
  | overridden (name : String) (device : PhysicalDevice)
      (h : call.deviceOverride.sinkName = some name)
      (havailable : availableDevice snapshot.sinks name = some device)
      (hvalid : call.validates device = true) :
      SinkMove w snapshot call [(device, true)] (some name) false
  | lost (name : String) (h : call.deviceOverride.sinkName = none)
      (hpinned : w.pinnedSinkName = some name)
      (hunavailable : availableDevice snapshot.sinks name = none) :
      SinkMove w snapshot call [] (some name) true
  | regained (name : String) (device : PhysicalDevice)
      (h : call.deviceOverride.sinkName = none) (hpinned : w.pinnedSinkName = some name)
      (havailable : availableDevice snapshot.sinks name = some device)
      (hvalid : call.validates device = true) :
      SinkMove w snapshot call [(device, true)] (some name) false
  | kept (name : String) (device : PhysicalDevice) (h : call.deviceOverride.sinkName = none)
      (hpinned : w.pinnedSinkName = some name)
      (havailable : availableDevice snapshot.sinks name = some device)
      (hvalidated : w.sinkValidationRequired = false) :
      SinkMove w snapshot call [] (some name) false
  | adopted (device : PhysicalDevice) (h : call.deviceOverride.sinkName = none)
      (hunset : w.pinnedSinkName = none)
      (havailable : availableDevice snapshot.sinks snapshot.defaultSink = some device)
      (hvalid : call.validates device = true) :
      SinkMove w snapshot call [(device, true)] (some snapshot.defaultSink) false
  | unset (hunset : w.pinnedSinkName = none) :
      SinkMove w snapshot call [] none w.sinkValidationRequired

variable {w} {snapshot : DeviceSnapshot} {call : ReconcileCall}

theorem proposeSource_move {pinned : Option String}
    (h : w.proposeSource snapshot call.deviceOverride = .ok pinned) :
    SourceMove w snapshot call.deviceOverride pinned := by
  unfold proposeSource at h
  cases hoverride : call.deviceOverride.sourceName with
  | some name =>
    rw [hoverride] at h
    dsimp only at h
    cases havailable : availableDevice snapshot.sources name with
    | none => rw [havailable] at h; cases h
    | some device =>
      rw [havailable] at h
      cases h
      exact .overridden name device hoverride havailable
  | none =>
    rw [hoverride] at h
    dsimp only at h
    split at h
    · next hunset =>
      cases h
      rw [Bool.and_eq_true, Option.isNone_iff_eq_none] at hunset
      obtain ⟨device, havailable⟩ := Option.isSome_iff_exists.mp hunset.2
      exact .adopted device hoverride hunset.1 havailable
    · cases h
      exact .kept

theorem proposeSink_move {pinned : Option String} {required : Bool}
    {asked : List (PhysicalDevice × Bool)}
    (h : w.proposeSink snapshot call = (.ok (pinned, required), asked)) :
    SinkMove w snapshot call asked pinned required := by
  unfold proposeSink at h
  cases hoverride : call.deviceOverride.sinkName with
  | some name =>
    rw [hoverride] at h
    dsimp only at h
    cases havailable : availableDevice snapshot.sinks name with
    | none => rw [havailable] at h; cases h
    | some device =>
      rw [havailable] at h
      dsimp only at h
      cases hvalid : call.validates device with
      | false => rw [hvalid] at h; cases h
      | true =>
        rw [hvalid] at h
        cases h
        exact .overridden name device hoverride havailable hvalid
  | none =>
    rw [hoverride] at h
    dsimp only at h
    cases hpinned : w.pinnedSinkName with
    | some name =>
      rw [hpinned] at h
      dsimp only at h
      cases havailable : availableDevice snapshot.sinks name with
      | none =>
        rw [havailable] at h
        cases h
        exact .lost name hoverride hpinned havailable
      | some device =>
        rw [havailable] at h
        dsimp only at h
        split at h
        · cases hvalid : call.validates device with
          | false => rw [hvalid] at h; cases h
          | true =>
            rw [hvalid] at h
            cases h
            exact .regained name device hoverride hpinned havailable hvalid
        · next hvalidated =>
          cases h
          exact .kept name device hoverride hpinned havailable (by simpa using hvalidated)
    | none =>
      rw [hpinned] at h
      dsimp only at h
      cases havailable : availableDevice snapshot.sinks snapshot.defaultSink with
      | none =>
        rw [havailable] at h
        cases h
        exact .unset hpinned
      | some device =>
        rw [havailable] at h
        dsimp only at h
        cases hvalid : call.validates device with
        | false => rw [hvalid] at h; cases h
        | true =>
          rw [hvalid] at h
          cases h
          exact .adopted device hoverride hpinned havailable hvalid

/-- The inversion lemma: a call fails and changes nothing, or moves the pins. -/
theorem reconcile_cases (w : PulseDeviceWatcher) (call : ReconcileCall) :
    (∃ error asked, w.reconcile decode call = ⟨.error error, asked, w⟩)
      ∨ ∃ snapshot asked source sink required, inspect decode call.pactl = .ok snapshot
        ∧ SourceMove w snapshot call.deviceOverride source
        ∧ SinkMove w snapshot call asked sink required
        ∧ w.reconcile decode call
          = ⟨.ok (PulseDeviceWatcher.state ⟨w.aecCapability, w.explicitHeadphoneSink, source, sink,
              required⟩ snapshot), asked, ⟨w.aecCapability, w.explicitHeadphoneSink, source, sink, required⟩⟩ := by
  unfold reconcile
  cases hinspect : inspect decode call.pactl with
  | error error => exact .inl ⟨error, [], rfl⟩
  | ok snapshot =>
    dsimp only
    cases hsource : w.proposeSource snapshot call.deviceOverride with
    | error error => exact .inl ⟨error, [], rfl⟩
    | ok source =>
      dsimp only
      generalize hsink : w.proposeSink snapshot call = proposed
      obtain ⟨outcome, asked⟩ := proposed
      cases outcome with
      | error error => exact .inl ⟨error, asked, rfl⟩
      | ok pin =>
        exact .inr ⟨snapshot, asked, source, pin.1, pin.2, rfl, proposeSource_move hsource,
          proposeSink_move hsink, rfl⟩

end PulseDeviceWatcher

/-! ### Names -/

theorem lookup_collect_of {K V : Type} [DecidableEq K] {P : K → V → Prop} {pairs : List (K × V)}
    (h : ∀ pair ∈ pairs, P pair.1 pair.2) {key : K} {value : V}
    (hlookup : (collect pairs).lookup key = some value) : P key value := by
  induction pairs using List.reverseRecOn with
  | nil => simp [collect] at hlookup
  | append_singleton pairs pair ih =>
    have hconcat : collect (pairs ++ [pair]) = (collect pairs).insert pair.1 pair.2 := by
      simp [collect, List.foldl_append]
    rw [hconcat, Table.lookup_insert_if] at hlookup
    split at hlookup
    · next hkey =>
      cases hlookup
      rw [hkey]
      exact h pair (by simp)
    · exact ih (fun q hq => h q (List.mem_append_left _ hq)) hlookup

theorem lookup_byName {devices : List RawDevice} {name : String} {device : PhysicalDevice}
    (h : (byName devices).lookup name = some device) : device.name = name := by
  refine lookup_collect_of (P := fun name device => device.name = name) ?_ h
  intro pair hpair
  obtain ⟨device, -, rfl⟩ := List.mem_map.mp hpair
  rfl

/-- The sinks of a snapshot are known by their names. -/
theorem inspect_named {pactl : PactlAnswers} {snapshot : DeviceSnapshot}
    (h : inspect decode pactl = .ok snapshot) {name : String} {device : PhysicalDevice}
    (hdevice : availableDevice snapshot.sinks name = some device) : device.name = name := by
  simp only [inspect, except_bind_ok] at h
  obtain ⟨defaultSink, -, defaultSource, -, rawSinks, -, rawSources, -, hsnapshot⟩ := h
  cases hsnapshot
  exact lookup_byName (Option.filter_eq_some_iff.mp hdevice).1

/-- What a call answered and what it asked the validator. -/
abbrev Answered := Except DeviceWatcherErrorCode DeviceState × List (PhysicalDevice × Bool)

abbrev Entry := ReconcileCall × Answered

def step (w : PulseDeviceWatcher) (call : ReconcileCall) : Answered × PulseDeviceWatcher :=
  (((w.reconcile decode call).result, (w.reconcile decode call).asked), (w.reconcile decode call).watcher)

/-- The validator accepted the sink in the call. -/
def Accepted (entry : Entry) (name : String) : Prop :=
  ∃ device, (device, true) ∈ entry.2.2 ∧ device.name = name

/-- The call returned that the sink is pinned and unavailable. -/
def ReportedUnavailable (entry : Entry) (name : String) : Prop :=
  ∃ state, entry.2.1 = .ok state ∧ state.sink.pinnedName = some name
    ∧ state.sink.health = .deviceUnavailable

/-- The call saw that the sink is unavailable, whatever it returned. -/
def SawUnavailable (entry : Entry) (name : String) : Prop :=
  ∃ snapshot, inspect decode entry.1.pactl = .ok snapshot
    ∧ availableDevice snapshot.sinks name = none

/-- The call left another sink pinned. -/
def PinnedOther (entry : Entry) (name : String) : Prop :=
  ∃ state other, entry.2.1 = .ok state ∧ state.sink.pinnedName = some other ∧ other ≠ name

/-- The validator accepted the sink, and since then it was not unavailable and no other was pinned. -/
def Vouched (unavailable : Entry → String → Prop) (log : List Entry) (name : String) : Prop :=
  ∃ before entry after, log = before ++ entry :: after ∧ Accepted entry name
    ∧ ∀ later ∈ after, ¬ unavailable later name ∧ ¬ PinnedOther later name

/-- Whenever a call returns that its sink is available, the validator had accepted it. -/
def ValidatedSince (unavailable : Entry → String → Prop) (log : List Entry) : Prop :=
  ∀ before entry after state name, log = before ++ entry :: after → entry.2.1 = .ok state →
    state.sink.health = .available → state.sink.pinnedName = some name →
      Vouched unavailable (before ++ [entry]) name

theorem vouched_concat {unavailable : Entry → String → Prop} {log : List Entry} {name : String}
    (h : Vouched unavailable log name) {entry : Entry} (hunavailable : ¬ unavailable entry name)
    (hother : ¬ PinnedOther entry name) : Vouched unavailable (log ++ [entry]) name := by
  obtain ⟨before, e, after, rfl, haccepted, hafter⟩ := h
  refine ⟨before, e, after ++ [entry], by simp, haccepted, fun later hlater => ?_⟩
  rcases List.mem_append.mp hlater with hlater | hlater
  · exact hafter later hlater
  · rw [List.mem_singleton.mp hlater]
    exact ⟨hunavailable, hother⟩

theorem vouched_accepted {unavailable : Entry → String → Prop} (log : List Entry) {entry : Entry}
    {name : String} (h : Accepted entry name) : Vouched unavailable (log ++ [entry]) name :=
  ⟨log, entry, [], rfl, h, by simp⟩

/-- One call more. -/
theorem validatedSince_concat {unavailable : Entry → String → Prop} {log : List Entry} {entry : Entry}
    (h : ValidatedSince unavailable log)
    (hentry : ∀ state name, entry.2.1 = .ok state → state.sink.health = .available →
      state.sink.pinnedName = some name → Vouched unavailable (log ++ [entry]) name) :
    ValidatedSince unavailable (log ++ [entry]) := by
  intro before e after state name heq hok hhealth hpinned
  rcases List.eq_nil_or_concat after with rfl | ⟨after', last, rfl⟩
  · obtain ⟨rfl, hlast⟩ := List.append_inj' heq rfl
    obtain rfl := List.singleton_inj.mp hlast
    exact hentry state name hok hhealth hpinned
  · rw [List.concat_eq_append] at heq
    have hsplit : log ++ [entry] = (before ++ e :: after') ++ [last] := by
      rw [heq, List.append_assoc, List.cons_append]
    obtain ⟨rfl, -⟩ := List.append_inj' hsplit rfl
    exact h before e after' state name rfl hok hhealth hpinned

/-- A selection is available when its pin names an available device. -/
theorem selectionState_available {pinned : Option String} {currentDefault : String}
    {devices : Table String PhysicalDevice} :
    (selectionState pinned currentDefault devices).health = .available ↔
      ∃ name device, pinned = some name ∧ availableDevice devices name = some device := by
  simp only [selectionState]
  cases pinned with
  | none => simp
  | some name =>
    cases hlookup : devices.lookup name with
    | none => simp [availableDevice, hlookup]
    | some device => cases h : device.available <;> simp [availableDevice, hlookup, h, Option.filter]

/-- What holds between two calls. -/
structure Watched (log : List Entry) (w : PulseDeviceWatcher) : Prop where
  vouched : w.sinkValidationRequired = false →
    ∃ name, w.pinnedSinkName = some name ∧ Vouched ReportedUnavailable log name
  since : ValidatedSince ReportedUnavailable log

theorem watched_new (aecCapability : AecCapability) (explicitHeadphoneSink : Option String) :
    Watched [] (.new aecCapability explicitHeadphoneSink) where
  vouched := by rintro ⟨⟩
  since := by
    intro before entry after state name h
    cases before <;> cases h

variable {decode} {log : List Entry} {w : PulseDeviceWatcher}

theorem watched_step (h : Watched log w) (call : ReconcileCall) :
    Watched (log ++ [(call, (step decode w call).1)]) (step decode w call).2 := by
  unfold step
  rcases w.reconcile_cases decode call with ⟨error, asked, heq⟩ |
    ⟨snapshot, asked, source, sink, required, hinspect, -, hsink, heq⟩ <;> rw [heq] <;> dsimp only
  · refine ⟨fun hrequired => ?_, validatedSince_concat h.since ?_⟩
    · obtain ⟨name, hname, hvouched⟩ := h.vouched hrequired
      refine ⟨name, hname, vouched_concat hvouched ?_ ?_⟩
      · rintro ⟨state, hstate, -⟩; cases hstate
      · rintro ⟨state, other, hstate, -⟩; cases hstate
    · rintro state name hstate; cases hstate
  -- the sink that is pinned now and for which the validator has vouched
  have hvouched : ∀ name, sink = some name → Vouched ReportedUnavailable (log ++ [(call, .ok
      (PulseDeviceWatcher.state ⟨w.aecCapability, w.explicitHeadphoneSink, source, sink, required⟩
        snapshot), asked)]) name →
      Watched (log ++ [(call, .ok (PulseDeviceWatcher.state
        ⟨w.aecCapability, w.explicitHeadphoneSink, source, sink, required⟩ snapshot), asked)])
        ⟨w.aecCapability, w.explicitHeadphoneSink, source, sink, required⟩ := by
    intro name hname hv
    refine ⟨fun _ => ⟨name, hname, hv⟩, validatedSince_concat h.since ?_⟩
    intro state n hstate _ hpinned
    cases hstate
    obtain rfl : name = n := Option.some.inj (hname.symm.trans hpinned)
    exact hv
  -- the sink that is not available
  have hlost : (∀ name, sink = some name → availableDevice snapshot.sinks name = none) →
      (required = false → False) → Watched (log ++ [(call, .ok (PulseDeviceWatcher.state
        ⟨w.aecCapability, w.explicitHeadphoneSink, source, sink, required⟩ snapshot), asked)])
        ⟨w.aecCapability, w.explicitHeadphoneSink, source, sink, required⟩ := by
    intro hnone hrequired
    refine ⟨fun hfalse => (hrequired hfalse).elim, validatedSince_concat h.since ?_⟩
    intro state n hstate hhealth _
    cases hstate
    obtain ⟨name, device, hname, hdevice⟩ := selectionState_available.mp hhealth
    rw [hnone name hname] at hdevice
    cases hdevice
  cases hsink with
  | overridden name device hoverride havailable hvalid =>
    exact hvouched name rfl (vouched_accepted log
      ⟨device, List.mem_singleton_self _, inspect_named decode hinspect havailable⟩)
  | regained name device hoverride hpinned havailable hvalid =>
    exact hvouched name rfl (vouched_accepted log
      ⟨device, List.mem_singleton_self _, inspect_named decode hinspect havailable⟩)
  | adopted device hoverride hunset havailable hvalid =>
    exact hvouched _ rfl (vouched_accepted log
      ⟨device, List.mem_singleton_self _, inspect_named decode hinspect havailable⟩)
  | lost name hoverride hpinned hunavailable =>
    refine hlost (fun n hn => ?_) (by rintro ⟨⟩)
    obtain rfl := Option.some.inj hn
    exact hunavailable
  | unset hunset =>
    refine hlost (by rintro n ⟨⟩) fun hrequired => ?_
    obtain ⟨name, hname, -⟩ := h.vouched hrequired
    rw [hunset] at hname
    cases hname
  | kept name device hoverride hpinned havailable hvalidated =>
    obtain ⟨n, hname, hv⟩ := h.vouched hvalidated
    obtain rfl : name = n := Option.some.inj (hpinned.symm.trans hname)
    refine hvouched name rfl (vouched_concat hv ?_ ?_)
    · rintro ⟨state, hstate, -, hhealth⟩
      cases hstate
      have havail : (selectionState (some name) snapshot.defaultSink snapshot.sinks).health
          = .available := selectionState_available.mpr ⟨name, device, rfl, havailable⟩
      exact absurd (havail.symm.trans hhealth) (by decide)
    · rintro ⟨state, other, hstate, hpinned', hother⟩
      cases hstate
      exact hother (Option.some.inj hpinned').symm

theorem run_watched (decode : List UInt8 → Option (List RawDevice)) (aecCapability : AecCapability)
    (explicitHeadphoneSink : Option String) (calls : List ReconcileCall) :
    Watched (exec (step decode) (.new aecCapability explicitHeadphoneSink) calls).1
      (exec (step decode) (.new aecCapability explicitHeadphoneSink) calls).2 :=
  exec_invariant (I := Watched) (watched_new aecCapability explicitHeadphoneSink)
    (fun _ _ call h _ => watched_step h call) calls (adm_true _ _ _)

/-! ### What a state promises -/

/-- Duplex is allowed only for two devices that are there, the sink being headphones or the echo
    canceller validated for the two. -/
def DuplexSafe (aecCapability : AecCapability) (explicitHeadphoneSink : Option String)
    (state : DeviceState) : Prop :=
  state.acoustic.fullDuplexAllowed = true →
    state.source.health = .available ∧ state.sink.health = .available
      ∧ ∃ source sink, state.source.selected = some source ∧ state.sink.selected = some sink
        ∧ (classifyOutputMode sink = .headphones ∨ explicitHeadphoneSink = some sink.name
          ∨ aecCapability = .validatedFor source.name sink.name)

theorem selected_of_available {pinned : Option String} {currentDefault : String}
    {devices : Table String PhysicalDevice}
    (h : (selectionState pinned currentDefault devices).health = .available) :
    ∃ device, (selectionState pinned currentDefault devices).selected = some device := by
  obtain ⟨name, device, rfl, hdevice⟩ := selectionState_available.mp h
  exact ⟨device, (Option.filter_eq_some_iff.mp hdevice).1⟩

theorem duplex_safe (w : PulseDeviceWatcher) (snapshot : DeviceSnapshot)
    {aecCapability : AecCapability} {explicitHeadphoneSink : Option String}
    (haecCapability : w.aecCapability = aecCapability)
    (hexplicitHeadphone : w.explicitHeadphoneSink = explicitHeadphoneSink) :
    DuplexSafe aecCapability explicitHeadphoneSink (w.state snapshot) := by
  subst haecCapability hexplicitHeadphone
  unfold DuplexSafe PulseDeviceWatcher.state
  dsimp only
  generalize hsource : selectionState w.pinnedSourceName snapshot.defaultSource snapshot.sources = source
  generalize hsink : selectionState w.pinnedSinkName snapshot.defaultSink snapshot.sinks = sink
  intro hallowed
  have hhealth : source.health = .available ∧ sink.health = .available := by
    by_contra hnot
    rw [not_and_or] at hnot
    simp [PulseDeviceWatcher.acousticSafety, if_pos hnot] at hallowed
  obtain ⟨selectedSource, hselectedSource⟩ := selected_of_available (hsource ▸ hhealth.1)
  obtain ⟨selectedSink, hselectedSink⟩ := selected_of_available (hsink ▸ hhealth.2)
  rw [hsource] at hselectedSource
  rw [hsink] at hselectedSink
  refine ⟨hhealth.1, hhealth.2, selectedSource, selectedSink, hselectedSource, hselectedSink, ?_⟩
  simp only [PulseDeviceWatcher.acousticSafety, hhealth.1, hhealth.2, ne_eq, not_true_eq_false, or_self,
    if_false, hselectedSource, hselectedSink] at hallowed
  by_cases hexplicit : w.explicitHeadphoneSink = some selectedSink.name
  · exact .inr (.inl hexplicit)
  · rw [if_neg hexplicit] at hallowed
    cases hmode : classifyOutputMode selectedSink with
    | headphones => exact .inl rfl
    | unknownUnsafe => simp [hmode] at hallowed
    | openSpeaker =>
      rw [hmode] at hallowed
      dsimp only at hallowed
      cases haec : w.aecCapability with
      | validatedFor sourceName sinkName =>
        rw [haec] at hallowed
        dsimp only at hallowed
        split at hallowed
        · next hpair =>
          obtain ⟨hsourceName, hsinkName⟩ := hpair
          simp only [Option.map_some, Option.some.injEq] at hsourceName hsinkName
          exact .inr (.inr (by rw [hsourceName, hsinkName]))
        · cases hallowed
      | _ => rw [haec] at hallowed; cases hallowed

/-- A pin that changed was named by an override that is available, or was unset and is the default. -/
def PinChange (override before : Option String) (default : String)
    (devices : Table String PhysicalDevice) (after : Option String) : Prop :=
  (∃ name device, override = some name ∧ availableDevice devices name = some device
      ∧ after = some name)
    ∨ before = none ∧ ∃ device, availableDevice devices default = some device ∧ after = some default

theorem sourceMove_change {snapshot : DeviceSnapshot} {deviceOverride : DeviceOverride}
    {after : Option String} (h : PulseDeviceWatcher.SourceMove w snapshot deviceOverride after)
    (hchanged : after ≠ w.pinnedSourceName) :
    PinChange deviceOverride.sourceName w.pinnedSourceName snapshot.defaultSource snapshot.sources after := by
  cases h with
  | overridden name device hoverride havailable => exact .inl ⟨name, device, hoverride, havailable, rfl⟩
  | adopted device hoverride hunset havailable => exact .inr ⟨hunset, device, havailable, rfl⟩
  | kept => exact absurd rfl hchanged

theorem sinkMove_change {snapshot : DeviceSnapshot} {call : ReconcileCall} {required : Bool}
    {asked : List (PhysicalDevice × Bool)} {after : Option String}
    (h : PulseDeviceWatcher.SinkMove w snapshot call asked after required)
    (hchanged : after ≠ w.pinnedSinkName) :
    PinChange call.deviceOverride.sinkName w.pinnedSinkName snapshot.defaultSink snapshot.sinks after := by
  cases h with
  | overridden name device hoverride havailable hvalid =>
    exact .inl ⟨name, device, hoverride, havailable, rfl⟩
  | adopted device hoverride hunset havailable hvalid => exact .inr ⟨hunset, device, havailable, rfl⟩
  | lost name hoverride hpinned hunavailable => exact absurd hpinned.symm hchanged
  | regained name device hoverride hpinned havailable hvalid => exact absurd hpinned.symm hchanged
  | kept name device hoverride hpinned havailable hvalidated => exact absurd hpinned.symm hchanged
  | unset hunset => exact absurd hunset.symm hchanged

/-- What the watcher was made with stays. -/
theorem run_configured (decode : List UInt8 → Option (List RawDevice)) (aecCapability : AecCapability)
    (explicitHeadphoneSink : Option String) (calls : List ReconcileCall) :
    (exec (step decode) (.new aecCapability explicitHeadphoneSink) calls).2.aecCapability = aecCapability
      ∧ (exec (step decode) (.new aecCapability explicitHeadphoneSink) calls).2.explicitHeadphoneSink
        = explicitHeadphoneSink := by
  refine exec_state_invariant (I := fun w : PulseDeviceWatcher => w.aecCapability = aecCapability
    ∧ w.explicitHeadphoneSink = explicitHeadphoneSink) ⟨rfl, rfl⟩ (fun w call h => ?_) calls
  unfold step
  rcases w.reconcile_cases decode call with ⟨error, asked, heq⟩ |
    ⟨snapshot, asked, source, sink, required, -, -, -, heq⟩ <;> rw [heq] <;> exact h

/-- For every run of calls and one call more: an error leaves the watcher as it was; a pin changes only
    to an override that is available or from unset to the available default; duplex is allowed only
    where it is safe; and a sink that is returned as available was accepted by the validator since a
    call last returned that it is unavailable or left another sink pinned. -/
theorem watcher_reconciles (decode : List UInt8 → Option (List RawDevice)) (aecCapability : AecCapability)
    (explicitHeadphoneSink : Option String) (calls : List ReconcileCall) (call : ReconcileCall) :
    let w := (exec (step decode) (.new aecCapability explicitHeadphoneSink) calls).2
    let reconciled := w.reconcile decode call
    (∀ error, reconciled.result = .error error → reconciled.watcher = w)
      ∧ (reconciled.watcher.pinnedSourceName ≠ w.pinnedSourceName →
        ∃ snapshot, inspect decode call.pactl = .ok snapshot
          ∧ PinChange call.deviceOverride.sourceName w.pinnedSourceName snapshot.defaultSource
            snapshot.sources reconciled.watcher.pinnedSourceName)
      ∧ (reconciled.watcher.pinnedSinkName ≠ w.pinnedSinkName →
        ∃ snapshot, inspect decode call.pactl = .ok snapshot
          ∧ PinChange call.deviceOverride.sinkName w.pinnedSinkName snapshot.defaultSink
            snapshot.sinks reconciled.watcher.pinnedSinkName)
      ∧ (∀ state, reconciled.result = .ok state → DuplexSafe aecCapability explicitHeadphoneSink state)
      ∧ ValidatedSince ReportedUnavailable
        (exec (step decode) (.new aecCapability explicitHeadphoneSink) (calls ++ [call])).1 := by
  intro w reconciled
  have hsince := (run_watched decode aecCapability explicitHeadphoneSink (calls ++ [call])).since
  obtain ⟨haec, hheadphone⟩ := run_configured decode aecCapability explicitHeadphoneSink calls
  rcases w.reconcile_cases decode call with ⟨error, asked, heq⟩ |
    ⟨snapshot, asked, source, sink, required, hinspect, hsource, hsink, heq⟩
  · have hsame : reconciled = ⟨.error error, asked, w⟩ := heq
    rw [hsame]
    refine ⟨fun _ _ => rfl, fun h => absurd rfl h, fun h => absurd rfl h, ?_, hsince⟩
    rintro state ⟨⟩
  · have hmoved : reconciled = ⟨.ok (PulseDeviceWatcher.state
        ⟨w.aecCapability, w.explicitHeadphoneSink, source, sink, required⟩ snapshot), asked,
        ⟨w.aecCapability, w.explicitHeadphoneSink, source, sink, required⟩⟩ := heq
    rw [hmoved]
    refine ⟨?_, fun h => ⟨snapshot, hinspect, sourceMove_change hsource h⟩,
      fun h => ⟨snapshot, hinspect, sinkMove_change hsink h⟩, ?_, hsince⟩
    · rintro error ⟨⟩
    · rintro state ⟨⟩
      exact duplex_safe ⟨w.aecCapability, w.explicitHeadphoneSink, source, sink, required⟩ snapshot
        haec hheadphone

/-! ### A sink that was seen to be unavailable by a call that failed -/

/-- A listing of one sink, and the same listing with the sink gone. -/
def headsetListing (state : String) : String :=
  "[\x7b\"index\":50,\"name\":\"headset\",\"state\":\"" ++ state ++ "\"\x7d]"

def headset (state : String) : RawDevice := ⟨50, "headset", "", state, ∅, [], none⟩

/-- What the listings are decoded to. -/
def sampleDecode (bytes : List UInt8) : Option (List RawDevice) :=
  if bytes = (headsetListing "RUNNING").toUTF8.toList then some [headset "RUNNING"]
  else if bytes = (headsetListing "UNAVAILABLE").toUTF8.toList then some [headset "UNAVAILABLE"]
  else if bytes = "[]".toUTF8.toList then some []
  else none

def printed (text : String) : Except CommandRunError CommandResult := .ok ⟨true, text.toUTF8.toList⟩

def sampleCall (state : String) (sinkName : Option String) : ReconcileCall :=
  ⟨⟨none, sinkName⟩, ⟨printed "headset", printed "microphone", printed (headsetListing state), printed "[]"⟩,
    fun _ => true⟩

/-- The headset is pinned, asked for while it is gone, and back. -/
def replugged : List ReconcileCall :=
  [sampleCall "RUNNING" none, sampleCall "UNAVAILABLE" (some "headset"), sampleCall "RUNNING" none]

/-- The nth call of the run, with what it came to. -/
def repluggedEntry (n : Nat) : Entry :=
  (exec (step sampleDecode) (.new .unavailable none) replugged).1.getD n
    (sampleCall "" none, .error .discoveryFailed, [])

theorem of_toOption_map {ε α β : Type} {f : α → β} {x : Except ε α} {b : β}
    (h : x.toOption.map f = some b) : ∃ a, x = .ok a ∧ f a = b := by
  cases x with
  | error error => cases h
  | ok a => exact ⟨a, rfl, Option.some.inj h⟩

/-- The validator was not asked by the last two calls, the first of which saw the sink unavailable. -/
theorem not_vouched {unavailable : Entry → String → Prop} {first second third : Entry} {name : String}
    (hsecond : second.2.2 = []) (hthird : third.2.2 = []) (hunavailable : unavailable second name) :
    ¬ Vouched unavailable [first, second, third] name := by
  rintro ⟨before, entry, after, heq, ⟨device, hmem, -⟩, hafter⟩
  rcases before with _ | ⟨_, _ | ⟨_, _ | ⟨_, before⟩⟩⟩
  · cases heq
    exact (hafter second (by simp)).1 hunavailable
  · cases heq
    rw [hsecond] at hmem
    cases hmem
  · cases heq
    rw [hthird] at hmem
    cases hmem
  · simp at heq

/-- The call that asked for the headset while it was gone returned that it is unavailable, and left no
    mark: the next call returns it as available, and the validator was not asked again. -/
theorem replugged_not_validated :
    ((exec (step sampleDecode) (.new .unavailable none) replugged).1.map fun entry =>
        (entry.2.1.toOption.map fun state => state.sink.health, entry.2.2.length))
      = [(some .available, 1), (none, 0), (some .available, 0)]
    ∧ ¬ ValidatedSince (SawUnavailable sampleDecode)
      (exec (step sampleDecode) (.new .unavailable none) replugged).1 := by
  refine ⟨by decide +kernel, fun hsince => ?_⟩
  obtain ⟨state, hok, hstate⟩ := of_toOption_map (b := (.available, some "headset"))
    (f := fun state : DeviceState => (state.sink.health, state.sink.pinnedName))
    (x := (repluggedEntry 2).2.1) (by decide +kernel)
  obtain ⟨snapshot, hinspect, hgone⟩ := of_toOption_map (b := none)
    (f := fun snapshot : DeviceSnapshot => availableDevice snapshot.sinks "headset")
    (x := inspect sampleDecode (repluggedEntry 1).1.pactl) (by decide +kernel)
  have hvouched : Vouched (SawUnavailable sampleDecode)
      [repluggedEntry 0, repluggedEntry 1, repluggedEntry 2] "headset" :=
    hsince [repluggedEntry 0, repluggedEntry 1] (repluggedEntry 2) [] state "headset" rfl hok
      (Prod.ext_iff.mp hstate).1 (Prod.ext_iff.mp hstate).2
  exact not_vouched (by decide +kernel) (by decide +kernel) ⟨snapshot, hinspect, hgone⟩ hvouched

end Watching

end Translator.Audio
