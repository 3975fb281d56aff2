import Mathlib.Algebra.Ring.Int.Defs
import Mathlib.Algebra.Ring.Nat
import Mathlib.Data.List.DropRight
import Mathlib.Data.List.Infix

/-! How `routing.rs` reads the names and properties of streams and devices: which application a
    stream belongs to, whether it looks like a call, whether it is one of the translator's own, and
    which device a stream may be moved back to. -/

namespace Translator.Routing

/-! ### Rust's string functions -/

/-- `char::is_whitespace`: the Unicode `White_Space` property. -/
def isWhitespace (c : Char) : Bool :=
  let n := c.toNat
  (9 ≤ n && n ≤ 13) || n == 0x20 || n == 0x85 || n == 0xA0 || n == 0x1680
    || (0x2000 ≤ n && n ≤ 0x200A) || n == 0x2028 || n == 0x2029 || n == 0x202F || n == 0x205F
    || n == 0x3000

/-- `str::trim`. -/
def trim (text : String) : String :=
  String.ofList ((text.toList.dropWhile isWhitespace).reverse.dropWhile isWhitespace).reverse

/-- `str::to_ascii_lowercase`. -/
def toAsciiLowercase (text : String) : String := String.ofList (text.toList.map Char.toLower)

/-- `str::eq_ignore_ascii_case`. -/
def eqIgnoreAsciiCase (a b : String) : Bool := toAsciiLowercase a == toAsciiLowercase b

def startsWith (text start : String) : Bool := start.toList.isPrefixOf text.toList

def endsWith (text tail : String) : Bool := tail.toList.isSuffixOf text.toList

/-- `str::contains` of a text. -/
def containsText (text part : String) : Bool := decide (part.toList <:+: text.toList)

/-- `str::strip_suffix`, or the text itself where it has no such end. -/
def stripSuffix (text tail : String) : String :=
  if endsWith text tail then
    String.ofList (text.toList.take (text.toList.length - tail.toList.length))
  else text

/-- `str::parse` of an unsigned integer: an optional plus sign, digits, and no more than `max`. -/
def parseUnsigned (max : Nat) (text : String) : Option Nat :=
  let digits := match text.toList with
    | '+' :: rest => rest
    | chars => chars
  if digits.isEmpty || !digits.all Char.isDigit then none
  else
    let value := digits.foldl (fun n c => 10 * n + (c.toNat - '0'.toNat)) 0
    if value ≤ max then some value else none

/-! ### Applications -/

inductive AllowedApplication where
  | telegram | firefox | chromium | chrome | zoom | syntheticValidation
  deriving DecidableEq, Repr

/-- The variant's name, as `Debug` prints it. -/
def AllowedApplication.debug : AllowedApplication → String
  | .telegram => "Telegram"
  | .firefox => "Firefox"
  | .chromium => "Chromium"
  | .chrome => "Chrome"
  | .zoom => "Zoom"
  | .syntheticValidation => "SyntheticValidation"

inductive RoutingProfile where | production | syntheticValidation
  deriving DecidableEq, Repr

def remoteInSink : String := "translator_remote_in"

def virtualMicSource : String := "translator_virtual_mic"

/-- The properties of a stream, as `pactl` lists them. -/
abbrev Properties := List (String × String)

/-- A property without surrounding blanks, where it is there and not blank. -/
def property (properties : Properties) (key : String) : Option String :=
  ((properties.lookup key).map trim).filter (fun value => !value.isEmpty)

def classifyApplication (applicationName processBinary : String) (profile : RoutingProfile) :
    Option AllowedApplication :=
  let name := toAsciiLowercase applicationName
  let binary := toAsciiLowercase processBinary
  let liveBinary := stripSuffix binary " (deleted)"
  if profile = .syntheticValidation ∧ liveBinary = "paplay" then some .syntheticValidation
  else if containsText liveBinary "telegram" || containsText name "telegram desktop" then
    some .telegram
  else if liveBinary = "firefox" || startsWith name "firefox" then some .firefox
  else if liveBinary = "chromium" || startsWith name "chromium" then some .chromium
  else if liveBinary = "google-chrome" || liveBinary = "chrome" || startsWith name "google chrome"
      || name = "chrome" then some .chrome
  else if liveBinary = "zoom" || liveBinary = "zoomwebviewhost" || name = "zoom"
      || name = "zoom workplace" then some .zoom
  else none

def isCallLike (application : AllowedApplication) (mediaRole description : Option String) : Bool :=
  mediaRole.any (fun role =>
    toAsciiLowercase role = "communication" || toAsciiLowercase role = "phone")
  || description.any (fun text =>
    let value := toAsciiLowercase text
    ["webrtc", "voice", "call", "meet"].any (containsText value)
      || (application = .zoom && value = "playstream"))

def stableAppKey (application : AllowedApplication) (processBinary : String) : String :=
  application.debug ++ ":" ++ toAsciiLowercase (trim processBinary)

def isTranslatorOwned (properties : Properties) (profile : RoutingProfile) : Bool :=
  if (properties.lookup "translator.owner").any (eqIgnoreAsciiCase · "true") then true
  else
    let application := toAsciiLowercase ((property properties "application.name").getD "")
    let binary := toAsciiLowercase ((property properties "application.process.binary").getD "")
    if profile = .syntheticValidation ∧ binary = "paplay" then false
    else if profile = .production ∧ (binary = "paplay" ∨ binary = "pw-play") then true
    else if startsWith application "translator" || startsWith binary "translator-"
        || ["translator-daemon", "translator-sidecar", "translator-ui"].any (fun name =>
          containsText application name || containsText binary name) then true
    else (["node.name", "media.name", "stream.description"].filterMap
      (properties.lookup ·)).any (fun value => startsWith (toAsciiLowercase value) "translator")

/-! ### Devices -/

/-- A name that can stand in a PipeWire port. -/
def pipewireNodeName (value : String) : Option String :=
  let value := trim value
  if value.isEmpty || 256 < value.utf8ByteSize
      || value.toList.any (fun c => c = ':' || c = '\n' || c = '\r' || c.toNat = 0) then none
  else some value

def pipewirePort (nodeName portName : String) : String := nodeName ++ ":" ++ portName

/-- Ports of different nodes differ. -/
theorem pipewirePort_inj {node node' port port' : String} (hlength : port.length = port'.length)
    (h : pipewirePort node port = pipewirePort node' port') : node = node' := by
  have hlist : node.toList ++ (":" ++ port).toList = node'.toList ++ (":" ++ port').toList := by
    have := congrArg String.toList h
    simpa [pipewirePort] using this
  refine String.toList_inj.mp (List.append_inj_left' hlist ?_)
  simpa [String.length_toList] using hlength

/-- A sink or a source, as `pactl` lists it. -/
structure RawNode where
  index : Nat
  name : String
  state : Option String
  deriving DecidableEq, Repr

def safeRestoreSinkName (name : String) : Bool :=
  name ≠ remoteInSink && !startsWith name "translator_" && (pipewireNodeName name).isSome

def safeCaptureSourceName (name : String) : Bool :=
  !startsWith name "translator_" && !endsWith name ".monitor" && (pipewireNodeName name).isSome

/-- The only running device among the safe ones, or else the only safe one. -/
def preferredRestore (safe : String → Bool) (nodes : List RawNode) : Option String :=
  let physical := nodes.filter (fun node => safe node.name)
  let running := physical.filter (fun node => node.state.any (eqIgnoreAsciiCase · "running"))
  match running with
  | [node] => some node.name
  | _ => match physical with
    | [node] => some node.name
    | _ => none

def preferredRestoreSink (nodes : List RawNode) : Option String :=
  preferredRestore safeRestoreSinkName nodes

def preferredRestoreSource (nodes : List RawNode) : Option String :=
  preferredRestore safeCaptureSourceName nodes

/-- What is chosen to move back to is one of the devices, and a safe one. -/
theorem preferredRestore_mem {safe : String → Bool} {nodes : List RawNode} {name : String}
    (h : preferredRestore safe nodes = some name) :
    safe name = true ∧ ∃ node ∈ nodes, node.name = name := by
  have pick : ∀ {l : List RawNode} {node : RawNode}, l ⊆ nodes.filter (fun node => safe node.name) →
      l = [node] → safe node.name = true ∧ ∃ n ∈ nodes, n.name = node.name := by
    intro l node hl heq
    have hmem := List.mem_filter.mp (hl (heq ▸ List.mem_singleton_self node))
    exact ⟨by simpa using hmem.2, node, hmem.1, rfl⟩
  unfold preferredRestore at h
  simp only at h
  split at h
  case h_1 node heq =>
    obtain rfl := Option.some.inj h
    exact pick (List.filter_subset_self _) heq
  case h_2 =>
    split at h
    case h_1 node heq =>
      obtain rfl := Option.some.inj h
      exact pick (List.Subset.refl _) heq
    case h_2 => simp at h

theorem safeRestoreSinkName_ne {name : String} (h : safeRestoreSinkName name = true) :
    name ≠ remoteInSink := by
  intro hname
  simp [safeRestoreSinkName, hname] at h

theorem safeCaptureSourceName_ne {name : String} (h : safeCaptureSourceName name = true) :
    name ≠ virtualMicSource := by
  rintro rfl
  revert h
  decide +kernel

/-! ### Names that were trimmed -/

theorem trim_trim (text : String) : trim (trim text) = trim text := by
  have hcore : ∀ l : List Char, ((l.dropWhile isWhitespace).reverse.dropWhile
      isWhitespace).reverse.dropWhile isWhitespace
        = ((l.dropWhile isWhitespace).reverse.dropWhile isWhitespace).reverse := by
    intro l
    generalize hb : ((l.dropWhile isWhitespace).reverse.dropWhile isWhitespace).reverse = b
    -- what is left starts as the text does after its leading blanks
    have hstart : b <+: l.dropWhile isWhitespace := by
      rw [← hb, ← List.reverse_suffix, List.reverse_reverse]
      exact List.dropWhile_suffix _
    cases b with
    | nil => rfl
    | cons c b =>
      obtain ⟨rest, hrest⟩ := hstart
      have hc : ¬ isWhitespace c = true := by
        have hself := List.dropWhile_idempotent isWhitespace l
        rw [← hrest, List.cons_append] at hself
        exact List.dropWhile_eq_self_iff.mp hself (by simp)
      rw [List.dropWhile_cons_of_neg hc]
  unfold trim
  rw [String.toList_ofList, hcore text.toList, List.reverse_reverse]
  rw [List.dropWhile_idempotent]

/-- A name that can stand in a port does so as it is. -/
theorem pipewireNodeName_self {value name : String} (h : pipewireNodeName value = some name) :
    pipewireNodeName name = some name := by
  unfold pipewireNodeName at h
  simp only at h
  split at h
  case isTrue => simp at h
  case isFalse hsafe =>
    obtain rfl := Option.some.inj h
    unfold pipewireNodeName
    simp only [trim_trim]
    rw [if_neg hsafe]

end Translator.Routing
