import Translator.Schemes.Json
import Translator.Schemes.Urls

/-! The list of models a sidecar may use, as `model_manifest.py` reads it from its file: what each model
    is, where its files come from and where they are kept. -/

namespace Translator.Manifest
open Schemes

/-- What a call of the reader raises. -/
inductive Raised where
  | manifestError (message : String)
  | keyError
  | typeError
  | valueError
  | unicodeDecodeError
  | unicodeEncodeError
  | jsonDecodeError
  | recursionError
  | osError
  deriving DecidableEq

/-- What the reader asks of the interpreter. -/
structure Interpreter where
  urls : Urls
  limits : Json.Limits

/-- An interpreter that knows the letters of ASCII and no address in brackets. -/
def Interpreter.plain : Interpreter where
  urls := { letters := Text.ascii, bracketed := fun _ => false }
  limits := { digits := 4300, depth := 1000 }

/-- `except` clauses that raise a `ManifestError` in place of what they catch. -/
def catching {α : Type} (caught : List Raised) (message : String) :
    Except Raised α → Except Raised α
  | .error e => .error (if e ∈ caught then .manifestError message else e)
  | .ok a => .ok a

/-- What a call of `urllib` raises. -/
def orValueError {α : Type} : Option α → Except Raised α
  | some a => .ok a
  | none => .error .valueError

/-! ### Paths -/

/-- `PurePosixPath`: its root, and its parts behind it. -/
structure PurePath where
  root : Text
  tail : List Text
  deriving DecidableEq

namespace PurePath

/-- `splitroot`: two strokes and no third are a root of their own. -/
def rootOf : Text → Text
  | 47 :: 47 :: 47 :: _ => [47]
  | 47 :: 47 :: _ => [47, 47]
  | 47 :: _ => [47]
  | _ => []

/-- The path a text names: empty parts and dots are dropped. -/
def ofText (t : Text) : PurePath where
  root := rootOf t
  tail := (t.splitOn 47).filter fun part => !part.isEmpty && part != text "."

def isAbsolute (p : PurePath) : Bool := !p.root.isEmpty

def parts (p : PurePath) : List Text := if p.root.isEmpty then p.tail else p.root :: p.tail

/-- `joinpath`. -/
def join (p : PurePath) (segments : List Text) : PurePath :=
  segments.foldl (fun p segment =>
    if (ofText segment).isAbsolute then ofText segment
    else { p with tail := p.tail ++ (ofText segment).tail }) p

/-- `is_relative_to`. -/
def isWithin (p base : PurePath) : Bool := p.root == base.root && base.tail.isPrefixOf p.tail

/-- `parent`. -/
def parent (p : PurePath) : PurePath := { p with tail := p.tail.dropLast }

end PurePath

/-! ### What a manifest says -/

structure ManifestPolicy where
  downloadBudgetBytes : Nat
  postDownloadFreeFloorBytes : Nat
  usageMode : Text
  redistribution : Bool
  certifiedOrSafetyCritical : Bool
  stagingPath : PurePath
  redirectHosts : List Text

structure ModelSource where
  repository : Text
  revision : Text
  license : Text
  datasetLicense : Option Text
  licenseWaiver : Option Text

structure ModelFile where
  path : Text
  sizeBytes : Nat
  sha256 : Text
  sourceUrl : Option Text
  sourcePath : Option Text
  deriving DecidableEq

structure ModelEntry where
  id : Text
  role : Text
  source : ModelSource
  languages : List Text
  cachePath : PurePath
  acquisition : Text
  files : List ModelFile

structure ModelManifest where
  schemaVersion : Nat
  policy : ManifestPolicy
  models : List ModelEntry
  plannedDownloadBytes : Nat

/-! ### What is approved -/

def huggingfaceHost : Text := text "huggingface.co"

def languageNames : List Text := ["ru", "en"].map text

def roleNames : List Text := ["asr", "mt", "tts"].map text

def acquisitionNames : List Text := ["reuse", "download"].map text

def approvedLicenses : List Text := ["MIT", "CC0", "CC-BY-NC-4.0", "CC-BY-NC-SA-4.0"].map text

def unknownLicenses : List Text := ["", "unknown", "unlicensed", "none", "n/a"].map text

def irinaWaiver : Text := text "PIPER_RU_IRINA_PERSONAL_LOCAL_V1"

def irinaRevision : Text := text "0d907f158acc877ddeebcbf827659ee13bea8bcd"

/-- A file of the approved voice, as its entry has to have it. -/
def irinaFile (name : String) (size : Nat) (sha256 : String) : ModelFile where
  path := text name
  sizeBytes := size
  sha256 := text sha256
  sourceUrl := some (text "https://" ++ huggingfaceHost ++ text "/rhasspy/piper-voices/resolve/"
    ++ irinaRevision ++ text "/ru/ru_RU/irina/medium/" ++ text name)
  sourcePath := some (text "ru/ru_RU/irina/medium/" ++ text name)

/-- `_IRINA_FILES`. -/
def irinaFiles : List ModelFile :=
  [irinaFile "ru_RU-irina-medium.onnx" 63201294
      "8ff38212d23da300bbe3705c645e6e5b9475f0bfde01558eb17813e22acaaaaa",
    irinaFile "ru_RU-irina-medium.onnx.json" 4765
      "c2ec28bb38e2b59e93b959b3e40348c1afebbd272f30fed5d41205d08e98a9d7"]

/-! ### Patterns -/

/-- `_SHA256_RE` and `_REVISION_RE`. -/
def isDigest (length : Nat) (t : Text) : Bool :=
  t.length == length && t.all fun c => Text.digit c || decide (97 ≤ c ∧ c ≤ 102)

def repositoryLetter (c : Nat) : Bool :=
  Text.letter c || Text.digit c || c == 95 || c == 46 || c == 45

/-- `_REPOSITORY_RE`. -/
def isRepository (t : Text) : Bool :=
  t.contains 47 && !(Text.partition 47 t).1.isEmpty && (Text.partition 47 t).1.all repositoryLetter
    && !(Text.partition 47 t).2.isEmpty && (Text.partition 47 t).2.all repositoryLetter

def idLetter (c : Nat) : Bool := decide (97 ≤ c ∧ c ≤ 122) || Text.digit c

/-- `_MODEL_ID_RE`. -/
def isModelId : Text → Bool
  | [] => false
  | c :: t => idLetter c && t.all fun c => idLetter c || c == 46 || c == 95 || c == 45

/-! ### Values of a document -/

/-- `raw[key]`. -/
def field (raw : List (Text × Json)) (key : String) : Except Raised Json :=
  match Json.lookup (text key) raw with
  | some value => .ok value
  | none => .error .keyError

/-- `raw.get(key)`. -/
def get (raw : List (Text × Json)) (key : String) : Json :=
  (Json.lookup (text key) raw).getD .null

/-- `_positive_int`. -/
def positiveInt : Json → Except Raised Nat
  | .int value =>
    if value ≤ 0 then .error (.manifestError "model byte value must be a positive integer")
    else .ok value.toNat
  | _ => .error (.manifestError "model byte value must be a positive integer")

/-- `Path(value)`. -/
def pathOf : Json → Except Raised PurePath
  | .str t => .ok (.ofText t)
  | _ => .error .typeError

/-- `value in names`, of which a value that has no hash raises. -/
def isOneOf (names : List Text) : Json → Except Raised Bool
  | .str t => .ok (names.contains t)
  | .arr _ => .error .typeError
  | .obj _ => .error .typeError
  | _ => .ok false

/-! ### The policy -/

variable (i : Interpreter)

/-- A host of the allowlist. -/
def redirectHost : Json → Except Raised Text
  | .str host =>
    if host.isEmpty then .error (.manifestError "redirect host is invalid")
    else do
      let parsed ← orValueError (i.urls.urlparse [] (text "https://" ++ host))
      if i.urls.hostname parsed ≠ some host ∨ host.contains 47 ∨ host.contains 64 then
        .error (.manifestError "redirect host is invalid")
      else return host
  | _ => .error (.manifestError "redirect host is invalid")

/-- The fields of a policy, before they are judged. -/
structure PolicyFields where
  budget : Nat
  floor : Nat
  usageMode : Json
  redistribution : Json
  safety : Json
  staging : PurePath
  redirectHosts : Json

def policyFields (raw : List (Text × Json)) : Except Raised PolicyFields :=
  catching [.keyError, .typeError] "manifest policy is incomplete" do
    let budget ← positiveInt (← field raw "download_budget_bytes")
    let floor ← positiveInt (← field raw "post_download_free_floor_bytes")
    let usageMode ← field raw "usage_mode"
    let redistribution ← field raw "redistribution"
    let safety ← field raw "certified_or_safety_critical"
    let staging ← pathOf (← field raw "staging_path")
    let redirectHosts ← field raw "redirect_hosts"
    return { budget, floor, usageMode, redistribution, safety, staging, redirectHosts }

/-- The hosts of a policy whose other fields are approved. -/
def policyHosts (p : PolicyFields) : Except Raised (List Json) :=
  match p.usageMode, p.redistribution, p.safety with
  | .str usageMode, .bool false, .bool false =>
    if usageMode ≠ text "personal_noncommercial" then
      .error (.manifestError "manifest usage policy is not approved")
    else if !p.staging.isAbsolute then .error (.manifestError "staging path must be absolute")
    else match p.redirectHosts with
    | .arr (host :: hosts) => .ok (host :: hosts)
    | _ => .error (.manifestError "redirect host allowlist is missing")
  | _, _, _ => .error (.manifestError "manifest usage policy is not approved")

/-- `_parse_policy`. -/
def parsePolicy : Json → Except Raised ManifestPolicy
  | .obj raw => do
    let p ← policyFields raw
    let hosts ← policyHosts p
    let hosts ← hosts.mapM (redirectHost i)
    if hosts.Nodup then return {
      downloadBudgetBytes := p.budget
      postDownloadFreeFloorBytes := p.floor
      usageMode := text "personal_noncommercial"
      redistribution := false
      certifiedOrSafetyCritical := false
      stagingPath := p.staging
      redirectHosts := hosts }
    else .error (.manifestError "redirect host allowlist contains duplicates")
  | _ => .error (.manifestError "manifest policy is missing")

/-! ### Where a model comes from -/

/-- A field that may be left out. -/
def optionalText (message : String) : Json → Except Raised (Option Text)
  | .null => .ok none
  | .str t => .ok (some t)
  | _ => .error (.manifestError message)

/-- The licence of the data as an entry keeps it: an unknown one has one name. -/
def datasetLicense : Option Text → Except Raised (Option Text)
  | none => .ok none
  | some t =>
    if unknownLicenses.contains (i.urls.letters.lower (t.strip i.urls.letters)) then
      .ok (some (text "Unknown"))
    else if approvedLicenses.contains t then .ok (some t)
    else .error (.manifestError "dataset license is not approved")

/-- A text of a field that has to have one of a kind. -/
def textOf (kind : Text → Bool) (message : String) : Json → Except Raised Text
  | .str t => if kind t then .ok t else .error (.manifestError message)
  | _ => .error (.manifestError message)

/-- `_parse_source`. -/
def parseSource : Json → Except Raised ModelSource
  | .obj raw => do
    let (repository, revision, license) ←
      catching [.keyError] "model source provenance is incomplete" do
        let repository ← field raw "repository"
        let revision ← field raw "revision"
        let license ← field raw "license"
        return (repository, revision, license)
    let repository ← textOf isRepository "model repository is invalid" repository
    let revision ← textOf (isDigest 40) "model revision must be a pinned commit" revision
    let license ← textOf approvedLicenses.contains "model license is unknown" license
    let dataset ← optionalText "dataset license is invalid" (get raw "dataset_license")
    let waiver ← optionalText "license waiver is invalid" (get raw "license_waiver")
    let dataset ← datasetLicense i dataset
    if dataset = some (text "Unknown") ∧ waiver = none then
      .error (.manifestError "unknown dataset license requires a waiver")
    else if waiver ≠ none ∧ dataset ≠ some (text "Unknown") then
      .error (.manifestError "license waiver is not applicable")
    else return {
      repository := repository
      revision := revision
      license := license
      datasetLicense := dataset
      licenseWaiver := waiver }
  | _ => .error (.manifestError "model source is missing")

/-! ### Files -/

/-- `_parse_file_identity`. -/
def parseFileIdentity (raw : List (Text × Json)) : Except Raised (Text × Nat × Text) := do
  let (filePath, sizeBytes, sha256) ←
    catching [.keyError, .typeError] "model file evidence is incomplete" do
      let filePath ← field raw "path"
      let sizeBytes ← positiveInt (← field raw "size_bytes")
      let sha256 ← field raw "sha256"
      return (filePath, sizeBytes, sha256)
  let filePath ← textOf (fun t => !t.isEmpty) "model file path is invalid" filePath
  let purePath := PurePath.ofText filePath
  if purePath.isAbsolute ∨ purePath.parts.length ≠ 1 ∨ text ".." ∈ purePath.parts
      ∨ text "." ∈ purePath.parts then
    .error (.manifestError "model file path escapes its allowlist")
  else
    let sha256 ← textOf (isDigest 64) "model file checksum is invalid" sha256
    return (filePath, sizeBytes, sha256)

/-- The path of a download on the source's host. -/
def expectedPath (source : ModelSource) (sourcePath : Text) : Text :=
  47 :: source.repository ++ text "/resolve/" ++ source.revision ++ 47 :: sourcePath

/-- `_parse_file_download_source`. -/
def parseFileDownloadSource (raw : List (Text × Json)) (source : ModelSource) (acquisition : Text) :
    Except Raised (Option Text × Option Text) :=
  if acquisition = text "download" then
    match get raw "source_url", get raw "source_path" with
    | .str sourceUrl, .str sourcePath =>
      let pureSourcePath := PurePath.ofText sourcePath
      if pureSourcePath.isAbsolute ∨ text ".." ∈ pureSourcePath.parts
          ∨ text "." ∈ pureSourcePath.parts then
        .error (.manifestError "download source path is invalid")
      else do
        let parsed ← orValueError (i.urls.urlparse [] sourceUrl)
        if parsed.scheme ≠ text "https" ∨ i.urls.hostname parsed ≠ some huggingfaceHost
            ∨ Urls.username parsed ≠ none ∨ Urls.password parsed ≠ none
            ∨ parsed.path ≠ expectedPath source sourcePath
            ∨ parsed.query ≠ [] ∨ parsed.fragment ≠ [] then
          .error (.manifestError "download source URL is not pinned")
        else return (some sourceUrl, some sourcePath)
    | _, _ => .error (.manifestError "download source URL is missing")
  else match get raw "source_url", get raw "source_path" with
    | .null, .null => .ok (none, none)
    | _, _ => .error (.manifestError "reused model file cannot define a download URL")

/-- `_parse_file`. -/
def parseFile (source : ModelSource) (acquisition : Text) : Json → Except Raised ModelFile
  | .obj raw => do
    let (path, sizeBytes, sha256) ← parseFileIdentity raw
    let (sourceUrl, sourcePath) ← parseFileDownloadSource i raw source acquisition
    return { path, sizeBytes, sha256, sourceUrl, sourcePath }
  | _ => .error (.manifestError "model file entry must be an object")

/-! ### Models -/

/-- Two dictionaries by a file's path say the same. -/
def sameFiles (files others : List ModelFile) : Bool :=
  (files ++ others).all fun file =>
    files.reverse.find? (fun other => other.path == file.path)
      == others.reverse.find? (fun other => other.path == file.path)

/-- `_validate_license_waiver`. -/
def validateLicenseWaiver (model : ModelEntry) (policy : ManifestPolicy) : Except Raised Unit :=
  if model.source.licenseWaiver = none then .ok ()
  else if policy.usageMode = text "personal_noncommercial" ∧ policy.redistribution = false
      ∧ policy.certifiedOrSafetyCritical = false ∧ model.id = text "piper-ru-irina-medium"
      ∧ model.role = text "tts" ∧ model.acquisition = text "download"
      ∧ model.languages = [text "ru"]
      ∧ model.cachePath.parts.drop (model.cachePath.parts.length - 2) = [text "cache", text "piper"]
      ∧ model.source.repository = text "rhasspy/piper-voices"
      ∧ model.source.revision = irinaRevision ∧ model.source.license = text "MIT"
      ∧ model.source.datasetLicense = some (text "Unknown")
      ∧ model.source.licenseWaiver = some irinaWaiver
      ∧ sameFiles model.files irinaFiles = true then .ok ()
  else .error (.manifestError "license waiver does not match approved Irina assets")

/-- `any(language not in _LANGUAGES for language in languages)`. -/
def anyForeign : List Json → Except Raised Bool
  | [] => .ok false
  | language :: languages => do
    if ← isOneOf languageNames language then anyForeign languages else return true

/-- The texts among some values. -/
def texts (values : List Json) : List Text :=
  values.filterMap fun value => match value with
    | .str t => some t
    | _ => none

/-- The fields of a model, before they are judged. -/
structure ModelFields where
  id : Json
  role : Json
  acquisition : Json
  languages : Json
  cachePath : PurePath
  source : ModelSource
  files : Json

def modelFields (raw : List (Text × Json)) : Except Raised ModelFields :=
  catching [.keyError, .typeError] "model entry is incomplete" do
    let id ← field raw "id"
    let role ← field raw "role"
    let acquisition ← field raw "acquisition"
    let languages ← field raw "languages"
    let cachePath ← pathOf (← field raw "cache_path")
    let source ← parseSource i (← field raw "source")
    let files ← field raw "files"
    return { id, role, acquisition, languages, cachePath, source, files }

/-- The languages of a model, each named once. -/
def modelLanguages : Json → Except Raised (List Text)
  | .arr (language :: languages) => do
    if ← anyForeign (language :: languages) then
      .error (.manifestError "model languages are invalid")
    else if (texts (language :: languages)).Nodup then return texts (language :: languages)
    else .error (.manifestError "model languages are invalid")
  | _ => .error (.manifestError "model languages are invalid")

/-- The files of a model, each path spelled once. -/
def modelFiles (source : ModelSource) (acquisition : Text) : Json → Except Raised (List ModelFile)
  | .arr (file :: files) => do
    let files ← (file :: files).mapM (parseFile i source acquisition)
    if (files.map ModelFile.path).Nodup then return files
    else .error (.manifestError "model file allowlist contains duplicates")
  | _ => .error (.manifestError "model file allowlist is empty")

/-- The role and the acquisition of a model. -/
def modelKind (role acquisition : Json) : Except Raised (Text × Text) := do
  if !(← isOneOf roleNames role) then
    .error (.manifestError "model role or acquisition is invalid")
  else if !(← isOneOf acquisitionNames acquisition) then
    .error (.manifestError "model role or acquisition is invalid")
  else match role, acquisition with
    | .str role, .str acquisition => return (role, acquisition)
    | _, _ => .error (.manifestError "model role or acquisition is invalid")

/-- `_parse_model`. -/
def parseModel (policy : ManifestPolicy) : Json → Except Raised ModelEntry
  | .obj raw => do
    let m ← modelFields i raw
    let id ← textOf isModelId "model id is invalid" m.id
    let (role, acquisition) ← modelKind m.role m.acquisition
    let languages ← modelLanguages m.languages
    if !m.cachePath.isAbsolute then
      .error (.manifestError "model cache path must be absolute")
    else
      let files ← modelFiles i m.source acquisition m.files
      let model := {
        id := id
        role := role
        source := m.source
        languages := languages
        cachePath := m.cachePath
        acquisition := acquisition
        files := files }
      validateLicenseWaiver model policy
      return model
  | _ => .error (.manifestError "model entry must be an object")

/-! ### The whole manifest -/

/-- The models of a document, no two of one id. -/
def parseModels (policy : ManifestPolicy) :
    List ModelEntry → List Json → Except Raised (List ModelEntry)
  | models, [] => .ok models
  | models, raw :: rest => do
    let model ← parseModel i policy raw
    if models.any (fun other => other.id == model.id) then
      .error (.manifestError "duplicate model id")
    else parseModels policy (models ++ [model]) rest

/-- The bytes that some models are downloaded in. -/
def plannedBytes (models : List ModelEntry) : Nat :=
  ((models.filter fun model => model.acquisition == text "download").flatMap fun model =>
    model.files.map ModelFile.sizeBytes).sum

/-- The document of a manifest's file, of which nothing is known if it cannot be read. -/
def readDocument (content : Option (List UInt8)) : Except Raised Json :=
  match content with
  | none => .error .osError
  | some bytes =>
    match Text.decode bytes with
    | none => .error .unicodeDecodeError
    | some t =>
      match Json.loads i.limits t.newlines with
      | .ok document => .ok document
      | .error .malformed => .error .jsonDecodeError
      | .error .digits => .error .valueError
      | .error .depth => .error .recursionError

/-- What `load_manifest` makes of a document. -/
def checkDocument : Json → Except Raised ModelManifest
  | .obj document =>
    if !(get document "schema_version").isOne then
      .error (.manifestError "unsupported model manifest schema")
    else do
      let policy ← parsePolicy i (get document "policy")
      match get document "models" with
      | .arr (raw :: rest) => do
        let models ← parseModels i policy [] (raw :: rest)
        if policy.downloadBudgetBytes < plannedBytes models then
          .error (.manifestError "planned model download exceeds budget")
        else return { schemaVersion := 1, policy, models, plannedDownloadBytes := plannedBytes models }
      | _ => .error (.manifestError "manifest must contain models")
  | _ => .error (.manifestError "unsupported model manifest schema")

/-- `load_manifest`. -/
def loadManifest (content : Option (List UInt8)) : Except Raised ModelManifest := do
  let document ← catching [.osError, .jsonDecodeError] "model manifest could not be read"
    (readDocument i content)
  checkDocument i document

/-- `_target_path`. -/
def targetPath (model : ModelEntry) (file : ModelFile) : Except Raised PurePath :=
  let target := model.cachePath.join (PurePath.ofText file.path).parts
  if target.isWithin model.cachePath then .ok target
  else .error (.manifestError "model target escapes cache path")

end Translator.Manifest
