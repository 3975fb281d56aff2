import Translator.Manifest.Accepted

/-! The transport of `model_fetch.py`: a generator that follows a file's redirects by hand, checks each of
    them against the manifest, and hands out the body of the one response that is the file. The server
    decides what is answered, and whoever reads the file may stop at any block. -/

namespace Translator.Manifest
open Schemes

/-! ### Redirects -/

/-- `ModelManifest.model_file`. -/
def ModelManifest.modelFile (manifest : ModelManifest) (modelId filePath : Text) :
    Except Raised (ModelEntry × ModelFile) :=
  match manifest.models.find? fun model => model.id == modelId with
  | none => .error (.manifestError "unknown model id")
  | some model =>
    match model.files.find? fun file => file.path == filePath with
    | none => .error (.manifestError "file is not allowlisted for model")
    | some file => .ok (model, file)

variable (i : Interpreter)

/-- The path of a file in the cache of the source's host. -/
def cachePath (model : ModelEntry) (quoted : Text) : Text :=
  text "/api/resolve-cache/models/" ++ model.source.repository ++ 47 :: model.source.revision
    ++ 47 :: quoted

instance textLawful : LawfulBEq Text := inferInstance

/-- What a step of a chain has to satisfy, the first or a later one. -/
def checkUrl (manifest : ModelManifest) (model : ModelEntry) (file : ModelFile) (first : Bool)
    (url : Text) : Except Raised Unit := do
  let parsed ← orValueError (i.urls.urlparse [] url)
  match i.urls.hostname parsed with
  | none => .error (.manifestError
      (if first then "source URL is not allowed" else "redirect URL is not allowed"))
  | some host =>
    if parsed.scheme ≠ text "https" ∨ Urls.username parsed ≠ none ∨ Urls.password parsed ≠ none then
      .error (.manifestError
        (if first then "source URL is not allowed" else "redirect URL is not allowed"))
    else if first then
      if host ≠ huggingfaceHost then .error (.manifestError "source URL host is not allowed")
      else return ()
    else if host = huggingfaceHost then
      match Urls.quote (file.sourcePath.getD []) with
      | none => .error .unicodeEncodeError
      | some quoted =>
        if parsed.path ≠ cachePath model quoted then
          .error (.manifestError "redirect host cache path is not pinned")
        else return ()
    else if host ∉ manifest.policy.redirectHosts then
      .error (.manifestError "redirect host is not allowlisted")
    else return ()

/-- The later steps of a chain. -/
def checkRedirects (manifest : ModelManifest) (model : ModelEntry) (file : ModelFile) :
    List Text → Except Raised Unit
  | [] => .ok ()
  | url :: urls => do
    checkUrl i manifest model file false url
    checkRedirects manifest model file urls

/-- `ModelManifest.validate_download_chain`. -/
def validateDownloadChain (manifest : ModelManifest) (modelId filePath : Text) (urls : List Text) :
    Except Raised Unit := do
  let (model, file) ← manifest.modelFile modelId filePath
  if model.acquisition ≠ text "download" ∨ file.sourceUrl = none then
    .error (.manifestError "file has no approved download source")
  else match urls with
    | [] => .error (.manifestError "initial source URL does not match pinned source")
    | url :: urls =>
      if file.sourceUrl ≠ some url then
        .error (.manifestError "initial source URL does not match pinned source")
      else do
        checkUrl i manifest model file true url
        checkRedirects i manifest model file urls

/-! ### Responses -/

/-- The headers of a response: a message that looks them up, or a plain mapping. -/
inductive Headers where
  | message (getAll : Text → List Text)
  | mapping (items : List (Text × Text))

structure Response where
  status : Int
  headers : Headers

/-- `_header_values`. -/
def headerValues (headers : Headers) (name : Text) : List Text :=
  match headers with
  | .message getAll => getAll name
  | .mapping items => (items.filter fun item =>
      i.urls.letters.lower item.1 == i.urls.letters.lower name).map Prod.snd

/-- `_single_header`. -/
def singleHeader (response : Response) (name : String) : Except Raised (Option Text) :=
  match headerValues i response.headers (text name) with
  | [] => .ok none
  | [c :: value] => .ok (some (c :: value))
  | _ => .error (.manifestError s!"{name} header is ambiguous")

/-- The number of a header that is digits only, which `int` reads up to its limit. -/
def digitsOf (value : Text) : Except Raised (Option Nat) :=
  if value.isEmpty ∨ value.any (fun c => (i.urls.letters.decimal c).isNone) then .ok none
  else if i.limits.digits < value.length then .error .valueError
  else .ok (some (value.foldl (fun n c => 10 * n + (i.urls.letters.decimal c).getD 0) 0))

/-- `_validate_response_metadata`. -/
def validateResponseMetadata (response : Response) (file : ModelFile) : Except Raised Unit := do
  match ← singleHeader i response "Content-Length" with
  | none => .error (.manifestError "response Content-Length does not match manifest")
  | some contentLength =>
    if (← digitsOf i contentLength) ≠ some file.sizeBytes then
      .error (.manifestError "response Content-Length does not match manifest")
    else match headerValues i response.headers (text "Content-Encoding") with
      | [] => return ()
      | [encoding] =>
        if i.urls.letters.lower (encoding.strip i.urls.letters) ≠ text "identity" then
          .error (.manifestError "response Content-Encoding is not supported")
        else return ()
      | _ => .error (.manifestError "response Content-Encoding is not supported")

/-! ### The generator -/

/-- A call of `_download_chunks`. -/
structure Download where
  manifest : ModelManifest
  modelId : Text
  file : ModelFile
  maxRedirects : Nat

/-- Where the generator stands. -/
inductive Point where
  | fresh
  /-- In `transport.open`. -/
  | opening
  /-- In `response.read`. -/
  | reading (response : Response)
  /-- At its `yield`. -/
  | suspended (response : Response)
  | returned
  | raised (error : Raised)
  | closed

/-- What can be seen of it from outside, the responses numbered as they come. -/
inductive Event where
  /-- A URL was opened, and a response returned or not. -/
  | opened (url : Text) (response : Option Response)
  | closed
  | yielded (block : List UInt8)

structure State where
  chain : List Text
  current : Text
  redirects : Nat
  point : Point
  log : List Event

inductive Act where
  /-- `transport.open` returns, or raises. -/
  | answer (response : Option Response)
  /-- `response.read` returns, or raises. -/
  | block (bytes : Option (List UInt8))
  /-- Whoever reads asks for the next block. -/
  | resume
  /-- Whoever reads stops. -/
  | close

/-- `_REDIRECT_STATUSES`. -/
def redirectStatuses : List Int := [301, 302, 303, 307, 308]

variable (d : Download)

/-- The URL that a redirect leads to. -/
def nextUrl (s : State) (response : Response) : Except Raised Text := do
  match ← singleHeader i response "Location" with
  | none => .error (.manifestError "redirect Location is missing")
  | some location =>
    if d.maxRedirects < s.redirects + 1 then
      .error (.manifestError "download redirect limit exceeded")
    else do
      let url ← orValueError (i.urls.urljoin s.current location)
      validateDownloadChain i d.manifest d.modelId d.file.path (s.chain ++ [url])
      return url

/-- What a response that is no redirect has to be. -/
def checkResponse (s : State) (response : Response) : Except Raised Unit :=
  if response.status ≠ 200 then .error (.manifestError "download response status is not allowed")
  else do
    validateDownloadChain i d.manifest d.modelId d.file.path s.chain
    validateResponseMetadata i response d.file

/-- The `finally` clause, and the end. -/
def State.finish (s : State) (point : Point) : State :=
  { s with point := point, log := s.log ++ [.closed] }

/-- A response has come: it is followed or read, or closed. -/
def State.answered (s : State) (response : Response) : State :=
  let s := { s with log := s.log ++ [.opened s.current (some response)] }
  if response.status ∈ redirectStatuses then
    match nextUrl i d s response with
    | .error e => s.finish (.raised e)
    | .ok url =>
      { s.finish .opening with
        redirects := s.redirects + 1, current := url, chain := s.chain ++ [url] }
  else match checkResponse i d s response with
    | .error e => s.finish (.raised e)
    | .ok () => { s with point := .reading response }

def State.init : State where
  chain := []
  current := []
  redirects := 0
  point := .fresh
  log := []

/-- `_download_chunks`. -/
def step (s : State) (act : Act) : Option State :=
  match s.point, act with
  | .fresh, .resume =>
    match d.file.sourceUrl with
    | none => some { s with point := .raised (.manifestError "model file is not approved for download") }
    | some url => some { s with chain := [url], current := url, point := .opening }
  | .fresh, .close => some { s with point := .closed }
  | .opening, .answer none => some { s with
      point := .raised (.manifestError "download transport failed")
      log := s.log ++ [.opened s.current none] }
  | .opening, .answer (some response) => some (s.answered i d response)
  | .reading _, .block none =>
    some (s.finish (.raised (.manifestError "download transport failed")))
  | .reading _, .block (some []) => some (s.finish .returned)
  | .reading response, .block (some (b :: bytes)) => some { s with
      point := .suspended response, log := s.log ++ [.yielded (b :: bytes)] }
  | .suspended response, .resume => some { s with point := .reading response }
  | .suspended _, .close => some (s.finish .closed)
  | _, _ => none

/-- A run of the generator, as long as what happens can happen. -/
def run (s : State) : List Act → Option State
  | [] => some s
  | act :: acts => do run (← step i d s act) acts

/-! ### What may be opened, and what may be read -/

/-- The rule for a redirect: an address of the allowlist, or the file's own place in the cache of the
    source's host. -/
def Permitted (manifest : ModelManifest) (model : ModelEntry) (file : ModelFile) (url : Text) : Prop :=
  ∃ parsed host, i.urls.urlparse [] url = some parsed ∧ parsed.scheme = text "https"
    ∧ Urls.username parsed = none ∧ Urls.password parsed = none ∧ i.urls.hostname parsed = some host
    ∧ (host = huggingfaceHost ∧ (∃ quoted, Urls.quote (file.sourcePath.getD []) = some quoted
        ∧ parsed.path = cachePath model quoted)
      ∨ host ≠ huggingfaceHost ∧ host ∈ manifest.policy.redirectHosts)

/-- The response that is the file. -/
structure Proper (file : ModelFile) (response : Response) : Prop where
  status : response.status = 200
  length : ∃ value, headerValues i response.headers (text "Content-Length") = [value]
    ∧ digitsOf i value = .ok (some file.sizeBytes)
  encoding : headerValues i response.headers (text "Content-Encoding") = []
    ∨ ∃ value, headerValues i response.headers (text "Content-Encoding") = [value]
      ∧ i.urls.letters.lower (value.strip i.urls.letters) = text "identity"

/-- The response that is held after an event, if the event can follow. -/
def follow (held : Option Response) (event : Event) : Option (Option Response) :=
  match held, event with
  | none, .opened _ response => some response
  | some response, .yielded _ => some (some response)
  | some _, .closed => some none
  | _, _ => none

/-- The response that is held after some events: each is closed once, before the next is opened, and
    only while one is held are there blocks. -/
def heldAfter (log : List Event) : Option (Option Response) := log.foldlM follow none

/-- The response that the generator holds. -/
def Point.held : Point → Option Response
  | .reading response => some response
  | .suspended response => some response
  | _ => none

/-- The generator has come to an end. -/
def Point.Over (point : Point) : Prop :=
  match point with
  | .returned => True
  | .raised _ => True
  | .closed => True
  | _ => False

/-- The URLs that were opened. -/
def urlsOf (log : List Event) : List Text :=
  log.filterMap fun event => match event with
    | .opened url _ => some url
    | _ => none

/-- Every block was read from the response that is the file. -/
def FromProper (file : ModelFile) (log : List Event) : Prop :=
  ∀ before bytes after, log = before ++ .yielded bytes :: after →
    ∃ response, heldAfter before = some (some response) ∧ Proper i file response

/-- What holds of the generator wherever it stands. -/
structure Safe (model : ModelEntry) (s : State) : Prop where
  urls : ∀ url ∈ urlsOf s.log,
    d.file.sourceUrl = some url ∨ Permitted i d.manifest model d.file url
  count : (urlsOf s.log).length ≤ d.maxRedirects + 1
  held : heldAfter s.log = some s.point.held
  blocks : FromProper i d.file s.log

/-- What a step relies on. -/
structure Inv (model : ModelEntry) (s : State) : Prop extends Safe i d model s where
  chain : ∀ url ∈ s.chain, d.file.sourceUrl = some url ∨ Permitted i d.manifest model d.file url
  current : s.point = .opening → s.current ∈ s.chain ∧ s.chain ≠ []
  fresh : s.point = .fresh → s.log = [] ∧ s.redirects = 0
  opening : s.point = .opening → (urlsOf s.log).length = s.redirects ∧ s.redirects ≤ d.maxRedirects
  proper : ∀ response, s.point.held = some response → Proper i d.file response

variable {i d}

/-! ### Checks -/

theorem orValueError_ok {α : Type} {x : Option α} {a : α} (h : orValueError x = .ok a) : x = some a := by
  cases x with
  | none => cases h
  | some b =>
    cases h
    rfl

theorem permitted_of_check {manifest : ModelManifest} {model : ModelEntry} {file : ModelFile}
    {url : Text} (h : checkUrl i manifest model file false url = .ok ()) :
    Permitted i manifest model file url := by
  obtain ⟨parsed, hparsed, h₁⟩ := except_bind_ok.mp h
  cases hhost : i.urls.hostname parsed with
  | none =>
    rw [hhost] at h₁
    cases h₁
  | some host =>
    simp only [hhost, Bool.false_eq_true, if_false] at h₁
    split at h₁
    · cases h₁
    · next hplain =>
      rw [not_or, not_or, not_not, not_not, not_not] at hplain
      refine ⟨parsed, host, orValueError_ok hparsed, hplain.1, hplain.2.1, hplain.2.2, hhost, ?_⟩
      split at h₁
      · next hsource =>
        refine .inl ⟨hsource, ?_⟩
        split at h₁
        · cases h₁
        · next quoted hquoted =>
          split at h₁
          · cases h₁
          · next hpath => exact ⟨quoted, hquoted, not_not.mp hpath⟩
      · next hother =>
        split at h₁
        · cases h₁
        · next hlisted => exact .inr ⟨hother, not_not.mp hlisted⟩

theorem permitted_of_redirects {manifest : ModelManifest} {model : ModelEntry} {file : ModelFile}
    {urls : List Text} (h : checkRedirects i manifest model file urls = .ok ()) :
    ∀ url ∈ urls, Permitted i manifest model file url := by
  induction urls with
  | nil => simp
  | cons first urls ih =>
    obtain ⟨_, hfirst, hrest⟩ := except_bind_ok.mp h
    intro url hurl
    rcases List.mem_cons.mp hurl with rfl | hurl
    · exact permitted_of_check hfirst
    · exact ih hrest url hurl

/-- A chain that is accepted starts at the source, and every later step of it is permitted. -/
theorem validateDownloadChain_ok {manifest : ModelManifest} {modelId filePath : Text}
    {model : ModelEntry} {file : ModelFile} {urls : List Text}
    (hfile : manifest.modelFile modelId filePath = .ok (model, file))
    (h : validateDownloadChain i manifest modelId filePath urls = .ok ()) :
    ∃ url rest, urls = url :: rest ∧ file.sourceUrl = some url
      ∧ ∀ url ∈ rest, Permitted i manifest model file url := by
  obtain ⟨⟨model', file'⟩, hfile', h₁⟩ := except_bind_ok.mp h
  rw [hfile] at hfile'
  cases hfile'
  dsimp only at h₁
  split at h₁
  · cases h₁
  · split at h₁
    · cases h₁
    · next url rest =>
      split at h₁
      · cases h₁
      · next hsource =>
        obtain ⟨_, -, h₂⟩ := except_bind_ok.mp h₁
        exact ⟨url, rest, rfl, not_not.mp hsource, permitted_of_redirects h₂⟩

theorem singleHeader_ok {response : Response} {name : String} {value : Text}
    (h : singleHeader i response name = .ok (some value)) :
    headerValues i response.headers (text name) = [value] := by
  unfold singleHeader at h
  split at h
  · cases h
  · next hvalues =>
    cases h
    exact hvalues
  · cases h

theorem proper_of_check {s : State} {response : Response}
    (h : checkResponse i d s response = .ok ()) : Proper i d.file response := by
  unfold checkResponse at h
  split at h
  · cases h
  · next hstatus =>
    obtain ⟨_, -, h₁⟩ := except_bind_ok.mp h
    obtain ⟨length, hlength, h₂⟩ := except_bind_ok.mp h₁
    cases length with
    | none => cases h₂
    | some value =>
      obtain ⟨size, hsize, h₃⟩ := except_bind_ok.mp h₂
      split at h₃
      · cases h₃
      · next hequal =>
        rw [not_not] at hequal
        subst hequal
        refine ⟨not_not.mp hstatus, ⟨value, singleHeader_ok hlength, hsize⟩, ?_⟩
        split at h₃
        · next hnone => exact .inl hnone
        · next encoding hone =>
          split at h₃
          · cases h₃
          · next hidentity => exact .inr ⟨encoding, hone, not_not.mp hidentity⟩
        · cases h₃

theorem nextUrl_ok {s : State} {response : Response} {url : Text}
    (h : nextUrl i d s response = .ok url) : s.redirects + 1 ≤ d.maxRedirects
      ∧ validateDownloadChain i d.manifest d.modelId d.file.path (s.chain ++ [url]) = .ok () := by
  obtain ⟨location, -, h₁⟩ := except_bind_ok.mp h
  cases location with
  | none => cases h₁
  | some location =>
    dsimp only at h₁
    split at h₁
    · cases h₁
    · next hlimit =>
      obtain ⟨url', -, h₂⟩ := except_bind_ok.mp h₁
      obtain ⟨_, hvalid, h₃⟩ := except_bind_ok.mp h₂
      cases h₃
      exact ⟨Nat.not_lt.mp hlimit, hvalid⟩

/-! ### What a step keeps -/

theorem heldAfter_concat (log : List Event) (event : Event) :
    heldAfter (log ++ [event]) = (heldAfter log).bind fun held => follow held event := by
  rw [heldAfter, List.foldlM_append]
  exact congrArg _ (funext fun held => bind_pure (follow held event))

theorem urlsOf_concat (log : List Event) (event : Event) :
    urlsOf (log ++ [event]) = urlsOf log ++ urlsOf [event] := List.filterMap_append

theorem fromProper_concat {file : ModelFile} {log : List Event} {event : Event}
    (h : FromProper i file log) (hevent : ∀ bytes, event = .yielded bytes →
      ∃ response, heldAfter log = some (some response) ∧ Proper i file response) :
    FromProper i file (log ++ [event]) := by
  intro before bytes after hsplit
  rcases List.eq_nil_or_concat after with rfl | ⟨after, last, rfl⟩
  · obtain ⟨rfl, hlast⟩ := List.append_inj' hsplit rfl
    exact hevent bytes (List.cons.inj hlast).1
  · rw [List.concat_eq_append, ← List.cons_append, ← List.append_assoc] at hsplit
    exact h before bytes after (List.append_inj' hsplit rfl).1

variable {model : ModelEntry}

/-- The end of a response: it is closed. -/
theorem finish_safe {s : State} {point : Point} {response : Response}
    (hurls : ∀ url ∈ urlsOf s.log, d.file.sourceUrl = some url
      ∨ Permitted i d.manifest model d.file url)
    (hcount : (urlsOf s.log).length ≤ d.maxRedirects + 1)
    (hheld : heldAfter s.log = some (some response)) (hblocks : FromProper i d.file s.log)
    (hpoint : point.held = none) : Safe i d model (s.finish point) := by
  have hsame : urlsOf (s.finish point).log = urlsOf s.log := by
    rw [State.finish, urlsOf_concat]
    exact List.append_nil _
  refine ⟨by rw [hsame]; exact hurls, by rw [hsame]; exact hcount, ?_, ?_⟩
  · rw [State.finish, heldAfter_concat, hheld]
    exact congrArg some hpoint.symm
  · refine fromProper_concat hblocks ?_
    intro bytes h
    cases h

section
variable (hfile : d.manifest.modelFile d.modelId d.file.path = .ok (model, d.file))
include hfile

/-- A response that has come is followed to a permitted URL, read if it is the file, or closed. -/
theorem answered_inv {s : State} (h : Inv i d model s) (hpoint : s.point = .opening)
    (response : Response) : Inv i d model (s.answered i d response) := by
  obtain ⟨hcount, hlimit⟩ := h.opening hpoint
  obtain ⟨hcurrent, hchain⟩ := h.current hpoint
  have hopened : urlsOf (s.log ++ [.opened s.current (some response)])
      = urlsOf s.log ++ [s.current] := urlsOf_concat _ _
  have hurls : ∀ url ∈ urlsOf (s.log ++ [.opened s.current (some response)]),
      d.file.sourceUrl = some url ∨ Permitted i d.manifest model d.file url := by
    intro url hurl
    rw [hopened] at hurl
    rcases List.mem_append.mp hurl with hurl | hurl
    · exact h.urls url hurl
    · rw [List.mem_singleton.mp hurl]
      exact h.chain _ hcurrent
  have hlength : (urlsOf (s.log ++ [.opened s.current (some response)])).length = s.redirects + 1 := by
    rw [hopened, List.length_append, hcount]
    rfl
  have hheld : heldAfter (s.log ++ [.opened s.current (some response)]) = some (some response) := by
    rw [heldAfter_concat, h.held, hpoint]
    rfl
  have hblocks : FromProper i d.file (s.log ++ [.opened s.current (some response)]) := by
    refine fromProper_concat h.blocks ?_
    intro bytes hevent
    cases hevent
  have hended : ∀ error, Inv i d model
      ({ s with log := s.log ++ [Event.opened s.current (some response)] }.finish (.raised error)) := by
    intro error
    refine ⟨finish_safe hurls (by rw [hlength]; omega) hheld hblocks rfl, h.chain, ?_, ?_, ?_, ?_⟩
    · intro h
      cases h
    · intro h
      cases h
    · intro h
      cases h
    · intro response h
      cases h
  unfold State.answered
  dsimp only
  split
  · split
    · exact hended _
    · next url hnext =>
      obtain ⟨hwithin, hvalid⟩ := nextUrl_ok hnext
      obtain ⟨first, rest, hsplit, hsource, hrest⟩ := validateDownloadChain_ok hfile hvalid
      have hsafe : Safe i d model ({ s with
          log := s.log ++ [Event.opened s.current (some response)] }.finish .opening) :=
        finish_safe hurls (by rw [hlength]; omega) hheld hblocks rfl
      refine ⟨⟨hsafe.urls, hsafe.count, hsafe.held, hsafe.blocks⟩, ?_, ?_, ?_, ?_, ?_⟩
      · intro url' hurl'
        rw [hsplit] at hurl'
        rcases List.mem_cons.mp hurl' with rfl | hurl'
        · exact .inl hsource
        · exact .inr (hrest url' hurl')
      · intro _
        exact ⟨List.mem_append_right _ (List.mem_singleton_self _),
          List.append_ne_nil_of_right_ne_nil _ (List.cons_ne_nil _ _)⟩
      · intro h
        cases h
      · intro _
        refine ⟨?_, hwithin⟩
        rw [← hlength]
        exact congrArg List.length ((urlsOf_concat _ _).trans (List.append_nil _))
      · intro response h
        cases h
  · split
    · exact hended _
    · next hchecked =>
      refine ⟨⟨hurls, by rw [hlength]; omega, hheld, hblocks⟩, h.chain, ?_, ?_, ?_, ?_⟩
      · intro h
        cases h
      · intro h
        cases h
      · intro h
        cases h
      · intro response' hsame
        cases hsame
        exact proper_of_check hchecked

theorem step_inv {s s' : State} {act : Act} (h : Inv i d model s) (hstep : step i d s act = some s') :
    Inv i d model s' := by
  have hsafe := h.toSafe
  -- a step that leaves the log alone and ends, or only goes on
  have hstill : ∀ s₁ : State, s₁.log = s.log → s₁.chain = s.chain → s₁.point.held = s.point.held →
      s₁.point ≠ .fresh → s₁.point ≠ .opening → Inv i d model s₁ := by
    intro s₁ hlog hchain hheld hfresh hopening
    refine ⟨⟨?_, ?_, ?_, ?_⟩, ?_, fun h => absurd h hopening, fun h => absurd h hfresh,
      fun h => absurd h hopening, ?_⟩
    · rw [hlog]
      exact h.urls
    · rw [hlog]
      exact h.count
    · rw [hlog, hheld]
      exact h.held
    · rw [hlog]
      exact h.blocks
    · rw [hchain]
      exact h.chain
    · rw [hheld]
      exact h.proper
  -- a step that closes the response it holds
  have hclose : ∀ (response : Response) (point : Point), s.point.held = some response →
      point.held = none → point ≠ .fresh → point ≠ .opening →
      Inv i d model (s.finish point) := by
    intro response point hheld hnone hfresh hopening
    refine ⟨finish_safe h.urls h.count (by rw [h.held, hheld]) h.blocks hnone, h.chain,
      fun h => absurd h hopening, fun h => absurd h hfresh, fun h => absurd h hopening, ?_⟩
    intro response' hsame
    have hpoint : point.held = some response' := hsame
    rw [hnone] at hpoint
    cases hpoint
  unfold step at hstep
  split at hstep
  · next hpoint =>
    obtain ⟨hlog, hredirects⟩ := h.fresh hpoint
    split at hstep
    · cases hstep
      exact hstill _ rfl rfl (by rw [hpoint]; rfl) (by intro h; cases h) (by intro h; cases h)
    · next url hurl =>
      cases hstep
      refine ⟨⟨h.urls, h.count, ?_, h.blocks⟩, ?_, ?_, ?_, ?_, ?_⟩
      · rw [h.held, hpoint]
        rfl
      · intro url' hurl'
        rw [List.mem_singleton.mp hurl']
        exact .inl hurl
      · intro _
        exact ⟨List.mem_singleton_self _, List.cons_ne_nil _ _⟩
      · intro h
        cases h
      · intro _
        dsimp only
        rw [hlog, hredirects]
        exact ⟨rfl, Nat.zero_le _⟩
      · intro response h
        cases h
  · next hpoint =>
    cases hstep
    exact hstill _ rfl rfl (by rw [hpoint]; rfl) (by intro h; cases h) (by intro h; cases h)
  · next hpoint =>
    cases hstep
    obtain ⟨hcount, hlimit⟩ := h.opening hpoint
    obtain ⟨hcurrent, -⟩ := h.current hpoint
    refine ⟨⟨?_, ?_, ?_, ?_⟩, h.chain, ?_, ?_, ?_, ?_⟩
    · intro url hurl
      rw [urlsOf_concat] at hurl
      rcases List.mem_append.mp hurl with hurl | hurl
      · exact h.urls url hurl
      · rw [List.mem_singleton.mp hurl]
        exact h.chain _ hcurrent
    · rw [urlsOf_concat, List.length_append, hcount]
      exact Nat.succ_le_succ hlimit
    · rw [heldAfter_concat, h.held, hpoint]
      rfl
    · refine fromProper_concat h.blocks ?_
      intro bytes hevent
      cases hevent
    · intro h
      cases h
    · intro h
      cases h
    · intro h
      cases h
    · intro response h
      cases h
  · next response hpoint =>
    cases hstep
    exact answered_inv hfile h hpoint response
  · next response hpoint =>
    cases hstep
    exact hclose response _ (by rw [hpoint]; rfl) rfl (by intro h; cases h) (by intro h; cases h)
  · next response hpoint =>
    cases hstep
    exact hclose response _ (by rw [hpoint]; rfl) rfl (by intro h; cases h) (by intro h; cases h)
  · next response b bytes hpoint =>
    cases hstep
    have hheld : s.point.held = some response := by rw [hpoint]; rfl
    refine ⟨⟨?_, ?_, ?_, ?_⟩, h.chain, ?_, ?_, ?_, ?_⟩
    · rw [urlsOf_concat]
      exact fun url hurl => h.urls url (by simpa [urlsOf] using hurl)
    · rw [urlsOf_concat]
      simpa [urlsOf] using h.count
    · rw [heldAfter_concat, h.held, hheld]
      rfl
    · refine fromProper_concat h.blocks ?_
      intro _ _
      exact ⟨response, by rw [h.held, hheld], h.proper response hheld⟩
    · intro h
      cases h
    · intro h
      cases h
    · intro h
      cases h
    · intro response' hsame
      exact h.proper response' (hheld.trans hsame)
  · next response hpoint =>
    cases hstep
    exact hstill _ rfl rfl (by rw [hpoint]; rfl) (by intro h; cases h) (by intro h; cases h)
  · next response hpoint =>
    cases hstep
    exact hclose response _ (by rw [hpoint]; rfl) rfl (by intro h; cases h) (by intro h; cases h)
  · cases hstep

theorem run_inv {s s' : State} {acts : List Act} (h : Inv i d model s)
    (hrun : run i d s acts = some s') : Inv i d model s' := by
  induction acts generalizing s with
  | nil =>
    cases hrun
    exact h
  | cons act acts ih =>
    obtain ⟨s₁, hstep, hrest⟩ := Option.bind_eq_some_iff.mp hrun
    exact ih (step_inv hfile h hstep) hrest

end

theorem init_inv : Inv i d model .init := by
  refine ⟨⟨?_, Nat.zero_le _, rfl, ?_⟩, ?_, ?_, fun _ => ⟨rfl, rfl⟩, ?_, ?_⟩
  · intro url h
    cases h
  · intro before bytes after h
    cases before <;> cases h
  · intro url h
    cases h
  · intro h
    cases h
  · intro h
    cases h
  · intro response h
    cases h

/-! ### Redirect after redirect -/

theorem answered_redirect {s : State} {response : Response} (h : response.status ∈ redirectStatuses) :
    ((s.answered i d response).point = .opening ∨ (s.answered i d response).point.Over)
      ∧ (urlsOf (s.answered i d response).log).length = (urlsOf s.log).length + 1 := by
  have hlength : ∀ point, (urlsOf ({ s with
      log := s.log ++ [Event.opened s.current (some response)] }.finish point).log).length
        = (urlsOf s.log).length + 1 := by
    intro point
    rw [State.finish, urlsOf_concat, urlsOf_concat]
    simp [urlsOf]
  unfold State.answered
  dsimp only
  rw [if_pos h]
  split
  · exact ⟨.inr trivial, hlength _⟩
  · exact ⟨.inl rfl, hlength .opening⟩

/-- A server that answers with nothing but redirects is left after as many as there may be. -/
theorem run_redirects {s s' : State} {responses : List Response} (hpoint : s.point = .opening)
    (hredirects : ∀ response ∈ responses, response.status ∈ redirectStatuses)
    (hrun : run i d s (responses.map fun response => .answer (some response)) = some s') :
    (s'.point = .opening ∨ s'.point.Over)
      ∧ (urlsOf s'.log).length = (urlsOf s.log).length + responses.length := by
  induction responses generalizing s with
  | nil =>
    cases hrun
    exact ⟨.inl hpoint, rfl⟩
  | cons response responses ih =>
    obtain ⟨s₁, hstep, hrest⟩ := Option.bind_eq_some_iff.mp hrun
    simp only [step, hpoint] at hstep
    cases hstep
    obtain ⟨hnext, hlength⟩ := answered_redirect (i := i) (d := d) (s := s)
      (hredirects response List.mem_cons_self)
    rcases hnext with hopening | hover
    · obtain ⟨hend, hcount⟩ := ih hopening
        (fun r hr => hredirects r (List.mem_cons_of_mem _ hr)) hrest
      refine ⟨hend, ?_⟩
      rw [hcount, hlength, List.length_cons]
      omega
    · cases responses with
      | nil =>
        cases hrest
        exact ⟨.inr hover, hlength⟩
      | cons response' responses =>
        obtain ⟨s₂, hstep₂, -⟩ := Option.bind_eq_some_iff.mp hrest
        generalize s.answered i d response = s₁ at hover hstep₂
        unfold step at hstep₂
        cases hp : s₁.point <;> simp only [hp, Point.Over] at hstep₂ hover
        all_goals cases hstep₂

/-! ### Files of a manifest -/

/-- A file of a manifest that was accepted is the one found by its model's id and its path. -/
theorem modelFile_of_accepted {content : Option (List UInt8)} {manifest : ModelManifest}
    {model : ModelEntry} {file : ModelFile} (h : loadManifest i content = .ok manifest)
    (hmodel : model ∈ manifest.models) (hfile : file ∈ model.files) :
    manifest.modelFile model.id file.path = .ok (model, file) := by
  obtain ⟨value, -, hchecked⟩ := except_bind_ok.mp h
  obtain ⟨document, values, rfl, -, hmodels, hids, -⟩ := checkDocument_ok hchecked
  have hread : ∀ model ∈ manifest.models, ∃ raw, ModelRead (i := i) manifest.policy raw model := by
    intro model hmodel
    have hforall := objects_read (hmodels.imp fun _ _ hmodel => parseModel_ok hmodel)
    obtain ⟨raw, -, hraw⟩ := (mem_read hforall).2 model hmodel
    exact ⟨raw, hraw⟩
  obtain ⟨raw, hraw⟩ := hread model hmodel
  simp only [ModelManifest.modelFile, find_of_nodup hids hmodel, find_of_nodup hraw.nodup hfile]

/-- Whatever a server answers, and wherever the reader stops: what is opened is permitted and is closed
    again, and what is read is the file. -/
theorem downloads_safe {content : Option (List UInt8)} {manifest : ModelManifest}
    {model : ModelEntry} {file : ModelFile} (h : loadManifest i content = .ok manifest)
    (hmodel : model ∈ manifest.models) (hfile : file ∈ model.files) (maxRedirects : Nat) :
    (∀ acts s, run i ⟨manifest, model.id, file, maxRedirects⟩ .init acts = some s →
        Safe i ⟨manifest, model.id, file, maxRedirects⟩ model s)
      ∧ ∀ (responses : List Response) (s : State),
        (∀ response ∈ responses, response.status ∈ redirectStatuses) →
        run i ⟨manifest, model.id, file, maxRedirects⟩ .init
          (.resume :: responses.map fun response => .answer (some response)) = some s →
        responses.length ≤ maxRedirects + 1 ∧ (maxRedirects < responses.length → s.point.Over) := by
  have hfound := modelFile_of_accepted h hmodel hfile
  constructor
  · intro acts s hrun
    exact (run_inv hfound init_inv hrun).toSafe
  · intro responses s hredirects hrun
    have hinv : Inv i ⟨manifest, model.id, file, maxRedirects⟩ model s :=
      run_inv hfound init_inv hrun
    obtain ⟨s₁, hstep, hrest⟩ := Option.bind_eq_some_iff.mp hrun
    simp only [step, State.init] at hstep
    split at hstep
    · cases hstep
      cases responses with
      | nil => exact ⟨Nat.zero_le _, fun hlt => absurd hlt (Nat.not_lt_zero _)⟩
      | cons response responses => cases hrest
    · cases hstep
      obtain ⟨hend, hcount⟩ := run_redirects rfl hredirects hrest
      have hlength : (urlsOf s.log).length = responses.length := hcount.trans (Nat.zero_add _)
      refine ⟨hlength ▸ hinv.count, ?_⟩
      intro hlt
      rcases hend with hopening | hover
      · have hwithin := hinv.opening hopening
        dsimp only at hwithin
        omega
      · exact hover

/-- A manifest of one download. -/
def downloadManifest : List UInt8 :=
  (["\x7b\"schema_version\":1,\"policy\":\x7b\"download_budget_bytes\":9,",
    "\"post_download_free_floor_bytes\":1,\"usage_mode\":\"personal_noncommercial\",",
    "\"redistribution\":false,\"certified_or_safety_critical\":false,",
    "\"staging_path\":\"/s\",\"redirect_hosts\":[\"h\"]\x7d,",
    "\"models\":[\x7b\"id\":\"m\",\"role\":\"mt\",\"acquisition\":\"download\",",
    "\"languages\":[\"ru\"],\"cache_path\":\"/c\",\"source\":\x7b\"repository\":\"a/b\",",
    "\"revision\":\"0d907f158acc877ddeebcbf827659ee13bea8bcd\",\"license\":\"MIT\"\x7d,",
    "\"files\":[\x7b\"path\":\"x\",\"size_bytes\":1,\"sha256\":",
    "\"8ff38212d23da300bbe3705c645e6e5b9475f0bfde01558eb17813e22acaaaaa\",",
    "\"source_path\":\"y\",\"source_url\":\"https://huggingface.co/a/b/resolve/",
    "0d907f158acc877ddeebcbf827659ee13bea8bcd/y\"\x7d]\x7d]\x7d"]
    |>.flatMap text).map UInt8.ofNat

/-- One redirect to an address of the allowlist, and there the file. -/
def redirectedRun : List Act :=
  [.resume, .answer (some ⟨302, .mapping [(text "location", text "//h/x?y")]⟩),
    .answer (some ⟨200, .mapping [(text "content-length", text "1")]⟩), .block (some [7]), .resume,
    .block (some [])]

/-- What is seen of the run for each file of a manifest. -/
def events (manifest : ModelManifest) : List (List (Option Nat)) :=
  manifest.models.map fun model => model.files.map fun file =>
    (run .plain ⟨manifest, model.id, file, 1⟩ .init redirectedRun).map fun s => s.log.length

theorem redirected_events : (loadManifest .plain (some downloadManifest)).map events
    = .ok [[some 5]] := by
  decide +kernel

theorem downloads_safe_redirected : ∃ manifest model file s,
    loadManifest .plain (some downloadManifest) = .ok manifest
      ∧ run .plain ⟨manifest, model.id, file, 1⟩ .init redirectedRun = some s ∧ s.log.length = 5
      ∧ Safe .plain ⟨manifest, model.id, file, 1⟩ model s := by
  have h := redirected_events
  cases hload : loadManifest .plain (some downloadManifest) with
  | error e =>
    rw [hload] at h
    cases h
  | ok manifest =>
    rw [hload] at h
    have hevents := Except.ok.inj h
    have hmodel : [some 5] ∈ events manifest := by
      rw [hevents]
      exact List.mem_singleton_self _
    obtain ⟨model, hmodel, hfiles⟩ := List.mem_map.mp hmodel
    have hfile : some 5 ∈ [some 5] := List.mem_singleton_self _
    rw [← hfiles] at hfile
    obtain ⟨file, hfile, hlog⟩ := List.mem_map.mp hfile
    obtain ⟨s, hrun, hlength⟩ := Option.map_eq_some_iff.mp hlog
    exact ⟨manifest, model, file, s, rfl, hrun, hlength,
      (downloads_safe hload hmodel hfile 1).1 redirectedRun s hrun⟩

end Translator.Manifest
