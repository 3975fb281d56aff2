import Translator.Manifest.Accepted

/-! What escapes from the reader of manifests other than as a `ManifestError`: bytes that are no text, a
    document that `json` gives up on, and values that are compared or parsed before their kind is known.
    Checks are made in order, so what escapes is the first thing that is wrong with a manifest. -/

namespace Translator.Manifest
open Schemes

/-- A call raises, and what it raises is no `ManifestError`. -/
def Escapes {α : Type} (x : Except Raised α) : Prop :=
  ∃ e, x = .error e ∧ ∀ message, e ≠ .manifestError message

/-- The first of a list that is not fine is bad. -/
def FirstBad {α : Type} (fine bad : α → Prop) (l : List α) : Prop :=
  ∃ before a after, l = before ++ a :: after ∧ (∀ b ∈ before, fine b) ∧ bad a

/-- A value that no set can look for. -/
def Unhashable : Json → Prop
  | .arr _ => True
  | .obj _ => True
  | _ => False

variable (i : Interpreter)

/-! ### The condition -/

/-- A host of the allowlist is not even a host to the parser of URLs. -/
def HostEscapes (value : Json) : Prop :=
  ∃ host, value = .str host ∧ host ≠ [] ∧ i.urls.urlparse [] (text "https://" ++ host) = none

/-- The first host that is not accepted is one the parser gives up on, in a policy that is approved. -/
def PolicyEscapes (value : Json) : Prop :=
  ∃ raw p hosts, value = .obj raw ∧ policyFields raw = .ok p ∧ policyHosts p = .ok hosts
    ∧ FirstBad (fun host => ∃ t, redirectHost i host = .ok t) (HostEscapes i) hosts

/-- A role that cannot be looked for, or an acquisition, once the role is known. -/
def KindEscapes (role acquisition : Json) : Prop :=
  Unhashable role ∨ (∃ t ∈ roleNames, role = .str t) ∧ Unhashable acquisition

/-- The first language that is not known is one that cannot be looked for. -/
def LanguagesEscape (value : Json) : Prop :=
  ∃ languages, value = .arr languages
    ∧ FirstBad (fun language => ∃ t ∈ languageNames, language = .str t) Unhashable languages

/-- A download whose address is not even a URL to the parser. -/
def FileEscapes (acquisition : Text) (value : Json) : Prop :=
  ∃ raw url sourcePath, value = .obj raw ∧ (∃ identity, parseFileIdentity raw = .ok identity)
    ∧ acquisition = text "download" ∧ get raw "source_url" = .str url
    ∧ get raw "source_path" = .str sourcePath
    ∧ (PurePath.ofText sourcePath).isAbsolute = false
    ∧ text ".." ∉ (PurePath.ofText sourcePath).parts ∧ text "." ∉ (PurePath.ofText sourcePath).parts
    ∧ i.urls.urlparse [] url = none

/-- The first file that is not accepted is such a download. -/
def FilesEscape (source : ModelSource) (acquisition : Text) (value : Json) : Prop :=
  ∃ files, value = .arr files
    ∧ FirstBad (fun file => ∃ read, parseFile i source acquisition file = .ok read)
      (FileEscapes i acquisition) files

/-- A model that is complete, of which the first wrong thing is one of these. -/
def ModelEscapes (value : Json) : Prop :=
  ∃ raw m id, value = .obj raw ∧ modelFields i raw = .ok m ∧ m.id = .str id ∧ isModelId id = true
    ∧ (KindEscapes m.role m.acquisition
      ∨ ∃ kind, modelKind m.role m.acquisition = .ok kind
        ∧ (LanguagesEscape m.languages
          ∨ (∃ languages, modelLanguages m.languages = .ok languages)
            ∧ m.cachePath.isAbsolute = true ∧ FilesEscape i m.source kind.2 m.files))

/-- A document whose policy is the first wrong thing, or one of its models. -/
def DocumentEscapes (value : Json) : Prop :=
  ∃ raw, value = .obj raw ∧ (get raw "schema_version").isOne = true
    ∧ (PolicyEscapes i (get raw "policy")
      ∨ ∃ policy before model after, parsePolicy i (get raw "policy") = .ok policy
        ∧ get raw "models" = .arr (before ++ model :: after)
        ∧ (∃ models, parseModels i policy [] before = .ok models) ∧ ModelEscapes i model)

/-- A file that is no text, a text `json` gives up on, or such a document. -/
def ContentEscapes (content : Option (List UInt8)) : Prop :=
  ∃ bytes, content = some bytes
    ∧ (Text.decode bytes = none
      ∨ ∃ t, Text.decode bytes = some t
        ∧ (Json.loads i.limits t.newlines = .error .digits
          ∨ Json.loads i.limits t.newlines = .error .depth
          ∨ ∃ document, Json.loads i.limits t.newlines = .ok document ∧ DocumentEscapes i document))

/-! ### What a chain of calls lets escape -/

variable {i}

section
variable {α β : Type}

@[simp] theorem escapes_ok (a : α) : ¬ Escapes (.ok a : Except Raised α) := by
  rintro ⟨e, h, -⟩
  cases h

@[simp] theorem escapes_pure (a : α) : ¬ Escapes (pure a : Except Raised α) := escapes_ok a

@[simp] theorem escapes_manifestError (message : String) :
    ¬ Escapes (.error (.manifestError message) : Except Raised α) := by
  rintro ⟨e, h, hother⟩
  cases h
  exact hother message rfl

theorem escapes_bind {x : Except Raised α} {f : α → Except Raised β} :
    Escapes (x >>= f) ↔ Escapes x ∨ ∃ a, x = .ok a ∧ Escapes (f a) := by
  cases x with
  | ok a =>
    constructor
    · intro h
      exact .inr ⟨a, rfl, h⟩
    · rintro (h | ⟨a', ha, h⟩)
      · exact absurd h (escapes_ok a)
      · cases ha
        exact h
  | error e =>
    constructor
    · rintro ⟨e', he, hother⟩
      cases he
      exact .inl ⟨e, rfl, hother⟩
    · rintro (⟨e', he, hother⟩ | ⟨a, ha, -⟩)
      · cases he
        exact ⟨e, rfl, hother⟩
      · cases ha

/-- Of a list that is read in order, the first that is not read decides. -/
theorem escapes_mapM {f : α → Except Raised β} {l : List α} :
    Escapes (l.mapM f) ↔ FirstBad (fun a => ∃ b, f a = .ok b) (fun a => Escapes (f a)) l := by
  induction l with
  | nil =>
    constructor
    · intro h
      exact absurd h (escapes_ok [])
    · rintro ⟨before, a, after, h, -, -⟩
      cases before <;> cases h
  | cons a l ih =>
    rw [List.mapM_cons, escapes_bind]
    constructor
    · rintro (h | ⟨b, hb, h⟩)
      · exact ⟨[], a, l, rfl, by simp, h⟩
      · rcases escapes_bind.mp h with h | ⟨bs, hbs, h⟩
        · obtain ⟨before, a', after, hl, hfine, hbad⟩ := ih.mp h
          refine ⟨a :: before, a', after, by rw [hl]; rfl, ?_, hbad⟩
          intro a₀ ha₀
          rcases List.mem_cons.mp ha₀ with rfl | ha₀
          · exact ⟨b, hb⟩
          · exact hfine a₀ ha₀
        · exact absurd h (escapes_pure _)
    · rintro ⟨before, a', after, hl, hfine, hbad⟩
      cases before with
      | nil =>
        cases hl
        exact .inl hbad
      | cons a₀ before =>
        cases hl
        obtain ⟨b, hb⟩ := hfine a List.mem_cons_self
        refine .inr ⟨b, hb, escapes_bind.mpr (.inl (ih.mpr ⟨before, a', after, rfl, ?_, hbad⟩))⟩
        intro a₀ ha₀
        exact hfine a₀ (List.mem_cons_of_mem _ ha₀)

theorem firstBad_congr {fine fine' bad bad' : α → Prop} {l : List α} (hfine : ∀ a, fine a ↔ fine' a)
    (hbad : ∀ a, bad a ↔ bad' a) : FirstBad fine bad l ↔ FirstBad fine' bad' l := by
  simp only [FirstBad, hfine, hbad]

/-- A call raises nothing but a `ManifestError` and some others. -/
def Raises (others : List Raised) (x : Except Raised α) : Prop :=
  ∀ e, x = .error e → e ∈ others ∨ ∃ message, e = .manifestError message

theorem contained_of_raises {x : Except Raised α} (h : Raises [] x) : ¬ Escapes x := by
  rintro ⟨e, he, hother⟩
  rcases h e he with hmem | ⟨message, rfl⟩
  · cases hmem
  · exact hother message rfl

theorem raises_of_contained {others : List Raised} {x : Except Raised α} (h : ¬ Escapes x) :
    Raises others x := by
  intro e he
  by_contra hno
  rw [not_or, not_exists] at hno
  exact h ⟨e, he, hno.2⟩

theorem raises_bind {others : List Raised} {x : Except Raised α} {f : α → Except Raised β}
    (hx : Raises others x) (hf : ∀ a, Raises others (f a)) : Raises others (x >>= f) := by
  cases x with
  | ok a => exact hf a
  | error e =>
    intro e' he
    cases he
    exact hx e rfl

/-- A clause that catches all that a call raises lets nothing escape. -/
theorem contained_catching {caught : List Raised} {message : String} {x : Except Raised α}
    (h : Raises caught x) : ¬ Escapes (catching caught message x) := by
  rintro ⟨e, he, hother⟩
  cases x with
  | ok a => cases he
  | error e' =>
    simp only [catching, Except.error.injEq] at he
    split at he
    · exact hother message he.symm
    · next hnot =>
      rcases h e' rfl with hcaught | ⟨message', rfl⟩
      · exact hnot hcaught
      · exact hother message' he.symm

end

/-! ### Calls that let nothing escape -/

theorem raises_field {others : List Raised} {raw : List (Text × Json)} {key : String}
    (h : .keyError ∈ others) : Raises others (field raw key) := by
  intro e he
  unfold field at he
  split at he
  · cases he
  · cases he
    exact .inl h

theorem raises_pathOf {others : List Raised} {value : Json} (h : .typeError ∈ others) :
    Raises others (pathOf value) := by
  intro e he
  cases value with
  | str t => cases he
  | _ =>
    cases he
    exact .inl h

theorem contained_positiveInt (value : Json) : ¬ Escapes (positiveInt value) := by
  cases value with
  | int n =>
    simp only [positiveInt]
    split <;> simp
  | _ => exact escapes_manifestError _

theorem contained_textOf (kind : Text → Bool) (message : String) (value : Json) :
    ¬ Escapes (textOf kind message value) := by
  cases value with
  | str t =>
    simp only [textOf]
    split <;> simp
  | _ => exact escapes_manifestError _

theorem contained_optionalText (message : String) (value : Json) :
    ¬ Escapes (optionalText message value) := by
  cases value with
  | null => exact escapes_ok _
  | str t => exact escapes_ok _
  | _ => exact escapes_manifestError _

theorem contained_datasetLicense (dataset : Option Text) : ¬ Escapes (datasetLicense i dataset) := by
  cases dataset with
  | none => exact escapes_ok _
  | some t =>
    simp only [datasetLicense]
    split
    · simp
    · split <;> simp

theorem contained_policyHosts (p : PolicyFields) : ¬ Escapes (policyHosts p) := by
  unfold policyHosts
  split
  · split
    · simp
    · split
      · simp
      · split <;> simp
  · simp

theorem contained_validateLicenseWaiver (model : ModelEntry) (policy : ManifestPolicy) :
    ¬ Escapes (validateLicenseWaiver model policy) := by
  unfold validateLicenseWaiver
  split
  · simp
  · split <;> simp

theorem contained_policyFields (raw : List (Text × Json)) : ¬ Escapes (policyFields raw) := by
  have hfield : ∀ key, Raises [.keyError, .typeError] (field raw key) :=
    fun key => raises_field List.mem_cons_self
  have hsize : ∀ value, Raises [.keyError, .typeError] (positiveInt value) :=
    fun value => raises_of_contained (contained_positiveInt value)
  refine contained_catching ?_
  refine raises_bind (hfield _) fun _ => raises_bind (hsize _) fun _ => ?_
  refine raises_bind (hfield _) fun _ => raises_bind (hsize _) fun _ => ?_
  refine raises_bind (hfield _) fun _ => raises_bind (hfield _) fun _ => ?_
  refine raises_bind (hfield _) fun _ => raises_bind (hfield _) fun _ => ?_
  refine raises_bind (raises_pathOf (by decide)) fun _ => raises_bind (hfield _) fun _ => ?_
  exact raises_of_contained (escapes_pure _)

theorem contained_parseFileIdentity (raw : List (Text × Json)) : ¬ Escapes (parseFileIdentity raw) := by
  have hfield : ∀ key, Raises [.keyError, .typeError] (field raw key) :=
    fun key => raises_field List.mem_cons_self
  refine contained_of_raises (raises_bind (raises_of_contained (contained_catching ?_)) ?_)
  · refine raises_bind (hfield _) fun _ => raises_bind (hfield _) fun _ => ?_
    refine raises_bind (raises_of_contained (contained_positiveInt _)) fun _ => ?_
    refine raises_bind (hfield _) fun _ => raises_of_contained (escapes_pure _)
  · rintro ⟨path, size, sha⟩
    refine raises_bind (raises_of_contained (contained_textOf _ _ _)) fun t => ?_
    dsimp only
    split
    · exact raises_of_contained (escapes_manifestError _)
    · exact raises_bind (raises_of_contained (contained_textOf _ _ _)) fun _ =>
        raises_of_contained (escapes_pure _)

theorem contained_parseSource (value : Json) : ¬ Escapes (parseSource i value) := by
  cases value with
  | obj raw =>
    have hfield : ∀ key, Raises [.keyError] (field raw key) :=
      fun key => raises_field List.mem_cons_self
    refine contained_of_raises (raises_bind (raises_of_contained (contained_catching ?_)) ?_)
    · refine raises_bind (hfield _) fun _ => raises_bind (hfield _) fun _ => ?_
      exact raises_bind (hfield _) fun _ => raises_of_contained (escapes_pure _)
    · rintro ⟨repository, revision, license⟩
      refine raises_bind (raises_of_contained (contained_textOf _ _ _)) fun _ => ?_
      refine raises_bind (raises_of_contained (contained_textOf _ _ _)) fun _ => ?_
      refine raises_bind (raises_of_contained (contained_textOf _ _ _)) fun _ => ?_
      refine raises_bind (raises_of_contained (contained_optionalText _ _)) fun _ => ?_
      refine raises_bind (raises_of_contained (contained_optionalText _ _)) fun _ => ?_
      refine raises_bind (raises_of_contained (contained_datasetLicense _)) fun _ => ?_
      split
      · exact raises_of_contained (escapes_manifestError _)
      · split
        · exact raises_of_contained (escapes_manifestError _)
        · exact raises_of_contained (escapes_pure _)
  | _ => exact escapes_manifestError _

theorem contained_modelFields (raw : List (Text × Json)) : ¬ Escapes (modelFields i raw) := by
  have hfield : ∀ key, Raises [.keyError, .typeError] (field raw key) :=
    fun key => raises_field List.mem_cons_self
  refine contained_catching ?_
  refine raises_bind (hfield _) fun _ => raises_bind (hfield _) fun _ => ?_
  refine raises_bind (hfield _) fun _ => raises_bind (hfield _) fun _ => ?_
  refine raises_bind (hfield _) fun _ => raises_bind (raises_pathOf (by decide)) fun _ => ?_
  refine raises_bind (hfield _) fun _ => ?_
  refine raises_bind (raises_of_contained (contained_parseSource _)) fun _ => ?_
  exact raises_bind (hfield _) fun _ => raises_of_contained (escapes_pure _)

/-! ### What each call lets escape -/

theorem escapes_orValueError {α : Type} {x : Option α} :
    Escapes (orValueError x) ↔ x = none := by
  cases x with
  | some a => simp [orValueError]
  | none =>
    refine ⟨fun _ => rfl, fun _ => ⟨.valueError, rfl, ?_⟩⟩
    intro message h
    cases h

theorem escapes_redirectHost (value : Json) : Escapes (redirectHost i value) ↔ HostEscapes i value := by
  cases value with
  | str host =>
    simp only [redirectHost]
    split
    · next hempty =>
      refine ⟨fun h => absurd h (escapes_manifestError _), ?_⟩
      rintro ⟨host', hsame, hne, -⟩
      cases hsame
      exact absurd (List.isEmpty_iff.mp hempty) hne
    · next hempty =>
      rw [escapes_bind, escapes_orValueError]
      constructor
      · rintro (hnone | ⟨parsed, -, h⟩)
        · exact ⟨host, rfl, fun h => hempty (List.isEmpty_iff.mpr h), hnone⟩
        · split at h <;> simp at h
      · rintro ⟨host', hsame, -, hnone⟩
        cases hsame
        exact .inl hnone
  | _ =>
    refine ⟨fun h => absurd h (escapes_manifestError _), ?_⟩
    rintro ⟨host, hsame, -⟩
    cases hsame

theorem escapes_parsePolicy (value : Json) : Escapes (parsePolicy i value) ↔ PolicyEscapes i value := by
  cases value with
  | obj raw =>
    simp only [parsePolicy]
    rw [escapes_bind]
    constructor
    · rintro (h | ⟨p, hp, h⟩)
      · exact absurd h (contained_policyFields raw)
      · rcases escapes_bind.mp h with h | ⟨hosts, hhosts, h⟩
        · exact absurd h (contained_policyHosts p)
        · rcases escapes_bind.mp h with h | ⟨texts, -, h⟩
          · refine ⟨raw, p, hosts, rfl, hp, hhosts, ?_⟩
            exact (firstBad_congr (fun _ => Iff.rfl) escapes_redirectHost).mp (escapes_mapM.mp h)
          · split at h <;> simp at h
    · rintro ⟨raw', p, hosts, hsame, hp, hhosts, hbad⟩
      cases hsame
      refine .inr ⟨p, hp, escapes_bind.mpr (.inr ⟨hosts, hhosts, escapes_bind.mpr (.inl ?_)⟩)⟩
      exact escapes_mapM.mpr ((firstBad_congr (fun _ => Iff.rfl) escapes_redirectHost).mpr hbad)
  | _ =>
    refine ⟨fun h => absurd h (escapes_manifestError _), ?_⟩
    rintro ⟨raw, p, hosts, hsame, -⟩
    cases hsame

theorem escapes_isOneOf (names : List Text) (value : Json) :
    Escapes (isOneOf names value) ↔ Unhashable value := by
  have htype : Escapes (.error .typeError : Except Raised Bool) := by
    refine ⟨.typeError, rfl, ?_⟩
    intro message h
    cases h
  cases value with
  | arr items => exact ⟨fun _ => trivial, fun _ => htype⟩
  | obj raw => exact ⟨fun _ => trivial, fun _ => htype⟩
  | _ =>
    refine ⟨fun h => absurd h (escapes_ok _), ?_⟩
    rintro ⟨⟩

theorem isOneOf_true {names : List Text} {value : Json} :
    isOneOf names value = .ok true ↔ ∃ t ∈ names, value = .str t := by
  cases value with
  | str t =>
    constructor
    · intro h
      have hmem := Except.ok.inj h
      exact ⟨t, by simpa using hmem, rfl⟩
    · rintro ⟨t', hmem, hsame⟩
      cases hsame
      exact congrArg Except.ok (by simpa using hmem)
  | _ =>
    constructor
    · intro h
      cases h
    · rintro ⟨t, -, hsame⟩
      cases hsame

theorem escapes_modelKind (role acquisition : Json) :
    Escapes (modelKind role acquisition) ↔ KindEscapes role acquisition := by
  unfold modelKind
  rw [escapes_bind, escapes_isOneOf]
  refine or_congr Iff.rfl ?_
  constructor
  · rintro ⟨known, hknown, h⟩
    cases known with
    | false => exact absurd h (escapes_manifestError _)
    | true =>
      refine ⟨isOneOf_true.mp hknown, ?_⟩
      rcases escapes_bind.mp h with h | ⟨known', -, h⟩
      · exact (escapes_isOneOf _ _).mp h
      · split at h
        · simp at h
        · split at h <;> simp at h
  · rintro ⟨hrole, hacquisition⟩
    exact ⟨true, isOneOf_true.mpr hrole,
      escapes_bind.mpr (.inl ((escapes_isOneOf _ _).mpr hacquisition))⟩

theorem escapes_anyForeign (languages : List Json) : Escapes (anyForeign languages)
    ↔ FirstBad (fun language => ∃ t ∈ languageNames, language = .str t) Unhashable languages := by
  induction languages with
  | nil =>
    refine ⟨fun h => absurd h (escapes_ok _), ?_⟩
    rintro ⟨before, language, after, h, -, -⟩
    cases before <;> cases h
  | cons language languages ih =>
    rw [anyForeign, escapes_bind, escapes_isOneOf]
    constructor
    · rintro (h | ⟨known, hknown, h⟩)
      · exact ⟨[], language, languages, rfl, by simp, h⟩
      · cases known with
        | false => exact absurd h (escapes_pure _)
        | true =>
          obtain ⟨before, bad, after, hl, hfine, hbad⟩ := ih.mp h
          refine ⟨language :: before, bad, after, by rw [hl]; rfl, ?_, hbad⟩
          intro other hother
          rcases List.mem_cons.mp hother with rfl | hother
          · exact isOneOf_true.mp hknown
          · exact hfine other hother
    · rintro ⟨before, bad, after, hl, hfine, hbad⟩
      cases before with
      | nil =>
        cases hl
        exact .inl hbad
      | cons first before =>
        cases hl
        refine .inr ⟨true, isOneOf_true.mpr (hfine language List.mem_cons_self), ?_⟩
        refine ih.mpr ⟨before, bad, after, rfl, ?_, hbad⟩
        intro other hother
        exact hfine other (List.mem_cons_of_mem _ hother)

theorem escapes_modelLanguages (value : Json) :
    Escapes (modelLanguages value) ↔ LanguagesEscape value := by
  unfold modelLanguages
  split
  · next language languages =>
    rw [escapes_bind, escapes_anyForeign]
    constructor
    · rintro (h | ⟨foreign, -, h⟩)
      · exact ⟨_, rfl, h⟩
      · split at h
        · simp at h
        · split at h <;> simp at h
    · rintro ⟨languages', hsame, hbad⟩
      cases hsame
      exact .inl hbad
  · next hother =>
    refine ⟨fun h => absurd h (escapes_manifestError _), ?_⟩
    rintro ⟨languages, rfl, before, bad, after, rfl, -, -⟩
    cases before with
    | nil => exact absurd rfl (hother bad after)
    | cons first before => exact absurd rfl (hother first (before ++ bad :: after))

theorem escapes_parseFileDownloadSource (raw : List (Text × Json)) (source : ModelSource)
    (acquisition : Text) : Escapes (parseFileDownloadSource i raw source acquisition)
      ↔ ∃ url sourcePath, acquisition = text "download" ∧ get raw "source_url" = .str url
        ∧ get raw "source_path" = .str sourcePath
        ∧ (PurePath.ofText sourcePath).isAbsolute = false
        ∧ text ".." ∉ (PurePath.ofText sourcePath).parts
        ∧ text "." ∉ (PurePath.ofText sourcePath).parts ∧ i.urls.urlparse [] url = none := by
  unfold parseFileDownloadSource
  split
  · next hdownload =>
    split
    · next url sourcePath hurl hpath =>
      dsimp only
      split
      · next hinvalid =>
        refine ⟨fun h => absurd h (escapes_manifestError _), ?_⟩
        rintro ⟨url', path', -, -, hpath', habsolute, hup, hdot, -⟩
        rw [hpath] at hpath'
        cases hpath'
        rcases hinvalid with h | h | h
        · rw [habsolute] at h
          cases h
        · exact absurd h hup
        · exact absurd h hdot
      · next hvalid =>
        rw [not_or, not_or, Bool.not_eq_true] at hvalid
        rw [escapes_bind, escapes_orValueError]
        constructor
        · rintro (hnone | ⟨parsed, -, h⟩)
          · exact ⟨url, sourcePath, hdownload, hurl, hpath, hvalid.1, hvalid.2.1, hvalid.2.2, hnone⟩
          · split at h <;> simp at h
        · rintro ⟨url', path', -, hurl', -, -, -, -, hnone⟩
          rw [hurl] at hurl'
          cases hurl'
          exact .inl hnone
    · next hmissing =>
      refine ⟨fun h => absurd h (escapes_manifestError _), ?_⟩
      rintro ⟨url, path, -, hurl, hpath, -⟩
      exact absurd hpath (hmissing url path hurl)
  · next hreuse =>
    refine ⟨?_, ?_⟩
    · intro h
      split at h <;> simp at h
    · rintro ⟨url, path, hdownload, -⟩
      exact absurd hdownload hreuse

theorem escapes_parseFile (source : ModelSource) (acquisition : Text) (value : Json) :
    Escapes (parseFile i source acquisition value) ↔ FileEscapes i acquisition value := by
  cases value with
  | obj raw =>
    simp only [parseFile]
    rw [escapes_bind]
    constructor
    · rintro (h | ⟨identity, hidentity, h⟩)
      · exact absurd h (contained_parseFileIdentity raw)
      · rcases escapes_bind.mp h with h | ⟨_, -, h⟩
        · obtain ⟨url, sourcePath, h⟩ := (escapes_parseFileDownloadSource _ _ _).mp h
          exact ⟨raw, url, sourcePath, rfl, ⟨identity, hidentity⟩, h⟩
        · exact absurd h (escapes_pure _)
    · rintro ⟨raw', url, sourcePath, hsame, ⟨identity, hidentity⟩, h⟩
      cases hsame
      refine .inr ⟨identity, hidentity, escapes_bind.mpr (.inl ?_)⟩
      exact (escapes_parseFileDownloadSource _ _ _).mpr ⟨url, sourcePath, h⟩
  | _ =>
    refine ⟨fun h => absurd h (escapes_manifestError _), ?_⟩
    rintro ⟨raw, url, sourcePath, hsame, -⟩
    cases hsame

theorem escapes_modelFiles (source : ModelSource) (acquisition : Text) (value : Json) :
    Escapes (modelFiles i source acquisition value) ↔ FilesEscape i source acquisition value := by
  have hcongr : ∀ files, FirstBad (fun file => ∃ read, parseFile i source acquisition file = .ok read)
      (fun file => Escapes (parseFile i source acquisition file)) files
        ↔ FirstBad (fun file => ∃ read, parseFile i source acquisition file = .ok read)
          (FileEscapes i acquisition) files :=
    fun _ => firstBad_congr (fun _ => Iff.rfl) (escapes_parseFile source acquisition)
  unfold modelFiles
  split
  · next file files =>
    rw [escapes_bind]
    constructor
    · rintro (h | ⟨read, -, h⟩)
      · exact ⟨_, rfl, (hcongr _).mp (escapes_mapM.mp h)⟩
      · split at h <;> simp at h
    · rintro ⟨files', hsame, hbad⟩
      cases hsame
      exact .inl (escapes_mapM.mpr ((hcongr _).mpr hbad))
  · next hother =>
    refine ⟨fun h => absurd h (escapes_manifestError _), ?_⟩
    rintro ⟨files, rfl, before, bad, after, rfl, -, -⟩
    cases before with
    | nil => exact absurd rfl (hother bad after)
    | cons first before => exact absurd rfl (hother first (before ++ bad :: after))

theorem escapes_parseModel (policy : ManifestPolicy) (value : Json) :
    Escapes (parseModel i policy value) ↔ ModelEscapes i value := by
  cases value with
  | obj raw =>
    simp only [parseModel]
    rw [escapes_bind]
    constructor
    · rintro (h | ⟨m, hm, h⟩)
      · exact absurd h (contained_modelFields raw)
      · rcases escapes_bind.mp h with h | ⟨id, hid, h⟩
        · exact absurd h (contained_textOf _ _ _)
        · obtain ⟨hidtext, hidkind⟩ := textOf_ok hid
          refine ⟨raw, m, id, rfl, hm, hidtext, hidkind, ?_⟩
          rcases escapes_bind.mp h with h | ⟨kind, hkind, h⟩
          · exact .inl ((escapes_modelKind _ _).mp h)
          · refine .inr ⟨kind, hkind, ?_⟩
            rcases escapes_bind.mp h with h | ⟨languages, hlanguages, h⟩
            · exact .inl ((escapes_modelLanguages _).mp h)
            · refine .inr ⟨⟨languages, hlanguages⟩, ?_⟩
              split at h
              · simp at h
              · next habsolute =>
                refine ⟨by simpa using habsolute, ?_⟩
                rcases escapes_bind.mp h with h | ⟨files, -, h⟩
                · exact (escapes_modelFiles _ _ _).mp h
                · rcases escapes_bind.mp h with h | ⟨_, -, h⟩
                  · exact absurd h (contained_validateLicenseWaiver _ _)
                  · exact absurd h (escapes_pure _)
    · rintro ⟨raw', m, id, hsame, hm, hidtext, hidkind, h⟩
      cases hsame
      have hid : textOf isModelId "model id is invalid" m.id = .ok id := by
        rw [hidtext]
        exact if_pos hidkind
      refine .inr ⟨m, hm, escapes_bind.mpr (.inr ⟨id, hid, ?_⟩)⟩
      rcases h with h | ⟨kind, hkind, h⟩
      · exact escapes_bind.mpr (.inl ((escapes_modelKind _ _).mpr h))
      · refine escapes_bind.mpr (.inr ⟨kind, hkind, ?_⟩)
        rcases h with h | ⟨⟨languages, hlanguages⟩, habsolute, h⟩
        · exact escapes_bind.mpr (.inl ((escapes_modelLanguages _).mpr h))
        · refine escapes_bind.mpr (.inr ⟨languages, hlanguages, ?_⟩)
          rw [habsolute]
          exact escapes_bind.mpr (.inl ((escapes_modelFiles _ _ _).mpr h))
  | _ =>
    refine ⟨fun h => absurd h (escapes_manifestError _), ?_⟩
    rintro ⟨raw, m, id, hsame, -⟩
    cases hsame

theorem escapes_parseModels {policy : ManifestPolicy} {models : List ModelEntry} (values : List Json) :
    Escapes (parseModels i policy models values)
      ↔ ∃ before value after, values = before ++ value :: after
        ∧ (∃ models', parseModels i policy models before = .ok models') ∧ ModelEscapes i value := by
  induction values generalizing models with
  | nil =>
    refine ⟨fun h => absurd h (escapes_ok _), ?_⟩
    rintro ⟨before, value, after, h, -, -⟩
    cases before <;> cases h
  | cons value values ih =>
    simp only [parseModels]
    rw [escapes_bind, escapes_parseModel]
    constructor
    · rintro (h | ⟨model, hmodel, h⟩)
      · exact ⟨[], value, values, rfl, ⟨models, rfl⟩, h⟩
      · split at h
        · simp at h
        · next hnew =>
          obtain ⟨before, value', after, hl, ⟨models', hread⟩, hbad⟩ := ih.mp h
          refine ⟨value :: before, value', after, by rw [hl]; rfl, ⟨models', ?_⟩, hbad⟩
          exact except_bind_ok.mpr ⟨model, hmodel, by rw [if_neg hnew]; exact hread⟩
    · rintro ⟨before, value', after, hl, ⟨models', hread⟩, hbad⟩
      cases before with
      | nil =>
        cases hl
        exact .inl hbad
      | cons first before =>
        cases hl
        obtain ⟨model, hmodel, hread₁⟩ := except_bind_ok.mp hread
        refine .inr ⟨model, hmodel, ?_⟩
        split at hread₁
        · cases hread₁
        · next hnew =>
          rw [if_neg hnew]
          exact ih.mpr ⟨before, value', after, rfl, ⟨models', hread₁⟩, hbad⟩

theorem escapes_checkDocument (value : Json) :
    Escapes (checkDocument i value) ↔ DocumentEscapes i value := by
  cases value with
  | obj raw =>
    simp only [checkDocument]
    split
    · next hschema =>
      refine ⟨fun h => absurd h (escapes_manifestError _), ?_⟩
      rintro ⟨raw', hsame, hone, -⟩
      cases hsame
      rw [hone] at hschema
      cases hschema
    · next hschema =>
      have hone : (get raw "schema_version").isOne = true := by simpa using hschema
      rw [escapes_bind, escapes_parsePolicy]
      constructor
      · rintro (h | ⟨policy, hpolicy, h⟩)
        · exact ⟨raw, rfl, hone, .inl h⟩
        · refine ⟨raw, rfl, hone, .inr ?_⟩
          split at h
          · next value values hvalues =>
            rcases escapes_bind.mp h with h | ⟨models, -, h⟩
            · obtain ⟨before, value', after, hl, hread, hbad⟩ := (escapes_parseModels _).mp h
              exact ⟨policy, before, value', after, hpolicy, by rw [hvalues, hl], hread, hbad⟩
            · split at h <;> simp at h
          · simp at h
      · rintro ⟨raw', hsame, -, h⟩
        cases hsame
        rcases h with h | ⟨policy, before, value', after, hpolicy, hvalues, hread, hbad⟩
        · exact .inl h
        · refine .inr ⟨policy, hpolicy, ?_⟩
          have hescapes : Escapes (parseModels i policy [] (before ++ value' :: after)) :=
            (escapes_parseModels _).mpr ⟨before, value', after, rfl, hread, hbad⟩
          rw [hvalues]
          cases before with
          | nil => exact escapes_bind.mpr (.inl hescapes)
          | cons first before => exact escapes_bind.mpr (.inl hescapes)
  | _ =>
    refine ⟨fun h => absurd h (escapes_manifestError _), ?_⟩
    rintro ⟨raw, hsame, -⟩
    cases hsame

/-! ### The whole file -/

theorem escapes_readDocument (content : Option (List UInt8)) :
    Escapes (catching [.osError, .jsonDecodeError] "model manifest could not be read"
      (readDocument i content)) ↔ ∃ bytes, content = some bytes
        ∧ (Text.decode bytes = none ∨ ∃ t, Text.decode bytes = some t
          ∧ (Json.loads i.limits t.newlines = .error .digits
            ∨ Json.loads i.limits t.newlines = .error .depth)) := by
  have hother : ∀ e : Raised, (∀ message, e ≠ .manifestError message) →
      e ∉ [Raised.osError, .jsonDecodeError] → Escapes (catching (α := Json)
        [.osError, .jsonDecodeError] "model manifest could not be read" (.error e)) := by
    intro e he hnot
    refine ⟨e, ?_, he⟩
    rw [catching, if_neg hnot]
  cases content with
  | none =>
    refine ⟨fun h => absurd h (escapes_manifestError _), ?_⟩
    rintro ⟨bytes, h, -⟩
    cases h
  | some bytes =>
    simp only [Option.some.injEq, exists_eq_left', readDocument]
    cases hdecode : Text.decode bytes with
    | none =>
      refine ⟨fun _ => .inl rfl, fun _ => hother _ ?_ (by decide)⟩
      intro message h
      cases h
    | some t =>
      simp only [reduceCtorEq, false_or, Option.some.injEq, exists_eq_left']
      cases Json.loads i.limits t.newlines with
      | ok document => simp [catching]
      | error refusal =>
        cases refusal with
        | malformed => simp [catching]
        | digits =>
          refine ⟨fun _ => .inl rfl, fun _ => hother _ ?_ (by decide)⟩
          intro message h
          cases h
        | depth =>
          refine ⟨fun _ => .inr rfl, fun _ => hother _ ?_ (by decide)⟩
          intro message h
          cases h

theorem readDocument_ok {content : Option (List UInt8)} {document : Json} :
    readDocument i content = .ok document ↔ ∃ bytes t, content = some bytes
      ∧ Text.decode bytes = some t ∧ Json.loads i.limits t.newlines = .ok document := by
  cases content with
  | none => simp [readDocument]
  | some bytes =>
    simp only [readDocument, Option.some.injEq, exists_and_left, exists_eq_left']
    cases Text.decode bytes with
    | none => simp
    | some t =>
      simp only [Option.some.injEq, exists_eq_left']
      cases Json.loads i.limits t.newlines with
      | ok value => simp
      | error refusal => cases refusal <;> simp

theorem escapes_loadManifest (content : Option (List UInt8)) :
    Escapes (loadManifest i content) ↔ ContentEscapes i content := by
  rw [loadManifest, escapes_bind, escapes_readDocument]
  constructor
  · rintro (⟨bytes, hbytes, hdecode | ⟨t, ht, hloads⟩⟩ | ⟨document, hdocument, h⟩)
    · exact ⟨bytes, hbytes, .inl hdecode⟩
    · exact ⟨bytes, hbytes, .inr ⟨t, ht, hloads.imp_right .inl⟩⟩
    · obtain ⟨bytes, t, hbytes, ht, hloads⟩ := readDocument_ok.mp (catching_ok.mp hdocument)
      exact ⟨bytes, hbytes, .inr ⟨t, ht, .inr (.inr
        ⟨document, hloads, (escapes_checkDocument _).mp h⟩)⟩⟩
  · rintro ⟨bytes, hbytes, hdecode | ⟨t, ht, hloads | hloads | ⟨document, hloads, h⟩⟩⟩
    · exact .inl ⟨bytes, hbytes, .inl hdecode⟩
    · exact .inl ⟨bytes, hbytes, .inr ⟨t, ht, .inl hloads⟩⟩
    · exact .inl ⟨bytes, hbytes, .inr ⟨t, ht, .inr hloads⟩⟩
    · have hread := readDocument_ok.mpr ⟨bytes, t, hbytes, ht, hloads⟩
      exact .inr ⟨document, catching_ok.mpr hread, (escapes_checkDocument _).mpr h⟩

/-- The reader returns a manifest or raises a `ManifestError` just when its file is none of these. -/
theorem failClosed_iff (content : Option (List UInt8)) :
    ((∃ manifest, loadManifest i content = .ok manifest)
        ∨ ∃ message, loadManifest i content = .error (.manifestError message))
      ↔ ¬ ContentEscapes i content := by
  rw [← escapes_loadManifest]
  generalize loadManifest i content = result
  cases result with
  | ok manifest => simp
  | error e =>
    constructor
    · rintro (⟨manifest, h⟩ | ⟨message, h⟩)
      · cases h
      · cases h
        exact escapes_manifestError message
    · intro h
      refine .inr ?_
      by_contra hno
      refine h ⟨e, rfl, ?_⟩
      rintro message rfl
      exact hno ⟨message, rfl⟩

/-- A byte that starts no letter leaves the reader as a `UnicodeDecodeError`. -/
theorem undecodable_escapes : ¬ ((∃ manifest, loadManifest .plain (some [0xFF]) = .ok manifest)
    ∨ ∃ message, loadManifest .plain (some [0xFF]) = .error (.manifestError message)) := by
  have hraised : loadManifest .plain (some [0xFF]) = .error .unicodeDecodeError := rfl
  rw [hraised]
  rintro (⟨manifest, h⟩ | ⟨message, h⟩)
  · cases h
  · cases h

end Translator.Manifest
