import Translator.Manifest.Pinned
import Mathlib.Data.List.Perm.Lattice

/-! What a manifest that is accepted says, and what it leaves open: the names of a model's files are
    compared as they are spelled, and the address of a download part by part. -/

namespace Translator.Manifest
open Schemes

variable {i : Interpreter}

/-! ### Reading a document -/

theorem forall₂_of_mapM {α β : Type} {f : α → Except Raised β} {l : List α} {l' : List β}
    (h : l.mapM f = .ok l') : List.Forall₂ (fun a b => f a = .ok b) l l' := by
  induction l generalizing l' with
  | nil =>
    cases h
    exact .nil
  | cons a l ih =>
    rw [List.mapM_cons] at h
    obtain ⟨b, hb, h⟩ := except_bind_ok.mp h
    obtain ⟨rest, hrest, h⟩ := except_bind_ok.mp h
    cases h
    exact .cons hb (ih hrest)

theorem catching_ok {α : Type} {caught : List Raised} {message : String} {x : Except Raised α} {a : α} :
    catching caught message x = .ok a ↔ x = .ok a := by
  cases x with
  | ok b => exact Iff.rfl
  | error e =>
    constructor
    · intro h
      cases h
    · intro h
      cases h

theorem get_of_field {raw : List (Text × Json)} {key : String} {value : Json}
    (h : field raw key = .ok value) : get raw key = value := by
  unfold field at h
  split at h
  · next hvalue =>
    cases h
    rw [get, hvalue]
    rfl
  · cases h

theorem textOf_ok {kind : Text → Bool} {message : String} {value : Json} {t : Text}
    (h : textOf kind message value = .ok t) : value = .str t ∧ kind t = true := by
  cases value with
  | str t' =>
    simp only [textOf] at h
    split at h
    · next hkind =>
      cases h
      exact ⟨rfl, hkind⟩
    · cases h
  | _ => cases h

/-- What is known of a file that was read. -/
structure FileRead (source : ModelSource) (acquisition : Text) (raw : List (Text × Json))
    (file : ModelFile) : Prop where
  path : get raw "path" = .str file.path
  name : ∃ name, IsName name ∧ name ≠ text ".." ∧ PurePath.ofText file.path = ⟨[], [name]⟩
  download : acquisition = text "download" → ∃ url sourcePath parsed,
    get raw "source_url" = .str url ∧ file.sourceUrl = some url ∧ file.sourcePath = some sourcePath
      ∧ i.urls.urlparse [] url = some parsed ∧ parsed.scheme = text "https"
      ∧ parsed.path = expectedPath source sourcePath
  reuse : acquisition ≠ text "download" → file.sourceUrl = none

theorem parseFileIdentity_ok {raw : List (Text × Json)} {path sha256 : Text} {size : Nat}
    (h : parseFileIdentity raw = .ok (path, size, sha256)) : get raw "path" = .str path
      ∧ ∃ name, IsName name ∧ name ≠ text ".." ∧ PurePath.ofText path = ⟨[], [name]⟩ := by
  obtain ⟨⟨value, size', sha⟩, hread, h₁⟩ := except_bind_ok.mp h
  rw [catching_ok] at hread
  obtain ⟨value', hfield, hread₁⟩ := except_bind_ok.mp hread
  obtain ⟨_, -, hread₂⟩ := except_bind_ok.mp hread₁
  obtain ⟨_, -, hread₃⟩ := except_bind_ok.mp hread₂
  obtain ⟨_, -, hread₄⟩ := except_bind_ok.mp hread₃
  cases hread₄
  obtain ⟨t, htext, h₂⟩ := except_bind_ok.mp h₁
  obtain ⟨hvalue, -⟩ := textOf_ok htext
  dsimp only at h₂
  split at h₂
  · cases h₂
  · next hchecks =>
    obtain ⟨_, -, h₃⟩ := except_bind_ok.mp h₂
    cases h₃
    simp only [not_or, Bool.not_eq_true, not_not] at hchecks
    obtain ⟨habsolute, hlength, hup, -⟩ := hchecks
    obtain ⟨name, hname, hpath⟩ := name_of_parts habsolute hlength
    refine ⟨hvalue ▸ get_of_field hfield, name, hname, ?_, hpath⟩
    rintro rfl
    refine hup ?_
    rw [hpath]
    exact List.mem_singleton_self _

theorem parseFileDownloadSource_ok {raw : List (Text × Json)} {source : ModelSource}
    {acquisition : Text} {url path : Option Text}
    (h : parseFileDownloadSource i raw source acquisition = .ok (url, path)) :
    (acquisition = text "download" → ∃ url' sourcePath parsed,
        get raw "source_url" = .str url' ∧ url = some url' ∧ path = some sourcePath
          ∧ i.urls.urlparse [] url' = some parsed ∧ parsed.scheme = text "https"
          ∧ parsed.path = expectedPath source sourcePath)
      ∧ (acquisition ≠ text "download" → url = none) := by
  unfold parseFileDownloadSource at h
  split at h
  · next hdownload =>
    refine ⟨?_, fun hne => absurd hdownload hne⟩
    intro _
    split at h
    · next url' sourcePath hurl hpath =>
      dsimp only at h
      split at h
      · cases h
      · obtain ⟨parsed, hparsed, h⟩ := except_bind_ok.mp h
        split at h
        · cases h
        · next hchecks =>
          cases h
          simp only [not_or, not_not] at hchecks
          refine ⟨url', sourcePath, parsed, hurl, rfl, rfl, ?_, hchecks.1, hchecks.2.2.2.2.1⟩
          cases hurlparse : i.urls.urlparse [] url' with
          | none =>
            rw [hurlparse] at hparsed
            cases hparsed
          | some parsed' =>
            rw [hurlparse] at hparsed
            cases hparsed
            rfl
    · cases h
  · next hreuse =>
    refine ⟨fun hdownload => absurd hdownload hreuse, ?_⟩
    intro _
    split at h <;> cases h
    rfl

theorem parseFile_ok {source : ModelSource} {acquisition : Text} {value : Json} {file : ModelFile}
    (h : parseFile i source acquisition value = .ok file) :
    ∃ raw, value = .obj raw ∧ FileRead (i := i) source acquisition raw file := by
  cases value with
  | obj raw =>
    obtain ⟨⟨path, size, sha⟩, hidentity, h⟩ := except_bind_ok.mp h
    obtain ⟨⟨url, sourcePath⟩, hsource, h⟩ := except_bind_ok.mp h
    cases h
    obtain ⟨hpath, hname⟩ := parseFileIdentity_ok hidentity
    obtain ⟨hdownload, hreuse⟩ := parseFileDownloadSource_ok hsource
    exact ⟨raw, rfl, hpath, hname, hdownload, hreuse⟩
  | _ => cases h

/-! ### Models -/

/-- An unknown licence of the data comes with a waiver. -/
theorem parseSource_ok {value : Json} {source : ModelSource} (h : parseSource i value = .ok source)
    (hunknown : source.datasetLicense = some (text "Unknown")) : source.licenseWaiver ≠ none := by
  cases value with
  | obj raw =>
    obtain ⟨_, -, h₁⟩ := except_bind_ok.mp h
    obtain ⟨_, -, h₂⟩ := except_bind_ok.mp h₁
    obtain ⟨_, -, h₃⟩ := except_bind_ok.mp h₂
    obtain ⟨_, -, h₄⟩ := except_bind_ok.mp h₃
    obtain ⟨_, -, h₅⟩ := except_bind_ok.mp h₄
    obtain ⟨waiver, -, h₆⟩ := except_bind_ok.mp h₅
    obtain ⟨dataset, -, h₇⟩ := except_bind_ok.mp h₆
    split at h₇
    · cases h₇
    · next hwaived =>
      split at h₇
      · cases h₇
      · cases h₇
        exact fun hnone => hwaived ⟨hunknown, hnone⟩
  | _ => cases h

theorem modelKind_ok {role acquisition : Json} {kind : Text × Text}
    (h : modelKind role acquisition = .ok kind) : acquisition = .str kind.2 := by
  obtain ⟨known, -, h₁⟩ := except_bind_ok.mp h
  split at h₁
  · cases h₁
  · obtain ⟨known', -, h₂⟩ := except_bind_ok.mp h₁
    split at h₂
    · cases h₂
    · split at h₂
      · cases h₂
        rfl
      · cases h₂

theorem modelFiles_ok {source : ModelSource} {acquisition : Text} {value : Json}
    {files : List ModelFile} (h : modelFiles i source acquisition value = .ok files) :
    ∃ values, value = .arr values
      ∧ List.Forall₂ (fun value file => parseFile i source acquisition value = .ok file) values files
      ∧ (files.map ModelFile.path).Nodup := by
  unfold modelFiles at h
  split at h
  · next value values =>
    obtain ⟨files', hfiles, h₁⟩ := except_bind_ok.mp h
    split at h₁
    · next hnodup =>
      cases h₁
      exact ⟨_, rfl, forall₂_of_mapM hfiles, hnodup⟩
    · cases h₁
  · cases h

/-- What is known of a model that was read. -/
structure ModelRead (policy : ManifestPolicy) (raw : List (Text × Json)) (model : ModelEntry) :
    Prop where
  acquisition : get raw "acquisition" = .str model.acquisition
  source : ∃ value, parseSource i value = .ok model.source
  files : ∃ values, get raw "files" = .arr values
    ∧ List.Forall₂ (fun value file => parseFile i model.source model.acquisition value = .ok file)
      values model.files
  nodup : (model.files.map ModelFile.path).Nodup
  waiver : validateLicenseWaiver model policy = .ok ()

theorem parseModel_ok {policy : ManifestPolicy} {value : Json} {model : ModelEntry}
    (h : parseModel i policy value = .ok model) :
    ∃ raw, value = .obj raw ∧ ModelRead (i := i) policy raw model := by
  cases value with
  | obj raw =>
    obtain ⟨fields, hfields, h₁⟩ := except_bind_ok.mp h
    rw [modelFields, catching_ok] at hfields
    obtain ⟨_, -, hfields₁⟩ := except_bind_ok.mp hfields
    obtain ⟨_, -, hfields₂⟩ := except_bind_ok.mp hfields₁
    obtain ⟨acquisition, hacquisition, hfields₃⟩ := except_bind_ok.mp hfields₂
    obtain ⟨_, -, hfields₄⟩ := except_bind_ok.mp hfields₃
    obtain ⟨_, -, hfields₅⟩ := except_bind_ok.mp hfields₄
    obtain ⟨_, -, hfields₆⟩ := except_bind_ok.mp hfields₅
    obtain ⟨value, -, hfields₇⟩ := except_bind_ok.mp hfields₆
    obtain ⟨source, hsource, hfields₈⟩ := except_bind_ok.mp hfields₇
    obtain ⟨files, hfiles, hfields₉⟩ := except_bind_ok.mp hfields₈
    cases hfields₉
    obtain ⟨_, -, h₂⟩ := except_bind_ok.mp h₁
    obtain ⟨⟨role, kept⟩, hkind, h₃⟩ := except_bind_ok.mp h₂
    obtain ⟨_, -, h₄⟩ := except_bind_ok.mp h₃
    dsimp only at h₄ hkind
    split at h₄
    · cases h₄
    · obtain ⟨files', hread, h₅⟩ := except_bind_ok.mp h₄
      obtain ⟨_, hwaiver, h₆⟩ := except_bind_ok.mp h₅
      cases h₆
      obtain ⟨values, hvalues, hforall, hnodup⟩ := modelFiles_ok hread
      refine ⟨raw, rfl, ?_, ⟨value, hsource⟩, ⟨values, ?_, hforall⟩, hnodup, hwaiver⟩
      · rw [get_of_field hacquisition]
        exact modelKind_ok hkind
      · rw [get_of_field hfiles]
        exact hvalues
  | _ => cases h

theorem parseModels_ok {policy : ManifestPolicy} {models models' : List ModelEntry}
    {values : List Json} (h : parseModels i policy models values = .ok models') :
    ∃ read, models' = models ++ read
      ∧ List.Forall₂ (fun value model => parseModel i policy value = .ok model) values read := by
  induction values generalizing models with
  | nil =>
    cases h
    exact ⟨[], (List.append_nil _).symm, .nil⟩
  | cons value values ih =>
    obtain ⟨model, hmodel, h₁⟩ := except_bind_ok.mp h
    split at h₁
    · cases h₁
    · obtain ⟨read, hread, hforall⟩ := ih h₁
      refine ⟨model :: read, ?_, .cons hmodel hforall⟩
      rw [hread, List.append_assoc]
      rfl

/-- No two models that were read have one id. -/
theorem parseModels_nodup {policy : ManifestPolicy} {models models' : List ModelEntry}
    {values : List Json} (h : parseModels i policy models values = .ok models')
    (hnodup : (models.map ModelEntry.id).Nodup) : (models'.map ModelEntry.id).Nodup := by
  induction values generalizing models with
  | nil =>
    cases h
    exact hnodup
  | cons value values ih =>
    obtain ⟨model, -, h₁⟩ := except_bind_ok.mp h
    split at h₁
    · cases h₁
    · next hnew =>
      refine ih h₁ ?_
      rw [List.map_append, List.nodup_append]
      refine ⟨hnodup, List.nodup_singleton _, ?_⟩
      intro id hid other hother hsame
      rw [List.mem_singleton.mp hother] at hsame
      obtain ⟨known, hknown, rfl⟩ := List.mem_map.mp hid
      exact hnew (List.any_eq_true.mpr ⟨known, hknown, beq_iff_eq.mpr hsame⟩)

/-- What is known of a document that was accepted. -/
theorem checkDocument_ok {document : Json} {manifest : ModelManifest}
    (h : checkDocument i document = .ok manifest) : ∃ raw values, document = .obj raw
      ∧ get raw "models" = .arr values
      ∧ List.Forall₂ (fun value model => parseModel i manifest.policy value = .ok model) values
        manifest.models
      ∧ (manifest.models.map ModelEntry.id).Nodup
      ∧ plannedBytes manifest.models ≤ manifest.policy.downloadBudgetBytes := by
  cases document with
  | obj raw =>
    simp only [checkDocument] at h
    split at h
    · cases h
    · obtain ⟨policy, -, h₁⟩ := except_bind_ok.mp h
      split at h₁
      · next value values hvalues =>
        obtain ⟨models, hmodels, h₂⟩ := except_bind_ok.mp h₁
        split at h₂
        · cases h₂
        · next hbudget =>
          cases h₂
          obtain ⟨read, hread, hforall⟩ := parseModels_ok hmodels
          rw [List.nil_append] at hread
          subst hread
          exact ⟨raw, value :: values, rfl, hvalues, hforall,
            parseModels_nodup hmodels List.nodup_nil, Nat.not_lt.mp hbudget⟩
      · cases h₁
  | _ => cases h

/-! ### The approved voice -/

/-- An entry is that of the approved voice. -/
structure IsIrina (model : ModelEntry) : Prop where
  id : model.id = text "piper-ru-irina-medium"
  role : model.role = text "tts"
  acquisition : model.acquisition = text "download"
  languages : model.languages = [text "ru"]
  cachePath : ∃ lead, model.cachePath.parts = lead ++ [text "cache", text "piper"]
  source : model.source = {
    repository := text "rhasspy/piper-voices"
    revision := irinaRevision
    license := text "MIT"
    datasetLicense := some (text "Unknown")
    licenseWaiver := some irinaWaiver }
  files : model.files.Perm irinaFiles

/-- Where no two of a list agree in a text, each is found by its own. -/
theorem find_of_nodup {α : Type} {l : List α} {f : α → Text} {a : α} (hnodup : (l.map f).Nodup)
    (h : a ∈ l) : l.find? (fun b => f b == f a) = some a := by
  cases hfind : l.find? (fun b => f b == f a) with
  | none =>
    have hno := List.find?_eq_none.mp hfind a h
    simp at hno
  | some found =>
    have hmem := List.mem_of_find?_eq_some hfind
    have hsame := List.find?_some hfind
    rw [List.inj_on_of_nodup_map hnodup hmem h (by simpa using hsame)]

theorem find_of_mem {files : List ModelFile} {file : ModelFile}
    (hnodup : (files.map ModelFile.path).Nodup) (h : file ∈ files) :
    files.reverse.find? (fun other => other.path == file.path) = some file := by
  refine find_of_nodup ?_ (List.mem_reverse.mpr h)
  rw [List.map_reverse]
  exact List.nodup_reverse.mpr hnodup

theorem mem_of_find {files : List ModelFile} {file : ModelFile} {path : Text}
    (h : files.reverse.find? (fun other => other.path == path) = some file) : file ∈ files :=
  List.mem_reverse.mp (List.mem_of_find?_eq_some h)

/-- Dictionaries that say the same have the same files. -/
theorem perm_of_sameFiles {files others : List ModelFile} (h : sameFiles files others = true)
    (hfiles : (files.map ModelFile.path).Nodup) (hothers : (others.map ModelFile.path).Nodup) :
    files.Perm others := by
  have hfind := List.all_eq_true.mp h
  refine (List.perm_ext_iff_of_nodup hfiles.of_map hothers.of_map).mpr ?_
  intro file
  constructor
  · intro hmem
    have hsame := eq_of_beq (hfind file (List.mem_append_left _ hmem))
    rw [find_of_mem hfiles hmem] at hsame
    exact mem_of_find hsame.symm
  · intro hmem
    have hsame := eq_of_beq (hfind file (List.mem_append_right _ hmem))
    rw [find_of_mem hothers hmem] at hsame
    exact mem_of_find hsame

/-- A waiver that is accepted is that of the approved voice. -/
theorem irina_of_waiver {model : ModelEntry} {policy : ManifestPolicy}
    (h : validateLicenseWaiver model policy = .ok ()) (hwaiver : model.source.licenseWaiver ≠ none)
    (hnodup : (model.files.map ModelFile.path).Nodup) : IsIrina model := by
  unfold validateLicenseWaiver at h
  rw [if_neg hwaiver] at h
  split at h
  · next hvalid =>
    obtain ⟨-, -, -, hid, hrole, hacquisition, hlanguages, hcache, hrepository, hrevision, hlicense,
      hdataset, hwaived, hfiles⟩ := hvalid
    refine ⟨hid, hrole, hacquisition, hlanguages, ?_, ?_, perm_of_sameFiles hfiles hnodup (by decide)⟩
    · refine ⟨model.cachePath.parts.take (model.cachePath.parts.length - 2), ?_⟩
      rw [← hcache, List.take_append_drop]
    · rw [← hrepository, ← hrevision, ← hlicense, ← hdataset, ← hwaived]
  · cases h

/-! ### What is promised, and when it is kept -/

/-- What a manifest that was accepted is to say. -/
structure Promised (manifest : ModelManifest) : Prop where
  /-- Each file is kept right under its model's directory. -/
  targets : ∀ model ∈ manifest.models, ∀ file ∈ model.files, ∃ name,
    IsName name ∧ name ≠ text ".." ∧ targetPath model file = .ok (model.cachePath.child name)
  /-- Two files of one model are kept in two places. -/
  distinct : ∀ model ∈ manifest.models, (model.files.map (targetPath model)).Nodup
  /-- A download comes from the address of its repository, revision and path. -/
  pinned : ∀ model ∈ manifest.models, model.acquisition = text "download" → ∀ file ∈ model.files,
    ∃ sourcePath, file.sourcePath = some sourcePath
      ∧ file.sourceUrl = some (pinnedUrl model.source sourcePath)
  budget : plannedBytes manifest.models ≤ manifest.policy.downloadBudgetBytes
  irina : ∀ model ∈ manifest.models, model.source.datasetLicense = some (text "Unknown") →
    IsIrina model

/-- The objects of a list. -/
def objects : Json → List (List (Text × Json))
  | .arr values => values.filterMap fun value => match value with
    | .obj raw => some raw
    | _ => none
  | _ => []

/-- The name a path comes to. -/
def nameOf : Json → List Text
  | .str t => (PurePath.ofText t).tail
  | _ => []

/-- No name of a file is spelled in two ways within a model, and the addresses of the downloads are
    plain ones. -/
structure PlainlySpelled (document : List (Text × Json)) : Prop where
  names : ∀ model ∈ objects (get document "models"),
    ((objects (get model "files")).map fun file => nameOf (get file "path")).Nodup
  urls : ∀ model ∈ objects (get document "models"), get model "acquisition" = .str (text "download") →
    ∀ file ∈ objects (get model "files"), ∀ url, get file "source_url" = .str url → PlainUrl url

/-- Objects that were read one by one are those of the list, in its order. -/
theorem objects_read {α : Type} {values : List Json} {as : List α}
    {R : List (Text × Json) → α → Prop}
    (h : List.Forall₂ (fun value a => ∃ raw, value = .obj raw ∧ R raw a) values as) :
    List.Forall₂ R (objects (.arr values)) as := by
  induction h with
  | nil => exact .nil
  | cons hread _ ih =>
    obtain ⟨raw, rfl, hraw⟩ := hread
    exact .cons hraw ih

theorem mem_read {α : Type} {values : List (List (Text × Json))} {as : List α}
    {R : List (Text × Json) → α → Prop} (h : List.Forall₂ R values as) :
    (∀ raw ∈ values, ∃ a ∈ as, R raw a) ∧ ∀ a ∈ as, ∃ raw ∈ values, R raw a := by
  induction h with
  | nil => simp
  | cons hread _ ih =>
    simp only [List.mem_cons, forall_eq_or_imp, exists_eq_or_imp]
    exact ⟨⟨.inl hread, fun raw hraw => .inr (ih.1 raw hraw)⟩,
      ⟨.inl hread, fun a ha => .inr (ih.2 a ha)⟩⟩

/-- Where a file that was read is kept, by the name its path comes to. -/
def kept (model : ModelEntry) (name : List Text) : Except Raised PurePath :=
  .ok { model.cachePath with tail := model.cachePath.tail ++ name }

theorem kept_injective (model : ModelEntry) : Function.Injective (kept model) := by
  intro name name' h
  have htail := congrArg PurePath.tail (Except.ok.inj h)
  exact List.append_cancel_left htail

variable {policy : ManifestPolicy} {raw : List (Text × Json)} {model : ModelEntry}

theorem FileRead.target {file : ModelFile}
    (h : FileRead (i := i) model.source model.acquisition raw file) : ∃ name,
    IsName name ∧ name ≠ text ".." ∧ targetPath model file = .ok (model.cachePath.child name)
      ∧ nameOf (get raw "path") = [name] := by
  obtain ⟨name, hname, hup, hpath⟩ := h.name
  refine ⟨name, hname, hup, targetPath_of_name hname hpath, ?_⟩
  rw [h.path, nameOf, hpath]

/-- The files of a model, as they stand in the document. -/
theorem ModelRead.read (h : ModelRead (i := i) policy raw model) :
    List.Forall₂ (FileRead (i := i) model.source model.acquisition) (objects (get raw "files"))
      model.files := by
  obtain ⟨values, hvalues, hfiles⟩ := h.files
  rw [hvalues]
  exact objects_read (hfiles.imp fun _ _ hfile => parseFile_ok hfile)

theorem ModelRead.distinct_iff (h : ModelRead (i := i) policy raw model) :
    (model.files.map (targetPath model)).Nodup
      ↔ ((objects (get raw "files")).map fun file => nameOf (get file "path")).Nodup := by
  have htargets : model.files.map (targetPath model)
      = ((objects (get raw "files")).map fun file => nameOf (get file "path")).map (kept model) := by
    have hread := h.read
    generalize objects (get raw "files") = raws at hread ⊢
    generalize model.files = files at hread ⊢
    induction hread with
    | nil => rfl
    | cons hfile _ ih =>
      obtain ⟨name, -, -, htarget, hname⟩ := hfile.target
      rw [List.map_cons, List.map_cons, List.map_cons, ih, htarget, hname]
      rfl
  rw [htargets, List.nodup_map_iff (kept_injective model)]

/-- The URL of a file that was read is the pinned one just when it is plain. -/
theorem FileRead.pinned_iff {source : ModelSource} {acquisition : Text} {file : ModelFile}
    (h : FileRead (i := i) source acquisition raw file) (hdownload : acquisition = text "download") :
    (∃ sourcePath, file.sourcePath = some sourcePath
        ∧ file.sourceUrl = some (pinnedUrl source sourcePath))
      ↔ ∀ url, get raw "source_url" = .str url → PlainUrl url := by
  obtain ⟨url, sourcePath, parsed, hraw, hurl, hpath, hparsed, hscheme, hexpected⟩ :=
    h.download hdownload
  have hplain := pinned_iff_plain hparsed hscheme hexpected
  rw [hraw]
  constructor
  · rintro ⟨sourcePath', hpath', hurl'⟩ url' hsame
    cases hsame
    rw [hpath] at hpath'
    cases hpath'
    rw [hurl] at hurl'
    exact hplain.mp (Option.some.inj hurl')
  · intro hall
    exact ⟨sourcePath, hpath, by rw [hurl, hplain.mpr (hall url rfl)]⟩

theorem ModelRead.pinned_iff (h : ModelRead (i := i) policy raw model) :
    (model.acquisition = text "download" → ∀ file ∈ model.files, ∃ sourcePath,
        file.sourcePath = some sourcePath
          ∧ file.sourceUrl = some (pinnedUrl model.source sourcePath))
      ↔ (get raw "acquisition" = .str (text "download") → ∀ file ∈ objects (get raw "files"),
        ∀ url, get file "source_url" = .str url → PlainUrl url) := by
  have hread := mem_read h.read
  rw [h.acquisition]
  constructor
  · intro hpinned hsame file hfile
    have hdownload := Json.str.inj hsame
    obtain ⟨file', hmem, hfile'⟩ := hread.1 file hfile
    exact (hfile'.pinned_iff hdownload).mp (hpinned hdownload file' hmem)
  · intro hplain hdownload file hfile
    obtain ⟨raw', hmem, hfile'⟩ := hread.2 file hfile
    exact (hfile'.pinned_iff hdownload).mpr (hplain (congrArg Json.str hdownload) raw' hmem)

/-- A manifest that was accepted says what it is to say just when its document is plainly spelled. -/
theorem promised_iff {content : Option (List UInt8)} {manifest : ModelManifest}
    (h : loadManifest i content = .ok manifest) : ∃ document,
      readDocument i content = .ok (.obj document) ∧ (Promised manifest ↔ PlainlySpelled document) := by
  obtain ⟨value, hvalue, hchecked⟩ := except_bind_ok.mp h
  obtain ⟨document, values, rfl, hvalues, hmodels, -, hbudget⟩ := checkDocument_ok hchecked
  refine ⟨document, catching_ok.mp hvalue, ?_⟩
  have hread : List.Forall₂ (ModelRead (i := i) manifest.policy) (objects (get document "models"))
      manifest.models := by
    rw [hvalues]
    exact objects_read (hmodels.imp fun _ _ hmodel => parseModel_ok hmodel)
  have hmem := mem_read hread
  constructor
  · intro hpromised
    constructor
    · intro raw hraw
      obtain ⟨model, hmodel, hr⟩ := hmem.1 raw hraw
      exact hr.distinct_iff.mp (hpromised.distinct model hmodel)
    · intro raw hraw
      obtain ⟨model, hmodel, hr⟩ := hmem.1 raw hraw
      exact hr.pinned_iff.mp (hpromised.pinned model hmodel)
  · intro hplain
    refine ⟨?_, ?_, ?_, hbudget, ?_⟩
    · intro model hmodel file hfile
      obtain ⟨raw, -, hr⟩ := hmem.2 model hmodel
      obtain ⟨raw', -, hf⟩ := (mem_read hr.read).2 file hfile
      obtain ⟨name, hname, hup, htarget, -⟩ := hf.target
      exact ⟨name, hname, hup, htarget⟩
    · intro model hmodel
      obtain ⟨raw, hraw, hr⟩ := hmem.2 model hmodel
      exact hr.distinct_iff.mpr (hplain.names raw hraw)
    · intro model hmodel
      obtain ⟨raw, hraw, hr⟩ := hmem.2 model hmodel
      exact hr.pinned_iff.mpr (hplain.urls raw hraw)
    · intro model hmodel hunknown
      obtain ⟨raw, -, hr⟩ := hmem.2 model hmodel
      obtain ⟨value, hsource⟩ := hr.source
      exact irina_of_waiver hr.waiver (parseSource_ok hsource hunknown) hr.nodup

/-- A manifest of one model with two files, of which the second is spelled with a dot. -/
def dottedManifest : List UInt8 :=
  (["\x7b\"schema_version\":1,\"policy\":\x7b\"download_budget_bytes\":9,",
    "\"post_download_free_floor_bytes\":1,\"usage_mode\":\"personal_noncommercial\",",
    "\"redistribution\":false,\"certified_or_safety_critical\":false,",
    "\"staging_path\":\"/s\",\"redirect_hosts\":[\"h\"]\x7d,",
    "\"models\":[\x7b\"id\":\"m\",\"role\":\"mt\",\"acquisition\":\"reuse\",",
    "\"languages\":[\"ru\"],\"cache_path\":\"/c\",\"source\":\x7b\"repository\":\"a/b\",",
    "\"revision\":\"0d907f158acc877ddeebcbf827659ee13bea8bcd\",\"license\":\"MIT\"\x7d,",
    "\"files\":[\x7b\"path\":\"x\",\"size_bytes\":1,\"sha256\":",
    "\"8ff38212d23da300bbe3705c645e6e5b9475f0bfde01558eb17813e22acaaaaa\"\x7d,",
    "\x7b\"path\":\"./x\",\"size_bytes\":2,\"sha256\":",
    "\"c2ec28bb38e2b59e93b959b3e40348c1afebbd272f30fed5d41205d08e98a9d7\"\x7d]\x7d]\x7d"].flatMap text).map UInt8.ofNat

/-- Where the files of a manifest are kept, model by model. -/
def targets (manifest : ModelManifest) : List (List (Except Raised PurePath)) :=
  manifest.models.map fun model => model.files.map (targetPath model)

theorem dotted_targets : (loadManifest .plain (some dottedManifest)).map targets
    = .ok [[.ok ⟨[47], [text "c", text "x"]⟩, .ok ⟨[47], [text "c", text "x"]⟩]] := by
  decide +kernel

theorem dotted_accepted : ∃ manifest, loadManifest .plain (some dottedManifest) = .ok manifest
    ∧ targets manifest
      = [[.ok ⟨[47], [text "c", text "x"]⟩, .ok ⟨[47], [text "c", text "x"]⟩]] := by
  have h := dotted_targets
  generalize loadManifest .plain (some dottedManifest) = result at h
  cases result with
  | ok manifest => exact ⟨manifest, rfl, Except.ok.inj h⟩
  | error e => cases h

/-- Two files of one model are accepted that are kept in one place. -/
theorem dotted_collides : ∃ manifest, loadManifest .plain (some dottedManifest) = .ok manifest
    ∧ ¬ Promised manifest := by
  obtain ⟨manifest, hload, htargets⟩ := dotted_accepted
  refine ⟨manifest, hload, ?_⟩
  intro hpromised
  have hnodup : ∀ places ∈ targets manifest, places.Nodup := by
    intro places hplaces
    obtain ⟨model, hmodel, rfl⟩ := List.mem_map.mp hplaces
    exact hpromised.distinct model hmodel
  rw [htargets] at hnodup
  have htwice := List.nodup_cons.mp (hnodup _ (List.mem_singleton_self _))
  exact htwice.1 (List.mem_singleton_self _)

theorem promised_iff_dotted : ∃ manifest, loadManifest .plain (some dottedManifest) = .ok manifest
    ∧ ∃ document, readDocument .plain (some dottedManifest) = .ok (.obj document)
      ∧ (Promised manifest ↔ PlainlySpelled document) := by
  obtain ⟨manifest, hload, -⟩ := dotted_accepted
  exact ⟨manifest, hload, promised_iff hload⟩

end Translator.Manifest
