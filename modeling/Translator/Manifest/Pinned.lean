import Translator.Manifest.Manifest
import Mathlib.Data.List.TakeWhile

/-! The two things of a manifest that are written down twice: a file's name, of which a path drops what
    does not count, and the address of a download, of which the parser of URLs does. -/

namespace Translator.Manifest
open Schemes

/-! ### Names of files -/

theorem part_of_split {sep : Nat} {t part : Text} (h : part ∈ t.splitOn sep) : sep ∉ part := by
  induction t generalizing part with
  | nil =>
    rw [List.splitOn_nil, List.mem_singleton] at h
    rw [h]
    exact List.not_mem_nil
  | cons c t ih =>
    rw [List.splitOn_cons_eq_if_modifyHead] at h
    split at h
    · rcases List.mem_cons.mp h with rfl | h
      · exact List.not_mem_nil
      · exact ih h
    · next hc =>
      cases hparts : t.splitOn sep with
      | nil => exact absurd hparts (List.splitOn_ne_nil sep t)
      | cons first parts =>
        rw [hparts, List.modifyHead_cons] at h
        rcases List.mem_cons.mp h with rfl | h
        · intro hmem
          rcases List.mem_cons.mp hmem with rfl | hmem
          · exact hc (beq_self_eq_true sep)
          · exact ih (hparts ▸ List.mem_cons_self) hmem
        · exact ih (hparts ▸ List.mem_cons_of_mem _ h)

/-- A part of a path is a name: it is not empty, no dot, and holds no stroke. -/
structure IsName (name : Text) : Prop where
  nonempty : name ≠ []
  undotted : name ≠ text "."
  whole : 47 ∉ name

theorem isName_of_tail {t part : Text} (h : part ∈ (PurePath.ofText t).tail) : IsName part := by
  obtain ⟨hmem, hkept⟩ := List.mem_filter.mp h
  rw [Bool.and_eq_true, bne_iff_ne, Bool.not_eq_true', List.isEmpty_eq_false_iff] at hkept
  exact ⟨hkept.1, hkept.2, part_of_split hmem⟩

theorem rootOf_name {name : Text} (h : 47 ∉ name) : PurePath.rootOf name = [] := by
  cases name with
  | nil => rfl
  | cons c name =>
    have hc : c ≠ 47 := by
      rintro rfl
      exact h List.mem_cons_self
    unfold PurePath.rootOf
    split <;> simp_all

/-- A name is a path of one part, itself. -/
theorem ofText_name {name : Text} (h : IsName name) : PurePath.ofText name = ⟨[], [name]⟩ := by
  simp only [PurePath.ofText, rootOf_name h.whole, List.splitOn_eq_singleton h.whole]
  have hempty : name.isEmpty = false := List.isEmpty_eq_false_iff.mpr h.nonempty
  simp [hempty, h.undotted]

/-- What the check of a file's path leaves: one name, which does not lead upwards. -/
theorem name_of_parts {t : Text} (habsolute : (PurePath.ofText t).isAbsolute = false)
    (hparts : (PurePath.ofText t).parts.length = 1) :
    ∃ name, IsName name ∧ PurePath.ofText t = ⟨[], [name]⟩ := by
  have hroot : (PurePath.ofText t).root = [] := by
    simpa [PurePath.isAbsolute] using habsolute
  rw [PurePath.parts, hroot] at hparts
  obtain ⟨name, htail⟩ := List.length_eq_one_iff.mp hparts
  refine ⟨name, isName_of_tail (htail ▸ List.mem_singleton_self name), ?_⟩
  calc PurePath.ofText t = ⟨(PurePath.ofText t).root, (PurePath.ofText t).tail⟩ := rfl
    _ = ⟨[], [name]⟩ := by rw [hroot]; exact congrArg _ htail

/-- The path right under another, of one name. -/
def PurePath.child (base : PurePath) (name : Text) : PurePath :=
  { base with tail := base.tail ++ [name] }

theorem child_injective {base : PurePath} {name name' : Text}
    (h : base.child name = base.child name') : name = name' := by
  have htail := congrArg PurePath.tail h
  simpa [PurePath.child] using htail

theorem join_name {base : PurePath} {name : Text} (h : IsName name) :
    base.join [name] = base.child name := by
  simp [PurePath.join, ofText_name h, PurePath.isAbsolute, PurePath.child]

theorem isWithin_child (base : PurePath) (name : Text) : (base.child name).isWithin base = true := by
  simp [PurePath.isWithin, PurePath.child]

/-- A file whose path is one name is kept right under its model's directory. -/
theorem targetPath_of_name {model : ModelEntry} {file : ModelFile} {name : Text} (h : IsName name)
    (hpath : PurePath.ofText file.path = ⟨[], [name]⟩) :
    targetPath model file = .ok (model.cachePath.child name) := by
  have hparts : (PurePath.ofText file.path).parts = [name] := by
    rw [hpath]
    rfl
  simp only [targetPath, hparts, join_name h, isWithin_child, if_true]

/-! ### Addresses of downloads -/

/-- The part of a URL that names its host, as the source's is written. -/
def hostPart : Text := text "https://huggingface.co"

/-- The address of a file on the source's host. -/
def pinnedUrl (source : ModelSource) (sourcePath : Text) : Text :=
  hostPart ++ expectedPath source sourcePath

/-- A URL with nothing in it that its parser overlooks or sets apart: it starts with the host and a
    stroke, holds no letter that is dropped and no mark of a query or a fragment, and its last segment
    has no parameters. -/
structure PlainUrl (url : Text) : Prop where
  host : hostPart ++ [47] <+: url
  letters : ∀ c ∈ url, Urls.dropped c = false ∧ c ≠ 35 ∧ c ≠ 63
  params : 59 ∉ url.reverse.takeWhile (· ≠ 47)

variable {u : Urls}

theorem partition_of_not_mem {sep : Nat} {t : Text} (h : sep ∉ t) : Text.partition sep t = (t, []) := by
  have hall : ∀ c ∈ t, (decide (c ≠ sep)) = true := by
    intro c hc
    rw [decide_eq_true_eq]
    rintro rfl
    exact h hc
  rw [Text.partition, List.takeWhile_eq_self_iff.mpr hall, List.dropWhile_eq_nil_iff.mpr hall]
  rfl

theorem mem_partition {sep c : Nat} {t : Text} (h : c ∈ (Text.partition sep t).1) : c ∈ t ∧ c ≠ sep := by
  have hkept := List.mem_takeWhile_imp h
  exact ⟨(List.takeWhile_sublist _).mem h, by simpa using hkept⟩

/-- A path without parameters is split where it ends. -/
theorem splitParams_plain {path : Text} (h : 59 ∉ path.reverse.takeWhile (· ≠ 47)) :
    Urls.splitParams path = (path, []) := by
  have hlast : 59 ∉ (path.reverse.takeWhile (· ≠ 47)).reverse := by simpa using h
  simp only [Urls.splitParams, partition_of_not_mem hlast]
  rw [← List.reverse_append, List.takeWhile_append_dropWhile, List.reverse_reverse]

theorem cleaned_plain {url : Text} (h : PlainUrl url) : Urls.cleaned url = url := by
  obtain ⟨rest, rfl⟩ := h.host
  have hdrop : (hostPart ++ [47] ++ rest).dropWhile (fun c => decide (c ≤ 32))
      = hostPart ++ [47] ++ rest := rfl
  rw [Urls.cleaned, hdrop, List.filter_eq_self]
  intro c hc
  rw [(h.letters c hc).1]
  rfl

theorem splitScheme_host (t : Text) :
    Urls.splitScheme [] (hostPart ++ t) = (text "https", text "//huggingface.co" ++ t) := rfl

theorem splitNetloc_host (t : Text) :
    Urls.splitNetloc (text "//huggingface.co" ++ 47 :: t) = (text "huggingface.co", 47 :: t) := rfl

/-- All of a plain URL behind its host is its path. -/
theorem path_of_plain {t : Text} {parsed : Parsed} (h : PlainUrl (hostPart ++ 47 :: t))
    (hparsed : u.urlparse [] (hostPart ++ 47 :: t) = some parsed) : parsed.path = 47 :: t := by
  have hfree : ∀ c ∈ 47 :: t, Urls.dropped c = false ∧ c ≠ 35 ∧ c ≠ 63 := by
    intro c hc
    exact h.letters c (List.mem_append_right _ hc)
  have hfragment : 35 ∉ 47 :: t := fun hc => (hfree 35 hc).2.1 rfl
  have hquery : 63 ∉ 47 :: t := fun hc => (hfree 63 hc).2.2 rfl
  have hparams : 59 ∉ (47 :: t).reverse.takeWhile (· ≠ 47) := by
    have hhost := h.params
    rw [List.reverse_append] at hhost
    intro hmem
    refine hhost ?_
    rw [List.takeWhile_append]
    split
    · exact List.mem_append_left _ ((List.takeWhile_sublist _).mem hmem)
    · exact hmem
  rw [Urls.urlparse, Option.bind_eq_bind, Option.bind_eq_some_iff] at hparsed
  obtain ⟨split, hsplit, hparsed⟩ := hparsed
  simp only [Urls.urlsplit, cleaned_plain h, splitScheme_host, splitNetloc_host,
    partition_of_not_mem hfragment, partition_of_not_mem hquery] at hsplit
  split at hsplit
  · cases hsplit
    have huses : Urls.usesParams.contains (text "https") = true := by decide
    simp only [huses, if_true, splitParams_plain hparams] at hparsed
    cases hparsed
    rfl
  · cases hsplit

theorem mem_splitNetloc {c : Nat} {t : Text} (h : c ∈ (Urls.splitNetloc t).2) : c ∈ t := by
  unfold Urls.splitNetloc at h
  split at h
  · exact List.mem_cons_of_mem _ (List.mem_cons_of_mem _ ((List.dropWhile_sublist _).mem h))
  · exact h

theorem mem_splitScheme {c : Nat} {t : Text} (h : c ∈ (Urls.splitScheme [] t).2) : c ∈ t := by
  unfold Urls.splitScheme at h
  split at h
  · exact (List.dropWhile_sublist _).mem ((List.tail_sublist _).mem h)
  · exact h

theorem mem_splitParams {c : Nat} {path : Text} (h : c ∈ (Urls.splitParams path).1) : c ∈ path := by
  have hwhole : (path.reverse.dropWhile (· ≠ 47)).reverse ++ (path.reverse.takeWhile (· ≠ 47)).reverse
      = path := by
    rw [← List.reverse_append, List.takeWhile_append_dropWhile, List.reverse_reverse]
  rw [← hwhole]
  rcases List.mem_append.mp h with h | h
  · exact List.mem_append_left _ h
  · exact List.mem_append_right _ (mem_partition h).1

/-- A path that was split from its parameters has none. -/
theorem plain_splitParams (path : Text) :
    59 ∉ (Urls.splitParams path).1.reverse.takeWhile (· ≠ 47) := by
  have hlast : ∀ c ∈ (Text.partition 59 (path.reverse.takeWhile (· ≠ 47)).reverse).1.reverse,
      decide (c ≠ 47) = true ∧ c ≠ 59 := by
    intro c hc
    obtain ⟨hmem, hne⟩ := mem_partition (List.mem_reverse.mp hc)
    have hkept := List.mem_takeWhile_imp (List.mem_reverse.mp hmem)
    exact ⟨by simpa using hkept, hne⟩
  have hstroke : (path.reverse.dropWhile (· ≠ 47)).takeWhile (· ≠ 47) = [] := by
    cases hd : path.reverse.dropWhile (· ≠ 47) with
    | nil => rfl
    | cons c rest =>
      have hc := List.head_dropWhile_not (p := fun c => decide (c ≠ 47)) (l := path.reverse)
        (by rw [hd]; exact List.cons_ne_nil _ _)
      simp only [hd, List.head_cons] at hc
      exact List.takeWhile_cons_of_neg (by simpa using hc)
  simp only [Urls.splitParams]
  rw [List.reverse_append, List.reverse_reverse,
    List.takeWhile_append_of_pos (fun c hc => (hlast c hc).1), hstroke, List.append_nil]
  exact fun hmem => (hlast 59 hmem).2 rfl

/-- What a path that was parsed cannot hold. -/
theorem letters_of_path {url : Text} {parsed : Parsed} (h : u.urlparse [] url = some parsed)
    (hscheme : parsed.scheme = text "https") :
    (∀ c ∈ parsed.path, Urls.dropped c = false ∧ c ≠ 35 ∧ c ≠ 63)
      ∧ 59 ∉ parsed.path.reverse.takeWhile (· ≠ 47) := by
  rw [Urls.urlparse, Option.bind_eq_bind, Option.bind_eq_some_iff] at h
  obtain ⟨split, hsplit, h⟩ := h
  have hletters : ∀ c ∈ split.path, Urls.dropped c = false ∧ c ≠ 35 ∧ c ≠ 63 := by
    intro c hc
    simp only [Urls.urlsplit] at hsplit
    split at hsplit
    · cases hsplit
      obtain ⟨hmem, hquery⟩ := mem_partition hc
      obtain ⟨hmem, hfragment⟩ := mem_partition hmem
      have hcleaned := mem_splitScheme (mem_splitNetloc hmem)
      have hkept := (List.mem_filter.mp hcleaned).2
      exact ⟨by simpa using hkept, hfragment, hquery⟩
    · cases hsplit
  split at h
  · cases h
    exact ⟨fun c hc => hletters c (mem_splitParams hc), plain_splitParams split.path⟩
  · next huses =>
    cases h
    exact absurd (hscheme ▸ by decide) huses

/-- A URL whose path is the pinned one is the pinned URL just when it is a plain one. -/
theorem pinned_iff_plain {source : ModelSource} {sourcePath url : Text} {parsed : Parsed}
    (h : u.urlparse [] url = some parsed) (hscheme : parsed.scheme = text "https")
    (hpath : parsed.path = expectedPath source sourcePath) :
    url = pinnedUrl source sourcePath ↔ PlainUrl url := by
  constructor
  · rintro rfl
    obtain ⟨hletters, hparams⟩ := letters_of_path h hscheme
    rw [hpath] at hletters hparams
    refine ⟨⟨(expectedPath source sourcePath).tail, ?_⟩, ?_, ?_⟩
    · rw [List.append_assoc]
      rfl
    · intro c hc
      rcases List.mem_append.mp hc with hc | hc
      · have hhost : ∀ c ∈ hostPart, Urls.dropped c = false ∧ c ≠ 35 ∧ c ≠ 63 := by decide
        exact hhost c hc
      · exact hletters c hc
    · have hstroke : 47 ∈ (expectedPath source sourcePath).reverse :=
        List.mem_reverse.mpr List.mem_cons_self
      rw [pinnedUrl, List.reverse_append, List.takeWhile_append]
      split
      · next hall =>
        have hself := (List.takeWhile_prefix _).eq_of_length hall
        rw [← hself] at hstroke
        have hne := List.mem_takeWhile_imp hstroke
        simp at hne
      · exact hparams
  · intro hplain
    obtain ⟨rest, hrest⟩ := hplain.host
    have hurl : url = hostPart ++ 47 :: rest := by
      rw [← hrest, List.append_assoc]
      rfl
    subst hurl
    rw [pinnedUrl, ← hpath, path_of_plain hplain h]

end Translator.Manifest
