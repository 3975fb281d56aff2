import Mathlib.Data.List.TakeWhile
import Translator.Local.Mt

/-! What the repair of names does to a translation with one label for each document. The repair only ever
    rewrites the first label; where a label is not yet right and is not the first, the first is lost to
    it. -/

namespace Translator.Local
open Core (Language)
open Schemes Regex

variable (u : Unicode)

/-! ### Labels -/

/-- The word for a document, blanks, and a name. -/
def LabelOf (label name : List Char) : Prop :=
  ∃ a s, label = a ++ (s ++ name) ∧ List.Forall₂ (fun c letter => u.alike c letter = true) a dokument
    ∧ s ≠ [] ∧ ∀ c ∈ s, u.space c = true

/-- A label as the pattern for labels takes them. -/
structure LabelLike (label name : List Char) : Prop where
  label : LabelOf u label name
  nonempty : name ≠ []
  letters : ∀ c ∈ name, labelLetter u c = true

variable {u}

theorem labelLetter_of_word {c : Char} (h : u.word c = true) : labelLetter u c = true := by
  simp [labelLetter, h]

/-- Blanks are no letters of a name. -/
theorem labelLetter_of_space {c : Char} (h : u.space c = true) : labelLetter u c = false := by
  have hword := u.word_of_space c h
  have hne : c ≠ '-' := by
    rintro rfl
    rw [u.space_hyphen] at h
    cases h
  simp [labelLetter, hword, hne]

theorem length_dokument {a : List Char}
    (h : List.Forall₂ (fun c letter => u.alike c letter = true) a dokument) : a.length = 8 :=
  h.length_eq

theorem word_dokument {a : List Char}
    (h : List.Forall₂ (fun c letter => u.alike c letter = true) a dokument) :
    ∀ c ∈ a, u.word c = true := by
  have hall := u.alike_dokument
  generalize dokument = letters at h hall
  induction h with
  | nil =>
    intro c hc
    cases hc
  | @cons c letter a letters hc _ ih =>
    intro d hd
    rcases List.mem_cons.mp hd with rfl | hd
    · exact hall d letter (List.mem_cons_self ..) hc
    · exact ih (fun e l hl => hall e l (List.mem_cons_of_mem letter hl)) d hd

/-- The letters of the word that begins a label are letters of a name. -/
theorem labelLetter_dokument {a : List Char}
    (h : List.Forall₂ (fun c letter => u.alike c letter = true) a dokument) :
    ∀ c ∈ a, labelLetter u c = true :=
  fun c hc => labelLetter_of_word (word_dokument h c hc)

theorem next_append {p : Char → Bool} {a b : List Char} (h : a ≠ []) : next p (a ++ b) = next p a := by
  cases a with
  | nil => exact absurd rfl h
  | cons c a => rfl

theorem next_all {p : Char → Bool} {a : List Char} (h : a ≠ []) (hall : ∀ c ∈ a, p c = true) :
    next p a = true := by
  cases a with
  | nil => exact absurd rfl h
  | cons c a => exact hall c (List.mem_cons_self ..)

theorem next_none {p : Char → Bool} {a : List Char} (hall : ∀ c ∈ a, p c = false) : next p a = false := by
  cases a with
  | nil => rfl
  | cons c a => exact hall c (List.mem_cons_self ..)

/-- A label begins with a letter of a word. -/
theorem LabelOf.next_word {label name rest : List Char} (h : LabelOf u label name) :
    next u.word (label ++ rest) = true := by
  obtain ⟨a, s, rfl, ha, -, -⟩ := h
  have hne : a ≠ [] := by
    rintro rfl
    have := length_dokument ha
    simp at this
  rw [List.append_assoc, next_append hne]
  exact next_all hne (word_dokument ha)

/-- What the pattern for labels takes: a label with no word right behind it, up to the edge of a word. -/
theorem label_mem {behind ahead : List Char} {hit : Hit Char} :
    hit ∈ run (translatedLabel u) behind ahead ↔ next u.word behind = false
      ∧ hit.taken ++ hit.rest = ahead ∧ hit.groups = []
      ∧ ∃ name, LabelLike u hit.taken name ∧ next u.word name.reverse ≠ next u.word hit.rest := by
  simp only [translatedLabel, inOrder]
  constructor
  · intro h
    obtain ⟨_, hbound, _, h₁, rfl⟩ := mem_run_seq.mp h
    obtain ⟨hedge, rfl⟩ := mem_run_bound.mp hbound
    obtain ⟨word, hword, _, h₂, rfl⟩ := mem_run_seq.mp h₁
    obtain ⟨blanks, hblanks, _, h₃, rfl⟩ := mem_run_seq.mp h₂
    obtain ⟨name, hname, _, h₄, rfl⟩ := mem_run_seq.mp h₃
    obtain ⟨hend, rfl⟩ := mem_run_bound.mp h₄
    obtain ⟨hword, hahead, hgroups₁⟩ := mem_run_text.mp hword
    obtain ⟨hblank, hblanks, hrest₁, hgroups₂⟩ := mem_run_plus.mp hblanks
    obtain ⟨hne, hname, hrest₂, hgroups₃⟩ := mem_run_plus.mp hname
    have hlabel : LabelLike u (word.taken ++ (blanks.taken ++ name.taken)) name.taken :=
      ⟨⟨_, _, rfl, hword, hblank, hblanks⟩, hne, hname⟩
    have hfirst : next u.word (word.taken ++ (blanks.taken ++ name.taken) ++ name.rest) = true :=
      hlabel.label.next_word
    dsimp only at hahead hedge
    rw [← hahead, ← hrest₁, ← hrest₂] at hedge
    refine ⟨?_, ?_, ?_, name.taken, ?_, ?_⟩
    · simp only [List.append_assoc] at hfirst
      rw [hfirst] at hedge
      simpa using hedge
    · simp [← hahead, ← hrest₁, ← hrest₂]
    · simp [hgroups₁, hgroups₂, hgroups₃]
    · simpa using hlabel
    · rwa [next_append (by simpa using hne)] at hend
  · rintro ⟨hbehind, rfl, hgroups, name, ⟨⟨a, s, htaken, ha, hs, hspace⟩, hne, hname⟩, hend⟩
    obtain ⟨taken, rest, groups⟩ := hit
    dsimp only at htaken hgroups hend ⊢
    subst htaken hgroups
    have hlabel : LabelOf u (a ++ (s ++ name)) name := ⟨a, s, rfl, ha, hs, hspace⟩
    refine mem_run_seq.mpr ⟨⟨[], _, []⟩, mem_run_bound.mpr ⟨?_, rfl⟩, ⟨a ++ (s ++ name), rest, []⟩, ?_, rfl⟩
    · rw [hlabel.next_word, hbehind]
      exact Bool.false_ne_true
    · refine mem_run_seq.mpr ⟨⟨a, s ++ name ++ rest, []⟩, mem_run_text.mpr ⟨ha, by simp, rfl⟩,
        ⟨s ++ name, rest, []⟩, ?_, by simp⟩
      refine mem_run_seq.mpr ⟨⟨s, name ++ rest, []⟩, mem_run_plus.mpr ⟨hs, hspace, by simp, rfl⟩,
        ⟨name, rest, []⟩, ?_, by simp⟩
      refine mem_run_seq.mpr ⟨⟨name, rest, []⟩, mem_run_plus.mpr ⟨hne, hname, rfl, rfl⟩,
        ⟨[], rest, []⟩, mem_run_bound.mpr ⟨?_, rfl⟩, by simp⟩
      rwa [next_append (by simpa using hne)]

/-- Of the labels at a place the longest is tried first. -/
theorem label_longest (behind ahead : List Char) :
    LongestFirst (run (translatedLabel u) behind ahead) := by
  have hname : ∀ behind ahead, LongestFirst
      (run (.seq (plus (labelLetter u)) (.bound u.word)) behind ahead) := by
    intro behind ahead
    rw [plus, run_seq_assoc]
    exact longestFirst_seq (length_run_one _ _ _) fun hit _ =>
      longestFirst_many_seq (run_bound_cases u.word)
  simp only [translatedLabel, inOrder]
  refine longestFirst_seq ?_ fun _ _ => longestFirst_seq (length_run_text _ _ _ _) fun _ _ => ?_
  · rcases run_bound_cases u.word behind ahead with h | h <;> simp [h]
  · rw [plus, run_seq_assoc]
    refine longestFirst_seq (length_run_one _ _ _) fun hit _ => ?_
    rw [run_many_seq, flatMap_runs]
    · refine List.pairwise_map.mpr ((hname _ _).imp ?_)
      intro first later hle
      simpa using hle
    · -- after only some of the blanks no name begins
      intro blanks hnext
      rw [List.map_eq_nil_iff]
      refine List.eq_nil_iff_forall_not_mem.mpr fun more hmore => ?_
      obtain ⟨name, hname, -⟩ := mem_run_seq.mp hmore
      obtain ⟨hne, hletters, hrest, -⟩ := mem_run_plus.mp hname
      cases htaken : name.taken with
      | nil => exact hne htaken
      | cons c letters =>
        rw [htaken] at hletters hrest
        rw [← hrest] at hnext
        have hspace : u.space c = true := hnext
        have hletter := hletters c (List.mem_cons_self ..)
        rw [labelLetter_of_space hspace] at hletter
        cases hletter

/-! ### Where a label ends -/

theorem takeWhile_all {p : Char → Bool} {a b : List Char} (h : ∀ c ∈ a, p c = true) :
    (a ++ b).takeWhile p = a ++ b.takeWhile p := List.takeWhile_append_of_pos h

theorem next_dropWhile (p : Char → Bool) (a : List Char) : next p (a.dropWhile p) = false := by
  induction a with
  | nil => rfl
  | cons c a ih =>
    rw [List.dropWhile_cons]
    split
    · exact ih
    · next hp => simpa [next] using hp

theorem takeWhile_stop {p : Char → Bool} {a : List Char} (h : next p a = false) :
    a.takeWhile p = [] := by
  cases a with
  | nil => rfl
  | cons c a => exact List.takeWhile_cons_of_neg (by simpa [next] using h)

/-- The blanks of a label are followed by a letter. -/
theorem space_name {name rest : List Char} (hne : name ≠ [])
    (hletters : ∀ c ∈ name, labelLetter u c = true) : next u.space (name ++ rest) = false := by
  rw [next_append hne]
  cases name with
  | nil => exact absurd rfl hne
  | cons c name =>
    have hletter := hletters c (List.mem_cons_self ..)
    cases hspace : u.space c with
    | false => exact hspace
    | true =>
      rw [labelLetter_of_space hspace] at hletter
      cases hletter

/-- Labels that begin at one place have the word and the blanks in common. -/
theorem label_parts {label label' name name' rest rest' : List Char} (h : LabelLike u label name)
    (h' : LabelLike u label' name') (heq : label ++ rest = label' ++ rest') :
    ∃ lead, label = lead ++ name ∧ label' = lead ++ name' ∧ name ++ rest = name' ++ rest' := by
  obtain ⟨⟨a, s, rfl, ha, hs, hspace⟩, hne, hletters⟩ := h
  obtain ⟨⟨a', s', rfl, ha', hs', hspace'⟩, hne', hletters'⟩ := h'
  simp only [List.append_assoc] at heq
  obtain ⟨rfl, htail⟩ := List.append_inj heq (by rw [length_dokument ha, length_dokument ha'])
  have hblank : s = s' := by
    have hleft := takeWhile_all (b := name ++ rest) hspace
    have hright := takeWhile_all (b := name' ++ rest') hspace'
    rw [takeWhile_stop (space_name hne hletters), List.append_nil] at hleft
    rw [takeWhile_stop (space_name hne' hletters'), List.append_nil] at hright
    rw [← hleft, ← hright, htail]
  subst hblank
  exact ⟨a ++ s, by simp, by simp, List.append_cancel_left htail⟩

/-- How far the letters of a name reach. -/
def reach (u : Unicode) (text : List Char) : Nat := (text.takeWhile (labelLetter u)).length

theorem reach_letters {a : List Char} (h : ∀ c ∈ a, labelLetter u c = true) (b : List Char) :
    reach u (a ++ b) = a.length + reach u b := by
  rw [reach, takeWhile_all h, List.length_append, reach]

/-- They do not reach further into one label than into another. -/
theorem reach_label {label label' name name' : List Char} (h : LabelLike u label name)
    (h' : LabelLike u label' name') (gap rest rest' : List Char) :
    reach u (gap ++ (label ++ rest)) = reach u (gap ++ (label' ++ rest')) := by
  have hlabel : ∀ {label name : List Char}, LabelLike u label name → ∀ rest,
      reach u (label ++ rest) = 8 := by
    rintro label name ⟨⟨a, s, rfl, ha, hs, hspace⟩, -, -⟩ rest
    have hstop : next (labelLetter u) (s ++ name ++ rest) = false := by
      rw [List.append_assoc, next_append hs]
      exact next_none fun c hc => labelLetter_of_space (hspace c hc)
    rw [List.append_assoc, reach_letters (labelLetter_dokument ha), reach, takeWhile_stop hstop,
      length_dokument ha]
    rfl
  induction gap with
  | nil => rw [List.nil_append, List.nil_append, hlabel h, hlabel h']
  | cons c gap ih =>
    simp only [reach, List.cons_append, List.takeWhile_cons] at ih ⊢
    split
    · rw [List.length_cons, List.length_cons, ih]
    · rfl

/-- With the same gap and a label after it, labels that begin at one place are the same. -/
theorem label_unique {x y m m' nx ny nm nm' gap rest rest' : List Char} (hx : LabelLike u x nx)
    (hy : LabelLike u y ny) (hm : LabelLike u m nm) (hm' : LabelLike u m' nm')
    (heq : x ++ (gap ++ (m ++ rest)) = y ++ (gap ++ (m' ++ rest'))) :
    x = y ∧ m ++ rest = m' ++ rest' := by
  obtain ⟨lead, rfl, rfl, hname⟩ := label_parts hx hy heq
  have hreach := congrArg (reach u) hname
  rw [reach_letters hx.letters, reach_letters hy.letters, reach_label hm hm' gap rest rest'] at hreach
  obtain ⟨rfl, hrest⟩ := List.append_inj hname (by omega)
  exact ⟨rfl, List.append_cancel_left hrest⟩

/-- Texts with labels in the places of the matches are the same for the same labels only. -/
theorem replace_unique : ∀ {xs ys : List (List Char)} {n : Nat} {behind ahead x y : List Char},
    (∀ label ∈ x :: xs, ∃ name, LabelLike u label name) →
    (∀ label ∈ y :: ys, ∃ name, LabelLike u label name) →
    xs.length = ys.length →
    xs.length ≤ (matchesFrom (translatedLabel u) n behind ahead).length →
    x ++ replaceFrom (translatedLabel u) n behind ahead xs
      = y ++ replaceFrom (translatedLabel u) n behind ahead ys → x = y ∧ xs = ys
  | [], [], n, behind, ahead, x, y, _, _, _, _, heq => by
    have hnone : ∀ n, replaceFrom (translatedLabel u) n behind ahead [] = ahead := by
      intro n
      cases n <;> rfl
    rw [hnone] at heq
    exact ⟨List.append_cancel_right heq, rfl⟩
  | [], _ :: _, _, _, _, _, _, _, _, hlen, _, _ => by cases hlen
  | _ :: _, [], _, _, _, _, _, _, _, hlen, _, _ => by cases hlen
  | x' :: xs, y' :: ys, n, behind, ahead, x, y, hx, hy, hlen, hcount, heq => by
    cases n with
    | zero => simp [matchesFrom] at hcount
    | succ n =>
      cases hsearch : search (translatedLabel u) behind ahead with
      | none => simp [matchesFrom, hsearch] at hcount
      | some found =>
        simp only [matchesFrom, hsearch, List.length_cons] at hcount
        simp only [replaceFrom, hsearch, List.append_assoc] at heq
        obtain ⟨nx, hnx⟩ := hx x (List.mem_cons_self ..)
        obtain ⟨ny, hny⟩ := hy y (List.mem_cons_self ..)
        obtain ⟨nx', hnx'⟩ := hx x' (List.mem_cons_of_mem x (List.mem_cons_self ..))
        obtain ⟨ny', hny'⟩ := hy y' (List.mem_cons_of_mem y (List.mem_cons_self ..))
        obtain ⟨rfl, hrest⟩ := label_unique hnx hny hnx' hny' heq
        obtain ⟨rfl, rfl⟩ := replace_unique (fun l hl => hx l (List.mem_cons_of_mem _ hl))
          (fun l hl => hy l (List.mem_cons_of_mem _ hl)) (by simpa using hlen) (by simpa using hcount) hrest
        exact ⟨rfl, rfl⟩

/-! ### The first label of a text -/

/-- A letter of a word is a letter of a name. -/
theorem next_word_of_letter {a : List Char} (h : next (labelLetter u) a = false) :
    next u.word a = false := by
  cases a with
  | nil => rfl
  | cons c a =>
    cases hword : u.word c with
    | false => exact hword
    | true =>
      have hletter : labelLetter u c = false := h
      rw [labelLetter_of_word hword] at hletter
      cases hletter

/-- The name before it goes on with hyphens at most. -/
def Quiet (u : Unicode) (rest : List Char) : Prop :=
  ∀ c ∈ rest.takeWhile (labelLetter u), u.word c = false

theorem quiet_next {rest : List Char} (h : Quiet u rest) : next u.word rest = false := by
  cases rest with
  | nil => rfl
  | cons c rest =>
    cases hword : u.word c with
    | false => exact hword
    | true =>
      have hmem : c ∈ (c :: rest).takeWhile (labelLetter u) := by
        rw [List.takeWhile_cons_of_pos (labelLetter_of_word hword)]
        exact List.mem_cons_self ..
      rw [h c hmem] at hword
      cases hword

theorem quiet_append {a rest : List Char} (ha : ∀ c ∈ a, labelLetter u c = true) :
    Quiet u (a ++ rest) ↔ (∀ c ∈ a, u.word c = false) ∧ Quiet u rest := by
  unfold Quiet
  rw [takeWhile_all ha]
  simp [or_imp, forall_and]

/-- The last letter of a kind. -/
theorem last_split {p : Char → Bool} {text : List Char} (h : ∃ c ∈ text, p c = true) :
    ∃ before c later, text = before ++ c :: later ∧ p c = true ∧ ∀ d ∈ later, p d = false := by
  induction text with
  | nil =>
    obtain ⟨c, hc, -⟩ := h
    cases hc
  | cons c text ih =>
    by_cases hlater : ∃ d ∈ text, p d = true
    · obtain ⟨before, d, later, rfl, hd, hno⟩ := ih hlater
      exact ⟨c :: before, d, later, rfl, hd, hno⟩
    · obtain ⟨d, hd, hpd⟩ := h
      rcases List.mem_cons.mp hd with rfl | hd
      · refine ⟨[], d, text, rfl, hpd, fun e he => ?_⟩
        rw [← Bool.not_eq_true]
        exact fun hpe => hlater ⟨e, he, hpe⟩
      · exact absurd ⟨d, hd, hpd⟩ hlater

/-- What follows a label that is taken first goes on with hyphens at most. -/
theorem quiet_of_first {behind rest : List Char} {hit : Hit Char}
    (h : (run (translatedLabel u) behind (hit.taken ++ rest)).head? = some hit) : Quiet u rest := by
  obtain ⟨hbehind, happend, hgroups, name, hlabel, hend⟩ := label_mem.mp (List.mem_of_mem_head? h)
  by_contra hnot
  simp only [Quiet, not_forall, Bool.not_eq_false] at hnot
  obtain ⟨c, hc, hword⟩ := hnot
  obtain ⟨before, d, later, htake, hd, hlater⟩ := last_split ⟨c, hc, hword⟩
  have hletters : ∀ e ∈ before ++ d :: later, labelLetter u e = true := by
    intro e he
    rw [← htake] at he
    exact List.mem_takeWhile_imp he
  -- the name up to its last letter would have been taken before
  have hlonger : (⟨hit.taken ++ (before ++ [d]), later ++ rest.dropWhile (labelLetter u), []⟩ : Hit Char)
      ∈ run (translatedLabel u) behind (hit.taken ++ rest) := by
    obtain ⟨⟨a, s, htaken, ha, hs, hspace⟩, hne, hname⟩ := hlabel
    refine label_mem.mpr ⟨hbehind, ?_, rfl, name ++ (before ++ [d]), ⟨⟨a, s, ?_, ha, hs, hspace⟩, ?_, ?_⟩, ?_⟩
    · conv_rhs => rw [← List.takeWhile_append_dropWhile (p := labelLetter u) (l := rest), htake]
      simp
    · simp [htaken]
    · simp
    · intro e he
      simp only [List.mem_append, List.mem_singleton] at he
      rcases he with he | he | rfl
      · exact hname e he
      · exact hletters e (List.mem_append_left _ he)
      · exact hletters e (List.mem_append_right _ (List.mem_cons_self ..))
    · have hnext : next u.word (later ++ rest.dropWhile (labelLetter u)) = false := by
        cases later with
        | nil => exact next_word_of_letter (next_dropWhile _ _)
        | cons e later => exact hlater e (List.mem_cons_self ..)
      rw [hnext]
      simp [next, hd]
  have hle := longestFirst_head (label_longest behind (hit.taken ++ rest)) h hlonger
  simp only [List.length_append, List.length_singleton] at hle
  omega

/-- The first label that is taken of one with a letter in its name is that label without the hyphens it
    ends with. -/
theorem first_of_label {behind label name rest : List Char} (hlabel : LabelLike u label name)
    (hword : ∃ c ∈ name, u.word c = true) (hbehind : next u.word behind = false) (hrest : Quiet u rest) :
    ∃ taken hyphens, label = taken ++ hyphens ∧ (∀ c ∈ hyphens, labelLetter u c = true)
      ∧ (run (translatedLabel u) behind (label ++ rest)).head? = some ⟨taken, hyphens ++ rest, []⟩ := by
  obtain ⟨before, c, hyphens, rfl, hc, hno⟩ := last_split hword
  have hletters : ∀ d ∈ hyphens, labelLetter u d = true := fun d hd =>
    hlabel.letters d (by simp [hd])
  have hquiet : Quiet u (hyphens ++ rest) := (quiet_append hletters).mpr ⟨hno, hrest⟩
  obtain ⟨⟨a, s, rfl, ha, hs, hspace⟩, -, hname⟩ := hlabel
  have hin : (⟨a ++ (s ++ (before ++ [c])), hyphens ++ rest, []⟩ : Hit Char)
      ∈ run (translatedLabel u) behind (a ++ (s ++ (before ++ c :: hyphens)) ++ rest) := by
    refine label_mem.mpr ⟨hbehind, by simp, rfl, before ++ [c], ⟨⟨a, s, rfl, ha, hs, hspace⟩, by simp, ?_⟩, ?_⟩
    · intro d hd
      refine hname d ?_
      simp only [List.mem_append, List.mem_cons] at hd ⊢
      tauto
    · rw [quiet_next hquiet]
      simp [next, hc]
  cases hhead : (run (translatedLabel u) behind (a ++ (s ++ (before ++ c :: hyphens)) ++ rest)).head? with
  | none =>
    rw [List.head?_eq_none_iff] at hhead
    rw [hhead] at hin
    cases hin
  | some hit =>
    obtain ⟨-, happend, hgroups, name', hlabel', hend⟩ := label_mem.mp (List.mem_of_mem_head? hhead)
    have hle := longestFirst_head (label_longest _ _) hhead hin
    have hlabel : LabelLike u (a ++ (s ++ (before ++ [c]))) (before ++ [c]) :=
      (label_mem.mp hin).2.2.2.elim fun name h => by
        refine ⟨⟨a, s, rfl, ha, hs, hspace⟩, by simp, ?_⟩
        intro d hd
        refine hname d ?_
        simp only [List.mem_append, List.mem_cons] at hd ⊢
        tauto
    have hsame : a ++ (s ++ (before ++ [c])) ++ (hyphens ++ rest) = hit.taken ++ hit.rest := by
      rw [happend]
      simp
    obtain ⟨lead, hlead, hlead', hnames⟩ := label_parts hlabel hlabel' hsame
    -- the name goes on after its last letter only with what is no letter
    obtain ⟨more, hmore⟩ : ∃ more, name' = before ++ [c] ++ more := by
      have hlen : (before ++ [c]).length ≤ name'.length := by
        rw [hlead, hlead'] at hle
        simpa using hle
      obtain ⟨more, hmore, -⟩ | ⟨more, hmore, -⟩ := List.append_eq_append_iff.mp hnames
      · exact ⟨more, hmore⟩
      · rw [hmore, List.length_append] at hlen
        have hnil : more = [] := List.eq_nil_of_length_eq_zero (by omega)
        exact ⟨[], by rw [hmore, hnil, List.append_nil, List.append_nil]⟩
    have htail : more ++ hit.rest = hyphens ++ rest := by
      rw [hmore, List.append_assoc _ more] at hnames
      exact (List.append_cancel_left hnames).symm
    have hnil : more = [] := by
      by_contra hne
      have hall : ∀ d ∈ more, labelLetter u d = true := fun d hd =>
        hlabel'.letters d (by simp [hmore, hd])
      rw [← htail] at hquiet
      obtain ⟨hmoreWord, hquietRest⟩ := (quiet_append hall).mp hquiet
      refine hend ?_
      rw [quiet_next hquietRest, hmore, List.reverse_append, next_append (by simpa using hne)]
      exact next_none fun d hd => hmoreWord d (List.mem_reverse.mp hd)
    refine ⟨a ++ (s ++ (before ++ [c])), hyphens, by simp, hletters, ?_⟩
    congr 1
    ext1
    · rw [hlead', hlead, hmore, hnil, List.append_nil]
    · rw [hnil, List.nil_append] at htail
      exact htail
    · exact hgroups

/-- Blanks do not go on where a word begins. -/
theorem blank_ne_word {s w p q : List Char} (hs : s ≠ []) (hspace : ∀ c ∈ s, u.space c = true)
    (hw : w ≠ []) (hword : ∀ c ∈ w, u.word c = true) : s ++ p ≠ w ++ q := by
  intro heq
  cases s with
  | nil => exact hs rfl
  | cons c s =>
    cases w with
    | nil => exact hw rfl
    | cons d w =>
      obtain ⟨rfl, -⟩ := List.cons.inj heq
      have hnot := u.word_of_space c (hspace c (List.mem_cons_self ..))
      rw [hword c (List.mem_cons_self ..)] at hnot
      cases hnot

/-- A label that begins before another and reaches into it has its word and its blanks before it. -/
theorem reach_into {label name gap beyond x nx rest hrest : List Char} (hlabel : LabelLike u label name)
    (hx : LabelLike u x nx) (hgap : gap ≠ []) (htaken : label = gap ++ beyond)
    (heq : x ++ rest = beyond ++ hrest) :
    ∃ lead early, gap = lead ++ early ∧ name = early ++ beyond ∧ LabelOf u lead [] := by
  obtain ⟨⟨a, s, hparts, ha, hs, hspace⟩, -, -⟩ := hlabel
  obtain ⟨⟨ax, sx, rfl, hax, -, -⟩, -, -⟩ := hx
  have haxWord := word_dokument hax
  have haxLen := length_dokument hax
  have haxNe : ax ≠ [] := by
    rintro rfl
    simp at haxLen
  rw [hparts, ← List.append_assoc] at htaken
  simp only [List.append_assoc] at heq
  obtain ⟨early, hgap', hname'⟩ : ∃ early, gap = a ++ s ++ early ∧ name = early ++ beyond := by
    rcases List.append_eq_append_iff.mp htaken with h | ⟨z, hz, hover'⟩
    · exact h
    · by_cases hnil : z = []
      · subst hnil
        exact ⟨[], by simpa using hz.symm, hover'.symm⟩
      · exfalso
        rw [hover', List.append_assoc] at heq
        rcases List.append_eq_append_iff.mp hz with ⟨g, -, hsg⟩ | ⟨a', ha', hza⟩
        · -- it begins the other label with a blank
          refine blank_ne_word hnil (fun c hc => hspace c ?_) haxNe haxWord heq.symm
          rw [hsg]
          exact List.mem_append_right _ hc
        · -- its word goes on in the word of the other
          rw [hza, List.append_assoc] at heq
          have hshort : a'.length < ax.length := by
            have hlen := congrArg List.length ha'
            rw [length_dokument ha, List.length_append] at hlen
            have := List.length_pos_of_ne_nil hgap
            omega
          rcases List.append_eq_append_iff.mp heq with ⟨w, hw, -⟩ | ⟨w, hw, hsw⟩
          · rw [hw, List.length_append] at hshort
            omega
          · refine blank_ne_word hs hspace (w := w) ?_ (fun c hc => haxWord c ?_) hsw
            · rintro rfl
              rw [hw, List.append_nil] at hshort
              omega
            · rw [hw]
              exact List.mem_append_right _ hc
  exact ⟨a ++ s, early, hgap', hname', ⟨a, s, by simp, ha, hs, hspace⟩⟩

/-- Nothing is taken from before a label that is not taken from before another in its place. -/
theorem none_before_label {behind gap x y nx ny rest : List Char} (hx : LabelLike u x nx)
    (hy : LabelLike u y ny) (hgap : gap ≠ [])
    (h : run (translatedLabel u) behind (gap ++ (y ++ rest)) = []) :
    run (translatedLabel u) behind (gap ++ (x ++ rest)) = [] := by
  refine List.eq_nil_iff_forall_not_mem.mpr fun hit hhit => ?_
  obtain ⟨hbehind, happend, -, name, hlabel, hend⟩ := label_mem.mp hhit
  have no : ∀ hit', hit' ∉ run (translatedLabel u) behind (gap ++ (y ++ rest)) := by
    intro hit' hmem
    rw [h] at hmem
    cases hmem
  rcases List.append_eq_append_iff.mp happend with ⟨beyond, hgap', hrest⟩ | ⟨beyond, htaken, hover⟩
  · -- it ends before the label
    have hnext : next u.word (beyond ++ (x ++ rest)) = next u.word (beyond ++ (y ++ rest)) := by
      cases beyond with
      | nil => rw [List.nil_append, List.nil_append, hx.label.next_word, hy.label.next_word]
      | cons c beyond => rfl
    refine no ⟨hit.taken, beyond ++ (y ++ rest), []⟩ (label_mem.mpr ⟨hbehind, ?_, rfl, name, hlabel, ?_⟩)
    · rw [hgap', List.append_assoc]
    · rw [hrest, hnext] at hend
      exact hend
  · -- it reaches into the label, and would reach into the other just as well
    obtain ⟨lead, early, rfl, rfl, a, s, hlead, ha, hs, hspace⟩ := reach_into hlabel hx hgap htaken hover
    obtain ⟨⟨ay, sy, rfl, hay, hsy, hspacey⟩, -, -⟩ := hy
    have hayNe : ay ≠ [] := by
      rintro rfl
      have := length_dokument hay
      simp at this
    refine no ⟨lead ++ early ++ ay, sy ++ ny ++ rest, []⟩ (label_mem.mpr ⟨hbehind, by simp, rfl,
      early ++ ay, ⟨⟨a, s, by simp [hlead], ha, hs, hspace⟩, by simp [hayNe], ?_⟩, ?_⟩)
    · intro c hc
      rcases List.mem_append.mp hc with hc | hc
      · exact hlabel.letters c (List.mem_append_left _ hc)
      · exact labelLetter_dokument hay c hc
    · have hlast : next u.word (early ++ ay).reverse = true := by
        rw [List.reverse_append, next_append (by simpa using hayNe)]
        exact next_all (by simpa using hayNe) fun c hc =>
          word_dokument hay c (List.mem_reverse.mp hc)
      have hfirst : next u.word (sy ++ ny ++ rest) = false := by
        rw [List.append_assoc, next_append hsy]
        exact next_none fun c hc => u.word_of_space c (hspacey c hc)
      rw [hlast, hfirst]
      decide

/-! ### The repair of one name -/

/-- The place of the first label: whatever label stands there is the first, but for hyphens at its end. -/
structure Spot (u : Unicode) (before label rest : List Char) : Prop where
  like : ∃ name, LabelLike u label name
  first : ∃ taken hyphens, label = taken ++ hyphens ∧ (∀ c ∈ hyphens, labelLetter u c = true)
    ∧ (run (translatedLabel u) before.reverse (label ++ rest)).head? = some ⟨taken, hyphens ++ rest, []⟩
  none_before : ∀ pre post, before = pre ++ post → post ≠ [] →
    run (translatedLabel u) pre.reverse (post ++ (label ++ rest)) = []

theorem Spot.search_eq {before label rest : List Char} (h : Spot u before label rest) :
    ∃ taken hyphens, label = taken ++ hyphens ∧ (∀ c ∈ hyphens, labelLetter u c = true)
      ∧ search (translatedLabel u) [] (before ++ (label ++ rest))
        = some ⟨before.reverse, taken, hyphens ++ rest, []⟩ := by
  obtain ⟨taken, hyphens, hlabel, hletters, hhead⟩ := h.first
  refine ⟨taken, hyphens, hlabel, hletters, ?_⟩
  rw [search_skip (r := translatedLabel u) (fun pre post heq hne => by
    simpa using h.none_before pre post heq hne), List.append_nil]
  exact search_here hhead

/-- The first label of a text is in its place. -/
theorem spot_of_search {text : List Char} {found : Found Char}
    (h : search (translatedLabel u) [] text = some found) :
    text = found.behind.reverse ++ (found.hit.taken ++ found.hit.rest)
      ∧ Spot u found.behind.reverse found.hit.taken found.hit.rest ∧ Quiet u found.hit.rest := by
  obtain ⟨skipped, hbehind, htext, hhead⟩ := search_some h
  obtain ⟨hedge, -, hgroups, name, hlabel, -⟩ := label_mem.mp (List.mem_of_mem_head? hhead)
  rw [List.append_nil] at hbehind
  refine ⟨by simp [htext, hbehind], ⟨⟨name, hlabel⟩, ⟨found.hit.taken, [], by simp, ?_, ?_⟩, ?_⟩, ?_⟩
  · intro c hc
    cases hc
  · rw [List.reverse_reverse, hhead, List.nil_append]
    congr 1
    ext1
    · rfl
    · rfl
    · exact hgroups
  · intro pre post heq hne
    have hnone := search_before h pre post (by
      rw [List.append_nil, ← List.reverse_append, ← heq, List.reverse_reverse]) hne
    rwa [List.append_nil] at hnone
  · exact quiet_of_first hhead

theorem next_behind_of_head {behind ahead : List Char} {hit : Hit Char}
    (h : (run (translatedLabel u) behind ahead).head? = some hit) : next u.word behind = false :=
  (label_mem.mp (List.mem_of_mem_head? h)).1

/-- Another label with a letter in its name may stand in the place. -/
theorem Spot.replace {before label rest label' name' : List Char} (h : Spot u before label rest)
    (hrest : Quiet u rest) (hlabel : LabelLike u label' name') (hword : ∃ c ∈ name', u.word c = true) :
    Spot u before label' rest := by
  obtain ⟨name, hlike⟩ := h.like
  obtain ⟨taken, hyphens, -, -, hhead⟩ := h.first
  refine ⟨⟨name', hlabel⟩, first_of_label hlabel hword (next_behind_of_head hhead) hrest, ?_⟩
  intro pre post heq hne
  exact none_before_label hlabel hlike hne (h.none_before pre post heq hne)

/-- The letters of a document's name. -/
def EntityLike (u : Unicode) (entity : List Char) : Prop :=
  (∃ c letters, entity = c :: letters ∧ u.word c = true) ∧ ∀ c ∈ entity, nameLetter c = true ∨ c = '-'

theorem labelLetter_entity {c : Char} (h : nameLetter c = true ∨ c = '-') : labelLetter u c = true := by
  rcases h with h | rfl
  · exact labelLetter_of_word (u.word_name c h)
  · simp [labelLetter]

/-- The label that is put in. -/
def newLabel (entity : List Char) : List Char := dokument ++ ' ' :: entity

theorem forall₂_alike (letters : List Char) :
    List.Forall₂ (fun c letter => u.alike c letter = true) letters letters := by
  induction letters with
  | nil => exact .nil
  | cons c letters ih => exact .cons (u.alike_refl c) ih

theorem newLabel_like {entity hyphens : List Char} (h : EntityLike u entity)
    (hhyphens : ∀ c ∈ hyphens, labelLetter u c = true) :
    LabelLike u (newLabel entity ++ hyphens) (entity ++ hyphens)
      ∧ ∃ c ∈ entity ++ hyphens, u.word c = true := by
  obtain ⟨⟨c, letters, rfl, hc⟩, hall⟩ := h
  refine ⟨⟨⟨dokument, [' '], by simp [newLabel], forall₂_alike dokument, by simp, ?_⟩, by simp, ?_⟩,
    c, by simp, hc⟩
  · intro d hd
    rw [List.mem_singleton.mp hd]
    exact u.space_blank
  · intro d hd
    rcases List.mem_append.mp hd with hd | hd
    · exact labelLetter_entity (hall d hd)
    · exact hhyphens d hd

/-- A repair leaves the first label as it is, or puts the new one in its place. -/
theorem preserveDocument_spot {before label rest : List Char} (h : Spot u before label rest)
    (hrest : Quiet u rest) {sourceMatch : Found Char}
    (hentity : EntityLike u (sourceMatch.hit.group "entity")) :
    ∃ label', Spot u before label' rest
      ∧ preserveDocument u (before ++ (label ++ rest)) sourceMatch = before ++ (label' ++ rest) := by
  unfold preserveDocument
  dsimp only
  split
  · exact ⟨label, h, rfl⟩
  · obtain ⟨taken, hyphens, -, hletters, hsearch⟩ := h.search_eq
    obtain ⟨hlike, hword⟩ := newLabel_like hentity hletters
    refine ⟨_, h.replace hrest hlike hword, ?_⟩
    simp [substituteFirst, hsearch, newLabel]

theorem foldl_spot {before rest : List Char} (hrest : Quiet u rest) {matches' : List (Found Char)}
    (hentities : ∀ found ∈ matches', EntityLike u (found.hit.group "entity")) {label : List Char}
    (h : Spot u before label rest) :
    ∃ label', Spot u before label' rest
      ∧ matches'.foldl (preserveDocument u) (before ++ (label ++ rest)) = before ++ (label' ++ rest) := by
  induction matches' generalizing label with
  | nil => exact ⟨label, h, rfl⟩
  | cons found matches' ih =>
    obtain ⟨label', hspot, heq⟩ := preserveDocument_spot h hrest (hentities found (List.mem_cons_self ..))
    rw [List.foldl_cons, heq]
    exact ih (fun f hf => hentities f (List.mem_cons_of_mem found hf)) hspot

/-- The matches of the pattern for documents name them with letters, digits and hyphens. -/
theorem entity_like {source : List Char} {found : Found Char}
    (h : found ∈ finditer (enDocumentEntityRe u) source) : EntityLike u (found.hit.group "entity") := by
  have hmem := mem_finditer h
  simp only [enDocumentEntityRe, inOrder] at hmem
  obtain ⟨_, hbound, _, h₁, hfound⟩ := mem_run_seq.mp hmem
  obtain ⟨-, rfl⟩ := mem_run_bound.mp hbound
  obtain ⟨word, hword, _, h₂, rfl⟩ := mem_run_seq.mp h₁
  obtain ⟨blanks, hblanks, _, h₃, rfl⟩ := mem_run_seq.mp h₂
  obtain ⟨_, hgroup, _, h₄, rfl⟩ := mem_run_seq.mp h₃
  obtain ⟨-, rfl⟩ := mem_run_bound.mp h₄
  obtain ⟨entity, hentity, rfl⟩ := mem_run_group.mp hgroup
  obtain ⟨_, hfirst, letters, hletters, rfl⟩ := mem_run_seq.mp hentity
  obtain ⟨c, _, -, hc, rfl⟩ := mem_run_one.mp hfirst
  obtain ⟨hletters, -, -⟩ := mem_run_many.mp hletters
  obtain ⟨-, -, hgroups₁⟩ := mem_run_text.mp hword
  obtain ⟨-, -, -, hgroups₂⟩ := mem_run_plus.mp hblanks
  have hvalue : found.hit.group "entity" = c :: letters.taken := by
    rw [hfound]
    simp [Hit.group, hgroups₁, hgroups₂]
  have hname : nameLetter c = true := by simp [nameLetter, hc]
  rw [hvalue]
  refine ⟨⟨c, _, rfl, u.word_name c hname⟩, ?_⟩
  intro d hd
  rcases List.mem_cons.mp hd with rfl | hd
  · exact .inl hname
  · simpa using hletters d hd

/-! ### Labels that name a document -/

/-- The label names the document, case ignored as the repair does when it looks for labels that are
    right. -/
def Reads (u : Unicode) (entity label : List Char) : Prop :=
  ((run (inOrder [text u.alike dokument, plus u.space, text u.alike entity]) [] label).any
    fun hit => hit.rest.isEmpty) = true

instance (u : Unicode) (entity label : List Char) : Decidable (Reads u entity label) :=
  inferInstanceAs (Decidable (_ = true))

theorem reads_iff {entity label : List Char} : Reads u entity label ↔ ∃ name, LabelOf u label name
    ∧ List.Forall₂ (fun c letter => u.alike c letter = true) name entity := by
  rw [Reads, List.any_eq_true]
  simp only [inOrder]
  constructor
  · rintro ⟨hit, hmem, hempty⟩
    obtain ⟨word, hword, _, h₁, rfl⟩ := mem_run_seq.mp hmem
    obtain ⟨blanks, hblanks, name, h₂, rfl⟩ := mem_run_seq.mp h₁
    obtain ⟨hword, hlabel, -⟩ := mem_run_text.mp hword
    obtain ⟨hne, hspace, hrest₁, -⟩ := mem_run_plus.mp hblanks
    obtain ⟨hname, hrest₂, -⟩ := mem_run_text.mp h₂
    have hnil : name.rest = [] := List.isEmpty_iff.mp hempty
    refine ⟨name.taken, ⟨word.taken, blanks.taken, ?_, hword, hne, hspace⟩, hname⟩
    rw [← hlabel, ← hrest₁, ← hrest₂, hnil, List.append_nil]
  · rintro ⟨name, ⟨a, s, rfl, ha, hs, hspace⟩, hname⟩
    refine ⟨⟨a ++ (s ++ name), [], []⟩, ?_, rfl⟩
    refine mem_run_seq.mpr ⟨⟨a, s ++ name, []⟩, mem_run_text.mpr ⟨ha, rfl, rfl⟩,
      ⟨s ++ name, [], []⟩, ?_, rfl⟩
    exact mem_run_seq.mpr ⟨⟨s, name, []⟩, mem_run_plus.mpr ⟨hs, hspace, rfl, rfl⟩,
      ⟨name, [], []⟩, mem_run_text.mpr ⟨hname, List.append_nil _, rfl⟩, rfl⟩

/-- A label that names a document is one as the pattern for labels takes them. -/
theorem like_of_reads {entity label : List Char} (hentity : EntityLike u entity)
    (h : Reads u entity label) : ∃ name, LabelLike u label name
      ∧ List.Forall₂ (fun c letter => u.alike c letter = true) name entity := by
  obtain ⟨name, hlabel, hname⟩ := reads_iff.mp h
  obtain ⟨⟨c, letters, rfl, -⟩, hall⟩ := hentity
  have hletters : ∀ {name letters : List Char},
      List.Forall₂ (fun c letter => u.alike c letter = true) name letters →
      (∀ c ∈ letters, nameLetter c = true ∨ c = '-') → ∀ c ∈ name, labelLetter u c = true := by
    intro name letters halike
    induction halike with
    | nil =>
      intro _ c hc
      cases hc
    | @cons d letter name letters hd _ ih =>
      intro hall c hc
      rcases List.mem_cons.mp hc with rfl | hc
      · rcases hall letter (List.mem_cons_self ..) with hletter | rfl
        · exact labelLetter_of_word (u.alike_name c letter hletter hd)
        · rw [u.alike_hyphen c hd]
          simp [labelLetter]
      · exact ih (fun e he => hall e (List.mem_cons_of_mem letter he)) c hc
  refine ⟨name, ⟨hlabel, ?_, hletters hname hall⟩, hname⟩
  rintro rfl
  cases hname

theorem reads_newLabel (entity : List Char) : Reads u entity (newLabel entity) := by
  refine reads_iff.mpr ⟨entity, ⟨dokument, [' '], rfl, forall₂_alike dokument, by simp, ?_⟩,
    forall₂_alike entity⟩
  intro c hc
  rw [List.mem_singleton.mp hc]
  exact u.space_blank

/-- A later label that names its document is found, whatever stands in the place of the first. -/
theorem correct_found {before label rest entity : List Char} {n : Nat} {behind : List Char}
    {found : Found Char} (hfound : found ∈ matchesFrom (translatedLabel u) n behind rest)
    (hrest : Quiet u rest) (hentity : EntityLike u entity) (h : Reads u entity found.hit.taken) :
    (search (correct u entity) [] (before ++ (label ++ rest))).isSome = true := by
  obtain ⟨skipped, hbehind, hplace⟩ := matchesFrom_place hfound
  obtain ⟨hedge, -, -, name, hlike, hend⟩ := label_mem.mp (mem_matches hfound)
  obtain ⟨name', hlike', hname⟩ := like_of_reads hentity h
  have hsame : name = name' := by
    obtain ⟨lead, -, -, heq⟩ := label_parts hlike hlike'
      (rfl : found.hit.taken ++ [] = found.hit.taken ++ [])
    simpa using heq
  subst hsame
  have hskipped : skipped ≠ [] := by
    rintro rfl
    have hnext := quiet_next hrest
    rw [hplace, List.nil_append, hlike.label.next_word] at hnext
    cases hnext
  have hnext : next u.word ((before ++ (label ++ skipped)).reverse ++ []) = false := by
    rw [hbehind, next_append (by simpa using hskipped)] at hedge
    rw [List.append_nil, List.reverse_append, List.reverse_append, List.append_assoc,
      next_append (by simpa using hskipped)]
    exact hedge
  obtain ⟨⟨a, s, htaken, ha, hs, hspace⟩, hne, -⟩ := hlike
  have htext : before ++ (label ++ rest)
      = (before ++ (label ++ skipped)) ++ (found.hit.taken ++ found.hit.rest) := by
    rw [hplace]
    simp
  rw [htext]
  have hhit : ⟨found.hit.taken, found.hit.rest, []⟩ ∈ run (correct u entity)
      ((before ++ (label ++ skipped)).reverse ++ []) (found.hit.taken ++ found.hit.rest) := ?_
  · exact search_isSome hhit
  simp only [correct, inOrder]
  refine mem_run_seq.mpr ⟨⟨[], _, []⟩, mem_run_bound.mpr ⟨?_, rfl⟩,
    ⟨found.hit.taken, found.hit.rest, []⟩, ?_, rfl⟩
  · rw [hnext, hlike'.label.next_word]
    exact Bool.false_ne_true
  · rw [htaken]
    refine mem_run_seq.mpr ⟨⟨a, s ++ name ++ found.hit.rest, []⟩,
      mem_run_text.mpr ⟨ha, by simp, rfl⟩, ⟨s ++ name, found.hit.rest, []⟩, ?_, by simp⟩
    refine mem_run_seq.mpr ⟨⟨s, name ++ found.hit.rest, []⟩,
      mem_run_plus.mpr ⟨hs, hspace, by simp, rfl⟩, ⟨name, found.hit.rest, []⟩, ?_, by simp⟩
    refine mem_run_seq.mpr ⟨⟨name, found.hit.rest, []⟩, mem_run_text.mpr ⟨hname, rfl, rfl⟩,
      ⟨[], found.hit.rest, []⟩, mem_run_bound.mpr ⟨?_, rfl⟩, by simp⟩
    rwa [next_append (by simpa using hne)]

/-- The documents the source names. -/
def entities (u : Unicode) (source : List Char) : List (List Char) :=
  (finditer (enDocumentEntityRe u) source).map fun found => found.hit.group "entity"

/-- The labels of a translation. -/
def labels (u : Unicode) (translated : List Char) : List (List Char) :=
  (finditer (translatedLabel u) translated).map fun found => found.hit.taken

/-- The text is the translation with its labels replaced, the label of each document by one that names
    it. -/
def Rendered (u : Unicode) (source translated text : List Char) : Prop :=
  ∃ news, List.Forall₂ (Reads u) (entities u source) news
    ∧ text = replaceEach (translatedLabel u) translated news

/-- Each label but the first names its document; the first does, or nothing in the translation is taken
    for a label that does. -/
def Named (u : Unicode) (translated : List Char) : List (List Char) → List (List Char) → Prop
  | entity :: entities, label :: labels =>
    List.Forall₂ (Reads u) entities labels
      ∧ (Reads u entity label ∨ search (correct u entity) [] translated = none)
  | _, _ => True

/-- What it takes for a text with something in the place of the first label to be right. -/
theorem rendered_iff {source translated label : List Char} {found : Found Char}
    {founds : List (Found Char)} {entity : List Char} {entities' : List (List Char)}
    (hfounds : finditer (translatedLabel u) translated = found :: founds)
    (hentities : entities u source = entity :: entities') (hlen : entities'.length = founds.length)
    (hlike : ∀ e ∈ entity :: entities', EntityLike u e) (hlabel : ∃ name, LabelLike u label name) :
    Rendered u source translated (found.behind.reverse ++ (label ++ found.hit.rest))
      ↔ Reads u entity label
        ∧ List.Forall₂ (Reads u) entities' (founds.map fun found => found.hit.taken) := by
  cases hn : translated.length with
  | zero => simp [finditer, hn, matchesFrom] at hfounds
  | succ n =>
    simp only [finditer, hn, matchesFrom] at hfounds
    split at hfounds
    · cases hfounds
    · next first hsearch =>
      obtain ⟨rfl, rfl⟩ := List.cons.inj hfounds
      obtain ⟨skipped, hbehind, htranslated, -⟩ := search_some hsearch
      have hself := replaceFrom_self (r := translatedLabel u) n
        (first.hit.taken.reverse ++ first.behind) first.hit.rest
      have hreplace : ∀ new news, replaceEach (translatedLabel u) translated (new :: news)
          = first.behind.reverse ++ (new ++ replaceFrom (translatedLabel u) n
            (first.hit.taken.reverse ++ first.behind) first.hit.rest news) := by
        intro new news
        simp only [replaceEach, hn, replaceFrom, hsearch]
        rw [hbehind, htranslated]
        simp
      have likes : ∀ {es ls : List (List Char)}, (∀ e ∈ es, EntityLike u e) →
          List.Forall₂ (Reads u) es ls → ∀ l ∈ ls, ∃ name, LabelLike u l name := by
        intro es ls hes hreads
        induction hreads with
        | nil =>
          intro l hl
          cases hl
        | @cons e l es ls he _ ih =>
          intro l' hl'
          rcases List.mem_cons.mp hl' with rfl | hl'
          · obtain ⟨name, hname, -⟩ := like_of_reads (hes e (List.mem_cons_self ..)) he
            exact ⟨name, hname⟩
          · exact ih (fun e' he' => hes e' (List.mem_cons_of_mem e he')) l' hl'
      constructor
      · rintro ⟨news, hreads, heq⟩
        rw [hentities] at hreads
        have hnews := likes hlike hreads
        cases hreads with
        | @cons _ new _ news hnew hreads =>
          rw [hreplace] at heq
          have heq := List.append_cancel_left heq
          conv_lhs at heq => rw [← hself]
          have hlikes : ∀ l ∈ label :: (matchesFrom (translatedLabel u) n
              (first.hit.taken.reverse ++ first.behind) first.hit.rest).map fun f => f.hit.taken,
              ∃ name, LabelLike u l name := by
            intro l hl
            rcases List.mem_cons.mp hl with rfl | hl
            · exact hlabel
            · obtain ⟨f, hf, rfl⟩ := List.mem_map.mp hl
              obtain ⟨-, -, -, name, hname, -⟩ := label_mem.mp (mem_matches hf)
              exact ⟨name, hname⟩
          obtain ⟨rfl, rfl⟩ := replace_unique hlikes hnews
            (by rw [List.length_map, ← hlen, hreads.length_eq]) (by rw [List.length_map]) heq
          exact ⟨hnew, hreads⟩
      · rintro ⟨hfirst, hreads⟩
        refine ⟨label :: (matchesFrom (translatedLabel u) n
          (first.hit.taken.reverse ++ first.behind) first.hit.rest).map fun f => f.hit.taken, ?_, ?_⟩
        · rw [hentities]
          exact .cons hfirst hreads
        · rw [hreplace, hself]

theorem isSome_eq_false {α : Type} {a : Option α} (h : ¬a.isSome = true) : a = none := by
  cases a with
  | none => rfl
  | some a => exact absurd rfl h

/-- Labels that are found leave the text. -/
theorem foldl_found {text : List Char} : ∀ {matches' : List (Found Char)},
    (∀ found ∈ matches', (search (correct u (found.hit.group "entity")) [] text).isSome = true) →
    matches'.foldl (preserveDocument u) text = text
  | [], _ => rfl
  | found :: matches', h => by
    have hsame : preserveDocument u text found = text := by
      unfold preserveDocument
      dsimp only
      rw [if_pos (h found (List.mem_cons_self ..))]
    rw [List.foldl_cons, hsame]
    exact foldl_found fun f hf => h f (List.mem_cons_of_mem found hf)

/-- A translation with one label for each document of the source comes out with each label naming its
    document and the rest as it was, exactly if each label but the first names its document already,
    and the first does or nothing in the translation is taken for a label that does. -/
theorem documents_named_iff (source translated : List Char)
    (hcount : (labels u translated).length = (entities u source).length) :
    Rendered u source translated (preserveNamedEntityRoles u source translated .en .ru)
      ↔ Named u translated (entities u source) (labels u translated) := by
  have hresult : preserveNamedEntityRoles u source translated .en .ru
      = (finditer (enDocumentEntityRe u) source).foldl (preserveDocument u) translated := rfl
  have hlikes : ∀ found ∈ finditer (enDocumentEntityRe u) source,
      EntityLike u (found.hit.group "entity") := fun found hfound => entity_like hfound
  cases hentities : finditer (enDocumentEntityRe u) source with
  | nil =>
    -- no document, and nothing to name
    have hnone : entities u source = [] := by rw [entities, hentities, List.map_nil]
    rw [hresult, hentities, hnone]
    refine iff_of_true ⟨[], by rw [hnone]; exact .nil, ?_⟩ trivial
    cases hn : translated.length <;> simp [replaceEach, replaceFrom, hn]
  | cons first others =>
    rw [hentities] at hresult hlikes
    have hentity := hlikes first (List.mem_cons_self ..)
    have hothers := fun found hfound => hlikes found (List.mem_cons_of_mem first hfound)
    have hnames : entities u source
        = first.hit.group "entity" :: others.map fun found => found.hit.group "entity" := by
      rw [entities, hentities, List.map_cons]
    cases hlabels : finditer (translatedLabel u) translated with
    | nil => simp [labels, entities, hlabels, hentities] at hcount
    | cons found founds =>
      have hlen : others.length = founds.length := by
        simpa [labels, entities, hlabels, hentities] using hcount.symm
      have hsearch : search (translatedLabel u) [] translated = some found
          ∧ ∃ n behind, founds = matchesFrom (translatedLabel u) n behind found.hit.rest := by
        cases hn : translated.length with
        | zero => simp [finditer, hn, matchesFrom] at hlabels
        | succ n =>
          simp only [finditer, hn, matchesFrom] at hlabels
          split at hlabels
          · cases hlabels
          · next first' hsearch =>
            obtain ⟨rfl, rfl⟩ := List.cons.inj hlabels
            exact ⟨hsearch, n, _, rfl⟩
      obtain ⟨hsearch, n, behind, hfounds⟩ := hsearch
      obtain ⟨htranslated, hspot, hquiet⟩ := spot_of_search hsearch
      have hall : ∀ e ∈ first.hit.group "entity" :: others.map fun found => found.hit.group "entity",
          EntityLike u e := by
        intro e he
        rcases List.mem_cons.mp he with rfl | he
        · exact hentity
        · obtain ⟨f, hf, rfl⟩ := List.mem_map.mp he
          exact hothers f hf
      -- the first repair, and what the others make of it
      obtain ⟨label, hspot', hrepaired⟩ := preserveDocument_spot hspot hquiet hentity
      obtain ⟨last, hspot'', hlast⟩ := foldl_spot hquiet hothers hspot'
      have hout : preserveNamedEntityRoles u source translated .en .ru
          = found.behind.reverse ++ (last ++ found.hit.rest) := by
        rw [hresult, List.foldl_cons, htranslated, hrepaired, hlast]
      rw [hout, hnames, labels, hlabels, List.map_cons,
        rendered_iff hlabels hnames (by simpa using hlen) hall hspot''.like]
      have hsettled : List.Forall₂ (Reads u) (others.map fun found => found.hit.group "entity")
          (founds.map fun found => found.hit.taken) → last = label := by
        intro hreads
        have hfound : ∀ other ∈ others, (search (correct u (other.hit.group "entity")) []
            (found.behind.reverse ++ (label ++ found.hit.rest))).isSome = true := by
          intro other hother
          obtain ⟨i, hi, rfl⟩ := List.getElem_of_mem hother
          have hpair := (List.forall₂_iff_get.mp hreads).2 i (by simpa using hi)
            (by simpa [← hlen] using hi)
          simp only [List.get_eq_getElem, List.getElem_map] at hpair
          have hmem : founds.get ⟨i, by omega⟩ ∈ matchesFrom (translatedLabel u) n behind found.hit.rest := by
            rw [← hfounds]
            exact List.getElem_mem _
          exact correct_found hmem hquiet (hothers _ hother) hpair
        rw [foldl_found hfound] at hlast
        exact (List.append_cancel_right (List.append_cancel_left hlast)).symm
      have hlabel : (search (correct u (first.hit.group "entity")) [] translated).isSome = true
            ∧ label = found.hit.taken
          ∨ search (correct u (first.hit.group "entity")) [] translated = none
            ∧ label = newLabel (first.hit.group "entity") := by
        rw [← htranslated] at hrepaired
        unfold preserveDocument at hrepaired
        dsimp only at hrepaired
        split at hrepaired
        · next hcorrect =>
          rw [htranslated] at hrepaired
          exact .inl ⟨hcorrect, (List.append_cancel_right (List.append_cancel_left hrepaired)).symm⟩
        · next hcorrect =>
          refine .inr ⟨isSome_eq_false hcorrect, ?_⟩
          rw [substituteFirst, hsearch] at hrepaired
          simp only [List.append_assoc] at hrepaired
          have hrepaired := List.append_cancel_left hrepaired
          have hput : newLabel (first.hit.group "entity") ++ found.hit.rest = label ++ found.hit.rest := by
            simpa [newLabel] using hrepaired
          exact (List.append_cancel_right hput).symm
      simp only [Named]
      constructor
      · rintro ⟨hfirst, hreads⟩
        refine ⟨hreads, ?_⟩
        rw [hsettled hreads] at hfirst
        rcases hlabel with ⟨-, rfl⟩ | ⟨hnone, -⟩
        · exact .inl hfirst
        · exact .inr hnone
      · rintro ⟨hreads, hfirst⟩
        refine ⟨?_, hreads⟩
        rw [hsettled hreads]
        rcases hlabel with ⟨hcorrect, rfl⟩ | ⟨-, rfl⟩
        · rcases hfirst with hfirst | hnone
          · exact hfirst
          · rw [hnone] at hcorrect
            cases hcorrect
        · exact reads_newLabel _

/-- One document, and a label with its name in Russian. -/
theorem documents_named_hotel :
    Rendered .basic "open document Hotel".toList "откройте документ отель".toList
      (preserveNamedEntityRoles .basic "open document Hotel".toList "откройте документ отель".toList
        .en .ru) := by
  have hnames : entities .basic "open document Hotel".toList = ["Hotel".toList] := by decide +kernel
  have hlabels : labels .basic "откройте документ отель".toList = ["документ отель".toList] := by
    decide +kernel
  refine (documents_named_iff _ _ (by rw [hnames, hlabels]; rfl)).mpr ?_
  rw [hnames, hlabels]
  exact ⟨.nil, .inr (by decide +kernel)⟩

/-- Two documents: the second takes the label of the first, and its own stays as it was. -/
theorem documents_overwritten :
    entities .basic "document Alpha and document Beta".toList = ["Alpha".toList, "Beta".toList]
      ∧ labels .basic "документ Альфа и документ Бета".toList
        = ["документ Альфа".toList, "документ Бета".toList]
      ∧ preserveNamedEntityRoles .basic "document Alpha and document Beta".toList
          "документ Альфа и документ Бета".toList .en .ru
        = "документ Beta и документ Бета".toList
      ∧ ¬Rendered .basic "document Alpha and document Beta".toList
          "документ Альфа и документ Бета".toList
          (preserveNamedEntityRoles .basic "document Alpha and document Beta".toList
            "документ Альфа и документ Бета".toList .en .ru) := by
  have hnames : entities .basic "document Alpha and document Beta".toList
      = ["Alpha".toList, "Beta".toList] := by decide +kernel
  have hfounds : finditer (translatedLabel .basic) "документ Альфа и документ Бета".toList
      = [⟨[], "документ Альфа".toList, " и документ Бета".toList, []⟩,
        ⟨"документ Альфа и ".toList.reverse, "документ Бета".toList, [], []⟩] := by decide +kernel
  have hresult : preserveNamedEntityRoles .basic "document Alpha and document Beta".toList
      "документ Альфа и документ Бета".toList .en .ru = "документ Beta и документ Бета".toList := by
    decide +kernel
  have hlikes : ∀ e ∈ ["Alpha".toList, "Beta".toList], EntityLike .basic e := by
    intro e he
    rw [← hnames] at he
    obtain ⟨found, hfound, rfl⟩ := List.mem_map.mp he
    exact entity_like hfound
  have hlike : ∃ name, LabelLike .basic "документ Beta".toList name := by
    obtain ⟨name, hname, -⟩ := like_of_reads
      (hlikes "Beta".toList (List.mem_cons_of_mem _ (List.mem_singleton_self _)))
      (show Reads .basic "Beta".toList "документ Beta".toList by decide +kernel)
    exact ⟨name, hname⟩
  refine ⟨hnames, by rw [labels, hfounds]; rfl, hresult, ?_⟩
  have htext : "документ Beta и документ Бета".toList
      = [].reverse ++ ("документ Beta".toList ++ " и документ Бета".toList) := by
    decide +kernel
  rw [hresult, htext]
  have hiff := rendered_iff hfounds hnames rfl hlikes hlike
  intro hrendered
  have hfirst := (hiff.mp hrendered).1
  revert hfirst
  decide +kernel

end Translator.Local
