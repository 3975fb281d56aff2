import Mathlib.Data.List.Forall2

/-! Regular expressions that are tried in order: the first alternative before the second, and the longest
    run before a shorter one. `run` lists what a pattern can take from a place, in the order it is tried;
    a match is the first of the list. A place is what lies behind it, nearest letter first, and what
    lies ahead. -/

namespace Translator.Schemes

variable {α : Type*}

/-- Patterns over an alphabet. -/
inductive Regex (α : Type*) where
  | empty
  /-- One letter. -/
  | one (p : α → Bool)
  /-- As many letters as there are, or fewer. -/
  | many (p : α → Bool)
  | seq (first second : Regex α)
  | alt (first second : Regex α)
  | group (name : String) (inner : Regex α)
  /-- The letter behind is not of the kind. -/
  | notBehind (p : α → Bool)
  /-- The letter ahead is not of the kind. -/
  | notAhead (p : α → Bool)
  /-- The edge of a word. -/
  | bound (word : α → Bool)

/-- What a pattern took, and what it left. -/
@[ext] structure Hit (α : Type*) where
  taken : List α
  rest : List α
  groups : List (String × List α)
  deriving DecidableEq, Repr

/-- What a group of the pattern took. -/
def Hit.group (hit : Hit α) (name : String) : List α := (hit.groups.lookup name).getD []

namespace Regex

/-- Zero times or once. -/
def opt (r : Regex α) : Regex α := .alt r .empty

def plus (p : α → Bool) : Regex α := .seq (.one p) (.many p)

/-- The letters of a text, each as the comparison sees it. -/
def text (alike : α → α → Bool) : List α → Regex α
  | [] => .empty
  | letter :: letters => .seq (.one fun c => alike c letter) (text alike letters)

/-- The last pattern is tried where those before it stopped. -/
def inOrder : List (Regex α) → Regex α
  | [] => .empty
  | [r] => r
  | r :: rs => .seq r (inOrder rs)

/-- Whether the letter next to a place is of a kind. -/
def next (p : α → Bool) (side : List α) : Bool := side.head?.any p

/-- The runs of a kind of letter, the longest first. -/
def runs (p : α → Bool) : List α → List (Hit α)
  | [] => [⟨[], [], []⟩]
  | c :: rest =>
    if p c then (runs p rest).map (fun hit => { hit with taken := c :: hit.taken }) ++ [⟨[], c :: rest, []⟩]
    else [⟨[], c :: rest, []⟩]

def run : Regex α → List α → List α → List (Hit α)
  | .empty, _, ahead => [⟨[], ahead, []⟩]
  | .one _, _, [] => []
  | .one p, _, c :: rest => if p c then [⟨[c], rest, []⟩] else []
  | .many p, _, ahead => runs p ahead
  | .seq first second, behind, ahead =>
    (run first behind ahead).flatMap fun hit =>
      (run second (hit.taken.reverse ++ behind) hit.rest).map fun more =>
        ⟨hit.taken ++ more.taken, more.rest, hit.groups ++ more.groups⟩
  | .alt first second, behind, ahead => run first behind ahead ++ run second behind ahead
  | .group name inner, behind, ahead =>
    (run inner behind ahead).map fun hit => { hit with groups := (name, hit.taken) :: hit.groups }
  | .notBehind p, behind, ahead => if next p behind then [] else [⟨[], ahead, []⟩]
  | .notAhead p, _, ahead => if next p ahead then [] else [⟨[], ahead, []⟩]
  | .bound word, behind, ahead =>
    if next word behind = next word ahead then [] else [⟨[], ahead, []⟩]

theorem run_many_seq (p : α → Bool) (second : Regex α) (behind ahead : List α) :
    run (.seq (.many p) second) behind ahead = (runs p ahead).flatMap fun hit =>
      (run second (hit.taken.reverse ++ behind) hit.rest).map fun more =>
        ⟨hit.taken ++ more.taken, more.rest, hit.groups ++ more.groups⟩ := rfl

section Append

attribute [local simp] run

/-- A pattern takes from what lies ahead, and leaves the rest. -/
theorem run_append {r : Regex α} : ∀ {behind ahead : List α} {hit : Hit α},
    hit ∈ run r behind ahead → hit.taken ++ hit.rest = ahead := by
  induction r with
  | empty => intro behind ahead hit h; simp_all
  | one p =>
    intro behind ahead hit h
    cases ahead with
    | nil => simp at h
    | cons c rest =>
      simp only [run] at h
      split at h
      · simp_all
      · simp at h
  | many p =>
    intro behind ahead hit h
    simp only [run] at h
    induction ahead generalizing hit with
    | nil => simp_all [runs]
    | cons c rest ih =>
      simp only [runs] at h
      split at h
      · rcases List.mem_append.mp h with h | h
        · obtain ⟨hit', hmem, rfl⟩ := List.mem_map.mp h
          simp [ih hmem]
        · simp_all
      · simp_all
  | seq first second ih₁ ih₂ =>
    intro behind ahead hit h
    simp only [run, List.mem_flatMap, List.mem_map] at h
    obtain ⟨hit₁, h₁, hit₂, h₂, rfl⟩ := h
    rw [List.append_assoc, ih₂ h₂, ih₁ h₁]
  | alt first second ih₁ ih₂ =>
    intro behind ahead hit h
    rcases List.mem_append.mp h with h | h
    · exact ih₁ h
    · exact ih₂ h
  | group name inner ih =>
    intro behind ahead hit h
    simp only [run, List.mem_map] at h
    obtain ⟨hit', h', rfl⟩ := h
    have htaken := ih h'
    exact htaken
  | notBehind p | notAhead p | bound word =>
    intro behind ahead hit h
    simp only [run] at h
    split at h <;> simp_all

end Append

/-! ### What is taken -/

section Mem

variable {behind ahead : List α} {hit : Hit α}

@[simp] theorem mem_run_empty : hit ∈ run .empty behind ahead ↔ hit = ⟨[], ahead, []⟩ := by
  simp [run]

@[simp] theorem mem_run_one {p : α → Bool} :
    hit ∈ run (.one p) behind ahead ↔ ∃ c rest, ahead = c :: rest ∧ p c = true ∧ hit = ⟨[c], rest, []⟩ := by
  cases ahead with
  | nil => simp [run]
  | cons c rest =>
    by_cases hp : p c = true <;> simp [run, hp]

@[simp] theorem mem_run_seq {first second : Regex α} :
    hit ∈ run (.seq first second) behind ahead ↔ ∃ hit₁ ∈ run first behind ahead,
      ∃ hit₂ ∈ run second (hit₁.taken.reverse ++ behind) hit₁.rest,
        hit = ⟨hit₁.taken ++ hit₂.taken, hit₂.rest, hit₁.groups ++ hit₂.groups⟩ := by
  simp [run, eq_comm]

@[simp] theorem mem_run_alt {first second : Regex α} :
    hit ∈ run (.alt first second) behind ahead
      ↔ hit ∈ run first behind ahead ∨ hit ∈ run second behind ahead := by
  simp [run]

@[simp] theorem mem_run_group {name : String} {inner : Regex α} :
    hit ∈ run (.group name inner) behind ahead ↔ ∃ hit' ∈ run inner behind ahead,
      hit = { hit' with groups := (name, hit'.taken) :: hit'.groups } := by
  simp [run, eq_comm]

@[simp] theorem mem_run_notBehind {p : α → Bool} :
    hit ∈ run (.notBehind p) behind ahead ↔ next p behind = false ∧ hit = ⟨[], ahead, []⟩ := by
  by_cases h : next p behind = true <;> simp [run, h]

@[simp] theorem mem_run_notAhead {p : α → Bool} :
    hit ∈ run (.notAhead p) behind ahead ↔ next p ahead = false ∧ hit = ⟨[], ahead, []⟩ := by
  by_cases h : next p ahead = true <;> simp [run, h]

@[simp] theorem mem_run_bound {word : α → Bool} :
    hit ∈ run (.bound word) behind ahead
      ↔ next word behind ≠ next word ahead ∧ hit = ⟨[], ahead, []⟩ := by
  by_cases h : next word behind = next word ahead <;> simp [run, h]

theorem mem_run_opt {r : Regex α} :
    hit ∈ run (opt r) behind ahead ↔ hit ∈ run r behind ahead ∨ hit = ⟨[], ahead, []⟩ := by
  simp [opt]

/-- A text is taken letter by letter. -/
theorem mem_run_text {alike : α → α → Bool} {letters : List α} :
    hit ∈ run (text alike letters) behind ahead
      ↔ List.Forall₂ (fun c letter => alike c letter = true) hit.taken letters
        ∧ hit.taken ++ hit.rest = ahead ∧ hit.groups = [] := by
  induction letters generalizing behind ahead hit with
  | nil =>
    obtain ⟨taken, rest, groups⟩ := hit
    simp only [text, mem_run_empty, List.forall₂_nil_right_iff, Hit.mk.injEq]
    constructor
    · rintro ⟨rfl, rfl, rfl⟩
      simp
    · rintro ⟨rfl, rfl, rfl⟩
      simp
  | cons letter letters ih =>
    simp only [text, mem_run_seq, mem_run_one, ih]
    constructor
    · rintro ⟨_, ⟨c, rest, rfl, hc, rfl⟩, hit₂, ⟨htaken, rfl, hgroups⟩, rfl⟩
      exact ⟨.cons hc htaken, by simp, by simp [hgroups]⟩
    · rintro ⟨htaken, rfl, hgroups⟩
      obtain ⟨taken, rest, groups⟩ := hit
      obtain rfl : groups = [] := hgroups
      cases htaken with
      | @cons c _ l _ hc htaken =>
        exact ⟨⟨[c], l ++ rest, []⟩, ⟨c, l ++ rest, rfl, hc, rfl⟩, ⟨l, rest, []⟩, ⟨htaken, rfl, rfl⟩, rfl⟩

/-- A run may stop before the last letter of its kind. -/
theorem mem_runs {p : α → Bool} {ahead : List α} {hit : Hit α} :
    hit ∈ runs p ahead
      ↔ (∀ c ∈ hit.taken, p c = true) ∧ hit.taken ++ hit.rest = ahead ∧ hit.groups = [] := by
  induction ahead generalizing hit with
  | nil =>
    obtain ⟨taken, rest, groups⟩ := hit
    simp only [runs, List.mem_singleton, Hit.mk.injEq, List.append_eq_nil_iff]
    constructor
    · rintro ⟨rfl, rfl, rfl⟩
      simp
    · rintro ⟨-, ⟨rfl, rfl⟩, rfl⟩
      simp
  | cons c ahead ih =>
    obtain ⟨taken, rest, groups⟩ := hit
    have hstop : (⟨taken, rest, groups⟩ : Hit α) = ⟨[], c :: ahead, []⟩
        ↔ taken = [] ∧ rest = c :: ahead ∧ groups = [] := by rw [Hit.mk.injEq]
    cases taken with
    | nil =>
      simp only [runs]
      split
      · rw [List.mem_append, List.mem_singleton, hstop]
        simp
      · rw [List.mem_singleton, hstop]
        simp
    | cons d taken =>
      have hmore : (⟨d :: taken, rest, groups⟩ : Hit α)
            ∈ ((runs p ahead).map fun hit => { hit with taken := c :: hit.taken })
          ↔ d = c ∧ (⟨taken, rest, groups⟩ : Hit α) ∈ runs p ahead := by
        simp only [List.mem_map, Hit.mk.injEq, List.cons.injEq]
        constructor
        · rintro ⟨⟨taken', rest', groups'⟩, hmem, ⟨rfl, rfl⟩, rfl, rfl⟩
          exact ⟨rfl, hmem⟩
        · rintro ⟨rfl, hmem⟩
          exact ⟨_, hmem, ⟨rfl, rfl⟩, rfl, rfl⟩
      simp only [runs]
      split
      · next hp =>
        rw [List.mem_append, List.mem_singleton, hstop, hmore, ih]
        simp only [List.mem_cons, List.cons_append, List.cons.injEq]
        constructor
        · rintro (⟨rfl, hall, rfl, rfl⟩ | ⟨hnil, -⟩)
          · refine ⟨?_, ⟨rfl, rfl⟩, rfl⟩
            rintro e (rfl | he)
            · exact hp
            · exact hall e he
          · cases hnil
        · rintro ⟨hall, ⟨rfl, rfl⟩, rfl⟩
          exact .inl ⟨rfl, fun e he => hall e (.inr he), rfl, rfl⟩
      · next hp =>
        rw [List.mem_singleton, hstop]
        constructor
        · rintro ⟨hnil, -⟩
          cases hnil
        · rintro ⟨hall, heq, -⟩
          obtain ⟨rfl, -⟩ := List.cons.inj heq
          exact absurd (hall _ (List.mem_cons_self ..)) hp

@[simp] theorem mem_run_many {p : α → Bool} :
    hit ∈ run (.many p) behind ahead
      ↔ (∀ c ∈ hit.taken, p c = true) ∧ hit.taken ++ hit.rest = ahead ∧ hit.groups = [] := mem_runs

theorem mem_run_plus {p : α → Bool} :
    hit ∈ run (plus p) behind ahead ↔ hit.taken ≠ [] ∧ (∀ c ∈ hit.taken, p c = true)
      ∧ hit.taken ++ hit.rest = ahead ∧ hit.groups = [] := by
  obtain ⟨taken, rest, groups⟩ := hit
  simp only [plus, mem_run_seq, mem_run_one, mem_run_many, Hit.mk.injEq]
  constructor
  · rintro ⟨_, ⟨c, _, rfl, hc, rfl⟩, ⟨more, rest', groups'⟩, ⟨hall, rfl, rfl⟩, rfl, rfl, rfl⟩
    refine ⟨by simp, ?_, rfl, rfl⟩
    intro d hd
    rcases List.mem_cons.mp hd with rfl | hd
    · exact hc
    · exact hall d hd
  · rintro ⟨hne, hall, rfl, rfl⟩
    cases taken with
    | nil => exact absurd rfl hne
    | cons c taken =>
      exact ⟨⟨[c], taken ++ rest, []⟩, ⟨c, _, rfl, hall c (List.mem_cons_self ..), rfl⟩,
        ⟨taken, rest, []⟩, ⟨fun d hd => hall d (List.mem_cons_of_mem c hd), rfl, rfl⟩, rfl, rfl, rfl⟩

end Mem

/-! ### The order of the hits -/

/-- What is tried first takes most. -/
def LongestFirst (hits : List (Hit α)) : Prop :=
  hits.Pairwise fun hit later => later.taken.length ≤ hit.taken.length

theorem longestFirst_head {hits : List (Hit α)} (h : LongestFirst hits) {hit : Hit α}
    (hhead : hits.head? = some hit) {other : Hit α} (hother : other ∈ hits) :
    other.taken.length ≤ hit.taken.length := by
  cases hits with
  | nil => cases hother
  | cons first hits =>
    obtain rfl := Option.some.inj hhead
    rcases List.mem_cons.mp hother with rfl | hother
    · exact Nat.le_refl _
    · exact List.rel_of_pairwise_cons h hother

theorem longestFirst_short {hits : List (Hit α)} (h : hits.length ≤ 1) : LongestFirst hits := by
  cases hits with
  | nil => exact List.Pairwise.nil
  | cons hit hits =>
    have hnil : hits = [] := List.eq_nil_of_length_eq_zero (by simpa using h)
    rw [hnil]
    exact List.pairwise_singleton _ _

theorem longestFirst_runs (p : α → Bool) (ahead : List α) : LongestFirst (runs p ahead) := by
  induction ahead with
  | nil => exact longestFirst_short (by simp [runs])
  | cons c ahead ih =>
    simp only [runs]
    split
    · refine List.pairwise_append.mpr ⟨?_, List.pairwise_singleton _ _, ?_⟩
      · refine List.pairwise_map.mpr (ih.imp ?_)
        intro hit later hle
        simpa using hle
      · intro hit _ last hlast
        rw [List.mem_singleton.mp hlast]
        exact Nat.zero_le _
    · exact longestFirst_short (by simp)

/-- After a pattern that takes one thing only, the order is that of the second. -/
theorem longestFirst_seq {first second : Regex α} {behind ahead : List α}
    (hone : (run first behind ahead).length ≤ 1)
    (h : ∀ hit ∈ run first behind ahead, LongestFirst (run second (hit.taken.reverse ++ behind) hit.rest)) :
    LongestFirst (run (.seq first second) behind ahead) := by
  simp only [run]
  cases hhits : run first behind ahead with
  | nil => exact List.Pairwise.nil
  | cons hit hits =>
    rw [hhits] at hone h
    have hnil : hits = [] := List.eq_nil_of_length_eq_zero (by simpa using hone)
    subst hnil
    rw [List.flatMap_singleton]
    refine List.pairwise_map.mpr ((h hit (List.mem_singleton_self hit)).imp ?_)
    intro more later hle
    simpa using hle

/-- A pattern that may follow a run or not leaves the order of the run. -/
theorem longestFirst_many_seq {p : α → Bool} {second : Regex α} {behind ahead : List α}
    (h : ∀ behind ahead, run second behind ahead = [] ∨ run second behind ahead = [⟨[], ahead, []⟩]) :
    LongestFirst (run (.seq (.many p) second) behind ahead) := by
  simp only [run]
  have hruns := longestFirst_runs p ahead
  generalize runs p ahead = hits at hruns
  induction hits with
  | nil => exact List.Pairwise.nil
  | cons hit hits ih =>
    rw [List.flatMap_cons]
    refine List.pairwise_append.mpr ⟨?_, ih hruns.of_cons, ?_⟩
    · rcases h (hit.taken.reverse ++ behind) hit.rest with hnone | hone
      · rw [hnone]
        exact List.Pairwise.nil
      · rw [hone]
        exact List.pairwise_singleton _ _
    · intro first hfirst later hlater
      obtain ⟨more, hmore, rfl⟩ := List.mem_map.mp hfirst
      obtain ⟨hit', hhit', hlater⟩ := List.mem_flatMap.mp hlater
      obtain ⟨more', hmore', rfl⟩ := List.mem_map.mp hlater
      have hempty : ∀ {behind ahead : List α} {more : Hit α}, more ∈ run second behind ahead →
          more.taken = [] := by
        intro behind ahead more hmem
        rcases h behind ahead with hnone | hone
        · rw [hnone] at hmem
          cases hmem
        · rw [hone] at hmem
          rw [List.mem_singleton.mp hmem]
      have hle := List.rel_of_pairwise_cons hruns hhit'
      simpa [hempty hmore, hempty hmore'] using hle

/-- A run before a pattern that cannot begin with a letter of its kind takes all of them. -/
theorem flatMap_runs {β : Type*} {p : α → Bool} {f : Hit α → List β}
    (h : ∀ hit, next p hit.rest = true → f hit = []) (ahead : List α) :
    (runs p ahead).flatMap f = f ⟨ahead.takeWhile p, ahead.dropWhile p, []⟩ := by
  induction ahead generalizing f with
  | nil => simp [runs]
  | cons c ahead ih =>
    simp only [runs]
    split
    · next hp =>
      rw [List.flatMap_append, List.flatMap_singleton, h ⟨[], c :: ahead, []⟩ (by simp [next, hp]),
        List.append_nil, List.flatMap_map]
      have hcons := ih (f := fun hit => f { hit with taken := c :: hit.taken }) fun hit hrest => h _ hrest
      rw [hcons]
      simp [hp]
    · next hp =>
      simp [hp]

theorem run_seq_assoc (first second third : Regex α) (behind ahead : List α) :
    run (.seq (.seq first second) third) behind ahead
      = run (.seq first (.seq second third)) behind ahead := by
  simp only [run, List.flatMap_assoc, List.flatMap_map, List.map_flatMap, List.map_map]
  refine List.flatMap_congr fun hit _ => List.flatMap_congr fun more _ => ?_
  simp [Function.comp_def, List.append_assoc]

theorem length_run_one (p : α → Bool) (behind ahead : List α) : (run (.one p) behind ahead).length ≤ 1 := by
  cases ahead with
  | nil => simp [run]
  | cons c ahead =>
    simp only [run]
    split <;> simp

theorem length_run_text (alike : α → α → Bool) (letters behind ahead : List α) :
    (run (text alike letters) behind ahead).length ≤ 1 := by
  induction letters generalizing behind ahead with
  | nil => simp [text, run]
  | cons letter letters ih =>
    cases ahead with
    | nil => simp [text, run]
    | cons c ahead =>
      simp only [text, run]
      split
      · simpa using ih _ _
      · simp

theorem run_bound_cases (word : α → Bool) (behind ahead : List α) :
    run (.bound word) behind ahead = [] ∨ run (.bound word) behind ahead = [⟨[], ahead, []⟩] := by
  simp only [run]
  split
  · exact .inl rfl
  · exact .inr rfl

/-! ### Searching -/

/-- Where a pattern was found. -/
@[ext] structure Found (α : Type*) where
  behind : List α
  hit : Hit α
  deriving DecidableEq, Repr

/-- `search`: the first place from which the pattern takes anything. -/
def search (r : Regex α) : List α → List α → Option (Found α)
  | behind, [] => (run r behind []).head?.map fun hit => ⟨behind, hit⟩
  | behind, c :: ahead =>
    match (run r behind (c :: ahead)).head? with
    | some hit => some ⟨behind, hit⟩
    | none => search r (c :: behind) ahead

/-- What is found is found ahead of the place the search began at. -/
theorem search_some {r : Regex α} : ∀ {ahead behind : List α} {found : Found α},
    search r behind ahead = some found → ∃ skipped,
      found.behind = skipped.reverse ++ behind ∧ ahead = skipped ++ found.hit.taken ++ found.hit.rest
        ∧ (run r found.behind (found.hit.taken ++ found.hit.rest)).head? = some found.hit
  | [], behind, found, h => by
    simp only [search, Option.map_eq_some_iff] at h
    obtain ⟨hit, hhead, rfl⟩ := h
    have happend := run_append (List.mem_of_mem_head? hhead)
    exact ⟨[], rfl, by simpa using happend.symm, by rw [happend]; exact hhead⟩
  | c :: ahead, behind, found, h => by
    simp only [search] at h
    split at h
    · next hit hhead =>
      cases h
      have happend := run_append (List.mem_of_mem_head? hhead)
      exact ⟨[], rfl, by simpa using happend.symm, by rw [happend]; exact hhead⟩
    · obtain ⟨skipped, hbehind, rfl, hhead⟩ := search_some h
      exact ⟨c :: skipped, by simp [hbehind], by simp, hhead⟩

/-- A search passes places where the pattern takes nothing. -/
theorem search_skip {r : Regex α} {skipped behind ahead : List α}
    (h : ∀ pre post, skipped = pre ++ post → post ≠ [] →
      run r (pre.reverse ++ behind) (post ++ ahead) = []) :
    search r behind (skipped ++ ahead) = search r (skipped.reverse ++ behind) ahead := by
  induction skipped generalizing behind with
  | nil => rfl
  | cons c skipped ih =>
    have hnone := h [] (c :: skipped) rfl (List.cons_ne_nil c skipped)
    simp only [List.reverse_nil, List.nil_append] at hnone
    rw [List.cons_append] at hnone ⊢
    rw [search, hnone, List.head?_nil]
    dsimp only
    rw [ih, List.reverse_cons, List.append_assoc, List.singleton_append]
    intro pre post heq hne
    have hlater := h (c :: pre) post (by rw [heq, List.cons_append]) hne
    rwa [List.reverse_cons, List.append_assoc] at hlater

theorem search_here {r : Regex α} {behind ahead : List α} {hit : Hit α}
    (h : (run r behind ahead).head? = some hit) : search r behind ahead = some ⟨behind, hit⟩ := by
  cases ahead with
  | nil => simp [search, h]
  | cons c ahead => simp [search, h]

/-- Before the place where it is found, the pattern takes nothing. -/
theorem search_before {r : Regex α} : ∀ {ahead behind : List α} {found : Found α},
    search r behind ahead = some found → ∀ pre post : List α, found.behind = post.reverse ++ (pre.reverse ++ behind) →
      post ≠ [] → run r (pre.reverse ++ behind) (post ++ (found.hit.taken ++ found.hit.rest)) = []
  | [], behind, found, h, pre, post, hbehind, hne => by
    simp only [search, Option.map_eq_some_iff] at h
    obtain ⟨hit, -, rfl⟩ := h
    have hlen := congrArg List.length hbehind
    have hpos := List.length_pos_of_ne_nil hne
    simp only [List.length_append, List.length_reverse] at hlen
    omega
  | c :: ahead, behind, found, h, pre, post, hbehind, hne => by
    simp only [search] at h
    split at h
    · next hit hhead =>
      cases h
      have hlen := congrArg List.length hbehind
      have hpos := List.length_pos_of_ne_nil hne
      simp only [List.length_append, List.length_reverse] at hlen
      omega
    · next hnone =>
      obtain ⟨skipped, hskipped, hahead, -⟩ := search_some h
      have heq : pre ++ post = c :: skipped := by
        have := hbehind.symm.trans hskipped
        have := congrArg List.reverse this
        simpa using this
      cases pre with
      | nil =>
        rw [List.nil_append] at heq
        subst heq
        rw [hahead] at hnone
        simpa using hnone
      | cons d pre =>
        obtain ⟨rfl, rfl⟩ := List.cons.inj heq
        have hlater := search_before h pre post (by simpa using hskipped) hne
        simpa using hlater

/-- What a pattern takes somewhere is found there, if not before. -/
theorem search_isSome {r : Regex α} {pre behind ahead : List α} {hit : Hit α}
    (h : hit ∈ run r (pre.reverse ++ behind) ahead) : (search r behind (pre ++ ahead)).isSome = true := by
  induction pre generalizing behind with
  | nil =>
    cases hhead : (run r behind ahead).head? with
    | none =>
      rw [List.head?_eq_none_iff] at hhead
      rw [List.reverse_nil, List.nil_append, hhead] at h
      cases h
    | some first =>
      rw [List.nil_append, search_here hhead]
      rfl
  | cons c pre ih =>
    rw [List.cons_append, search]
    split
    · rfl
    · exact ih (by simpa using h)

/-- The first `n` matches, each from where the one before it ended. -/
def matchesFrom (r : Regex α) : Nat → List α → List α → List (Found α)
  | 0, _, _ => []
  | n + 1, behind, ahead =>
    match search r behind ahead with
    | none => []
    | some found =>
      found :: matchesFrom r n (found.hit.taken.reverse ++ found.behind) found.hit.rest

/-- `finditer`, for a pattern that takes a letter at least: there are no more matches than letters. -/
def finditer (r : Regex α) (text : List α) : List (Found α) := matchesFrom r text.length [] text

/-- The text with its first `n` matches replaced, by one text after another. -/
def replaceFrom (r : Regex α) : Nat → List α → List α → List (List α) → List α
  | 0, _, ahead, _ => ahead
  | _, _, ahead, [] => ahead
  | n + 1, behind, ahead, new :: news =>
    match search r behind ahead with
    | none => ahead
    | some found =>
      ahead.take (found.behind.length - behind.length) ++ new
        ++ replaceFrom r n (found.hit.taken.reverse ++ found.behind) found.hit.rest news

/-- The text with its matches replaced, by one text after another. -/
def replaceEach (r : Regex α) (text : List α) (news : List (List α)) : List α :=
  replaceFrom r text.length [] text news

theorem mem_matches {r : Regex α} {found : Found α} : ∀ {n : Nat} {behind ahead : List α},
    found ∈ matchesFrom r n behind ahead →
      found.hit ∈ run r found.behind (found.hit.taken ++ found.hit.rest)
  | 0, _, _, h => by cases h
  | n + 1, behind, ahead, h => by
    simp only [matchesFrom] at h
    split at h
    · cases h
    · next first hsearch =>
      rcases List.mem_cons.mp h with rfl | h
      · obtain ⟨skipped, -, -, hhead⟩ := search_some hsearch
        exact List.mem_of_mem_head? hhead
      · exact mem_matches h

/-- A match lies ahead of where the matching began. -/
theorem matchesFrom_place {r : Regex α} {found : Found α} : ∀ {n : Nat} {behind ahead : List α},
    found ∈ matchesFrom r n behind ahead → ∃ skipped,
      found.behind = skipped.reverse ++ behind ∧ ahead = skipped ++ found.hit.taken ++ found.hit.rest
  | 0, _, _, h => by cases h
  | n + 1, behind, ahead, h => by
    simp only [matchesFrom] at h
    split at h
    · cases h
    · next first hsearch =>
      obtain ⟨skipped, hbehind, hahead, -⟩ := search_some hsearch
      rcases List.mem_cons.mp h with rfl | h
      · exact ⟨skipped, hbehind, hahead⟩
      · obtain ⟨more, hmore, hrest⟩ := matchesFrom_place h
        refine ⟨skipped ++ first.hit.taken ++ more, ?_, ?_⟩
        · simp [hmore, hbehind]
        · rw [hahead, hrest]
          simp

/-- Matches replaced by themselves. -/
theorem replaceFrom_self {r : Regex α} : ∀ (n : Nat) (behind ahead : List α),
    replaceFrom r n behind ahead ((matchesFrom r n behind ahead).map fun found => found.hit.taken) = ahead
  | 0, _, _ => rfl
  | n + 1, behind, ahead => by
    simp only [matchesFrom]
    cases hsearch : search r behind ahead with
    | none => rfl
    | some found =>
      obtain ⟨skipped, hbehind, hahead, -⟩ := search_some hsearch
      have hlen : found.behind.length - behind.length = skipped.length := by
        rw [hbehind]
        simp
      simp only [List.map_cons, replaceFrom, hsearch, replaceFrom_self n, hlen]
      rw [hahead]
      simp

theorem mem_finditer {r : Regex α} {text : List α} {found : Found α} (h : found ∈ finditer r text) :
    found.hit ∈ run r found.behind (found.hit.taken ++ found.hit.rest) :=
  mem_matches h

end Regex

end Translator.Schemes
