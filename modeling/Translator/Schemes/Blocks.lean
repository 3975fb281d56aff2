import Mathlib.Data.List.Basic

/-! Blocks cut out of a stream: contiguous, in order, and apart from each other; the pieces between the
    separators of a list; and pieces of one length put together. -/

namespace Translator.Schemes

variable {α : Type*}

/-- The blocks lie one after the other in the stream, each in one piece. -/
def Cuts : List (List α) → List α → Prop
  | [], _ => True
  | block :: blocks, stream => ∃ gap rest, stream = gap ++ block ++ rest ∧ Cuts blocks rest

/-- A longer stream keeps its blocks. -/
theorem cuts_append {blocks : List (List α)} {stream : List α} (h : Cuts blocks stream)
    (more : List α) : Cuts blocks (stream ++ more) := by
  induction blocks generalizing stream with
  | nil => trivial
  | cons block blocks ih =>
    obtain ⟨gap, rest, rfl, hrest⟩ := h
    exact ⟨gap, rest ++ more, by simp, ih hrest⟩

/-- What follows the blocks of a stream is one more block. -/
theorem cuts_concat {blocks : List (List α)} {stream : List α} (h : Cuts blocks stream)
    (block : List α) : Cuts (blocks ++ [block]) (stream ++ block) := by
  induction blocks generalizing stream with
  | nil => exact ⟨stream, [], by simp, trivial⟩
  | cons b blocks ih =>
    obtain ⟨gap, rest, rfl, hrest⟩ := h
    exact ⟨gap, rest ++ block, by simp, ih hrest⟩

/-! ### What lies between separators -/

section Separators

variable {p : α → Bool}

theorem pieces_eq {before past : List (List α)} {last run : List α} (h : before ++ [last] = past ++ [run]) :
    before = past ∧ last = run := by
  obtain ⟨hpast, hrun⟩ := List.append_inj' h rfl
  exact ⟨hpast, List.singleton_inj.mp hrun⟩

/-- The last piece of one list goes on with the first of the next. -/
theorem splitOnP_append {b first : List α} {rest : List (List α)} (hb : b.splitOnP p = first :: rest) :
    ∀ {a : List α} {past : List (List α)} {run : List α}, a.splitOnP p = past ++ [run] →
      (a ++ b).splitOnP p = past ++ (run ++ first) :: rest
  | [], past, run, ha => by
    obtain ⟨rfl, rfl⟩ := pieces_eq (show [] ++ [[]] = past ++ [run] from ha)
    exact hb
  | x :: a, past, run, ha => by
    obtain ⟨before, last, hlast⟩ : ∃ before last, a.splitOnP p = before ++ [last] := by
      rcases List.eq_nil_or_concat (a.splitOnP p) with hnil | ⟨before, last, h⟩
      · exact absurd hnil (List.splitOnP_ne_nil p a)
      · exact ⟨before, last, by rw [h, List.concat_eq_append]⟩
    have ih := splitOnP_append hb hlast
    rw [List.splitOnP_cons_eq_if_modifyHead, hlast] at ha
    rw [List.cons_append, List.splitOnP_cons_eq_if_modifyHead, ih]
    split at ha
    next hx =>
      obtain ⟨rfl, rfl⟩ := pieces_eq (show ([] :: before) ++ [last] = past ++ [run] from ha)
      rw [if_pos hx]
      rfl
    next hx =>
      rw [if_neg hx]
      cases before with
      | nil =>
        obtain ⟨rfl, rfl⟩ := pieces_eq (show [] ++ [x :: last] = past ++ [run] from ha)
        rfl
      | cons piece before =>
        obtain ⟨rfl, rfl⟩ := pieces_eq (show ((x :: piece) :: before) ++ [last] = past ++ [run] from ha)
        rfl

/-- There is nothing between separators that follow each other. -/
theorem splitOnP_all : ∀ {l : List α}, (∀ x ∈ l, p x = true) → l.splitOnP p = [] :: List.replicate l.length []
  | [], _ => by rw [List.splitOnP_nil]; rfl
  | x :: l, h => by
    rw [List.splitOnP_cons_eq_if_modifyHead, if_pos (h x (List.mem_cons_self ..)),
      splitOnP_all fun y hy => h y (List.mem_cons_of_mem x hy)]
    rfl

end Separators

/-! ### Pieces of one length -/

/-- What pieces of one length were put together from can be read back. -/
theorem map_eq_of_flatMap_eq {β γ : Type*} {piece : α → List β} {read : α → γ} {n : Nat} (hn : 0 < n) :
    ∀ {xs ys : List α}, (∀ x ∈ xs, (piece x).length = n) → (∀ y ∈ ys, (piece y).length = n) →
      (∀ x ∈ xs, ∀ y ∈ ys, piece x = piece y → read x = read y) →
      xs.flatMap piece = ys.flatMap piece → xs.map read = ys.map read
  | [], [], _, _, _, _ => rfl
  | [], y :: ys, _, hys, _, heq => by
    have hy := hys y (List.mem_cons_self ..)
    have hlen := congrArg List.length heq
    simp only [List.flatMap_nil, List.flatMap_cons, List.length_nil, List.length_append] at hlen
    omega
  | x :: xs, [], hxs, _, _, heq => by
    have hx := hxs x (List.mem_cons_self ..)
    have hlen := congrArg List.length heq
    simp only [List.flatMap_nil, List.flatMap_cons, List.length_nil, List.length_append] at hlen
    omega
  | x :: xs, y :: ys, hxs, hys, hread, heq => by
    rw [List.flatMap_cons, List.flatMap_cons] at heq
    have hlen : (piece x).length = (piece y).length := by
      rw [hxs x (List.mem_cons_self ..), hys y (List.mem_cons_self ..)]
    obtain ⟨hhead, htail⟩ := List.append_inj heq hlen
    have ih := map_eq_of_flatMap_eq hn (fun z hz => hxs z (List.mem_cons_of_mem x hz))
      (fun z hz => hys z (List.mem_cons_of_mem y hz))
      (fun u hu v hv => hread u (List.mem_cons_of_mem x hu) v (List.mem_cons_of_mem y hv)) htail
    rw [List.map_cons, List.map_cons, ih,
      hread x (List.mem_cons_self ..) y (List.mem_cons_self ..) hhead]

/-- Pieces of one length that differ for different values can be told apart in their concatenation. -/
theorem flatMap_injective {β : Type*} {piece : α → List β} {n : Nat} (hn : 0 < n)
    (hlen : ∀ x, (piece x).length = n) (hpiece : Function.Injective piece) :
    Function.Injective fun xs : List α => xs.flatMap piece := by
  intro xs ys heq
  have h := map_eq_of_flatMap_eq hn (fun x _ => hlen x) (fun y _ => hlen y)
    (fun x _ y _ h => hpiece h) heq
  rwa [List.map_id', List.map_id'] at h

end Translator.Schemes
