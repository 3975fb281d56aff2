import Mathlib.Data.List.Basic

/-! How long something has been going on: the end of a list all of whose elements have a property, and
    the longest such end. -/

namespace Translator.Schemes

variable {α : Type*} {P : α → Prop} {m n : Nat} {l : List α} {a : α}

/-- The last `n` elements have the property. -/
def Trailing (P : α → Prop) (n : Nat) (l : List α) : Prop :=
  ∃ older recent, l = older ++ recent ∧ recent.length = n ∧ ∀ a ∈ recent, P a

/-- The last `n` elements have the property, and the one before them has not. -/
def Streak (P : α → Prop) (n : Nat) (l : List α) : Prop :=
  ∃ older recent, l = older ++ recent ∧ recent.length = n ∧ (∀ a ∈ recent, P a)
    ∧ ∀ last, older.getLast? = some last → ¬ P last

theorem trailing_zero (P : α → Prop) (l : List α) : Trailing P 0 l :=
  ⟨l, [], by simp, rfl, by simp⟩

theorem trailing_concat (h : Trailing P n l) (ha : P a) : Trailing P (n + 1) (l ++ [a]) := by
  obtain ⟨older, recent, rfl, rfl, hall⟩ := h
  refine ⟨older, recent ++ [a], by simp, by simp, fun b hb => ?_⟩
  rcases List.mem_append.mp hb with hold | hnew
  · exact hall b hold
  · rw [List.mem_singleton.mp hnew]
    exact ha

theorem trailing_mono (h : Trailing P n l) (hmn : m ≤ n) : Trailing P m l := by
  obtain ⟨older, recent, rfl, rfl, hall⟩ := h
  refine ⟨older ++ recent.take (recent.length - m), recent.drop (recent.length - m), ?_, ?_, ?_⟩
  · rw [List.append_assoc, List.take_append_drop]
  · simp only [List.length_drop]
    omega
  · exact fun a ha => hall a (List.mem_of_mem_drop ha)

theorem streak_nil (P : α → Prop) : Streak P 0 [] := ⟨[], [], rfl, rfl, by simp, by simp⟩

theorem streak_concat (h : Streak P n l) (ha : P a) : Streak P (n + 1) (l ++ [a]) := by
  obtain ⟨older, recent, rfl, rfl, hall, hbefore⟩ := h
  refine ⟨older, recent ++ [a], by simp, by simp, fun b hb => ?_, hbefore⟩
  rcases List.mem_append.mp hb with hold | hnew
  · exact hall b hold
  · rw [List.mem_singleton.mp hnew]
    exact ha

/-- An element without the property breaks the streak. -/
theorem streak_broken (l : List α) (ha : ¬ P a) : Streak P 0 (l ++ [a]) :=
  ⟨l ++ [a], [], by simp, rfl, by simp, by simp [ha]⟩

end Translator.Schemes
