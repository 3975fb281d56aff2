import Mathlib.Order.Lattice
import Mathlib.Data.List.Basic

/-! Ranks in a sorted list: how many are at most the one of a rank, and how few are at most anything
    below it. -/

namespace Translator.Schemes

variable {α : Type*} [LinearOrder α] {l : List α}

/-- The entry of a rank has more than its rank at most itself. -/
theorem rank_lt_count (h : l.Pairwise (· ≤ ·)) (k : Nat) (hk : k < l.length) :
    k < l.countP fun a => decide (a ≤ l.get ⟨k, hk⟩) := by
  induction l generalizing k with
  | nil => exact absurd hk (Nat.not_lt_zero k)
  | cons head tail ih =>
    obtain ⟨hhead, htail⟩ := List.pairwise_cons.mp h
    cases k with
    | zero =>
      exact List.countP_pos_iff.mpr ⟨head, List.mem_cons_self, decide_eq_true le_rfl⟩
    | succ k =>
      have hk' : k < tail.length := Nat.lt_of_succ_lt_succ hk
      have hfirst : head ≤ tail.get ⟨k, hk'⟩ := hhead _ (List.get_mem tail _)
      have hrest := ih htail k hk'
      change k + 1 < (head :: tail).countP fun a => decide (a ≤ tail.get ⟨k, hk'⟩)
      rw [List.countP_cons, if_pos (decide_eq_true hfirst)]
      exact Nat.succ_lt_succ hrest

/-- What is below the entry of a rank has no more than the rank at most itself. -/
theorem count_le_rank (h : l.Pairwise (· ≤ ·)) (k : Nat) (hk : k < l.length) {w : α}
    (hw : w < l.get ⟨k, hk⟩) : (l.countP fun a => decide (a ≤ w)) ≤ k := by
  induction l generalizing k with
  | nil => exact absurd hk (Nat.not_lt_zero k)
  | cons head tail ih =>
    obtain ⟨hhead, htail⟩ := List.pairwise_cons.mp h
    cases k with
    | zero =>
      have hnone : ∀ a ∈ head :: tail, ¬ decide (a ≤ w) = true := by
        intro a ha hle
        have habove : head ≤ a := by
          rcases List.mem_cons.mp ha with rfl | ha
          · exact le_rfl
          · exact hhead a ha
        exact absurd (of_decide_eq_true hle) (not_le.mpr (lt_of_lt_of_le hw habove))
      exact Nat.le_of_eq (List.countP_eq_zero.mpr hnone)
    | succ k =>
      have hk' : k < tail.length := Nat.lt_of_succ_lt_succ hk
      have hrest := ih htail k hk' hw
      rw [List.countP_cons]
      split <;> omega

end Translator.Schemes
