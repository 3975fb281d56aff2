import Translator.Latency.Policy
import Translator.Schemes.Ranks

/-! The `p95` that the latency policy decides by: the least value that 95 of a hundred samples do not
    exceed. -/

namespace Translator.Latency
open Schemes

/-- How many of some values are at most one. -/
def atMost (values : List Nat) (v : Nat) : Nat := values.countP fun value => decide (value ≤ v)

/-- The place of the `p95` among so many sorted values. -/
def nearestRankIndex (length : Nat) : Nat := (95 * length + 99) / 100 - 1

theorem nearestRankIndex_lt {length : Nat} (h : 0 < length) : nearestRankIndex length < length := by
  unfold nearestRankIndex
  omega

/-- The index and all before it are 95 percent, and what is before it is less. -/
theorem nearestRankIndex_rank {length : Nat} (h : 0 < length) :
    95 * length ≤ 100 * (nearestRankIndex length + 1)
      ∧ 100 * nearestRankIndex length < 95 * length := by
  unfold nearestRankIndex
  omega

/-- The `p95` of some values is the least of them that at least 95 percent do not exceed, and it is
    read within the bounds of the sorted values. -/
theorem nearestRankP95_least (values : List Nat) (h : values ≠ []) :
    nearestRankIndex values.length < (values.insertionSort (· ≤ ·)).length
      ∧ nearestRankP95 values ∈ values
      ∧ 95 * values.length ≤ 100 * atMost values (nearestRankP95 values)
      ∧ ∀ v ∈ values, 95 * values.length ≤ 100 * atMost values v → nearestRankP95 values ≤ v := by
  have hperm : (values.insertionSort (· ≤ ·)).Perm values := List.perm_insertionSort _ _
  have hsorted : (values.insertionSort (· ≤ ·)).Pairwise (· ≤ ·) := List.pairwise_insertionSort _ _
  have hpos : 0 < values.length := List.length_pos_iff.mpr h
  have hcount : ∀ v, atMost values v
      = (values.insertionSort (· ≤ ·)).countP fun value => decide (value ≤ v) :=
    fun v => (hperm.countP_eq _).symm
  have hindex : nearestRankIndex values.length < (values.insertionSort (· ≤ ·)).length := by
    rw [hperm.length_eq]
    exact nearestRankIndex_lt hpos
  have hread : nearestRankP95 values
      = (values.insertionSort (· ≤ ·)).get ⟨nearestRankIndex values.length, hindex⟩ := by
    simp only [nearestRankP95, hperm.length_eq]
    rw [← nearestRankIndex, List.getD_eq_getElem?_getD, List.getElem?_eq_getElem hindex]
    rfl
  obtain ⟨hreached, hbefore⟩ := nearestRankIndex_rank hpos
  refine ⟨hindex, ?_, ?_, ?_⟩
  · rw [hread]
    exact hperm.mem_iff.mp (List.get_mem _ _)
  · have hrank := rank_lt_count hsorted _ hindex
    rw [hcount, hread]
    omega
  · intro v _ henough
    by_contra hbelow
    rw [hread, not_le] at hbelow
    have hrank := count_le_rank hsorted _ hindex hbelow
    rw [hcount] at henough
    omega

theorem nearestRankP95_least_twenty :
    nearestRankIndex 20 < ((List.range 20).insertionSort (· ≤ ·)).length
      ∧ nearestRankP95 (List.range 20) = 18
      ∧ 95 * 20 ≤ 100 * atMost (List.range 20) (nearestRankP95 (List.range 20)) := by
  have h := nearestRankP95_least (List.range 20) (by decide)
  exact ⟨h.1, by decide, h.2.2.1⟩

end Translator.Latency
