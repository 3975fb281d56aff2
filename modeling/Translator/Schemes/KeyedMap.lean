import Mathlib.Algebra.Ring.Int.Defs
import Mathlib.Algebra.Ring.Nat
import Mathlib.Data.List.AList
import Mathlib.Data.Finset.Card

/-! Keyed tables: Mathlib's `AList` with one value type, its lookups in `if` form, and `mapVals`,
    the update of every value in place. -/

namespace Translator.Schemes

universe u v

/-- A finite table from keys to values, the model of a hash map. -/
abbrev Table (K : Type u) (V : Type v) := AList (fun _ : K => V)

namespace Table

variable {K : Type u} {V : Type v}

theorem keys_map_val (f : K → V → V) (l : List (Sigma fun _ : K => V)) :
    (l.map fun e => (⟨e.1, f e.1 e.2⟩ : Sigma fun _ : K => V)).keys = l.keys := by
  simp [List.keys, Function.comp_def]

/-- Update every value in place; the keys stay. -/
def mapVals (f : K → V → V) (t : Table K V) : Table K V where
  entries := t.entries.map fun e => ⟨e.1, f e.1 e.2⟩
  nodupKeys := by rw [List.NodupKeys, keys_map_val]; exact t.nodupKeys

theorem mem_mapVals {f : K → V → V} {t : Table K V} {k : K} : k ∈ mapVals f t ↔ k ∈ t := by
  rw [AList.mem_keys, AList.mem_keys, AList.keys, AList.keys, mapVals, keys_map_val]

variable [DecidableEq K]

@[grind =]
theorem mem_iff_isSome {t : Table K V} {k : K} : k ∈ t ↔ (t.lookup k).isSome :=
  AList.lookup_isSome.symm

@[grind =]
theorem lookup_insert_if (t : Table K V) (k k' : K) (v : V) :
    (t.insert k v).lookup k' = if k' = k then some v else t.lookup k' := by
  split
  · next h => subst h; exact AList.lookup_insert t
  · next h => exact AList.lookup_insert_ne h

@[grind =]
theorem lookup_erase_if (t : Table K V) (k k' : K) :
    (t.erase k).lookup k' = if k' = k then none else t.lookup k' := by
  split
  · next h => subst h; exact AList.lookup_erase k' t
  · next h => exact AList.lookup_erase_ne h

theorem lookup_mapVals_entries (f : K → V → V) (k : K) : ∀ l : List (Sigma fun _ : K => V),
    List.dlookup k (l.map fun e => (⟨e.1, f e.1 e.2⟩ : Sigma fun _ : K => V))
      = (List.dlookup k l).map (f k)
  | [] => rfl
  | ⟨k', v⟩ :: l => by
    rw [List.map_cons]
    by_cases h : k = k'
    · subst h; rw [List.dlookup_cons_eq, List.dlookup_cons_eq]; rfl
    · rw [List.dlookup_cons_ne _ _ h, List.dlookup_cons_ne _ _ h]
      exact lookup_mapVals_entries f k l

@[grind =]
theorem lookup_mapVals (f : K → V → V) (t : Table K V) (k : K) :
    (mapVals f t).lookup k = (t.lookup k).map (f k) :=
  lookup_mapVals_entries f k t.entries

/-- Entering a new key and removing it again changes nothing. -/
theorem erase_insert_of_not_mem {t : Table K V} {k : K} (v : V) (h : k ∉ t) :
    (t.insert k v).erase k = t := by
  apply AList.ext
  show List.kerase k (AList.insert k v t).entries = t.entries
  rw [AList.entries_insert_of_notMem h]
  exact List.kerase_cons_eq (s := (⟨k, v⟩ : Sigma fun _ : K => V)) rfl

theorem length_keys_insert_of_mem {t : Table K V} {k : K} (v : V) (h : k ∈ t) :
    (t.insert k v).keys.length = t.keys.length := by
  have hk : k ∈ t.keys := AList.mem_keys.mp h
  have hpos := List.length_pos_of_mem hk
  rw [AList.keys_insert, List.length_cons, List.length_erase_of_mem hk]
  omega

theorem length_keys_insert_of_not_mem {t : Table K V} {k : K} (v : V) (h : k ∉ t) :
    (t.insert k v).keys.length = t.keys.length + 1 := by
  rw [AList.keys_insert, List.length_cons,
    List.erase_of_not_mem (fun hk => h (AList.mem_keys.mpr hk))]

theorem length_keys_erase_le (t : Table K V) (k : K) :
    (t.erase k).keys.length ≤ t.keys.length := by
  rw [AList.keys_erase]; exact List.length_erase_le

end Table

attribute [grind =] AList.lookup_empty

end Translator.Schemes
