import Mathlib.Algebra.Ring.Int.Defs
import Mathlib.Algebra.Ring.Nat
import Mathlib.Logic.Equiv.List
import Mathlib.Tactic.DeriveEncodable
import Mathlib.Algebra.Order.BigOperators.Group.List
import Mathlib.Algebra.Order.Monoid.Canonical.Defs
import Mathlib.Algebra.Order.Group.Nat

/-! Codecs for runs on fixed inputs: some values are written as given bytes, and every other value as a
    longer file, so that what is written can always be read back. -/

namespace Translator.Schemes

instance encodableChar : Encodable Char :=
  Encodable.ofLeftInjection Char.toNat (fun n => some (Char.ofNat n)) fun c => by simp

instance encodableString : Encodable String :=
  Encodable.ofLeftInjection String.toList (fun chars => some (String.ofList chars)) fun text => by
    simp

section Known

variable {α : Type}

/-- More bytes than any of the known files has. -/
def pastKnown (known : List (α × List UInt8)) : Nat :=
  (known.map (fun entry => entry.2.length)).sum + 1

theorem length_lt_pastKnown {known : List (α × List UInt8)} {entry : α × List UInt8}
    (h : entry ∈ known) : entry.2.length < pastKnown known :=
  Nat.lt_succ_of_le (List.le_sum_of_mem (List.mem_map.mpr ⟨entry, h, rfl⟩))

variable [DecidableEq α] [Encodable α]

def encodeKnown (known : List (α × List UInt8)) (a : α) : List UInt8 :=
  match known.lookup a with
  | some bytes => bytes
  | none => List.replicate (pastKnown known + Encodable.encode a) 0

def decodeKnown (known : List (α × List UInt8)) (bytes : List UInt8) : Option α :=
  match known.find? (fun entry => entry.2 = bytes) with
  | some entry => some entry.1
  | none => Encodable.decode (bytes.length - pastKnown known)

/-- What is written is read back, where no two known files are the same. -/
theorem decodeKnown_encodeKnown {known : List (α × List UInt8)}
    (hnodup : (known.map Prod.snd).Nodup) (a : α) :
    decodeKnown known (encodeKnown known a) = some a := by
  unfold encodeKnown decodeKnown
  cases hlookup : known.lookup a with
  | some bytes =>
    obtain ⟨before, after, hknown, -⟩ := List.lookup_eq_some_iff.mp hlookup
    have hmem : (a, bytes) ∈ known := by simp [hknown]
    dsimp only
    cases hfind : known.find? (fun entry => entry.2 = bytes) with
    | none => simpa using List.find?_eq_none.mp hfind _ hmem
    | some entry =>
      have hbytes : entry.2 = bytes := by simpa using List.find?_some hfind
      rw [List.inj_on_of_nodup_map hnodup (List.mem_of_find?_eq_some hfind) hmem hbytes]
  | none =>
    dsimp only
    cases hfind : known.find? (fun entry =>
        entry.2 = List.replicate (pastKnown known + Encodable.encode a) 0) with
    | some entry =>
      have hbytes : entry.2 = List.replicate (pastKnown known + Encodable.encode a) 0 := by
        simpa using List.find?_some hfind
      have hlength := length_lt_pastKnown (List.mem_of_find?_eq_some hfind)
      rw [hbytes, List.length_replicate] at hlength
      omega
    | none => simp

end Known

end Translator.Schemes
