import Mathlib.Algebra.Ring.Nat
import Translator.Schemes.Outcome
import Translator.Schemes.Text

/-! JSON as Python's `json.loads` reads it: names and numbers beyond the standard are read too, a key that
    comes twice has its last value, and two limits of the interpreter make a reading fail that the
    grammar would not. -/

namespace Translator.Schemes

/-- A number with a fraction or an exponent, before it is rounded. -/
inductive Real where
  | nan
  | infinite (negative : Bool)
  /-- `digits · 10 ^ exponent`. -/
  | decimal (negative : Bool) (digits : Nat) (exponent : Int)
  deriving DecidableEq

inductive Json where
  | null
  | bool (value : Bool)
  | int (value : Int)
  | float (value : Real)
  | str (value : Text)
  | arr (items : List Json)
  | obj (fields : List (Text × Json))

namespace Real

/-- `_ == 1`, once rounded to a double: the numbers up to half way to the two next to one. -/
def isOne : Real → Bool
  | decimal false digits (.ofNat e) =>
    decide ((2 ^ 54 - 1) ≤ 2 ^ 54 * (digits * 10 ^ e)
      ∧ 2 ^ 53 * (digits * 10 ^ e) ≤ 2 ^ 53 + 1)
  | decimal false digits (.negSucc e) =>
    decide ((2 ^ 54 - 1) * 10 ^ (e + 1) ≤ 2 ^ 54 * digits
      ∧ 2 ^ 53 * digits ≤ (2 ^ 53 + 1) * 10 ^ (e + 1))
  | _ => false

end Real

namespace Json

/-- `_ == 1`. -/
def isOne : Json → Bool
  | bool value => value
  | int value => value == 1
  | float value => value.isOne
  | _ => false

/-- `dict.get` of the pairs of an object. -/
def lookup (key : Text) (fields : List (Text × Json)) : Option Json :=
  (fields.reverse.find? fun field => field.1 == key).map Prod.snd

/-- Why a text is not read. -/
inductive Refusal where
  /-- `JSONDecodeError`. -/
  | malformed
  /-- The `ValueError` of an integer with too many digits. -/
  | digits
  /-- `RecursionError`. -/
  | depth
  deriving DecidableEq

/-- What the interpreter allows: the digits of an integer, and objects and arrays within each other. -/
structure Limits where
  digits : Nat
  depth : Nat

abbrev Reader (α : Type) := Text → Except Refusal (α × Text)

def skip (t : Text) : Text := t.dropWhile fun c => c == 32 || c == 9 || c == 10 || c == 13

/-! ### Strings -/

/-- The value of a hexadecimal digit. -/
def hexDigit (c : Nat) : Option Nat :=
  if 48 ≤ c ∧ c ≤ 57 then some (c - 48)
  else if 97 ≤ c ∧ c ≤ 102 then some (c - 87)
  else if 65 ≤ c ∧ c ≤ 70 then some (c - 55)
  else none

/-- The four digits of `\u`. -/
def hex : Text → Option (Nat × Text)
  | a :: b :: c :: d :: t => do
    return ((← hexDigit a) * 4096 + (← hexDigit b) * 256 + (← hexDigit c) * 16 + (← hexDigit d), t)
  | _ => none

/-- `\u`, once its letter has been read: the two halves of a pair are one letter. -/
def unit : Reader Nat := fun t =>
  match hex t with
  | none => .error .malformed
  | some (high, 92 :: 117 :: t) =>
    if 0xD800 ≤ high ∧ high < 0xDC00 then
      match hex t with
      | none => .error .malformed
      | some (low, rest) =>
        if 0xDC00 ≤ low ∧ low < 0xE000 then
          .ok (0x10000 + (high - 0xD800) * 1024 + (low - 0xDC00), rest)
        else .ok (high, 92 :: 117 :: t)
    else .ok (high, 92 :: 117 :: t)
  | some (c, t) => .ok (c, t)

/-- What follows a backslash. -/
def escape : Reader Nat
  | 34 :: t => .ok (34, t)
  | 92 :: t => .ok (92, t)
  | 47 :: t => .ok (47, t)
  | 98 :: t => .ok (8, t)
  | 102 :: t => .ok (12, t)
  | 110 :: t => .ok (10, t)
  | 114 :: t => .ok (13, t)
  | 116 :: t => .ok (9, t)
  | 117 :: t => unit t
  | _ => .error .malformed

/-- `scanstring`, behind the first quote. A step reads a letter at least. -/
def string : Nat → Reader Text
  | 0, _ => .error .malformed
  | _ + 1, [] => .error .malformed
  | fuel + 1, c :: t =>
    if c = 34 then .ok ([], t)
    else if c = 92 then do
      let (letter, t) ← escape t
      let (letters, t) ← string fuel t
      return (letter :: letters, t)
    else if c < 32 then .error .malformed
    else do
      let (letters, t) ← string fuel t
      return (c :: letters, t)

/-! ### Numbers -/

/-- The sign of a number or of an exponent. -/
def sign (plus : Bool) : Text → Bool × Text
  | 45 :: t => (true, t)
  | 43 :: t => (false, if plus then t else 43 :: t)
  | t => (false, t)

/-- The digits before the point, of which a nought is the only one. -/
def whole : Reader Text
  | 48 :: t => .ok ([48], t)
  | t =>
    if (t.takeWhile Text.digit).isEmpty then .error .malformed
    else .ok (t.takeWhile Text.digit, t.dropWhile Text.digit)

/-- The point and the digits behind it, if there are any. -/
def fraction : Text → Text × Text
  | 46 :: t =>
    if (t.takeWhile Text.digit).isEmpty then ([], 46 :: t)
    else (t.takeWhile Text.digit, t.dropWhile Text.digit)
  | t => ([], t)

/-- The exponent, if there is one. -/
def exponent : Text → Option Int × Text
  | [] => (none, [])
  | c :: t =>
    if (c = 101 ∨ c = 69) ∧ ((sign true t).2.takeWhile Text.digit).isEmpty = false then
      (some (if (sign true t).1 then -(Text.number ((sign true t).2.takeWhile Text.digit) : Int)
          else Text.number ((sign true t).2.takeWhile Text.digit)),
        (sign true t).2.dropWhile Text.digit)
    else (none, c :: t)

/-- `_match_number`. -/
def number (limits : Limits) : Reader Json := fun t => do
  let (negative, t) := sign false t
  let (digits, t) ← whole t
  let (behind, t) := fraction t
  let (power, t) := exponent t
  if behind.isEmpty && power.isNone then
    if limits.digits < digits.length then .error .digits
    else return (.int (if negative then -(Text.number digits : Int) else Text.number digits), t)
  else
    return (.float (.decimal negative (Text.number (digits ++ behind))
      (power.getD 0 - behind.length)), t)

/-! ### Values -/

/-- The values of an array, behind its bracket. A step reads a letter at least. -/
def elements (value : Reader Json) : Nat → Reader (List Json)
  | 0, _ => .error .malformed
  | fuel + 1, t => do
    let (item, t) ← value t
    match skip t with
    | 93 :: t => return ([item], t)
    | 44 :: t => do
      let (items, t) ← elements value fuel (skip t)
      return (item :: items, t)
    | _ => .error .malformed

/-- The pairs of an object, behind its brace. -/
def members (value : Reader Json) : Nat → Reader (List (Text × Json))
  | 0, _ => .error .malformed
  | fuel + 1, t =>
    match t with
    | 34 :: t => do
      let (key, t) ← string (t.length + 1) t
      match skip t with
      | 58 :: t => do
        let (item, t) ← value (skip t)
        match skip t with
        | 125 :: t => return ([(key, item)], t)
        | 44 :: t => do
          let (fields, t) ← members value fuel (skip t)
          return ((key, item) :: fields, t)
        | _ => .error .malformed
      | _ => .error .malformed
    | _ => .error .malformed

/-- The names that stand for a value. -/
def names : List (Text × Json) :=
  [(text "null", .null), (text "true", .bool true), (text "false", .bool false),
    (text "NaN", .float .nan), (text "Infinity", .float (.infinite false)),
    (text "-Infinity", .float (.infinite true))]

/-- `scan_once`: a name, or a number. -/
def plain (limits : Limits) : Reader Json := fun t =>
  match names.find? fun name => name.1.isPrefixOf t with
  | some (name, value) => .ok (value, t.drop name.length)
  | none => number limits t

/-- `scan_once`, with so many brackets left. -/
def value (limits : Limits) : Nat → Reader Json
  | depth, 34 :: t => do
    let (letters, t) ← string (t.length + 1) t
    return (.str letters, t)
  | 0, 91 :: _ => .error .depth
  | 0, 123 :: _ => .error .depth
  | depth + 1, 91 :: t =>
    match skip t with
    | 93 :: t => .ok (.arr [], t)
    | t => do
      let (items, t) ← elements (value limits depth) (t.length + 1) t
      return (.arr items, t)
  | depth + 1, 123 :: t =>
    match skip t with
    | 125 :: t => .ok (.obj [], t)
    | t => do
      let (fields, t) ← members (value limits depth) (t.length + 1) t
      return (.obj fields, t)
  | _, t => plain limits t

/-- `json.loads`. -/
def loads (limits : Limits) : Text → Except Refusal Json
  | 0xFEFF :: _ => .error .malformed
  | t => do
    let (document, t) ← value limits limits.depth (skip t)
    if (skip t).isEmpty then return document else .error .malformed

end Json
end Translator.Schemes
