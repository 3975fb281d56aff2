import Mathlib.Data.List.Basic

/-! Texts as Python has them: the code points of their letters. A code point need not be one of a `Char`,
    since a `str` may hold half of a surrogate pair. -/

namespace Translator.Schemes

/-- The code points of a `str`. -/
abbrev Text := List Nat

/-- A literal of the source. -/
def text (s : String) : Text := s.toList.map Char.toNat

/-- What the interpreter's tables say of letters. -/
structure Letters where
  /-- `str.lower`. -/
  lower : Text → Text
  /-- `str.isspace`. -/
  space : Nat → Bool
  /-- The digit a letter stands for, if it matches `\d`. -/
  decimal : Nat → Option Nat
  /-- `unicodedata.normalize('NFKC', _)`. -/
  nfkc : Text → Text

namespace Text

/-- `str.lower` of letters of ASCII. -/
def small (c : Nat) : Nat := if 65 ≤ c ∧ c ≤ 90 then c + 32 else c

def letter (c : Nat) : Bool := decide (65 ≤ c ∧ c ≤ 90 ∨ 97 ≤ c ∧ c ≤ 122)

def digit (c : Nat) : Bool := decide (48 ≤ c ∧ c ≤ 57)

/-- The number that letters of `[0-9]` write. -/
def number (digits : Text) : Nat := digits.foldl (fun n c => 10 * n + (c - 48)) 0

/-- `str.partition`, without the separator. -/
def partition (sep : Nat) (t : Text) : Text × Text :=
  (t.takeWhile (· ≠ sep), (t.dropWhile (· ≠ sep)).tail)

/-- `str.rpartition`, without the separator. -/
def rpartition (sep : Nat) (t : Text) : Text × Text :=
  ((partition sep t.reverse).2.reverse, (partition sep t.reverse).1.reverse)

/-- `str.strip`. -/
def strip (letters : Letters) (t : Text) : Text :=
  ((t.dropWhile letters.space).reverse.dropWhile letters.space).reverse

/-- What `io` makes of a line's end. -/
def newlines : Text → Text
  | 13 :: 10 :: t => 10 :: newlines t
  | 13 :: t => 10 :: newlines t
  | c :: t => c :: newlines t
  | [] => []

/-- The tables for the letters of ASCII. -/
def ascii : Letters where
  lower := List.map small
  space c := decide (c = 32 ∨ 9 ≤ c ∧ c ≤ 13 ∨ 28 ≤ c ∧ c ≤ 31)
  decimal c := if digit c then some (c - 48) else none
  nfkc t := t

/-! ### UTF-8 -/

/-- A byte that goes on with a letter, and what it adds to it. -/
def follows (letter : Nat) (b : UInt8) : Option Nat :=
  if 0x80 ≤ b ∧ b ≤ 0xBF then some (letter * 64 + (b.toNat - 0x80)) else none

/-- `bytes.decode('utf-8')`: no letter in more bytes than it needs, and no half of a pair. -/
def decode : List UInt8 → Option Text
  | [] => some []
  | a :: bytes =>
    if a < 0x80 then (decode bytes).map (a.toNat :: ·)
    else match bytes with
    | [] => none
    | b :: bytes => do
      if a < 0xE0 then
        let c ← follows (a.toNat - 0xC0) b
        if c < 0x80 then none else (decode bytes).map (c :: ·)
      else match bytes with
      | [] => none
      | b' :: bytes => do
        if a < 0xF0 then
          let c ← follows (← follows (a.toNat - 0xE0) b) b'
          if c < 0x800 ∨ 0xD800 ≤ c ∧ c < 0xE000 then none else (decode bytes).map (c :: ·)
        else match bytes with
        | [] => none
        | b'' :: bytes => do
          if a < 0xF5 then
            let c ← follows (← follows (← follows (a.toNat - 0xF0) b) b') b''
            if c < 0x10000 ∨ 0x110000 ≤ c then none else (decode bytes).map (c :: ·)
          else none

/-- The bytes of a letter. -/
def bytesOf (c : Nat) : Option (List Nat) :=
  if c < 0x80 then some [c]
  else if c < 0x800 then some [0xC0 + c / 64, 0x80 + c % 64]
  else if 0xD800 ≤ c ∧ c < 0xE000 then none
  else if c < 0x10000 then some [0xE0 + c / 4096, 0x80 + c / 64 % 64, 0x80 + c % 64]
  else some [0xF0 + c / 262144, 0x80 + c / 4096 % 64, 0x80 + c / 64 % 64, 0x80 + c % 64]

/-- `str.encode('utf-8')`. -/
def encode (t : Text) : Option (List Nat) := (t.mapM bytesOf).map List.flatten

end Text
end Translator.Schemes
