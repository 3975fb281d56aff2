import Translator.Core.Contracts
import Translator.Schemes.Regex

/-! The repairs `mt.py` makes to a translation: times of day that were turned to twelve hours, and names
    that were translated. Texts are the letters they consist of; what `re` and `int` know of letters is
    a parameter, with what the patterns rely on. -/

namespace Translator.Local
open Core (Language)
open Schemes Regex

/-- The letters of the word a document is labelled with in Russian. -/
def dokument : List Char := ['д', 'о', 'к', 'у', 'м', 'е', 'н', 'т']

/-- The letters of `[A-Za-z0-9_]`. -/
def nameLetter (c : Char) : Bool :=
  decide ('A' ≤ c ∧ c ≤ 'Z') || decide ('a' ≤ c ∧ c ≤ 'z') || decide ('0' ≤ c ∧ c ≤ '9') || c == '_'

/-- What `re` and `int` know of letters. -/
structure Unicode where
  /-- The digit a letter stands for, if it matches `\d`. -/
  decimal : Char → Option Nat
  /-- `\s`. -/
  space : Char → Bool
  /-- `\w`. -/
  word : Char → Bool
  /-- Whether a letter of the text is matched by a letter of the pattern, case ignored. -/
  alike : Char → Char → Bool
  decimal_lt : ∀ c n, decimal c = some n → n < 10
  decimal_digit : ∀ n < 10, decimal (Nat.digitChar n) = some n
  decimal_colon : decimal ':' = none
  space_blank : space ' ' = true
  word_of_space : ∀ c, space c = true → word c = false
  space_hyphen : space '-' = false
  word_hyphen : word '-' = false
  word_name : ∀ c, nameLetter c = true → word c = true
  word_dokument : ∀ c ∈ dokument, word c = true
  alike_refl : ∀ c, alike c c = true
  alike_name : ∀ c letter, nameLetter letter = true → alike c letter = true → word c = true
  alike_dokument : ∀ c, ∀ letter ∈ dokument, alike c letter = true → word c = true
  alike_hyphen : ∀ c, alike c '-' = true → c = '-'

namespace Unicode

variable (u : Unicode)

/-- `\d`. -/
def digit (c : Char) : Bool := (u.decimal c).isSome

/-- `int` of letters that match `\d`. -/
def int (letters : List Char) : Nat :=
  letters.foldl (fun value c => 10 * value + (u.decimal c).getD 0) 0

/-- The small letter of an English or a Russian one. -/
def small (n : Nat) : Nat :=
  if 65 ≤ n ∧ n ≤ 90 ∨ 0x410 ≤ n ∧ n ≤ 0x42F then n + 32 else n

theorem nameLetter_iff {c : Char} : nameLetter c = true ↔
    65 ≤ c.toNat ∧ c.toNat ≤ 90 ∨ 97 ≤ c.toNat ∧ c.toNat ≤ 122 ∨ 48 ≤ c.toNat ∧ c.toNat ≤ 57
      ∨ c.toNat = 95 := by
  have hline : c = '_' ↔ c.toNat = 95 := by
    constructor
    · rintro rfl
      rfl
    · intro h
      rw [← Char.ofNat_toNat c, h]
  simp only [nameLetter, Bool.or_eq_true, decide_eq_true_eq, beq_iff_eq, hline, or_assoc]
  rfl

/-- English and Russian letters, plain digits, and the blanks of ASCII. -/
def basic : Unicode where
  decimal c := if 48 ≤ c.toNat ∧ c.toNat ≤ 57 then some (c.toNat - 48) else none
  space c := decide (c.toNat = 32 ∨ 9 ≤ c.toNat ∧ c.toNat ≤ 13 ∨ 28 ≤ c.toNat ∧ c.toNat ≤ 31)
  word c := nameLetter c || decide (0x410 ≤ c.toNat ∧ c.toNat ≤ 0x44F)
  alike c letter := decide (small c.toNat = small letter.toNat)
  decimal_lt := by
    intro c n h
    split at h
    · cases h
      omega
    · cases h
  decimal_digit := by decide
  decimal_colon := rfl
  space_blank := rfl
  word_of_space := by
    intro c h
    have hspace := of_decide_eq_true h
    have hname : nameLetter c = false := by
      rw [← Bool.not_eq_true, nameLetter_iff]
      omega
    rw [hname]
    simp
    omega
  space_hyphen := rfl
  word_hyphen := rfl
  word_name := by
    intro c h
    rw [h]
    rfl
  word_dokument := by
    rw [← List.all_eq_true]
    decide
  alike_refl := by simp
  alike_name := by
    intro c letter hletter halike
    have hsmall := of_decide_eq_true halike
    rw [nameLetter_iff] at hletter
    rw [Bool.or_eq_true, nameLetter_iff, decide_eq_true_eq]
    unfold small at hsmall
    split at hsmall <;> split at hsmall <;> omega
  alike_dokument := by
    intro c letter hletter halike
    have hsmall := of_decide_eq_true halike
    have hrange : (dokument.all fun letter => 0x430 ≤ letter.toNat ∧ letter.toNat ≤ 0x44F) = true := by
      decide
    have hletter := of_decide_eq_true (List.all_eq_true.mp hrange letter hletter)
    rw [Bool.or_eq_true, decide_eq_true_eq]
    unfold small at hsmall
    split at hsmall <;> split at hsmall <;> omega
  alike_hyphen := by
    intro c halike
    have hsmall := of_decide_eq_true halike
    have hcode : c.toNat = 45 := by
      have hhyphen : small '-'.toNat = 45 := by decide
      rw [hhyphen] at hsmall
      unfold small at hsmall
      split at hsmall <;> omega
    rw [← Char.ofNat_toNat c, hcode]

end Unicode

/-- A letter of the pattern, case regarded. -/
def exact (c letter : Char) : Bool := c == letter

variable (u : Unicode)

/-! ### Times of day -/

/-- `_TIME_24_RE`: `(?<!\d)(?P<hour>[01]?\d|2[0-3]):(?P<minute>[0-5]\d)(?!\d)`. -/
def time24Re : Regex Char :=
  inOrder
    [notBehind u.digit,
      group "hour" (alt (inOrder [opt (one fun c => decide (c = '0' ∨ c = '1')), one u.digit])
        (inOrder [one (· == '2'), one fun c => decide ('0' ≤ c ∧ c ≤ '3')])),
      one (· == ':'),
      group "minute" (inOrder [one fun c => decide ('0' ≤ c ∧ c ≤ '5'), one u.digit]),
      notAhead u.digit]

/-- `(?<!\d)0?{target_hour}:{minute}(?!\d)`. -/
def targetPattern (targetHour : Nat) (minute : List Char) : Regex Char :=
  inOrder
    [notBehind u.digit, opt (one (· == '0')), text exact (Nat.toDigits 10 targetHour), one (· == ':'),
      text exact minute, notAhead u.digit]

/-- `\s*[ap]\.?m\.?\b`, case ignored. -/
def meridiem : Regex Char :=
  inOrder
    [many u.space, one fun c => u.alike c 'a' || u.alike c 'p', opt (one (· == '.')),
      one fun c => u.alike c 'm', opt (one (· == '.')), bound u.word]

/-- The loop body of `_preserve_24_hour_times`. -/
def preserveTime (result : List Char) (sourceMatch : Found Char) : List Char :=
  let sourceHour := u.int (sourceMatch.hit.group "hour")
  if sourceHour < 13 then result
  else
    let minute := sourceMatch.hit.group "minute"
    match search (targetPattern u (sourceHour - 12) minute) [] result with
    | none => result
    | some targetMatch =>
      let suffix := targetMatch.hit.rest.take 8
      if (run (meridiem u) [] suffix).isEmpty then
        targetMatch.behind.reverse ++ sourceMatch.hit.taken ++ targetMatch.hit.rest
      else result

/-- `_preserve_24_hour_times`. -/
def preserve24HourTimes (source translated : List Char) : List Char :=
  (finditer (time24Re u) source).foldl (preserveTime u) translated

/-! ### Names -/

/-- `[A-Z][A-Za-z0-9_-]*` as the group `entity`. -/
def entityRe : Regex Char :=
  group "entity" (seq (one fun c => decide ('A' ≤ c ∧ c ≤ 'Z')) (many fun c => nameLetter c || c == '-'))

/-- `_RU_RECIPIENT_ENTITY_RE`: `\bпользователю\s+(?P<entity>[A-Z][A-Za-z0-9_-]*)\b`. -/
def ruRecipientEntityRe : Regex Char :=
  inOrder
    [bound u.word,
      text exact ['п', 'о', 'л', 'ь', 'з', 'о', 'в', 'а', 'т', 'е', 'л', 'ю'], plus u.space,
      entityRe, bound u.word]

/-- `_EN_DOCUMENT_ENTITY_RE`: `\bdocument\s+(?P<entity>[A-Z][A-Za-z0-9_-]*)\b`. -/
def enDocumentEntityRe : Regex Char :=
  inOrder
    [bound u.word, text exact ['d', 'o', 'c', 'u', 'm', 'e', 'n', 't'], plus u.space, entityRe,
      bound u.word]

/-- `\b(?:the\s+)?{re.escape(entity)}\s+user\b`, case ignored. -/
def ambiguous (entity : List Char) : Regex Char :=
  inOrder
    [bound u.word, opt (inOrder [text u.alike ['t', 'h', 'e'], plus u.space]), text u.alike entity,
      plus u.space, text u.alike ['u', 's', 'e', 'r'], bound u.word]

/-- `\bдокумент\s+{re.escape(entity)}\b`, case ignored. -/
def correct (entity : List Char) : Regex Char :=
  inOrder [bound u.word, text u.alike dokument, plus u.space, text u.alike entity, bound u.word]

/-- `[\w-]`. -/
def labelLetter (c : Char) : Bool := u.word c || c == '-'

/-- `\bдокумент\s+[\w-]+\b`, case ignored. -/
def translatedLabel : Regex Char :=
  inOrder [bound u.word, text u.alike dokument, plus u.space, plus (labelLetter u), bound u.word]

/-- `sub` with `count=1`, for a replacement without escapes. -/
def substituteFirst (r : Regex Char) (replacement result : List Char) : List Char :=
  match search r [] result with
  | none => result
  | some found => found.behind.reverse ++ replacement ++ found.hit.rest

def preserveRecipient (result : List Char) (sourceMatch : Found Char) : List Char :=
  let entity := sourceMatch.hit.group "entity"
  substituteFirst (ambiguous u entity) entity result

def preserveDocument (result : List Char) (sourceMatch : Found Char) : List Char :=
  let entity := sourceMatch.hit.group "entity"
  if (search (correct u entity) [] result).isSome then result
  else substituteFirst (translatedLabel u) (dokument ++ ' ' :: entity) result

/-- `_preserve_named_entity_roles`. -/
def preserveNamedEntityRoles (source translated : List Char) (sourceLanguage targetLanguage : Language) :
    List Char :=
  if sourceLanguage = .ru ∧ targetLanguage = .en then
    (finditer (ruRecipientEntityRe u) source).foldl (preserveRecipient u) translated
  else if sourceLanguage = .en ∧ targetLanguage = .ru then
    (finditer (enDocumentEntityRe u) source).foldl (preserveDocument u) translated
  else translated

end Translator.Local
