import Translator.Local.Mt

/-! When the repair of times leaves a translation alone. Every repair turns a short hour before a colon, of
    a number up to eleven, into one that is not short, and nothing turns it back; so a translation comes
    out as it went in only when there was nothing to repair. -/

namespace Translator.Local
open Schemes Regex

variable (u : Unicode)

/-! ### Short hours -/

/-- The ways a time of the afternoon is written with twelve hours. -/
def shortHours : List (List Char) :=
  (List.range' 1 11).flatMap fun hour => [Nat.toDigits 10 hour, '0' :: Nat.toDigits 10 hour]

/-- How many colons come right after a short hour; `digits` are those that lie behind. -/
def shorts : List Char → List Char → Nat
  | _, [] => 0
  | digits, c :: text =>
    if c = ':' then (if digits ∈ shortHours then 1 else 0) + shorts [] text
    else if u.digit c then shorts (digits ++ [c]) text
    else shorts [] text

/-- The digits that end a text, after those behind it. -/
def trailing : List Char → List Char → List Char
  | digits, [] => digits
  | digits, c :: text => if u.digit c then trailing (digits ++ [c]) text else trailing [] text

theorem digit_colon : u.digit ':' = false := by simp [Unicode.digit, u.decimal_colon]

theorem shorts_append (digits a b : List Char) :
    shorts u digits (a ++ b) = shorts u digits a + shorts u (trailing u digits a) b := by
  induction a generalizing digits with
  | nil => simp [shorts, trailing]
  | cons c a ih =>
    simp only [List.cons_append, shorts, trailing]
    split
    · next hc =>
      subst hc
      rw [digit_colon, ih, if_neg Bool.false_ne_true, Nat.add_assoc]
    · split
      · exact ih _
      · exact ih _

/-- Behind a letter that is no digit there are none. -/
theorem trailing_nil {a : List Char} (h : next u.digit a.reverse = false) : trailing u [] a = [] := by
  rcases List.eq_nil_or_concat a with rfl | ⟨a, c, rfl⟩
  · rfl
  · rw [List.concat_eq_append] at h ⊢
    have hc : u.digit c = false := by simpa [next] using h
    have hlast : ∀ digits, trailing u digits (a ++ [c]) = [] := by
      induction a with
      | nil =>
        intro digits
        simp [trailing, hc]
      | cons b a ih =>
        intro digits
        have h' : next u.digit (a.concat c).reverse = false := by simp [next, hc]
        simp only [List.cons_append, trailing]
        split <;> exact ih (by simpa using h') _
    exact hlast []

theorem shorts_digits {digits : List Char} (h : ∀ c ∈ digits, u.digit c = true) (before text : List Char) :
    shorts u before (digits ++ ':' :: text)
      = (if before ++ digits ∈ shortHours then 1 else 0) + shorts u [] text := by
  induction digits generalizing before with
  | nil => simp [shorts]
  | cons c digits ih =>
    have hc := h c (List.mem_cons_self ..)
    have hne : c ≠ ':' := by
      rintro rfl
      rw [digit_colon] at hc
      cases hc
    rw [List.cons_append, shorts, if_neg hne, if_pos hc,
      ih (fun d hd => h d (List.mem_cons_of_mem c hd)), List.append_assoc, List.singleton_append]

/-- A text with a time in it has one short hour more than with the time written long. -/
theorem shorts_replaced {behind short long : List Char} (hbehind : next u.digit behind = false)
    (hshort : ∀ c ∈ short, u.digit c = true) (hlong : ∀ c ∈ long, u.digit c = true)
    (hmem : short ∈ shortHours) (hnot : long ∉ shortHours) (text : List Char) :
    shorts u [] (behind.reverse ++ (short ++ ':' :: text))
      = shorts u [] (behind.reverse ++ (long ++ ':' :: text)) + 1 := by
  have htrailing : trailing u [] behind.reverse = [] := trailing_nil u (by rwa [List.reverse_reverse])
  rw [shorts_append u [] behind.reverse, shorts_append u [] behind.reverse, htrailing,
    shorts_digits u hshort, shorts_digits u hlong,
    List.nil_append, List.nil_append, if_pos hmem, if_neg hnot]
  omega

theorem digit_ascii {n : Nat} (h : n < 10) : u.digit (Nat.digitChar n) = true := by
  rw [Unicode.digit, u.decimal_digit n h]
  rfl

/-- What plain digits stand for. -/
def plainInt (digits : List Char) : Nat := digits.foldl (fun value c => 10 * value + (c.toNat - 48)) 0

theorem int_plain {digits : List Char} (h : ∀ c ∈ digits, ∃ n < 10, c = Nat.digitChar n) :
    u.int digits = plainInt digits := by
  have hvalue : ∀ n < 10, (Nat.digitChar n).toNat - 48 = n := by decide
  have hfold : ∀ value, digits.foldl (fun value c => 10 * value + (u.decimal c).getD 0) value
      = digits.foldl (fun value c => 10 * value + (c.toNat - 48)) value := by
    induction digits with
    | nil => exact fun _ => rfl
    | cons c digits ih =>
      intro value
      obtain ⟨n, hn, rfl⟩ := h c (List.mem_cons_self ..)
      rw [List.foldl_cons, List.foldl_cons, u.decimal_digit n hn, hvalue n hn, Option.getD_some]
      exact ih (fun d hd => h d (List.mem_cons_of_mem _ hd)) _
  exact hfold 0

/-- A short hour is written in plain digits, and stands for eleven at most. -/
theorem shortHours_plain : ∀ hour ∈ shortHours,
    (∀ c ∈ hour, ∃ n < 10, c = Nat.digitChar n) ∧ plainInt hour ≤ 11 := by
  have hall : (shortHours.all fun hour =>
      (hour.all fun c => (List.range 10).any fun n => c == Nat.digitChar n)
        && decide (plainInt hour ≤ 11)) = true := by decide
  intro hour hhour
  have hplain := List.all_eq_true.mp hall hour hhour
  rw [Bool.and_eq_true, List.all_eq_true, decide_eq_true_eq] at hplain
  refine ⟨fun c hc => ?_, hplain.2⟩
  obtain ⟨n, hn, hdigit⟩ := List.any_eq_true.mp (hplain.1 c hc)
  exact ⟨n, List.mem_range.mp hn, beq_iff_eq.mp hdigit⟩

/-! ### The repair -/

/-- The twelve hour form of a time is in the text, and not followed by a mark of the half of the day. -/
def Repairable (sourceMatch : Found Char) (text : List Char) : Prop :=
  13 ≤ u.int (sourceMatch.hit.group "hour")
    ∧ ∃ target, search (targetPattern u (u.int (sourceMatch.hit.group "hour") - 12)
        (sourceMatch.hit.group "minute")) [] text = some target
      ∧ (run (meridiem u) [] (target.hit.rest.take 8)).isEmpty = true

theorem preserveTime_same {sourceMatch : Found Char} {text : List Char}
    (h : ¬Repairable u sourceMatch text) : preserveTime u text sourceMatch = text := by
  unfold preserveTime
  dsimp only
  split
  · rfl
  · next hhour =>
    split
    · rfl
    · next target htarget =>
      split
      · next hmark => exact absurd ⟨by omega, target, htarget, hmark⟩ h
      · rfl

theorem digitChar_of_range {c : Char} (hlow : 48 ≤ c.toNat) (hhigh : c.toNat ≤ 57) :
    ∃ n < 10, c = Nat.digitChar n ∧ n = c.toNat - 48 := by
  have hall : ∀ n < 10, Char.ofNat (48 + n) = Nat.digitChar n := by decide
  refine ⟨c.toNat - 48, by omega, ?_, rfl⟩
  rw [← hall _ (by omega), show 48 + (c.toNat - 48) = c.toNat by omega, Char.ofNat_toNat]

theorem digit_lt {c : Char} (h : u.digit c = true) : ∃ n < 10, u.decimal c = some n := by
  obtain ⟨n, hn⟩ := Option.isSome_iff_exists.mp h
  exact ⟨n, u.decimal_lt c n hn, hn⟩

/-- The hour of a time is in digits, and there are twenty-four. -/
theorem hour_hit {behind ahead : List Char} {hit : Hit Char}
    (h : hit ∈ run (alt (inOrder [opt (one fun c => decide (c = '0' ∨ c = '1')), one u.digit])
      (inOrder [one (· == '2'), one fun c => decide ('0' ≤ c ∧ c ≤ '3')])) behind ahead) :
    hit.groups = [] ∧ (∀ c ∈ hit.taken, u.digit c = true) ∧ u.int hit.taken ≤ 23 := by
  have hzero : u.decimal '0' = some 0 := u.decimal_digit 0 (by omega)
  have hone : u.decimal '1' = some 1 := u.decimal_digit 1 (by omega)
  have htwo : u.decimal '2' = some 2 := u.decimal_digit 2 (by omega)
  simp only [inOrder, opt, mem_run_alt, mem_run_seq, mem_run_one, mem_run_empty] at h
  rcases h with ⟨_, ⟨first, _, -, hfirst, rfl⟩ | rfl, _, ⟨last, _, -, hlast, rfl⟩, rfl⟩
    | ⟨_, ⟨first, _, -, hfirst, rfl⟩, _, ⟨last, _, -, hlast, rfl⟩, rfl⟩
  · obtain ⟨n, hn, hvalue⟩ := digit_lt u hlast
    rcases of_decide_eq_true hfirst with rfl | rfl
    · simp [Unicode.digit, Unicode.int, hzero, hvalue]
      omega
    · simp [Unicode.digit, Unicode.int, hone, hvalue]
      omega
  · obtain ⟨n, hn, hvalue⟩ := digit_lt u hlast
    simp [Unicode.digit, Unicode.int, hvalue]
    omega
  · obtain rfl := beq_iff_eq.mp hfirst
    obtain ⟨hlow, hhigh⟩ := of_decide_eq_true hlast
    have hthree : last.toNat ≤ 51 := hhigh
    obtain ⟨n, hn, rfl, hvalue⟩ := digitChar_of_range hlow (by omega)
    simp [Unicode.digit, Unicode.int, htwo, u.decimal_digit n hn]
    omega

/-- The match of a time in the source is an hour, a colon and the minutes. -/
theorem time24_hit {source : List Char} {found : Found Char} (h : found ∈ finditer (time24Re u) source) :
    found.hit.taken = found.hit.group "hour" ++ ':' :: found.hit.group "minute"
      ∧ (∀ c ∈ found.hit.group "hour", u.digit c = true) ∧ u.int (found.hit.group "hour") ≤ 23 := by
  have hmem := mem_finditer h
  simp only [time24Re, inOrder] at hmem
  rw [mem_run_seq] at hmem
  obtain ⟨_, hbehind, _, hmem, hfound⟩ := hmem
  obtain ⟨-, rfl⟩ := mem_run_notBehind.mp hbehind
  rw [mem_run_seq] at hmem
  obtain ⟨_, hgroup, _, hmem, rfl⟩ := hmem
  obtain ⟨hour, hhour, rfl⟩ := mem_run_group.mp hgroup
  obtain ⟨hgroups, hdigits, hint⟩ := hour_hit u hhour
  rw [mem_run_seq] at hmem
  obtain ⟨_, hone, _, hmem, rfl⟩ := hmem
  obtain ⟨colon, _, -, hcolon, rfl⟩ := mem_run_one.mp hone
  obtain rfl := beq_iff_eq.mp hcolon
  rw [mem_run_seq] at hmem
  obtain ⟨_, hgroup', _, hmem, rfl⟩ := hmem
  obtain ⟨minute, -, rfl⟩ := mem_run_group.mp hgroup'
  obtain ⟨-, rfl⟩ := mem_run_notAhead.mp hmem
  rw [hfound]
  simp [Hit.group, hgroups, List.lookup_cons, hint]
  exact hdigits

/-- The match of a time with twelve hours. -/
theorem target_hit {hour : Nat} {minute behind ahead : List Char} {hit : Hit Char}
    (h : hit ∈ run (targetPattern u hour minute) behind ahead) :
    next u.digit behind = false ∧ ∃ short ∈ [Nat.toDigits 10 hour, '0' :: Nat.toDigits 10 hour],
      hit.taken = short ++ ':' :: minute := by
  have hexact : ∀ {l letters : List Char},
      List.Forall₂ (fun c letter => exact c letter = true) l letters → l = letters := by
    intro l letters hl
    induction hl with
    | nil => rfl
    | cons hc _ ih => rw [beq_iff_eq.mp hc, ih]
  simp only [targetPattern, inOrder] at h
  rw [mem_run_seq] at h
  obtain ⟨_, hbehind, _, h, rfl⟩ := h
  obtain ⟨hnext, rfl⟩ := mem_run_notBehind.mp hbehind
  refine ⟨hnext, ?_⟩
  rw [mem_run_seq] at h
  obtain ⟨zero, hzero, _, h, rfl⟩ := h
  rw [mem_run_seq] at h
  obtain ⟨digits, hhour, _, h, rfl⟩ := h
  obtain ⟨hhour, -, -⟩ := mem_run_text.mp hhour
  rw [mem_run_seq] at h
  obtain ⟨_, hone, _, h, rfl⟩ := h
  obtain ⟨colon, _, -, hcolon, rfl⟩ := mem_run_one.mp hone
  obtain rfl := beq_iff_eq.mp hcolon
  rw [mem_run_seq] at h
  obtain ⟨minutes, hminute, _, h, rfl⟩ := h
  obtain ⟨hminute, -, -⟩ := mem_run_text.mp hminute
  obtain ⟨-, rfl⟩ := mem_run_notAhead.mp h
  have hdigits := hexact hhour
  have hminutes := hexact hminute
  rcases mem_run_opt.mp hzero with hzero | rfl
  · obtain ⟨c, _, -, hc, rfl⟩ := mem_run_one.mp hzero
    obtain rfl := beq_iff_eq.mp hc
    exact ⟨_, List.mem_cons_of_mem _ (List.mem_singleton_self _), by simp [hdigits, hminutes]⟩
  · exact ⟨_, List.mem_cons_self .., by simp [hdigits, hminutes]⟩

/-- A repair leaves one short hour less. -/
theorem shorts_preserveTime {source text : List Char} {sourceMatch : Found Char}
    (hmem : sourceMatch ∈ finditer (time24Re u) source) (h : Repairable u sourceMatch text) :
    shorts u [] text = shorts u [] (preserveTime u text sourceMatch) + 1 := by
  obtain ⟨hhour, target, htarget, hmark⟩ := h
  obtain ⟨htaken, hdigits, hlast⟩ := time24_hit u hmem
  obtain ⟨skipped, hbehind, htext, hhead⟩ := search_some htarget
  obtain ⟨hnext, short, hshort, hhit⟩ := target_hit u (List.mem_of_mem_head? hhead)
  have hin : short ∈ shortHours := by
    refine List.mem_flatMap.mpr ⟨u.int (sourceMatch.hit.group "hour") - 12, ?_, hshort⟩
    rw [List.mem_range'_1]
    omega
  obtain ⟨hplain, hint⟩ := shortHours_plain short hin
  have hout : sourceMatch.hit.group "hour" ∉ shortHours := by
    intro hlong
    obtain ⟨hplain', hint'⟩ := shortHours_plain _ hlong
    rw [← int_plain u hplain'] at hint'
    omega
  have hshortDigits : ∀ c ∈ short, u.digit c = true := by
    intro c hc
    obtain ⟨n, hn, rfl⟩ := hplain c hc
    exact digit_ascii u hn
  have hnew : preserveTime u text sourceMatch
      = target.behind.reverse ++ sourceMatch.hit.taken ++ target.hit.rest := by
    unfold preserveTime
    dsimp only
    rw [if_neg (by omega), htarget]
    dsimp only
    rw [if_pos hmark]
  have hold : text = target.behind.reverse ++ (short ++ ':' :: (sourceMatch.hit.group "minute" ++ target.hit.rest)) := by
    rw [htext, hbehind, hhit]
    simp
  have hreplaced := shorts_replaced u hnext hshortDigits hdigits hin hout
    (sourceMatch.hit.group "minute" ++ target.hit.rest)
  rw [hnew, htaken, hold, hreplaced]
  simp

/-- A translation comes out of the repair as it went in when none of the source's times is in it in the
    twelve hour form without a mark of the half of the day, and only then. -/
theorem times_kept_iff (source translated : List Char) :
    preserve24HourTimes u source translated = translated
      ↔ ∀ sourceMatch ∈ finditer (time24Re u) source, ¬Repairable u sourceMatch translated := by
  have hrepair : ∀ found ∈ finditer (time24Re u) source, ∀ text,
      Repairable u found text → shorts u [] text = shorts u [] (preserveTime u text found) + 1 :=
    fun found hfound text h => shorts_preserveTime u hfound h
  unfold preserve24HourTimes
  generalize finditer (time24Re u) source = times at hrepair ⊢
  have hle : ∀ times : List (Found Char),
      (∀ found ∈ times, ∀ text, Repairable u found text →
        shorts u [] text = shorts u [] (preserveTime u text found) + 1) →
      ∀ text, shorts u [] (times.foldl (preserveTime u) text) ≤ shorts u [] text := by
    intro times
    induction times with
    | nil => exact fun _ _ => Nat.le_refl _
    | cons found times ih =>
      intro hall text
      have hrest := ih (fun f hf => hall f (List.mem_cons_of_mem found hf)) (preserveTime u text found)
      by_cases h : Repairable u found text
      · have := hall found (List.mem_cons_self ..) text h
        rw [List.foldl_cons]
        omega
      · rw [preserveTime_same u h] at hrest
        rw [List.foldl_cons, preserveTime_same u h]
        exact hrest
  constructor
  · intro hsame
    induction times with
    | nil =>
      intro _ h
      cases h
    | cons found times ih =>
      have hrest := fun f hf => hrepair f (List.mem_cons_of_mem found hf)
      have hno : ¬Repairable u found translated := by
        intro h
        have hone := hrepair found (List.mem_cons_self ..) translated h
        have hall := hle times hrest (preserveTime u translated found)
        rw [List.foldl_cons] at hsame
        rw [hsame] at hall
        omega
      rw [List.foldl_cons, preserveTime_same u hno] at hsame
      intro f hf
      rcases List.mem_cons.mp hf with rfl | hf
      · exact hno
      · exact ih hrest hsame f hf
  · intro hno
    induction times with
    | nil => rfl
    | cons found times ih =>
      rw [List.foldl_cons, preserveTime_same u (hno found (List.mem_cons_self ..))]
      exact ih (fun f hf => hrepair f (List.mem_cons_of_mem found hf))
        fun f hf => hno f (List.mem_cons_of_mem found hf)

/-- The clock times of a text: the matches of the pattern. -/
def clockTimes (text : List Char) : List (List Char) :=
  (finditer (time24Re u) text).map fun found => found.hit.taken

/-- "с 13:30 до 1:30" comes out as "from 13:30 to 13:30", although "from 13:30 to 1:30" had both times. -/
theorem time_overwritten :
    clockTimes .basic "from 13:30 to 1:30".toList = clockTimes .basic "с 13:30 до 1:30".toList
      ∧ preserve24HourTimes .basic "с 13:30 до 1:30".toList "from 13:30 to 1:30".toList
        = "from 13:30 to 13:30".toList
      ∧ "from 13:30 to 13:30".toList ≠ "from 13:30 to 1:30".toList := by
  decide +kernel

end Translator.Local
