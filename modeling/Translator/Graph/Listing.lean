import Translator.Graph.Loaded

/-! A module that was loaded is known again in a listing: the parser of the listing takes its line apart as
    it was put together, and the recognisers find its role and its generation there and no others. -/

namespace Translator.Graph

open Schemes
open Routing (parseUnsigned)

/-! ### The text of a listing -/

/-- A line as `str::lines` gives it back: nothing in it or at its end reads as the end of one. -/
def IsLine (text : String) : Prop := '\n' ∉ text.toList ∧ text.toList.getLast? ≠ some '\r'

instance decidableIsLine : DecidablePred IsLine := fun _ => inferInstanceAs (Decidable (_ ∧ _))

/-- One line of `pactl list short modules`: index, name and argument, and what columns come after. -/
def moduleLine (id : Nat) (module : PactlModule) (more : List String) : String :=
  "\t".intercalate (toString id :: module.name :: module.argument :: more)

/-- What `pactl` prints: every line with its newline. -/
def listing (lines : List String) : List UInt8 :=
  (String.join (lines.map (· ++ "\n"))).toByteArray.data.toList

theorem fromUtf8_listing (text : String) : fromUtf8 text.toByteArray.data.toList = some text := by
  unfold fromUtf8 String.fromUTF8?
  rw [Array.toArray_toList]
  exact dif_pos text.isValidUTF8

theorem toList_join (lines : List String) :
    (String.join (lines.map (· ++ "\n"))).toList
      = ['\n'].intercalate (lines.map String.toList ++ [[]]) := by
  induction lines with
  | nil => rfl
  | cons line lines ih =>
    have hne : lines.map String.toList ++ [[]] ≠ [] := by simp
    rw [List.map_cons, List.map_cons, String.join_cons, String.toList_append, ih, List.cons_append,
      List.intercalate_cons_of_ne_nil hne]
    simp

theorem lines_listing {text : List String} (h : ∀ line ∈ text, IsLine line) :
    lines (String.join (text.map (· ++ "\n"))) = text := by
  have hsplit : (String.join (text.map (· ++ "\n"))).toList.splitOn '\n'
      = text.map String.toList ++ [[]] := by
    rw [toList_join]
    refine List.splitOn_intercalate '\n' ?_ (by simp)
    intro part hpart
    rcases List.mem_append.mp hpart with hpart | hpart
    · obtain ⟨line, hline, rfl⟩ := List.mem_map.mp hpart
      exact (h line hline).1
    · rw [List.mem_singleton.mp hpart]
      exact List.not_mem_nil
  unfold lines
  rw [hsplit]
  have hkept : (text.map String.toList).map stripReturn = text.map String.toList := by
    refine List.map_congr_left (g := id) ?_ |>.trans (List.map_id _)
    intro part hpart
    obtain ⟨line, hline, rfl⟩ := List.mem_map.mp hpart
    exact if_neg (h line hline).2
  simp [hkept, Function.comp_def]

theorem parseUnsigned_toString {max n : Nat} (h : n ≤ max) : parseUnsigned max (toString n) = some n := by
  have hdigits : (toString n).toList = Nat.toDigits 10 n := by
    rw [Nat.toString_eq_repr, Nat.toList_repr]
  have hall : ∀ c ∈ Nat.toDigits 10 n, c.isDigit = true :=
    fun c hc => Nat.isDigit_of_mem_toDigits (by decide) (by decide) hc
  have hvalue : (Nat.toDigits 10 n).foldl (fun n c => 10 * n + (c.toNat - '0'.toNat)) 0 = n :=
    Nat.ofDigitChars_ten_toDigits
  have hne : (Nat.toDigits 10 n).isEmpty = false := by
    simp [Nat.toDigits_ne_nil]
  unfold parseUnsigned
  rw [hdigits]
  split
  next rest hplus =>
    have hplus : '+' ∈ Nat.toDigits 10 n := by
      rw [hplus]
      exact List.mem_cons_self ..
    exact absurd (hall _ hplus) (by decide)
  next =>
    have hdigit : (Nat.toDigits 10 n).all Char.isDigit = true := List.all_eq_true.mpr hall
    simp only [hne, hdigit, hvalue, h, Bool.not_true, Bool.or_self, if_pos, Bool.false_eq_true, if_false]

/-- The first column of a line that has no tab before it. -/
theorem splitOn_intercalate_tab {column : List Char} (h : '\t' ∉ column) (more : List (List Char)) :
    ∃ rest, (['\t'].intercalate (column :: more)).splitOn '\t' = column :: rest := by
  cases more with
  | nil => exact ⟨[], by simpa using List.splitOn_eq_singleton h⟩
  | cons next more =>
    refine ⟨(['\t'].intercalate (next :: more)).splitOn '\t', ?_⟩
    rw [List.intercalate_cons_cons, List.append_assoc]
    exact List.splitOn_append_cons_self_of_not_mem h _

theorem toString_no_tab (n : Nat) : '\t' ∉ (toString n).toList := by
  intro htab
  rw [Nat.toString_eq_repr, Nat.toList_repr] at htab
  exact absurd (Nat.isDigit_of_mem_toDigits (by decide) (by decide) htab) (by decide)

/-- What is in the three columns is read back, whatever comes after them. -/
theorem parseModule_moduleLine {id : Nat} (hid : id < 2 ^ 32) {module : PactlModule}
    (hname : '\t' ∉ module.name.toList) (hargument : '\t' ∉ module.argument.toList) (more : List String) :
    parseModule (moduleLine id module more) = some (id, module) := by
  obtain ⟨rest, hrest⟩ := splitOn_intercalate_tab hargument (more.map String.toList)
  have hcolumns : (moduleLine id module more).toList.splitOn '\t'
      = (toString id).toList :: module.name.toList :: module.argument.toList :: rest := by
    unfold moduleLine
    rw [String.toList_intercalate, List.map_cons, List.map_cons, List.map_cons, List.intercalate_cons_cons,
      List.intercalate_cons_cons, List.append_assoc, List.append_assoc, ← hrest]
    refine (List.splitOn_append_cons_self_of_not_mem (toString_no_tab id) _).trans ?_
    exact congrArg _ (List.splitOn_append_cons_self_of_not_mem hname _)
  unfold parseModule
  rw [hcolumns]
  simp only [List.map_cons, String.ofList_toList, List.headD_cons,
    parseUnsigned_toString (Nat.le_sub_one_of_lt hid), Option.map_some]

theorem isLine_intercalate {columns : List String} (h : ∀ column ∈ columns, IsLine column) :
    IsLine ("\t".intercalate columns) := by
  induction columns with
  | nil => exact ⟨by simp, by simp⟩
  | cons column columns ih =>
    obtain ⟨hcolumn, hcolumns⟩ := List.forall_mem_cons.mp h
    cases columns with
    | nil => simpa using hcolumn
    | cons next more =>
      obtain ⟨hnewline, hreturn⟩ := ih hcolumns
      have hlist : ("\t".intercalate (column :: next :: more)).toList
          = column.toList ++ '\t' :: ("\t".intercalate (next :: more)).toList := by
        rw [String.intercalate_cons_cons]
        simp
      unfold IsLine
      rw [hlist]
      generalize ("\t".intercalate (next :: more)).toList = rest at hnewline hreturn
      refine ⟨by simp [hcolumn.1, hnewline], ?_⟩
      rw [List.getLast?_append_of_ne_nil _ (by simp), List.getLast?_cons]
      cases hlast : rest.getLast? with
      | none => decide
      | some c => simpa [hlast] using hreturn

/-! ### What is loaded is recognised -/

section Recognised

variable {role : EndpointRole} {generation : String}

theorem loadedModule_name (role : EndpointRole) (generation : String) :
    (loadedModule (loadArgs role generation)).name = (expectedModule role).1 := by
  cases role <;> rfl

/-- The argument has no white space in it but the blanks between its words. -/
theorem loadedModule_plain (h : validGeneration generation = true) {c : Char}
    (hc : c ∈ (loadedModule (loadArgs role generation)).argument.toList) :
    c = ' ' ∨ Routing.isWhitespace c = false := by
  rw [loadedModule_argument, String.toList_append, String.toList_append, List.mem_append, List.mem_append] at hc
  rcases hc with (hc | hc) | hc
  · exact mem_intercalate ownWords_isWord hc
  · exact .inl (by simpa using hc)
  · exact .inr (validGeneration_word h c hc)

theorem loadedModule_isLine (h : validGeneration generation = true) :
    IsLine (loadedModule (loadArgs role generation)).argument := by
  constructor
  · intro hc
    rcases loadedModule_plain h hc with hc | hc <;> revert hc <;> decide
  · intro hc
    rcases loadedModule_plain h (List.mem_of_getLast? hc) with hc | hc <;> revert hc <;> decide

/-- A module's line, from its columns. -/
theorem moduleLine_isLine {id : Nat} {module : PactlModule} {more : List String}
    (hname : IsLine module.name) (hargument : IsLine module.argument) (hmore : ∀ column ∈ more, IsLine column) :
    IsLine (moduleLine id module more) := by
  refine isLine_intercalate fun column hcolumn => ?_
  simp only [List.mem_cons] at hcolumn
  rcases hcolumn with rfl | rfl | rfl | hcolumn
  · have hdigit : ∀ c ∈ (toString id).toList, c.isDigit = true := by
      intro c hc
      rw [Nat.toString_eq_repr, Nat.toList_repr] at hc
      exact Nat.isDigit_of_mem_toDigits (by decide) (by decide) hc
    exact ⟨fun hc => absurd (hdigit _ hc) (by decide),
      fun hc => absurd (hdigit _ (List.mem_of_getLast? hc)) (by decide)⟩
  · exact hname
  · exact hargument
  · exact hmore column hcolumn

/-- The line of a loaded module. -/
theorem loadedLine_isLine (h : validGeneration generation = true) {id : Nat} {more : List String}
    (hmore : ∀ column ∈ more, IsLine column) :
    IsLine (moduleLine id (loadedModule (loadArgs role generation)) more) := by
  refine moduleLine_isLine ?_ (loadedModule_isLine h) hmore
  rw [loadedModule_name]
  cases role <;> decide +kernel

theorem parseModule_loadedLine (h : validGeneration generation = true) {id : Nat} (hid : id < 2 ^ 32)
    (more : List String) :
    parseModule (moduleLine id (loadedModule (loadArgs role generation)) more)
      = some (id, loadedModule (loadArgs role generation)) := by
  refine parseModule_moduleLine hid ?_ ?_ more
  · rw [loadedModule_name]
    cases role <;> decide +kernel
  · intro hc
    rcases loadedModule_plain h hc with hc | hc <;> revert hc <;> decide

/-- A listing is read line by line. -/
theorem parseModules_listing {lines : List String} (hlines : ∀ line ∈ lines, IsLine line) :
    parseModules (listing lines) = some (collect (lines.filterMap parseModule)) := by
  unfold parseModules listing
  rw [fromUtf8_listing, Option.map_some, lines_listing hlines]

/-- Whatever is listed before it, the last module of an index stays. -/
theorem lookup_collect {V : Type} (before : List (Nat × V)) (id : Nat) (value : V) {after : List (Nat × V)}
    (h : ∀ pair ∈ after, pair.1 ≠ id) : (collect (before ++ (id, value) :: after)).lookup id = some value := by
  induction after using List.reverseRecOn with
  | nil =>
    rw [collect_concat]
    exact AList.lookup_insert _
  | append_singleton after last ih =>
    have hlast := h last (by simp)
    rw [← List.cons_append, ← List.append_assoc, collect_concat, AList.lookup_insert_ne hlast.symm]
    exact ih fun pair hpair => h pair (List.mem_append_left _ hpair)

/-- The module is found under its index as it was loaded. -/
theorem listing_lookup (h : validGeneration generation = true) {id : Nat} (hid : id < 2 ^ 32)
    {before more after : List String} (hlines : ∀ line ∈ before ++ more ++ after, IsLine line)
    (hlater : ∀ line ∈ after, (parseModule line).all (fun entry => entry.1 ≠ id) = true) :
    ∃ modules, parseModules (listing
        (before ++ moduleLine id (loadedModule (loadArgs role generation)) more :: after)) = some modules
      ∧ modules.lookup id = some (loadedModule (loadArgs role generation)) := by
  have hcolumns : ∀ line ∈ before ++ moduleLine id (loadedModule (loadArgs role generation)) more :: after,
      IsLine line := by
    intro line hline
    rcases List.mem_append.mp hline with hline | hline
    · exact hlines line (by simp [hline])
    rcases List.mem_cons.mp hline with rfl | hline
    · exact loadedLine_isLine h fun column hcolumn => hlines column (by simp [hcolumn])
    · exact hlines line (by simp [hline])
  have hline := @parseModule_loadedLine role generation h id hid more
  refine ⟨collect (before.filterMap parseModule
    ++ (id, loadedModule (loadArgs role generation)) :: after.filterMap parseModule), ?_, ?_⟩
  · rw [parseModules_listing hcolumns, List.filterMap_append, List.filterMap_cons_some hline]
  · refine lookup_collect _ _ _ fun pair hpair => ?_
    obtain ⟨line, hmem, hparse⟩ := List.mem_filterMap.mp hpair
    have hother := hlater line hmem
    rw [hparse] at hother
    simpa using hother

theorem loadedModule_matches (h : validGeneration generation = true) (role' : EndpointRole)
    (generation' : String) :
    moduleMatches role' (loadedModule (loadArgs role generation)) generation' = true
      ↔ role = role' ∧ generation = generation' := by
  have howned : (loadedModule (loadArgs role generation)).Owned role generation := loadedModule_owned h
  rw [moduleMatches_iff]
  constructor
  · intro howned'
    have hgeneration : generation = generation' :=
      Option.some.inj (howned.generation.symm.trans howned'.generation)
    subst hgeneration
    exact ⟨owned_role howned howned', rfl⟩
  · rintro ⟨rfl, rfl⟩
    exact howned

theorem loadedModule_claimed (h : validGeneration generation = true) :
    moduleClaimedRole (loadedModule (loadArgs role generation)) generation = some role := by
  have howned : (loadedModule (loadArgs role generation)).Owned role generation := loadedModule_owned h
  have hother : ∀ key, key ≠ "translator.generation" →
      (loadedModule (loadArgs role generation)).arguments.lookup key
        = (collect ((ownWords role).filterMap splitOnce)).lookup key := by
    intro key hkey
    rw [loadedModule_arguments h, AList.lookup_insert_ne hkey]
  unfold moduleClaimedRole
  simp only [howned.owner, howned.generation, ne_eq, not_true_eq_false, decide_false, Bool.or_self,
    Bool.false_eq_true, if_false]
  rw [hother "sink_name" (by decide), hother "source_name" (by decide), ownWords_pairs]
  cases role <;> decide +kernel

/-- A loaded module is listed as what its role expects, for its generation, and for no other role or
    generation. -/
theorem listed_recognised (role role' : EndpointRole) {generation : String} (generation' : String)
    (h : validGeneration generation = true) {id : Nat} (hid : id < 2 ^ 32)
    {before more after : List String} (hlines : ∀ line ∈ before ++ more ++ after, IsLine line)
    (hlater : ∀ line ∈ after, (parseModule line).all (fun entry => entry.1 ≠ id) = true) :
    ∃ modules module, parseModules (listing
        (before ++ moduleLine id (loadedModule (loadArgs role generation)) more :: after)) = some modules
      ∧ modules.lookup id = some module
      ∧ (moduleMatches role' module generation' = true ↔ role = role' ∧ generation = generation')
      ∧ moduleClaimedRole module generation = some role := by
  obtain ⟨modules, hparse, hlookup⟩ := @listing_lookup role generation h id hid before more after hlines hlater
  exact ⟨modules, _, hparse, hlookup, loadedModule_matches h role' generation', loadedModule_claimed h⟩

/-- Between two modules of others, with the column that `pactl` leaves empty at the end of a line. -/
theorem listed_recognised_between :
    ∃ modules module, parseModules (listing
        (["1\tmodule-x11-bell\tsample=bell"] ++ moduleLine 7 (loadedModule (loadArgs .remoteInSink "a-1")) [""]
          :: ["8\tmodule-null-sink\tsink_name=other\t"])) = some modules
      ∧ modules.lookup 7 = some module
      ∧ (moduleMatches .micOutSink module "a-2" = true ↔ EndpointRole.remoteInSink = .micOutSink ∧ "a-1" = "a-2")
      ∧ moduleClaimedRole module "a-1" = some .remoteInSink :=
  listed_recognised .remoteInSink .micOutSink "a-2" (by decide +kernel) (by decide) (by decide +kernel)
    (by decide +kernel)

end Recognised

end Translator.Graph
