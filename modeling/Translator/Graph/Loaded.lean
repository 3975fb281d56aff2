import Translator.Graph.Reconciled

/-! The module that comes of loading an endpoint is what its role expects: `pactl` joins the arguments
    with spaces, and a listing takes them apart again, whatever valid generation is among them. -/

namespace Translator.Graph

open Schemes
open Routing (isWhitespace)

/-- The module `pactl` loads for these arguments: the words after the name are joined. -/
def loadedModule (args : List String) : PactlModule :=
  ⟨args.getD 1 "", " ".intercalate (args.drop 2)⟩

/-! ### Arguments -/

theorem splitWhitespace_append {text word : String} (hword : ∀ c ∈ word.toList, isWhitespace c = false)
    (hne : word.toList ≠ []) :
    splitWhitespace (text ++ " " ++ word) = splitWhitespace text ++ [word] := by
  have hlist : (text ++ " " ++ word).toList = text.toList ++ ' ' :: word.toList := by simp
  unfold splitWhitespace
  rw [hlist, List.splitOnP_append_cons _ _ (by decide), List.splitOnP_eq_singleton hword,
    List.filter_append, List.map_append]
  simp [hne]

/-- A word, as it is split off. -/
def IsWord (text : String) : Prop := text.toList ≠ [] ∧ ∀ c ∈ text.toList, isWhitespace c = false

theorem splitWhitespace_intercalate {words : List String} (h : ∀ word ∈ words, IsWord word) :
    splitWhitespace (" ".intercalate words) = words := by
  induction words with
  | nil => rfl
  | cons word words ih =>
    obtain ⟨⟨hne, hword⟩, hwords⟩ := List.forall_mem_cons.mp h
    cases words with
    | nil =>
      unfold splitWhitespace
      rw [String.intercalate_singleton, List.splitOnP_eq_singleton hword]
      simp [hne]
    | cons next more =>
      have hlist : (" ".intercalate (word :: next :: more)).toList
          = word.toList ++ ' ' :: (" ".intercalate (next :: more)).toList := by
        rw [String.intercalate_cons_cons]
        simp
      have hrest := ih hwords
      unfold splitWhitespace at hrest ⊢
      rw [hlist, List.splitOnP_append_cons _ _ (by decide), List.splitOnP_eq_singleton hword,
        List.filter_append, List.map_append, hrest]
      simp [hne]

theorem mem_intercalate {words : List String} (h : ∀ word ∈ words, IsWord word) {c : Char}
    (hc : c ∈ (" ".intercalate words).toList) : c = ' ' ∨ isWhitespace c = false := by
  induction words with
  | nil => cases hc
  | cons word words ih =>
    obtain ⟨hword, hwords⟩ := List.forall_mem_cons.mp h
    cases words with
    | nil => exact .inr (hword.2 c (by simpa using hc))
    | cons next more =>
      rw [String.intercalate_cons_cons, String.toList_append, String.toList_append, List.mem_append,
        List.mem_append] at hc
      rcases hc with (hc | hc) | hc
      · exact .inr (hword.2 c hc)
      · exact .inl (by simpa using hc)
      · exact ih hwords hc

theorem splitOnce_joined {key : String} (h : '=' ∉ key.toList) (value : String) :
    splitOnce (key ++ "=" ++ value) = some (key, value) := by
  have hlist : (key ++ "=" ++ value).toList = key.toList ++ '=' :: value.toList := by simp
  have hkey : ∀ c ∈ key.toList, decide (c ≠ '=') = true := by
    intro c hc
    refine decide_eq_true fun heq => ?_
    exact h (heq ▸ hc)
  unfold splitOnce
  rw [hlist, List.span_eq_takeWhile_dropWhile, List.takeWhile_append_of_pos hkey,
    List.dropWhile_append_of_pos hkey]
  simp

theorem splitOnce_generation (generation : String) :
    splitOnce ("translator.generation=" ++ generation)
      = some ("translator.generation", generation) := by
  have hmark : "translator.generation=" = "translator.generation" ++ "=" := by decide
  rw [hmark]
  exact splitOnce_joined (by decide) generation

theorem collect_concat {K V : Type} [DecidableEq K] (pairs : List (K × V)) (key : K) (value : V) :
    collect (pairs ++ [(key, value)]) = (collect pairs).insert key value := by
  simp [collect, List.foldl_append]

/-- The words of the argument before the generation. -/
def ownWords : EndpointRole → List String
  | .micOutSink =>
    ["sink_name=translator_mic_out", "rate=48000", "channels=1", "channel_map=mono",
      "sink_properties=device.description=Translator_Mic_Out", "translator.owner=true"]
  | .virtualMicSource =>
    ["master=translator_mic_out.monitor", "source_name=translator_virtual_mic", "channels=1",
      "channel_map=mono", "remix=no", "source_properties=device.description=Translator_Virtual_Mic",
      "translator.owner=true"]
  | .remoteInSink =>
    ["sink_name=translator_remote_in", "rate=48000", "channels=2",
      "channel_map=front-left,front-right",
      "sink_properties=device.description=Translator_Remote_In", "translator.owner=true"]

theorem ownWords_isWord {role : EndpointRole} : ∀ word ∈ ownWords role, IsWord word := by
  have hwords : (ownWords role).all
      (fun word => !word.toList.isEmpty && word.toList.all (fun c => !isWhitespace c)) = true := by
    cases role <;> simp only [ownWords, List.all_cons, List.all_nil]
    -- The characters of a literal, without decoding its bytes.
    all_goals repeat rw [String.toList_ofList]
    all_goals decide
  intro word hword
  simpa [IsWord] using List.all_eq_true.mp hwords word hword

theorem ownWords_joined {role : EndpointRole} :
    ownWords role = ((expectedModule role).2 ++ [("translator.owner", "true")]).map
      (fun pair => pair.1 ++ "=" ++ pair.2) := by
  refine List.map_injective_iff.mpr (fun _ _ => String.toList_inj.mp) ?_
  cases role <;> simp only [ownWords, expectedModule, List.cons_append, List.nil_append, List.map_cons,
    List.map_nil, String.toList_append]
  all_goals repeat rw [String.toList_ofList]
  all_goals rfl

theorem ownWords_pairs {role : EndpointRole} :
    (ownWords role).filterMap splitOnce = (expectedModule role).2 ++ [("translator.owner", "true")] := by
  have hkeys : ((expectedModule role).2 ++ [("translator.owner", "true")]).all
      (fun pair => '=' ∉ pair.1.toList) = true := by
    cases role <;> simp only [expectedModule, List.cons_append, List.nil_append, List.all_cons,
      List.all_nil]
    all_goals repeat rw [String.toList_ofList]
    all_goals decide
  rw [ownWords_joined, List.filterMap_map]
  refine (List.filterMap_congr fun pair hpair => ?_).trans List.filterMap_some
  exact splitOnce_joined (by simpa using List.all_eq_true.mp hkeys pair hpair) pair.2

theorem loadedModule_argument (role : EndpointRole) (generation : String) :
    (loadedModule (loadArgs role generation)).argument
      = " ".intercalate (ownWords role) ++ " " ++ ("translator.generation=" ++ generation) := by
  have hgeneration : (loadedModule (loadArgs role generation)).argument
      = (loadedModule (loadArgs role "")).argument ++ generation := by
    cases role <;> simp only [loadedModule, loadArgs, List.drop_succ_cons, List.drop_zero,
      String.intercalate_cons_cons, String.intercalate_singleton, String.append_assoc,
      String.append_empty]
  have hwords : (loadedModule (loadArgs role "")).argument
      = " ".intercalate (ownWords role) ++ " " ++ "translator.generation=" := by
    refine String.toList_inj.mp ?_
    cases role <;> simp only [loadedModule, loadArgs, ownWords, List.drop_succ_cons, List.drop_zero,
      String.toList_append, String.toList_intercalate, List.map_cons, List.map_nil]
    all_goals repeat rw [String.toList_ofList]
    all_goals rfl
  rw [hgeneration, hwords, String.append_assoc]

theorem word_char {c : Char} (h : (c.isAlphanum || decide (c = '-')) = true) :
    isWhitespace c = false := by
  have hrange : (48 ≤ c.toNat ∧ c.toNat ≤ 57) ∨ (65 ≤ c.toNat ∧ c.toNat ≤ 90)
      ∨ (97 ≤ c.toNat ∧ c.toNat ≤ 122) ∨ c.toNat = 45 := by
    rcases Bool.or_eq_true .. ▸ h with halnum | hdash
    · change (((decide (65 ≤ c.val ∧ c.val ≤ 90)) || (decide (97 ≤ c.val) && decide (c.val ≤ 122)))
        || (decide (48 ≤ c.val) && decide (c.val ≤ 57))) = true at halnum
      simp only [Bool.or_eq_true, Bool.and_eq_true, decide_eq_true_eq, UInt32.le_iff_toNat_le] at halnum
      change ((65 ≤ c.toNat ∧ c.toNat ≤ 90) ∨ 97 ≤ c.toNat ∧ c.toNat ≤ 122)
        ∨ 48 ≤ c.toNat ∧ c.toNat ≤ 57 at halnum
      omega
    · exact .inr (.inr (.inr (congrArg Char.toNat (of_decide_eq_true hdash))))
  unfold isWhitespace
  simp only [Bool.or_eq_false_iff, Bool.and_eq_false_iff, decide_eq_false_iff_not, beq_eq_false_iff_ne]
  omega

/-- The mark of a valid generation is one word. -/
theorem validGeneration_word {generation : String} (h : validGeneration generation = true) :
    ∀ c ∈ ("translator.generation=" ++ generation).toList, isWhitespace c = false := by
  unfold validGeneration at h
  simp only [Bool.and_eq_true] at h
  intro c hc
  rw [String.toList_append, List.mem_append] at hc
  rcases hc with hc | hc
  · have hmark : "translator.generation=".toList.all (fun c => !isWhitespace c) = true := by decide
    exact Bool.not_eq_true' _ ▸ List.all_eq_true.mp hmark c hc
  · exact word_char (List.all_eq_true.mp h.2 c hc)

/-- The arguments of a module that was loaded for a role. -/
theorem loadedModule_arguments {role : EndpointRole} {generation : String}
    (h : validGeneration generation = true) :
    (loadedModule (loadArgs role generation)).arguments
      = (collect ((ownWords role).filterMap splitOnce)).insert "translator.generation" generation := by
  unfold PactlModule.arguments
  rw [loadedModule_argument, splitWhitespace_append (validGeneration_word h) (by simp),
    splitWhitespace_intercalate ownWords_isWord, List.filterMap_append, List.filterMap_cons_some (splitOnce_generation generation),
    List.filterMap_nil, collect_concat]

/-- A module that was loaded for a role is what the role expects. -/
theorem loadedModule_owned {role : EndpointRole} {generation : String}
    (h : validGeneration generation = true) :
    (loadedModule (loadArgs role generation)).Owned role generation := by
  have hother : ∀ key, key ≠ "translator.generation" →
      (loadedModule (loadArgs role generation)).arguments.lookup key
        = (collect ((ownWords role).filterMap splitOnce)).lookup key := by
    intro key hkey
    rw [loadedModule_arguments h, AList.lookup_insert_ne hkey]
  have hwords : ∀ pair ∈ (expectedModule role).2, pair.1 ≠ "translator.generation"
      ∧ (collect ((ownWords role).filterMap splitOnce)).lookup pair.1 = some pair.2 := by
    rw [ownWords_pairs]
    cases role <;> decide +kernel
  have howner : (collect ((ownWords role).filterMap splitOnce)).lookup "translator.owner"
      = some "true" := by
    rw [ownWords_pairs, collect_concat, AList.lookup_insert]
  refine ⟨?_, fun key value hmem => ?_, ?_, ?_⟩
  · cases role <;> rfl
  · obtain ⟨hne, hvalue⟩ := hwords (key, value) hmem
    rw [hother key hne]
    exact hvalue
  · rw [hother _ (by decide)]
    exact howner
  · rw [loadedModule_arguments h, AList.lookup_insert]

end Translator.Graph
