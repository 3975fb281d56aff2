import Translator.Graph.Ownership

/-! What reconciling comes to. A journal that is reconciled with a listing names every listed module that
    is what a role expects, of its generation, each under its role and no two under one. -/

namespace Translator.Graph

open Schemes

/-! ### Knowing a module -/

/-- The module is what the role expects, with its owner and this generation. -/
structure PactlModule.Owned (module : PactlModule) (role : EndpointRole) (generation : String) :
    Prop where
  name : module.name = (expectedModule role).1
  required : ∀ key value, (key, value) ∈ (expectedModule role).2 →
    module.arguments.lookup key = some value
  owner : module.arguments.lookup "translator.owner" = some "true"
  generation : module.arguments.lookup "translator.generation" = some generation

theorem moduleMatches_iff {role : EndpointRole} {module : PactlModule} {generation : String} :
    moduleMatches role module generation = true ↔ module.Owned role generation := by
  unfold moduleMatches
  simp only [Bool.and_eq_true, decide_eq_true_eq, List.all_eq_true, Prod.forall]
  constructor
  · rintro ⟨⟨⟨hname, hrequired⟩, howner⟩, hgeneration⟩
    exact ⟨hname, hrequired, howner, hgeneration⟩
  · rintro ⟨hname, hrequired, howner, hgeneration⟩
    exact ⟨⟨⟨hname, hrequired⟩, howner⟩, hgeneration⟩

theorem PactlModule.Owned.moduleMatches {role : EndpointRole} {module : PactlModule}
    {generation : String} (h : module.Owned role generation) :
    moduleMatches role module generation = true := moduleMatches_iff.mpr h

/-- The name of a role's endpoint is among the arguments it requires, and those of the others are not. -/
theorem owned_role {role role' : EndpointRole} {module : PactlModule} {generation : String}
    (h : module.Owned role generation) (h' : module.Owned role' generation) : role = role' := by
  have hname := h.name.symm.trans h'.name
  have hsink : ∀ {r : EndpointRole} {value : String}, module.Owned r generation →
      ("sink_name", value) ∈ (expectedModule r).2 →
      module.arguments.lookup "sink_name" = some value := fun hr hmem => hr.required _ _ hmem
  cases role <;> cases role' <;> first
    | rfl
    | exact absurd hname (by decide)
    | exact absurd (Option.some.inj ((hsink h (List.mem_cons_self ..)).symm.trans
        (hsink h' (List.mem_cons_self ..)))) (by decide)

/-! ### One role at a time -/

variable {generation : String} {modules : Modules} {raw : RawGraph}

/-- Each module of the journal is listed as what its role expects. -/
def Listed (modules : Modules) (journal : OwnershipJournal) : Prop :=
  ∀ owned ∈ journal.modules, ∃ module, modules.lookup owned.moduleId = some module
    ∧ module.Owned owned.role journal.generation

/-- The journal grows, and its modules stay listed. -/
structure Grows (modules : Modules) (before after : OwnershipJournal) : Prop where
  generation : after.generation = before.generation
  keeps : ∀ owned ∈ before.modules, owned ∈ after.modules
  listed : Listed modules before → Listed modules after

theorem Grows.refl (journal : OwnershipJournal) : Grows modules journal journal :=
  ⟨rfl, fun _ h => h, id⟩

theorem Grows.trans {a b c : OwnershipJournal} (h : Grows modules a b) (h' : Grows modules b c) :
    Grows modules a c :=
  ⟨h'.generation.trans h.generation, fun o ho => h'.keeps o (h.keeps o ho),
    fun hl => h'.listed (h.listed hl)⟩

theorem mem_of_moduleFor {journal : OwnershipJournal} {role : EndpointRole} {moduleId : Nat}
    (h : journal.moduleFor role = some moduleId) : ⟨role, moduleId⟩ ∈ journal.modules := by
  obtain ⟨owned, howned, rfl⟩ := Option.map_eq_some_iff.mp h
  obtain rfl : owned.role = role := by simpa using List.find?_some howned
  exact List.mem_of_find?_eq_some howned

/-- A claim that stands is in the journal. -/
theorem claimRole_grows {before after : OwnershipJournal} {role : EndpointRole} {moduleId : Nat}
    {module : PactlModule} (h : claimRole before role moduleId = some after)
    (hmodule : modules.lookup moduleId = some module) (howned : module.Owned role before.generation) :
    Grows modules before after ∧ ⟨role, moduleId⟩ ∈ after.modules := by
  unfold claimRole at h
  split at h
  · next journalId hjournal =>
    split at h
    · next heq =>
      obtain rfl := Option.some.inj h
      exact ⟨Grows.refl _, heq ▸ mem_of_moduleFor hjournal⟩
    · cases h
  · obtain rfl := Option.some.inj h
    refine ⟨⟨rfl, fun o ho => List.mem_append_left _ ho, fun hlisted o ho => ?_⟩,
      List.mem_append_right _ (List.mem_singleton_self _)⟩
    rcases List.mem_append.mp ho with ho | ho
    · exact hlisted o ho
    · obtain rfl := List.mem_singleton.mp ho
      exact ⟨module, hmodule, howned⟩

theorem mem_matchingIds {role : EndpointRole} {moduleId : Nat} :
    moduleId ∈ matchingIds generation modules role
      ↔ ∃ module, modules.lookup moduleId = some module ∧ module.Owned role generation := by
  unfold matchingIds
  simp only [List.mem_map, List.mem_filter, moduleMatches_iff]
  constructor
  · rintro ⟨⟨i, module⟩, ⟨hmem, howned⟩, rfl⟩
    exact ⟨module, AList.mem_lookup_iff.mpr hmem, howned⟩
  · rintro ⟨module, hmodule, howned⟩
    exact ⟨⟨moduleId, module⟩, ⟨AList.mem_lookup_iff.mp hmodule, howned⟩, rfl⟩

/-- The role has one module at most, and the journal names it. -/
structure Settled (modules : Modules) (journal : OwnershipJournal) (role : EndpointRole) : Prop where
  one : (matchingIds journal.generation modules role).length ≤ 1
  named : ∀ moduleId ∈ matchingIds journal.generation modules role,
    ⟨role, moduleId⟩ ∈ journal.modules

theorem Settled.grows {before after : OwnershipJournal} {role : EndpointRole}
    (h : Settled modules before role) (hgrows : Grows modules before after) :
    Settled modules after role := by
  refine ⟨hgrows.generation ▸ h.one, fun moduleId hid => hgrows.keeps _ (h.named moduleId ?_)⟩
  rw [← hgrows.generation]
  exact hid

theorem adoptMatching_grows {before after : OwnershipJournal} {role : EndpointRole}
    (h : adoptMatching modules before role = some after) :
    Grows modules before after ∧ Settled modules after role := by
  unfold adoptMatching at h
  split at h
  · next hnone =>
    obtain rfl := Option.some.inj h
    refine ⟨Grows.refl _, ?_, fun moduleId hid => ?_⟩
    · rw [hnone]
      exact Nat.zero_le 1
    · rw [hnone] at hid
      cases hid
  · next moduleId hone =>
    obtain ⟨module, hmodule, howned⟩ := mem_matchingIds.mp
      (hone ▸ List.mem_singleton_self moduleId :
        moduleId ∈ matchingIds before.generation modules role)
    obtain ⟨hgrows, hmem⟩ := claimRole_grows h hmodule howned
    refine ⟨hgrows, ?_, fun i hi => ?_⟩
    · rw [hgrows.generation, hone]
      exact Nat.le_refl 1
    · rw [hgrows.generation, hone] at hi
      obtain rfl := List.mem_singleton.mp hi
      exact hmem
  · cases h

theorem adoptEndpoint_grows {before after : OwnershipJournal} {role : EndpointRole}
    (h : adoptEndpoint raw modules before role = some after) : Grows modules before after := by
  unfold adoptEndpoint at h
  split at h
  · obtain rfl := Option.some.inj h
    exact Grows.refl _
  · split at h
    · cases h
    · next module hmodule =>
      split at h
      · next hmatches => exact (claimRole_grows h hmodule (moduleMatches_iff.mp hmatches)).1
      · cases h

/-! ### All of them -/

theorem foldlM_grows {step : OwnershipJournal → EndpointRole → Option OwnershipJournal}
    (hstep : ∀ before after role, step before role = some after → Grows modules before after) :
    ∀ (roles : List EndpointRole) (before after : OwnershipJournal),
      roles.foldlM step before = some after → Grows modules before after := by
  intro roles
  induction roles with
  | nil =>
    intro before after h
    obtain rfl := Option.some.inj h
    exact Grows.refl _
  | cons role roles ih =>
    intro before after h
    obtain ⟨middle, hmiddle, hrest⟩ := Option.bind_eq_some_iff.mp h
    exact (hstep before middle role hmiddle).trans (ih middle after hrest)

theorem foldlM_settles : ∀ (roles : List EndpointRole) (before after : OwnershipJournal),
    roles.foldlM (adoptMatching modules) before = some after →
    ∀ role ∈ roles, Settled modules after role := by
  intro roles
  induction roles with
  | nil => exact fun _ _ _ _ h => absurd h List.not_mem_nil
  | cons role roles ih =>
    intro before after h other hother
    obtain ⟨middle, hmiddle, hrest⟩ := Option.bind_eq_some_iff.mp h
    rcases List.mem_cons.mp hother with rfl | hother
    · exact (adoptMatching_grows hmiddle).2.grows
        (foldlM_grows (fun _ _ _ h => (adoptMatching_grows h).1) _ _ _ hrest)
    · exact ih middle after hrest other hother

theorem keepOwned_listed : ∀ {owned kept : List OwnedModule},
    keepOwned generation modules owned = some kept → ∀ o ∈ kept,
    ∃ module, modules.lookup o.moduleId = some module ∧ module.Owned o.role generation := by
  intro owned
  induction owned with
  | nil =>
    intro kept h o ho
    obtain rfl := Option.some.inj h
    cases ho
  | cons first rest ih =>
    intro kept h o ho
    unfold keepOwned at h
    split at h
    · next module hmodule =>
      split at h
      · next hmatches =>
        obtain ⟨kept', hkept', rfl⟩ := Option.map_eq_some_iff.mp h
        rcases List.mem_cons.mp ho with rfl | ho
        · exact ⟨module, hmodule, moduleMatches_iff.mp hmatches⟩
        · exact ih hkept' o ho
      · cases h
    · exact ih h o ho

/-- The reconciled journal: of the same generation, of listed modules, and all of them. -/
theorem reconcileOwnership_spec {journal reconciled : OwnershipJournal} {code : AudioGraphErrorCode}
    (h : reconcileOwnership raw journal modules code = .ok reconciled) :
    reconciled.generation = journal.generation ∧ reconciled.validate = true
      ∧ Listed modules reconciled ∧ ∀ role, Settled modules reconciled role := by
  unfold reconcileOwnership at h
  split at h
  · cases h
  · next adopted hadopted =>
    dsimp only at h
    split at h
    case isFalse => cases h
    case isTrue hvalid =>
      cases h
      unfold adoptAll at hadopted
      obtain ⟨kept, hkept, hrest⟩ := Option.bind_eq_some_iff.mp hadopted
      split at hrest
      case isTrue => cases hrest
      case isFalse =>
        obtain ⟨matched, hmatched, hends⟩ := Option.bind_eq_some_iff.mp hrest
        have hgrows := foldlM_grows (fun _ _ _ h => (adoptMatching_grows h).1) _ _ _ hmatched
        have hgrows' := foldlM_grows (fun _ _ _ h => adoptEndpoint_grows h) _ _ _ hends
        have hmem : ∀ o, o ∈ sortByRole adopted.modules ↔ o ∈ adopted.modules := fun o =>
          (List.perm_insertionSort _ _).mem_iff
        refine ⟨(hgrows.trans hgrows').generation, hvalid, fun o ho => ?_, fun role => ?_⟩
        · exact (hgrows.trans hgrows').listed (keepOwned_listed hkept) o ((hmem o).mp ho)
        · have hsettled := (foldlM_settles _ _ _ hmatched role (EndpointRole.mem_order role)).grows
            hgrows'
          exact ⟨hsettled.one, fun i hi => (hmem _).mpr (hsettled.named i hi)⟩

end Translator.Graph
