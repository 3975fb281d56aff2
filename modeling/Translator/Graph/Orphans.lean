import Translator.Graph.Server

/-! No module is left behind. The generation is in the journal before a module of it is loaded, and the
    journal goes only when none is left, so wherever a process dies, and whatever its commands come to,
    the next one finds every module that is still there. -/

namespace Translator.Graph

open Schemes
open Routing (JournalFile)

/-! ### What is loaded -/

/-- No module is the translator's. -/
def Clear (modules : Modules) : Prop := ∀ i module, modules.lookup i = some module → Foreign module

/-- The translator's modules are of this generation. -/
def OfGeneration (g : String) (modules : Modules) : Prop :=
  ∀ i module, modules.lookup i = some module → Foreign module ∨ ∃ role, module.Owned role g

/-- The translator's modules are among these. -/
def Tracked (owned : List OwnedModule) (modules : Modules) : Prop :=
  ∀ i module, modules.lookup i = some module → Foreign module ∨ ∃ o ∈ owned, o.moduleId = i

/-- The translator's modules are these, each what its role expects. -/
structure Exactly (g : String) (owned : List OwnedModule) (modules : Modules) : Prop where
  tracked : Tracked owned modules
  loaded : ∀ o ∈ owned, ∃ module, modules.lookup o.moduleId = some module ∧ module.Owned o.role g

/-- Each role has its one module, and every module of the translator's is one of these. -/
structure Complete (g : String) (modules : Modules) : Prop where
  one : ∀ role, ∃ i module, modules.lookup i = some module ∧ module.Owned role g
    ∧ ∀ j other, modules.lookup j = some other → other.Owned role g → j = i
  rest : OfGeneration g modules

/-- A fresh process finds every module of the translator's: there is none, or the journal has their
    generation. -/
def Covered (codec : GraphCodec) (s : Station) : Prop :=
  Clear s.modules ∨ ∃ g, OfGeneration g s.modules ∧ Holds codec s.journal g

variable {host : Host} {s s' : Station} {g : String} {modules : Modules}

theorem Clear.ofGeneration (h : Clear modules) (g : String) : OfGeneration g modules :=
  fun i module hmodule => .inl (h i module hmodule)

theorem clear_of_tracked (h : Tracked [] modules) : Clear modules := by
  intro i module hmodule
  rcases h i module hmodule with hforeign | ⟨o, ho, -⟩
  · exact hforeign
  · cases ho

theorem Exactly.ofGeneration {owned : List OwnedModule} (h : Exactly g owned modules) :
    OfGeneration g modules := by
  intro i module hmodule
  rcases h.tracked i module hmodule with hforeign | ⟨o, ho, rfl⟩
  · exact .inl hforeign
  · obtain ⟨module', hmodule', howned⟩ := h.loaded o ho
    obtain rfl := Option.some.inj (hmodule.symm.trans hmodule')
    exact .inr ⟨o.role, howned⟩

theorem lookup_erase_some {i j : Nat} {module : PactlModule}
    (h : (modules.erase j).lookup i = some module) : i ≠ j ∧ modules.lookup i = some module := by
  rw [Table.lookup_erase_if] at h
  split at h
  · cases h
  · next hne => exact ⟨hne, h⟩

theorem exactly_insert {owned : List OwnedModule} {i : Nat} {role : EndpointRole}
    (h : Exactly g owned modules) (hfresh : modules.lookup i = none)
    (hvalid : validGeneration g = true) :
    Exactly g (⟨role, i⟩ :: owned) (modules.insert i (loadedModule (loadArgs role g))) := by
  constructor
  · intro j other hother
    rw [Table.lookup_insert_if] at hother
    split at hother
    · next heq => exact .inr ⟨_, List.mem_cons_self, heq.symm⟩
    · exact (h.tracked j other hother).imp_right fun ⟨o, ho, hid⟩ => ⟨o, List.mem_cons_of_mem _ ho, hid⟩
  · intro o ho
    rcases List.mem_cons.mp ho with rfl | ho
    · exact ⟨_, AList.lookup_insert _, loadedModule_owned hvalid⟩
    · obtain ⟨module, hmodule, howned⟩ := h.loaded o ho
      refine ⟨module, ?_, howned⟩
      rw [AList.lookup_insert_ne]
      · exact hmodule
      · rintro rfl
        rw [hfresh] at hmodule
        cases hmodule

/-- One module for each of the roles. -/
theorem complete_of_exactly {newest : List OwnedModule} (h : Exactly g newest modules)
    (hroles : newest.map OwnedModule.role = EndpointRole.order.reverse) : Complete g modules := by
  refine ⟨fun role => ?_, h.ofGeneration⟩
  have hmem : role ∈ newest.map OwnedModule.role := by
    rw [hroles]
    exact List.mem_reverse.mpr (EndpointRole.mem_order role)
  have hnodup : (newest.map OwnedModule.role).Nodup := by
    rw [hroles]
    decide
  obtain ⟨o, ho, rfl⟩ := List.mem_map.mp hmem
  obtain ⟨module, hmodule, howned⟩ := h.loaded o ho
  refine ⟨o.moduleId, module, hmodule, howned, fun j other hother hother' => ?_⟩
  rcases h.tracked j other hother with hforeign | ⟨o', ho', rfl⟩
  · exact absurd hforeign hother'.not_foreign
  · obtain ⟨other', hlookup, hrole⟩ := h.loaded o' ho'
    obtain rfl := Option.some.inj (hother.symm.trans hlookup)
    rw [List.inj_on_of_nodup_map hnodup ho' ho (owned_role hrole hother')]

theorem ofGeneration_stable (hvalid : validGeneration g = true) : Stable g (OfGeneration g) := by
  constructor
  · intro modules j module role hs _ _ i other hother
    exact hs i other (lookup_erase_some hother).2
  · intro modules j role hs _ i other hother
    rw [Table.lookup_insert_if] at hother
    split at hother
    · obtain rfl := Option.some.inj hother
      exact .inr ⟨role, loadedModule_owned hvalid⟩
    · exact hs i other hother

/-- A journal that is there has a valid generation. -/
theorem validGeneration_of_holds {codec : GraphCodec} {file : Option JournalFile}
    (h : Holds codec file g) : validGeneration g = true := by
  obtain ⟨journal, hdecode, rfl⟩ := h
  unfold decodeJournal at hdecode
  split at hdecode
  · cases hdecode
  · split at hdecode
    · cases hdecode
    · split at hdecode
      · cases hdecode
      · split at hdecode
        · next hvalidate =>
          cases hdecode
          unfold OwnershipJournal.validate at hvalidate
          simp only [Bool.and_eq_true] at hvalidate
          exact hvalidate.1.1.2
        · cases hdecode

theorem covered_of {codec : GraphCodec} (hjournaled : Journaled codec (some g) s)
    (h : OfGeneration g s.modules) : Covered codec s := .inr ⟨g, h, hjournaled.holds⟩

/-! ### Cleaning up -/

section Reflected

variable (hr : host.Reflects)

include hr

/-- One turn leaves of the modules those with another index. -/
theorem cleanupModule_removes {module : OwnedModule} :
    (cleanupModule host g module).wp ⟨fun _ s' => ∀ i other, s'.modules.lookup i = some other →
      i ≠ module.moduleId ∧ s.modules.lookup i = some other, fun _ _ => True, fun _ => True⟩ s := by
  unfold cleanupModule
  rw [Call.wp_bind]
  refine inspectModules_wp hr (fun listed s₁ hs₁ hlisted => ?_) (fun _ _ _ => trivial) fun _ _ => trivial
  dsimp only
  cases hmodule : listed.lookup module.moduleId with
  | none =>
    have hthere : ∀ i other, s₁.modules.lookup i = some other →
        i ≠ module.moduleId ∧ s.modules.lookup i = some other := by
      intro i other hother
      rw [Station.still_modules hs₁] at hother
      refine ⟨?_, hother⟩
      rintro rfl
      rw [← hlisted, hmodule] at hother
      cases hother
    exact hthere
  | some discovered =>
    dsimp only
    split
    · rw [Call.wp_bind, Call.wp_mapErr]
      refine unloadModule_wp hr (fun s₂ _ herased i other hother => ?_)
        (fun _ _ _ _ => trivial) fun _ _ _ => trivial
      rw [herased] at hother
      rw [← Station.still_modules hs₁]
      exact lookup_erase_some hother
    · trivial

/-- One turn takes its module off the list. -/
theorem cleanupModule_tracks {module : OwnedModule} {rest : List OwnedModule}
    (hs : Tracked (module :: rest) s.modules) :
    (cleanupModule host g module).wp ⟨fun _ s' => Tracked rest s'.modules, fun _ _ => True,
      fun _ => True⟩ s := by
  refine Call.wp_mono (cleanupModule_removes hr) (fun _ s' hs' i other hother => ?_) (fun _ _ h => h)
    fun _ h => h
  obtain ⟨hne, hother⟩ := hs' i other hother
  rcases hs i other hother with hforeign | ⟨o, ho, hid⟩
  · exact .inl hforeign
  · rcases List.mem_cons.mp ho with rfl | ho
    · exact absurd hid.symm hne
    · exact .inr ⟨o, ho, hid⟩

omit hr in
/-- With nothing left to find, the journal may go. -/
theorem cleanupModules_last (unloaded : List Nat) (hs : Clear s.modules) :
    (cleanupModules host g unloaded []).wp ⟨fun _ s' => Clear s'.modules, fun _ s' => Clear s'.modules,
      fun s' => Clear s'.modules⟩ s :=
  Call.maintains_bind (stays_of_keeps removeJournal_modules) (fun _ => Call.maintains_pure _) s hs

/-- The journal goes only when no module is left. -/
theorem cleanupModules_clears {newest : List OwnedModule} (unloaded : List Nat)
    (hs : Journaled host.codec (some g) s) (hgeneration : OfGeneration g s.modules)
    (htracked : Tracked newest s.modules) :
    (cleanupModules host g unloaded newest).wp ⟨fun _ s' => Clear s'.modules,
      fun _ => Covered host.codec, Covered host.codec⟩ s := by
  have hstable := ofGeneration_stable (validGeneration_of_holds hs.holds)
  have hlast : ∀ (unloaded : List Nat) (s : Station), Clear s.modules →
      (cleanupModules host g unloaded []).wp ⟨fun _ s' => Clear s'.modules, fun _ => Covered host.codec,
        Covered host.codec⟩ s := fun unloaded s h =>
    Call.wp_mono (cleanupModules_last unloaded h) (fun _ _ h => h) (fun _ _ h => .inl h) fun _ h => .inl h
  induction newest generalizing unloaded s with
  | nil => exact hlast unloaded s (clear_of_tracked htracked)
  | cons module rest ih =>
    unfold cleanupModules
    rw [Call.wp_bind]
    refine Call.wp_mono (Call.wp_and (upright_cleanupModule module s hs)
      (Call.wp_and (stays_cleanupModule hr hstable module s hgeneration)
        (cleanupModule_tracks hr htracked))) ?_ (fun _ _ h => covered_of h.1 h.2.1)
      fun _ h => covered_of h.1 h.2.1
    rintro more s₁ ⟨hs₁, hgeneration₁, htracked₁⟩
    dsimp only
    split
    · next hrest =>
      obtain rfl : rest = [] := by simpa using hrest
      have hclear := clear_of_tracked htracked₁
      rw [Call.wp_bind]
      exact Call.wp_mono (stays_of_keeps removeJournal_modules s₁ hclear)
        (fun _ s₂ hs₂ => hlast _ s₂ hs₂) (fun _ _ h => .inl h) fun _ h => .inl h
    · rw [Call.wp_bind]
      have hsave := Call.wp_and (upright_saveOwnership rest s₁ hs₁)
        (@stays_of_keeps (fun modules => OfGeneration g modules ∧ Tracked rest modules) _ _
          (@saveJournal_modules host (ownership g rest)) s₁ ⟨hgeneration₁, htracked₁⟩)
      refine Call.wp_mono hsave (fun _ s₂ hs₂ => ih _ hs₂.1 hs₂.2.1 hs₂.2.2)
        (fun _ _ h => covered_of h.1 h.2.1) fun _ h => covered_of h.1 h.2.1

/-! ### Making the endpoints -/

omit hr in
/-- A roll back ends in an error. -/
theorem rollBack_wp {α : Type} {newest : List OwnedModule} {error : AudioGraphError}
    {post : Call.Post Station AudioGraphError α} (herr : ∀ e s, post.err e s)
    (hcrash : ∀ s, post.crash s) : (rollBack host g newest error).wp post s :=
  @Call.wp_bind_of_last _ _ _ _ _ (fun _ => Call.fail error) post (fun _ => herr error) herr hcrash s

/-- What each load and the save after it keep holds when all the roles have their modules. -/
theorem createModules_wp {I : List OwnedModule → Station → Prop} {newest : List OwnedModule}
    {roles : List EndpointRole} (hs : I newest s)
    (hstep : ∀ newest role i (s s' : Station), I newest s → s.modules.lookup i = none →
      s'.modules = s.modules.insert i (loadedModule (loadArgs role g)) →
      decodeJournal host.codec s'.journal = .ok (some (ownership g (⟨role, i⟩ :: newest))) →
      I (⟨role, i⟩ :: newest) s') :
    (createModules host g newest roles).wp ⟨fun newest' s' => I newest' s'
        ∧ newest'.map OwnedModule.role = roles.reverse ++ newest.map OwnedModule.role,
      fun _ _ => True, fun _ => True⟩ s := by
  induction roles generalizing newest s with
  | nil => exact ⟨hs, rfl⟩
  | cons role roles ih =>
    unfold createModules
    rw [Call.wp_bind, Call.wp_attempt]
    refine loadEndpoint_wp hr (fun i s₁ _ hfresh hinsert => ?_)
      (fun _ _ _ _ => rollBack_wp (fun _ _ => trivial) fun _ => trivial) fun _ _ _ => trivial
    dsimp only
    rw [Call.wp_bind, Call.wp_attempt]
    refine saveJournal_wp (fun _ => rollBack_wp (fun _ _ => trivial) fun _ => trivial) trivial
      (fun _ _ _ _ _ => rollBack_wp (fun _ _ => trivial) fun _ => trivial)
      fun s₂ hvalid hmodules _ hjournal => ?_
    have hs₂ : I (⟨role, i⟩ :: newest) s₂ :=
      hstep newest role i s s₂ hs hfresh (hmodules.trans hinsert) (hjournal ▸ holds_saved hvalid)
    refine Call.wp_mono (ih hs₂) ?_ (fun _ _ h => h) fun _ h => h
    rintro newest' s' ⟨hs', hroles⟩
    refine ⟨hs', ?_⟩
    rw [hroles]
    simp

theorem createModules_exactly {newest : List OwnedModule} {roles : List EndpointRole}
    (hvalid : validGeneration g = true) (hs : Exactly g newest s.modules) :
    (createModules host g newest roles).wp ⟨fun newest' s' => Exactly g newest' s'.modules
        ∧ newest'.map OwnedModule.role = roles.reverse ++ newest.map OwnedModule.role,
      fun _ _ => True, fun _ => True⟩ s :=
  createModules_wp hr hs fun _ _ _ _ _ h hfresh hinsert _ => hinsert ▸ exactly_insert h hfresh hvalid

theorem createJournaled_complete (hs : Journaled host.codec (some g) s) (hclear : Clear s.modules) :
    (createJournaled host g).wp ⟨fun _ s' => Complete g s'.modules, fun _ _ => True, fun _ => True⟩ s := by
  have hvalid := validGeneration_of_holds hs.holds
  have hnone : Exactly g [] s.modules := ⟨fun i module h => .inl (hclear i module h), nofun⟩
  unfold createJournaled
  rw [Call.wp_bind]
  refine Call.wp_mono (createModules_exactly hr hvalid hnone) ?_ (fun _ _ h => h) fun _ h => h
  rintro newest s₁ ⟨hs₁, hroles⟩
  have hcomplete := complete_of_exactly hs₁ (by simpa using hroles)
  dsimp only
  rw [Call.wp_bind, Call.wp_attempt]
  refine Call.wp_of_keeps (inspectRaw_still hr) (fun raw s₂ hs₂ => ?_)
    (fun _ _ _ => rollBack_wp (fun _ _ => trivial) fun _ => trivial) fun _ _ => trivial
  dsimp only
  split
  · exact rollBack_wp (fun _ _ => trivial) fun _ => trivial
  · have hthere : Complete g s₂.modules := Station.still_modules hs₂ ▸ hcomplete
    exact hthere

/-- What a fresh process comes to when it has made sure of the endpoints. -/
def Provided (codec : GraphCodec) (s : Station) : Prop :=
  ∃ g, Complete g s.modules ∧ Holds codec s.journal g

/-- The endpoints are made where there are none. -/
theorem createEndpoints_provides (hs : Journaled host.codec none s) (hclear : Clear s.modules)
    (next : String) :
    (createEndpoints host next).wp ⟨fun _ => Provided host.codec, fun _ => Covered host.codec,
      Covered host.codec⟩ s := by
  unfold createEndpoints
  rw [Call.wp_bind]
  refine saveJournal_wp (fun _ => .inl hclear) (.inl hclear) (fun _ s' h _ _ => .inl (h ▸ hclear))
    fun s₁ hvalid hmodules hissued hjournal => ?_
  have hs₁ : Journaled host.codec (some next) s₁ := by
    refine ⟨hissued ▸ hs.1, ?_⟩
    rintro _ ⟨⟩
    exact ⟨_, hjournal ▸ holds_saved hvalid, rfl⟩
  have hclear₁ : Clear s₁.modules := hmodules ▸ hclear
  have hstable := ofGeneration_stable (validGeneration_of_holds hs₁.holds)
  refine Call.wp_mono (Call.wp_and (upright_createJournaled s₁ hs₁)
    (Call.wp_and (stays_createJournaled hr hstable s₁ (hclear₁.ofGeneration next))
      (createJournaled_complete hr hs₁ hclear₁))) ?_ (fun _ _ h => covered_of h.1 h.2.1)
    fun _ h => covered_of h.1 h.2.1
  rintro _ s₂ ⟨hs₂, -, hcomplete⟩
  exact ⟨next, hcomplete, hs₂.holds⟩

/-! ### Reconciling -/

/-- The journal is one of this generation, and the translator's modules are too. -/
def Tended (codec : GraphCodec) (g : String) (s : Station) : Prop :=
  Journaled codec (some g) s ∧ OfGeneration g s.modules

omit hr in
theorem Tended.covered {codec : GraphCodec} (h : Tended codec g s) : Covered codec s :=
  covered_of h.1 h.2

omit hr in
theorem tended_wp {α : Type} {c : GraphCall α} (hupright : Upright host (some g) c)
    (hstill : Call.Keeps Station.modules c) (hs : Tended host.codec g s) :
    c.wp ⟨fun _ s' => Tended host.codec g s' ∧ s'.modules = s.modules, fun _ => Covered host.codec,
      Covered host.codec⟩ s := by
  have hsame : c.wp ⟨fun _ s' => s'.modules = s.modules, fun _ s' => s'.modules = s.modules,
      fun s' => s'.modules = s.modules⟩ s :=
    Call.wp_of_keeps hstill (fun _ _ h => h) (fun _ _ h => h) fun _ h => h
  refine Call.wp_mono (Call.wp_and (hupright s hs.1) hsame) ?_ ?_ ?_
  · rintro _ s' ⟨hs', hmodules⟩
    exact ⟨⟨hs', hmodules ▸ hs.2⟩, hmodules⟩
  · rintro _ s' ⟨hs', hmodules⟩
    exact covered_of hs' (hmodules ▸ hs.2)
  · rintro s' ⟨hs', hmodules⟩
    exact covered_of hs' (hmodules ▸ hs.2)

/-- A reconciled journal has all the translator's modules, and where it has one for each endpoint,
    there are no others. -/
structure Reconciled (codec : GraphCodec) (reconciled : OwnershipJournal) (s : Station) : Prop where
  tended : Tended codec reconciled.generation s
  tracked : Tracked reconciled.modules s.modules
  complete : ∀ raw, journalMatchesGraph raw reconciled = true →
    Complete reconciled.generation s.modules

omit hr in
theorem moduleFor_of_matches {raw : RawGraph} {journal : OwnershipJournal}
    (h : journalMatchesGraph raw journal = true) (role : EndpointRole) :
    ∃ i, journal.moduleFor role = some i := by
  unfold journalMatchesGraph at h
  rw [Bool.and_eq_true] at h
  have hrole := List.all_eq_true.mp h.2 role (EndpointRole.mem_order role)
  split at hrole
  · exact ⟨_, of_decide_eq_true hrole⟩
  · cases hrole

omit hr in
theorem reconciled_of {codec : GraphCodec} {raw : RawGraph} {journal reconciled : OwnershipJournal}
    {listed : Modules} {code : AudioGraphErrorCode} (hs : Tended codec journal.generation s)
    (hlisted : ∀ i, listed.lookup i = s.modules.lookup i)
    (h : reconcileOwnership raw journal listed code = .ok reconciled) :
    Reconciled codec reconciled s := by
  obtain ⟨hgeneration, -, hall, hsettled⟩ := reconcileOwnership_spec h
  have htended : Tended codec reconciled.generation s := hgeneration ▸ hs
  refine ⟨htended, fun i module hmodule => ?_, fun raw hmatches => ⟨fun role => ?_, htended.2⟩⟩
  · refine (htended.2 i module hmodule).imp_right ?_
    rintro ⟨role, howned⟩
    exact ⟨_, (hsettled role).named i (mem_matchingIds.mpr ⟨module, (hlisted i).trans hmodule, howned⟩),
      rfl⟩
  · obtain ⟨i, hi⟩ := moduleFor_of_matches hmatches role
    obtain ⟨module, hmodule, howned⟩ := hall _ (mem_of_moduleFor hi)
    refine ⟨i, module, (hlisted i).symm.trans hmodule, howned, fun j other hother hother' => ?_⟩
    have himem := mem_matchingIds.mpr ⟨module, hmodule, howned⟩
    have hjmem := mem_matchingIds.mpr ⟨other, (hlisted j).trans hother, hother'⟩
    obtain ⟨k, hk⟩ := List.length_eq_one_iff.mp
      (Nat.le_antisymm (hsettled role).one (List.length_pos_of_mem himem))
    rw [hk] at himem hjmem
    exact (List.mem_singleton.mp hjmem).trans (List.mem_singleton.mp himem).symm

theorem reconcile_reconciles {raw : RawGraph} {journal : OwnershipJournal}
    {code : AudioGraphErrorCode} (hs : Tended host.codec journal.generation s) :
    (reconcile host raw journal code).wp ⟨fun reconciled => Reconciled host.codec reconciled,
      fun _ => Covered host.codec, Covered host.codec⟩ s := by
  have hlist : (inspectModules host).wp ⟨fun listed s' => s'.still = s.still
      ∧ ∀ i, listed.lookup i = s.modules.lookup i, fun _ s' => s'.still = s.still,
      fun s' => s'.still = s.still⟩ s :=
    inspectModules_wp hr (fun _ _ hs' hlisted => ⟨hs', hlisted⟩) (fun _ _ h => h) fun _ h => h
  have htended : ∀ s' : Station, Journaled host.codec (some journal.generation) s' →
      s'.still = s.still → Tended host.codec journal.generation s' := fun s' hs' hstill =>
    ⟨hs', Station.still_modules hstill ▸ hs.2⟩
  unfold reconcile
  rw [Call.wp_bind]
  refine Call.wp_mono (Call.wp_and (upright_inspectModules s hs.1) hlist) ?_
    (fun _ s' h => (htended s' h.1 h.2).covered) fun s' h => (htended s' h.1 h.2).covered
  rintro listed s₁ ⟨hs₁, hstill, hlisted⟩
  have hs₁ := htended s₁ hs₁ hstill
  dsimp only
  cases hreconciled : reconcileOwnership raw journal listed code with
  | error code => exact hs₁.covered
  | ok reconciled =>
    refine reconciled_of hs₁ (fun i => ?_) hreconciled
    rw [Station.still_modules hstill]
    exact hlisted i

omit hr in
theorem saveReconciled_reconciled {journal reconciled : OwnershipJournal}
    (hs : Reconciled host.codec reconciled s) :
    (saveReconciled host journal reconciled).wp ⟨fun _ => Reconciled host.codec reconciled,
      fun _ => Covered host.codec, Covered host.codec⟩ s := by
  have hkeeps : Call.Keeps Station.modules (saveReconciled host journal reconciled) :=
    Call.keeps_ite (saveJournal_modules _) (Call.keeps_pure _)
  refine Call.wp_mono (tended_wp (upright_saveReconciled rfl) hkeeps hs.tended) ?_ (fun _ _ h => h)
    fun _ h => h
  rintro _ s' ⟨hs', hmodules⟩
  exact ⟨hs', hmodules ▸ hs.tracked, hmodules ▸ hs.complete⟩

theorem cleanupReconciled_clears {reconciled : OwnershipJournal}
    (hs : Reconciled host.codec reconciled s) :
    (cleanupReconciled host reconciled).wp ⟨fun _ s' => Clear s'.modules, fun _ => Covered host.codec,
      Covered host.codec⟩ s := by
  refine cleanupModules_clears hr [] hs.tended.1 hs.tended.2 fun i module hmodule => ?_
  refine (hs.tracked i module hmodule).imp_right ?_
  rintro ⟨o, ho, hid⟩
  exact ⟨o, List.mem_reverse.mpr ho, hid⟩

/-! ### The calls -/

omit hr in
/-- The journal, once it is loaded: none, and no module either, or the one of the modules' generation. -/
theorem loadJournal_covered (hs : Journaled host.codec none s) (hcovered : Covered host.codec s) :
    (loadJournal host).wp ⟨fun journal s' => s'.modules = s.modules ∧ Journaled host.codec none s'
        ∧ (journal = none → Clear s'.modules)
        ∧ ∀ j, journal = some j → Tended host.codec j.generation s',
      fun _ => Covered host.codec, Covered host.codec⟩ s := by
  have hstill : ∀ s' : Station, s'.still = s.still → Covered host.codec s' := by
    intro s' h
    unfold Covered
    rw [Station.still_modules h, Station.still_journal h]
    exact hcovered
  have hload : (loadJournal host).wp ⟨fun journal s' => s'.still = s.still
      ∧ decodeJournal host.codec s.journal = .ok journal, fun _ => Covered host.codec,
      Covered host.codec⟩ s :=
    loadJournal_wp (fun _ _ h hdecode => ⟨h, hdecode⟩) (fun _ => hstill) hstill
  refine Call.wp_mono (Call.wp_and (loadJournal_upright hs) hload) ?_ (fun _ _ h => h.2) fun _ h => h.2
  rintro journal s' ⟨⟨hs', hjournal⟩, hsame, hdecode⟩
  have hmodules := Station.still_modules hsame
  refine ⟨hmodules, hs', ?_, ?_⟩
  · rintro rfl
    rw [hmodules]
    rcases hcovered with hclear | ⟨g, -, j, hj, -⟩
    · exact hclear
    · rw [hdecode] at hj
      cases hj
  · rintro j rfl
    refine ⟨hjournal j rfl, hmodules ▸ ?_⟩
    rcases hcovered with hclear | ⟨g, hgeneration, j', hj', rfl⟩
    · exact hclear.ofGeneration _
    · rw [hdecode] at hj'
      cases hj'
      exact hgeneration

/-- With no module of the translator's, looking leaves it so. -/
theorem inspectRaw_clear (hs : Journaled host.codec none s) (hclear : Clear s.modules) :
    (inspectRaw host).wp ⟨fun _ s' => Journaled host.codec none s' ∧ Clear s'.modules,
      fun _ => Covered host.codec, Covered host.codec⟩ s :=
  Call.wp_mono (Call.wp_and (upright_inspectRaw s hs) (stays_of_still (inspectRaw_still hr) s hclear))
    (fun _ _ h => h) (fun _ _ h => .inl h.2) fun _ h => .inl h.2

omit hr in
/-- The lock is taken. -/
theorem openFile_covered (hs : Journaled host.codec none s) (hcovered : Covered host.codec s) :
    (openFile host).wp ⟨fun _ s' => Journaled host.codec none s' ∧ Covered host.codec s',
      fun _ => Covered host.codec, Covered host.codec⟩ s := by
  have hstill : ∀ s' : Station, s'.still = s.still → Covered host.codec s' := by
    intro s' h
    unfold Covered
    rw [Station.still_modules h, Station.still_journal h]
    exact hcovered
  have hkeeps : (openFile host).wp ⟨fun _ => Covered host.codec, fun _ => Covered host.codec,
      Covered host.codec⟩ s :=
    Call.wp_of_keeps openFile_still (fun _ => hstill) (fun _ => hstill) hstill
  exact Call.wp_mono (Call.wp_and (upright_open s hs) hkeeps) (fun _ _ h => h) (fun _ _ h => h.2)
    fun _ h => h.2

theorem ensureEndpoints_provides (hs : Journaled host.codec none s) (hcovered : Covered host.codec s)
    (next : String) :
    (ensureEndpoints host next).wp ⟨fun _ => Provided host.codec, fun _ => Covered host.codec,
      Covered host.codec⟩ s := by
  unfold ensureEndpoints
  rw [Call.wp_bind]
  refine Call.wp_mono (openFile_covered hs hcovered) ?_ (fun _ _ h => h) fun _ h => h
  rintro _ s₁ ⟨hs₁, hcovered₁⟩
  rw [Call.wp_bind]
  refine Call.wp_mono (loadJournal_covered hs₁ hcovered₁) ?_ (fun _ _ h => h) fun _ h => h
  rintro journal s₂ ⟨-, hs₂, hnone, hsome⟩
  cases journal with
  | none =>
    dsimp only
    rw [Call.wp_bind]
    refine Call.wp_mono (inspectRaw_clear hr hs₂ (hnone rfl)) ?_ (fun _ _ h => h) fun _ h => h
    rintro raw s₃ ⟨hs₃, hclear⟩
    dsimp only
    split
    · exact .inl hclear
    · split
      · exact .inl hclear
      · exact createEndpoints_provides hr hs₃ hclear next
  | some journal =>
    dsimp only
    rw [Call.wp_bind]
    refine Call.wp_mono (tended_wp upright_inspectRaw (fun s => Station.still_modules
      (inspectRaw_still hr s)) (hsome journal rfl)) ?_ (fun _ _ h => h) fun _ h => h
    rintro raw s₃ ⟨hs₃, -⟩
    dsimp only
    split
    · exact hs₃.covered
    · rw [Call.wp_bind]
      refine Call.wp_mono (reconcile_reconciles hr hs₃) (fun reconciled s₄ hs₄ => ?_) (fun _ _ h => h)
        fun _ h => h
      dsimp only
      rw [Call.wp_bind]
      refine Call.wp_mono (saveReconciled_reconciled hs₄) (fun _ s₅ hs₅ => ?_) (fun _ _ h => h)
        fun _ h => h
      dsimp only
      split
      · next hmatches => exact ⟨_, hs₅.complete raw hmatches, hs₅.tended.1.holds⟩
      · rw [Call.wp_bind]
        refine Call.wp_mono (Call.wp_and (cleanupReconciled_upright hs₅.tended.1)
          (cleanupReconciled_clears hr hs₅)) ?_ (fun _ _ h => h.2) fun _ h => h.2
        rintro _ s₆ ⟨hs₆, hclear⟩
        dsimp only
        rw [Call.wp_bind]
        refine Call.wp_mono (inspectRaw_clear hr hs₆ hclear) ?_ (fun _ _ h => h) fun _ h => h
        rintro cleaned s₇ ⟨hs₇, hclear₇⟩
        dsimp only
        split
        · exact .inl hclear₇
        · exact createEndpoints_provides hr hs₇ hclear₇ next

theorem cleanupOwned_clears (hs : Journaled host.codec none s) (hcovered : Covered host.codec s) :
    (cleanupOwned host).wp ⟨fun _ s' => Clear s'.modules, fun _ => Covered host.codec,
      Covered host.codec⟩ s := by
  unfold cleanupOwned
  rw [Call.wp_bind]
  refine Call.wp_mono (openFile_covered hs hcovered) ?_ (fun _ _ h => h) fun _ h => h
  rintro _ s₁ ⟨hs₁, hcovered₁⟩
  rw [Call.wp_bind]
  refine Call.wp_mono (loadJournal_covered hs₁ hcovered₁) ?_ (fun _ _ h => h) fun _ h => h
  rintro journal s₂ ⟨-, hs₂, hnone, hsome⟩
  cases journal with
  | none => exact hnone rfl
  | some journal =>
    dsimp only
    rw [Call.wp_bind]
    refine Call.wp_mono (tended_wp upright_inspectRaw (fun s => Station.still_modules
      (inspectRaw_still hr s)) (hsome journal rfl)) ?_ (fun _ _ h => h) fun _ h => h
    rintro raw s₃ ⟨hs₃, -⟩
    dsimp only
    split
    · exact hs₃.covered
    · rw [Call.wp_bind]
      refine Call.wp_mono (reconcile_reconciles hr hs₃) (fun reconciled s₄ hs₄ => ?_) (fun _ _ h => h)
        fun _ h => h
      dsimp only
      rw [Call.wp_bind]
      exact Call.wp_mono (saveReconciled_reconciled hs₄) (fun _ s₅ hs₅ => cleanupReconciled_clears hr hs₅)
        (fun _ _ h => h) fun _ h => h

theorem inspect_still : Call.Keeps Station.still (inspect host) := by
  have hload : Call.Keeps Station.still (loadJournal host) := fun s => by
    refine Call.end_of_maintains (I := fun (s' : Station) => s'.still = s.still) (fun s' hs' => ?_) (fun _ h => h) rfl
    exact loadJournal_wp (fun _ _ h _ => h.trans hs') (fun _ _ h => h.trans hs') fun _ h => h.trans hs'
  have hlist : Call.Keeps Station.still (inspectModules host) := fun s => by
    refine Call.end_of_maintains (I := fun (s' : Station) => s'.still = s.still) (fun s' hs' => ?_) (fun _ h => h) rfl
    exact inspectModules_wp hr (fun _ _ h _ => h.trans hs') (fun _ _ h => h.trans hs')
      fun _ h => h.trans hs'
  refine Call.keeps_bind openFile_still fun _ => Call.keeps_bind hload fun journal =>
    Call.keeps_bind (inspectRaw_still hr) fun raw => Call.keeps_ite (Call.keeps_fail _) ?_
  cases journal with
  | none => exact Call.keeps_pure _
  | some journal =>
    refine Call.keeps_bind (Call.keeps_bind hlist fun modules => ?_) fun _ => Call.keeps_pure _
    split
    · exact Call.keeps_pure _
    · exact Call.keeps_fail _

/-- What a request comes to, where it returns. -/
def Request.Meant (codec : GraphCodec) (s : Station) : Request → Prop
  | .ensureEndpoints => Provided codec s
  | .inspect => True
  | .cleanupOwned => Clear s.modules

omit hr in
theorem Provided.covered {codec : GraphCodec} (h : Provided codec s) : Covered codec s := by
  obtain ⟨g, hcomplete, hholds⟩ := h
  exact .inr ⟨g, hcomplete.rest, hholds⟩

theorem request_meant (request : Request) (hs : Journaled host.codec none s)
    (hcovered : Covered host.codec s) (next : String) :
    (request.run host next).wp ⟨fun _ s' => Covered host.codec s' ∧ request.Meant host.codec s',
      fun _ => Covered host.codec, Covered host.codec⟩ s := by
  cases request with
  | ensureEndpoints =>
    refine (Call.wp_bind .. ▸ Call.wp_mono (ensureEndpoints_provides hr hs hcovered next)
      (fun _ _ h => ⟨h.covered, h⟩) (fun _ _ h => h) fun _ h => h)
  | inspect =>
    have hstill : ∀ s' : Station, s'.still = s.still → Covered host.codec s' := by
      intro s' h
      unfold Covered
      rw [Station.still_modules h, Station.still_journal h]
      exact hcovered
    refine (Call.wp_bind .. ▸ Call.wp_of_keeps (inspect_still hr) (fun _ s' h => ⟨hstill s' h, trivial⟩)
      (fun _ => hstill) hstill)
  | cleanupOwned =>
    refine (Call.wp_bind .. ▸ Call.wp_mono (cleanupOwned_clears hr hs hcovered)
      (fun _ _ h => ⟨.inl h, h⟩) (fun _ _ h => h) fun _ h => h)

end Reflected

/-! ### Whole runs -/

/-- The answers are a server's, and what others do between two calls is to unload modules and to load
    some that are not marked as the translator's. -/
def Operation.Reflected (s : Station) : Operation → Prop
  | .call _ _ answers => answers.Reflects
  | .change modules journal => journal = s.journal ∧ ∀ i module, modules.lookup i = some module →
      s.modules.lookup i = some module ∨ Foreign module

/-- A change by others leaves no module without a trace. -/
theorem covered_change {codec : GraphCodec} {modules : Modules} {journal : Option JournalFile}
    (hcovered : Covered codec s) (h : (Operation.change modules journal).Reflected s) :
    Covered codec { s with modules := modules, journal := journal } := by
  obtain ⟨rfl, hmodules⟩ := h
  rcases hcovered with hclear | ⟨g, hgeneration, hholds⟩
  · refine .inl fun i module hmodule => ?_
    rcases hmodules i module hmodule with hthere | hforeign
    · exact hclear i module hthere
    · exact hforeign
  · refine .inr ⟨g, fun i module hmodule => ?_, hholds⟩
    rcases hmodules i module hmodule with hthere | hforeign
    · exact hgeneration i module hthere
    · exact .inl hforeign

theorem step_covered {codec : GraphCodec} (op : Operation)
    (hs : Journaled codec none s ∧ Covered codec s) (hop : op.Reflected s) :
    Journaled codec none (s.step codec op).2 ∧ Covered codec (s.step codec op).2 := by
  refine ⟨step_journaled op hs.1, ?_⟩
  cases op with
  | change modules journal => exact covered_change hs.2 hop
  | call request next answers =>
    have h := @request_meant ⟨answers, codec⟩ { s with tick := 0 } hop request ⟨hs.1.1, nofun⟩ hs.2 next
    show Covered codec (request.run ⟨answers, codec⟩ next { s with tick := 0 }).2
    unfold Call.wp at h
    revert h
    rcases request.run ⟨answers, codec⟩ next { s with tick := 0 } with ⟨response | error | _, s'⟩
    · exact And.left
    · exact id
    · exact id

end Translator.Graph
