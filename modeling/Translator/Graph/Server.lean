import Translator.Graph.Listing
import Translator.Graph.Unloads
import Translator.Schemes.Coding

/-! A server that lists the modules it has loaded, and what a call of the graph can do to them: load
    modules of a generation under new indices, and unload those that are there as a role of it expects.
    Whoever else's modules there are, they stay. -/

namespace Translator.Graph

open Schemes
open Routing (JournalFile)

/-! ### A server that lists what is loaded -/

/-- The answers of a server: a listing that is read shows the modules there are, a load adds the module
    of its arguments under a new index or does nothing, and an unload takes its module away or does
    nothing. Either can have its effect and be reported as failed, but not the other way round. -/
structure Answers.Reflects (answers : Answers) : Prop where
  looks : ∀ n args modules, args.head? ≠ some "load-module" → args.head? ≠ some "unload-module" →
    (answers.run n args modules).2 = modules
  lists : ∀ n modules result listed, (answers.run n listModules modules).1 = some (.ok result) →
    result.success = true → parseModules result.stdout = some listed →
    ∀ i, listed.lookup i = modules.lookup i
  loads : ∀ n args modules, args.head? = some "load-module" →
    ((answers.run n args modules).2 = modules
      ∧ ∀ result, (answers.run n args modules).1 = some (.ok result) → result.success = false)
    ∨ ∃ i, modules.lookup i = none
      ∧ (answers.run n args modules).2 = modules.insert i (loadedModule args)
      ∧ ∀ result printed, (answers.run n args modules).1 = some (.ok result) →
        printedId result.stdout = some printed → printed = i
  unloads : ∀ n i modules,
    ((answers.run n (unloadArgs i) modules).2 = modules
      ∧ ∀ result, (answers.run n (unloadArgs i) modules).1 = some (.ok result) → result.success = false)
    ∨ (answers.run n (unloadArgs i) modules).2 = modules.erase i

/-- An unload names one module. -/
theorem unloadArgs_inj {i j : Nat} (h : unloadArgs i = unloadArgs j) : i = j := by
  have hdigits : Nat.toDigits 10 i = Nat.toDigits 10 j := by
    have := congrArg String.toList (List.cons.inj (List.cons.inj h).2).1
    simpa [toString, Nat.repr] using this
  have := congrArg (Nat.ofDigitChars 10 · 0) hdigits
  simpa [Nat.ofDigitChars_ten_toDigits] using this

/-- The module is not marked as the translator's. -/
def Foreign (module : PactlModule) : Prop :=
  module.arguments.lookup "translator.owner" ≠ some "true"

theorem PactlModule.Owned.not_foreign {module : PactlModule} {role : EndpointRole}
    {generation : String} (h : module.Owned role generation) : ¬ Foreign module :=
  fun hforeign => hforeign h.owner

/-! ### Single effects -/

/-- The modules and the journal. -/
def Station.still (s : Station) : Modules × Option JournalFile := (s.modules, s.journal)

theorem Station.still_modules {s s' : Station} (h : s'.still = s.still) : s'.modules = s.modules :=
  congrArg Prod.fst h

theorem Station.still_journal {s s' : Station} (h : s'.still = s.still) : s'.journal = s.journal :=
  congrArg Prod.snd h

variable {host : Host} {s : Station} {g : String}

theorem openFile_still : Call.Keeps Station.still (openFile host) := by
  intro s
  have h := @openFile_keeps host s
  simp only [Prod.mk.injEq] at h
  exact Prod.ext h.1 h.2.1

theorem saveJournal_modules (journal : OwnershipJournal) :
    Call.Keeps Station.modules (saveJournal host journal) := by
  intro s
  unfold saveJournal
  split
  · rfl
  · dsimp only
    split <;> rfl

theorem removeJournal_modules : Call.Keeps Station.modules (removeJournal host) := by
  intro s
  unfold removeJournal
  split <;> rfl

theorem loadJournal_wp {post : Call.Post Station AudioGraphError (Option OwnershipJournal)}
    (hok : ∀ journal s', s'.still = s.still → decodeJournal host.codec s.journal = .ok journal →
      post.ok journal s')
    (herr : ∀ e s', s'.still = s.still → post.err e s')
    (hcrash : ∀ s', s'.still = s.still → post.crash s') : (loadJournal host).wp post s := by
  unfold loadJournal
  rw [Call.wp_bind]
  refine Call.wp_of_keeps openFile_still (fun _ s' hs' => ?_) herr hcrash
  dsimp only
  simp only [Call.wp_bind, Call.wp_get]
  rw [Station.still_journal hs']
  cases hdecode : decodeJournal host.codec s.journal with
  | error code => exact herr _ s' hs'
  | ok journal => exact hok journal s' hs' hdecode

section Reflected

variable (hr : host.Reflects)

include hr

/-- A command that only looks. -/
theorem look_still {args : List String} (hload : args.head? ≠ some "load-module")
    (hunload : args.head? ≠ some "unload-module") (code : AudioGraphErrorCode) :
    Call.Keeps Station.still (runPactl host args code) := by
  intro s
  have hsame : (s.commanded host args).still = s.still :=
    Prod.ext (hr.looks s.tick args s.modules hload hunload) rfl
  unfold runPactl
  split
  · exact hsame
  · exact hsame
  · exact hsame
  · split <;> exact hsame

theorem inspectRaw_still : Call.Keeps Station.still (inspectRaw host) := by
  have hkind : ∀ kind, Call.Keeps Station.still (inspectEndpointKind host kind) := by
    intro kind
    refine Call.keeps_bind (look_still hr (by simp) (by simp) _) fun result => ?_
    cases host.codec.endpoints result.stdout with
    | some endpoints => exact Call.keeps_pure _
    | none => exact Call.keeps_fail _
  exact Call.keeps_bind (hkind _) fun _ => Call.keeps_bind (hkind _) fun _ => Call.keeps_pure _

/-- A listing shows the modules there are. -/
theorem inspectModules_wp {post : Call.Post Station AudioGraphError Modules}
    (hok : ∀ listed s', s'.still = s.still → (∀ i, listed.lookup i = s.modules.lookup i) →
      post.ok listed s')
    (herr : ∀ e s', s'.still = s.still → post.err e s')
    (hcrash : ∀ s', s'.still = s.still → post.crash s') : (inspectModules host).wp post s := by
  have hsame : (s.commanded host listModules).still = s.still :=
    Prod.ext (hr.looks s.tick listModules s.modules (by simp [listModules]) (by simp [listModules])) rfl
  unfold inspectModules
  rw [Call.wp_bind]
  refine runPactl_wp (fun result hresult hsuccess => ?_) (fun e => herr e _ hsame) (hcrash _ hsame)
  dsimp only
  cases hparse : parseModules result.stdout with
  | none => exact herr _ _ hsame
  | some listed => exact hok listed _ hsame (hr.lists _ _ _ _ hresult hsuccess hparse)

theorem unloadModule_wp {i : Nat} {post : Call.Post Station AudioGraphError Unit}
    (hok : ∀ s', s'.journal = s.journal → s'.modules = s.modules.erase i → post.ok () s')
    (herr : ∀ e s', s'.journal = s.journal →
      s'.modules = s.modules ∨ s'.modules = s.modules.erase i → post.err e s')
    (hcrash : ∀ s', s'.journal = s.journal →
      s'.modules = s.modules ∨ s'.modules = s.modules.erase i → post.crash s') :
    (unloadModule host i).wp post s := by
  have heffect := hr.unloads s.tick i s.modules
  have hafter : (s.commanded host (unloadArgs i)).modules = s.modules
      ∨ (s.commanded host (unloadArgs i)).modules = s.modules.erase i := heffect.imp_left And.left
  unfold unloadModule
  rw [Call.wp_bind]
  refine runPactl_wp (fun result hresult hsuccess => ?_) (fun e => herr e _ rfl hafter)
    (hcrash _ rfl hafter)
  rcases heffect with ⟨-, hfailed⟩ | herased
  · rw [hfailed result hresult] at hsuccess
    cases hsuccess
  · exact hok _ rfl herased

theorem loadEndpoint_wp {role : EndpointRole} {post : Call.Post Station AudioGraphError Nat}
    (hok : ∀ i s', s'.journal = s.journal → s.modules.lookup i = none →
      s'.modules = s.modules.insert i (loadedModule (loadArgs role g)) → post.ok i s')
    (herr : ∀ e s', s'.journal = s.journal →
      (s'.modules = s.modules ∨ ∃ i, s.modules.lookup i = none
        ∧ s'.modules = s.modules.insert i (loadedModule (loadArgs role g))) → post.err e s')
    (hcrash : ∀ s', s'.journal = s.journal →
      (s'.modules = s.modules ∨ ∃ i, s.modules.lookup i = none
        ∧ s'.modules = s.modules.insert i (loadedModule (loadArgs role g))) → post.crash s') :
    (loadEndpoint host role g).wp post s := by
  have hargs : (loadArgs role g).head? = some "load-module" := by cases role <;> rfl
  have heffect := hr.loads s.tick (loadArgs role g) s.modules hargs
  have hafter : (s.commanded host (loadArgs role g)).modules = s.modules
      ∨ ∃ i, s.modules.lookup i = none ∧ (s.commanded host (loadArgs role g)).modules
        = s.modules.insert i (loadedModule (loadArgs role g)) := by
    refine heffect.imp And.left ?_
    rintro ⟨i, hfresh, hinsert, -⟩
    exact ⟨i, hfresh, hinsert⟩
  unfold loadEndpoint
  rw [Call.wp_bind]
  refine runPactl_wp (fun result hresult hsuccess => ?_) (fun e => herr e _ rfl hafter)
    (hcrash _ rfl hafter)
  dsimp only
  cases hprinted : printedId result.stdout with
  | none => exact herr _ _ rfl hafter
  | some printed =>
    rcases heffect with ⟨-, hfailed⟩ | ⟨i, hfresh, hinsert, hprints⟩
    · rw [hfailed result hresult] at hsuccess
      cases hsuccess
    · obtain rfl := hprints result printed hresult hprinted
      exact hok printed _ rfl hfresh hinsert

/-! ### What the modules keep -/

/-- The modules keep the property, whatever becomes of the call. -/
def Stays (P : Modules → Prop) {α : Type} (c : GraphCall α) : Prop :=
  Call.Maintains (fun s => P s.modules) (fun s => P s.modules) c

omit hr in
theorem stays_of_keeps {P : Modules → Prop} {α : Type} {c : GraphCall α}
    (h : Call.Keeps Station.modules c) : Stays P c := by
  intro s hs
  have hsame : ∀ s' : Station, s'.modules = s.modules → P s'.modules := fun _ h => h ▸ hs
  exact Call.wp_of_keeps h (fun _ => hsame) (fun _ => hsame) hsame

omit hr in
theorem stays_of_still {P : Modules → Prop} {α : Type} {c : GraphCall α}
    (h : Call.Keeps Station.still c) : Stays P c :=
  stays_of_keeps fun s => Station.still_modules (h s)

/-- The property stands when a module of the generation comes or goes. -/
structure Stable (g : String) (P : Modules → Prop) : Prop where
  erase : ∀ modules i module role, P modules → modules.lookup i = some module →
    module.Owned role g → P (modules.erase i)
  insert : ∀ modules i role, P modules → modules.lookup i = none →
    P (modules.insert i (loadedModule (loadArgs role g)))

section Stable

variable {P : Modules → Prop} (hP : Stable g P)

include hP

theorem stays_load (role : EndpointRole) : Stays P (loadEndpoint host role g) := by
  intro s hs
  have hafter : ∀ s' : Station, (s'.modules = s.modules ∨ ∃ i, s.modules.lookup i = none
      ∧ s'.modules = s.modules.insert i (loadedModule (loadArgs role g))) → P s'.modules := by
    rintro s' (hsame | ⟨i, hfresh, hinsert⟩)
    · rw [hsame]
      exact hs
    · rw [hinsert]
      exact hP.insert _ i role hs hfresh
  exact loadEndpoint_wp hr (fun i s' _ hfresh hinsert => hafter s' (.inr ⟨i, hfresh, hinsert⟩))
    (fun _ s' _ h => hafter s' h) fun s' _ h => hafter s' h

/-- A module that was listed as owned is unloaded. -/
theorem unload_stays {i : Nat} {module : PactlModule} {role : EndpointRole} (hs : P s.modules)
    (hmodule : s.modules.lookup i = some module) (howned : module.Owned role g) :
    (unloadModule host i).wp ⟨fun _ s => P s.modules, fun _ s => P s.modules, fun s => P s.modules⟩ s := by
  have hafter : ∀ s' : Station, s'.modules = s.modules ∨ s'.modules = s.modules.erase i →
      P s'.modules := by
    rintro s' (hsame | herased)
    · rw [hsame]
      exact hs
    · rw [herased]
      exact hP.erase _ i module role hs hmodule howned
  exact unloadModule_wp hr (fun s' _ h => hafter s' (.inr h)) (fun _ s' _ h => hafter s' h)
    fun s' _ h => hafter s' h

theorem stays_rollbackModule (module : OwnedModule) (rest : List OwnedModule) :
    Stays P (rollbackModule host g module rest) := by
  have hsave : Stays P (do
      saveJournal host (ownership g (module :: rest))
      failWith (α := Unit) .rollbackFailed) :=
    Call.maintains_bind (stays_of_keeps (saveJournal_modules _)) fun _ => Call.maintains_fail _
  intro s hs
  have hstill : ∀ s' : Station, s'.still = s.still → P s'.modules := fun s' h =>
    Station.still_modules h ▸ hs
  unfold rollbackModule
  rw [Call.wp_bind, Call.wp_mapErr]
  refine inspectModules_wp hr (fun listed s₁ hs₁ hlisted => ?_) (fun _ => hstill) hstill
  dsimp only
  cases hmodule : listed.lookup module.moduleId with
  | none => exact hstill s₁ hs₁
  | some discovered =>
    dsimp only
    split
    · next hmatches =>
      rw [Call.wp_bind, Call.wp_attempt]
      have hthere : s₁.modules.lookup module.moduleId = some discovered := by
        rw [Station.still_modules hs₁, ← hlisted]
        exact hmodule
      exact Call.wp_mono (unload_stays hr hP (hstill s₁ hs₁) hthere (moduleMatches_iff.mp hmatches))
        (fun _ _ h => h) (fun _ s₂ hs₂ => hsave s₂ hs₂) fun _ h => h
    · exact hsave s₁ (hstill s₁ hs₁)

theorem stays_rollBack {α : Type} (newest : List OwnedModule) (error : AudioGraphError) :
    Stays P (rollBack host g newest error : GraphCall α) := by
  have hrollback : Stays P (rollbackNewModules host g newest) := by
    induction newest with
    | nil => exact stays_of_keeps (saveJournal_modules _)
    | cons module rest ih =>
      exact Call.maintains_bind (stays_rollbackModule hr hP module rest) fun _ =>
        Call.maintains_bind (stays_of_keeps (saveJournal_modules _)) fun _ => ih
  exact Call.maintains_bind (Call.maintains_mapErr hrollback) fun _ => Call.maintains_fail _

theorem stays_createModules (newest : List OwnedModule) (roles : List EndpointRole) :
    Stays P (createModules host g newest roles) := by
  induction roles generalizing newest with
  | nil => exact Call.maintains_pure _
  | cons role roles ih =>
    refine Call.maintains_bind (Call.maintains_attempt (stays_load hr hP role)) fun loaded => ?_
    cases loaded with
    | error loadError => exact stays_rollBack hr hP _ _
    | ok moduleId =>
      refine Call.maintains_bind (Call.maintains_attempt (stays_of_keeps (saveJournal_modules _)))
        fun saved => ?_
      cases saved with
      | error e => exact stays_rollBack hr hP _ _
      | ok u => exact ih _

theorem stays_createJournaled : Stays P (createJournaled host g) := by
  refine Call.maintains_bind (stays_createModules hr hP _ _) fun newest => ?_
  refine Call.maintains_bind (Call.maintains_attempt (stays_of_still (inspectRaw_still hr)))
    fun inspected => ?_
  cases inspected with
  | error inspectionError => exact stays_rollBack hr hP _ _
  | ok raw => exact Call.maintains_ite (stays_rollBack hr hP _ _) (Call.maintains_pure _)

theorem stays_cleanupModule (module : OwnedModule) : Stays P (cleanupModule host g module) := by
  intro s hs
  have hstill : ∀ s' : Station, s'.still = s.still → P s'.modules := fun s' h =>
    Station.still_modules h ▸ hs
  unfold cleanupModule
  rw [Call.wp_bind]
  refine inspectModules_wp hr (fun listed s₁ hs₁ hlisted => ?_) (fun _ => hstill) hstill
  dsimp only
  cases hmodule : listed.lookup module.moduleId with
  | none => exact hstill s₁ hs₁
  | some discovered =>
    dsimp only
    split
    · next hmatches =>
      rw [Call.wp_bind, Call.wp_mapErr]
      have hthere : s₁.modules.lookup module.moduleId = some discovered := by
        rw [Station.still_modules hs₁, ← hlisted]
        exact hmodule
      exact Call.wp_mono (unload_stays hr hP (hstill s₁ hs₁) hthere (moduleMatches_iff.mp hmatches))
        (fun _ _ h => h) (fun _ _ h => h) fun _ h => h
    · exact hstill s₁ hs₁

theorem stays_cleanupModules (unloaded : List Nat) (newest : List OwnedModule) :
    Stays P (cleanupModules host g unloaded newest) := by
  induction newest generalizing unloaded with
  | nil =>
    exact Call.maintains_bind (stays_of_keeps removeJournal_modules) fun _ => Call.maintains_pure _
  | cons module rest ih =>
    refine Call.maintains_bind (stays_cleanupModule hr hP module) fun more => ?_
    dsimp only
    split
    · exact Call.maintains_bind (stays_of_keeps removeJournal_modules) fun _ => ih _
    · exact Call.maintains_bind (stays_of_keeps (saveJournal_modules _)) fun _ => ih _

end Stable

/-! ### What a whole call keeps -/

variable {P : Modules → Prop}

theorem stays_createEndpoints {next : String} (hP : Stable next P) :
    Stays P (createEndpoints host next) :=
  Call.maintains_bind (stays_of_keeps (saveJournal_modules _)) fun _ => stays_createJournaled hr hP

theorem reconcile_stays {raw : RawGraph} {journal : OwnershipJournal} {code : AudioGraphErrorCode}
    (hs : P s.modules) : (reconcile host raw journal code).wp ⟨fun reconciled s' =>
      reconciled.generation = journal.generation ∧ P s'.modules, fun _ s' => P s'.modules,
      fun s' => P s'.modules⟩ s := by
  have hstill : ∀ s' : Station, s'.still = s.still → P s'.modules := fun s' h =>
    Station.still_modules h ▸ hs
  unfold reconcile
  rw [Call.wp_bind]
  refine inspectModules_wp hr (fun listed s₁ hs₁ _ => ?_) (fun _ => hstill) hstill
  dsimp only
  cases hreconciled : reconcileOwnership raw journal listed code with
  | error code => exact hstill s₁ hs₁
  | ok reconciled => exact ⟨(reconcileOwnership_spec hreconciled).1, hstill s₁ hs₁⟩

omit hr in
theorem stays_saveReconciled (journal reconciled : OwnershipJournal) :
    Stays P (saveReconciled host journal reconciled) :=
  Call.maintains_ite (stays_of_keeps (saveJournal_modules _)) (Call.maintains_pure _)

theorem stays_inspect : Stays P (inspect host) := by
  refine Call.maintains_bind (stays_of_still openFile_still) fun _ => ?_
  intro s hs
  have hstill : ∀ s' : Station, s'.still = s.still → P s'.modules := fun s' h =>
    Station.still_modules h ▸ hs
  rw [Call.wp_bind]
  refine loadJournal_wp (fun journal s₁ hs₁ _ => ?_) (fun _ => hstill) hstill
  refine Call.maintains_bind (stays_of_still (inspectRaw_still hr)) (fun raw =>
    Call.maintains_ite (Call.maintains_fail _) ?_) s₁ (hstill s₁ hs₁)
  cases journal with
  | none => exact Call.maintains_pure _
  | some journal =>
    intro s₂ hs₂
    dsimp only
    rw [Call.wp_bind]
    exact Call.wp_mono (reconcile_stays hr hs₂) (fun _ _ h => h.2) (fun _ _ h => h) fun _ h => h

/-- What stands under the journal's generation and the next one stands through the call. -/
theorem ensureEndpoints_stays {next : String} (hs : P s.modules)
    (hP : ∀ g, Holds host.codec s.journal g ∨ g = next → Stable g P) :
    (ensureEndpoints host next).wp ⟨fun _ s' => P s'.modules, fun _ s' => P s'.modules,
      fun s' => P s'.modules⟩ s := by
  have hcreate : Stays P (createEndpoints host next) := stays_createEndpoints hr (hP next (.inr rfl))
  have hstill : ∀ s' : Station, s'.still = s.still → P s'.modules := fun s' h =>
    Station.still_modules h ▸ hs
  unfold ensureEndpoints
  rw [Call.wp_bind]
  refine Call.wp_of_keeps openFile_still (fun _ s₁ hs₁ => ?_) (fun _ => hstill) hstill
  rw [Call.wp_bind]
  refine loadJournal_wp (fun journal s₂ hs₂ hdecode => ?_) (fun _ s₂ hs₂ => hstill s₂ (hs₂.trans hs₁))
    fun s₂ hs₂ => hstill s₂ (hs₂.trans hs₁)
  refine Call.maintains_bind (stays_of_still (inspectRaw_still hr)) (fun raw =>
    Call.maintains_ite (Call.maintains_fail _) ?_) s₂ (hstill s₂ (hs₂.trans hs₁))
  cases journal with
  | none => exact Call.maintains_ite (Call.maintains_fail _) hcreate
  | some journal =>
    have hjournal : Stable journal.generation P :=
      hP _ (.inl ⟨journal, Station.still_journal hs₁ ▸ hdecode, rfl⟩)
    intro s₃ hs₃
    dsimp only
    rw [Call.wp_bind]
    refine Call.wp_mono (reconcile_stays hr hs₃) ?_ (fun _ _ h => h) fun _ h => h
    rintro reconciled s₄ ⟨hgeneration, hs₄⟩
    have hcleanup : Stays P (cleanupReconciled host reconciled) :=
      stays_cleanupModules hr (hgeneration ▸ hjournal) _ _
    refine Call.maintains_bind (stays_saveReconciled _ _) (fun _ =>
      Call.maintains_ite (Call.maintains_pure _) ?_) s₄ hs₄
    refine Call.maintains_bind hcleanup fun _ => ?_
    exact Call.maintains_bind (stays_of_still (inspectRaw_still hr)) fun cleaned =>
      Call.maintains_ite (Call.maintains_fail _) hcreate

theorem cleanupOwned_stays (hs : P s.modules)
    (hP : ∀ g, Holds host.codec s.journal g → Stable g P) :
    (cleanupOwned host).wp ⟨fun _ s' => P s'.modules, fun _ s' => P s'.modules,
      fun s' => P s'.modules⟩ s := by
  have hstill : ∀ s' : Station, s'.still = s.still → P s'.modules := fun s' h =>
    Station.still_modules h ▸ hs
  unfold cleanupOwned
  rw [Call.wp_bind]
  refine Call.wp_of_keeps openFile_still (fun _ s₁ hs₁ => ?_) (fun _ => hstill) hstill
  rw [Call.wp_bind]
  refine loadJournal_wp (fun journal s₂ hs₂ hdecode => ?_) (fun _ s₂ hs₂ => hstill s₂ (hs₂.trans hs₁))
    fun s₂ hs₂ => hstill s₂ (hs₂.trans hs₁)
  cases journal with
  | none => exact hstill s₂ (hs₂.trans hs₁)
  | some journal =>
    have hjournal : Stable journal.generation P :=
      hP _ ⟨journal, Station.still_journal hs₁ ▸ hdecode, rfl⟩
    refine Call.maintains_bind (stays_of_still (inspectRaw_still hr)) (fun raw =>
      Call.maintains_ite (Call.maintains_fail _) ?_) s₂ (hstill s₂ (hs₂.trans hs₁))
    intro s₃ hs₃
    rw [Call.wp_bind]
    refine Call.wp_mono (reconcile_stays hr hs₃) ?_ (fun _ _ h => h) fun _ h => h
    rintro reconciled s₄ ⟨hgeneration, hs₄⟩
    exact Call.maintains_bind (stays_saveReconciled _ _) (fun _ =>
      stays_cleanupModules hr (hgeneration ▸ hjournal) _ _) s₄ hs₄

theorem request_stays (request : Request) {next : String} (hs : P s.modules)
    (hP : ∀ g, Holds host.codec s.journal g ∨ g = next → Stable g P) :
    P (request.run host next s).2.modules := by
  have hend : ∀ {α : Type} {c : GraphCall α} {f : α → Response},
      c.wp ⟨fun _ s' => P s'.modules, fun _ s' => P s'.modules, fun s' => P s'.modules⟩ s →
      P (((do let a ← c; pure (f a)) : GraphCall Response) s).2.modules := by
    intro α c f h
    have hbind : ((do let a ← c; pure (f a)) : GraphCall Response).wp ⟨fun _ s' => P s'.modules,
        fun _ s' => P s'.modules, fun s' => P s'.modules⟩ s := by
      rw [Call.wp_bind]
      exact Call.wp_mono h (fun _ _ h => h) (fun _ _ h => h) fun _ h => h
    unfold Call.wp at hbind
    revert hbind
    rcases ((do let a ← c; pure (f a)) : GraphCall Response) s with ⟨_ | _ | _, s'⟩ <;> exact id
  cases request with
  | ensureEndpoints => exact hend (ensureEndpoints_stays hr hs hP)
  | inspect => exact hend (stays_inspect hr s hs)
  | cleanupOwned => exact hend (cleanupOwned_stays hr hs fun g hg => hP g (.inl hg))

end Reflected

/-! ### Modules of others -/

/-- What these modules are is still there, as far as no role of the generations expects it. -/
def Spares (before : Modules) (generations : String → Prop) (modules : Modules) : Prop :=
  ∀ i module, before.lookup i = some module → (∀ role g, generations g → ¬ module.Owned role g) →
    modules.lookup i = some module

theorem spares_stable {before : Modules} {generations : String → Prop} (hg : generations g) :
    Stable g (Spares before generations) := by
  constructor
  · intro modules i module role hspares hmodule howned j other hother hforeign
    have hthere := hspares j other hother hforeign
    have hne : j ≠ i := by
      rintro rfl
      obtain rfl := Option.some.inj (hthere.symm.trans hmodule)
      exact hforeign role g hg howned
    rw [AList.lookup_erase_ne hne]
    exact hthere
  · intro modules i role hspares hfresh j other hother hforeign
    have hthere := hspares j other hother hforeign
    have hne : j ≠ i := by
      rintro rfl
      rw [hfresh] at hthere
      cases hthere
    rw [AList.lookup_insert_ne hne]
    exact hthere

/-- In every run over every listing and every journal, each unload names a module that the listing
    just before showed as what some role expects, of the generation of the journal. And where listings
    show what is loaded, a call takes no module away that no role of the journal's generation or of
    the next expects. -/
theorem run_unloads (codec : GraphCodec) (modules : Modules) (journal : Option JournalFile)
    (ops : List Operation) :
    AtEach (Verified codec) (exec (Station.step codec) ⟨modules, journal, [], 0⟩ ops).2.issued
    ∧ ∀ (request : Request) (next : String) (answers : Answers) (i : Nat) (module : PactlModule),
      answers.Reflects →
      (exec (Station.step codec) ⟨modules, journal, [], 0⟩ ops).2.modules.lookup i = some module →
      (∀ role g, Holds codec (exec (Station.step codec) ⟨modules, journal, [], 0⟩ ops).2.journal g
        ∨ g = next → ¬ module.Owned role g) →
      ((exec (Station.step codec) ⟨modules, journal, [], 0⟩ ops).2.step codec
        (.call request next answers)).2.modules.lookup i = some module := by
  have hstart : Journaled codec none ⟨modules, journal, [], 0⟩ := ⟨atEach_nil _, nofun⟩
  refine ⟨(exec_state_invariant hstart (fun s op hs => step_journaled op hs) ops).1, ?_⟩
  intro request next answers i module hr hmodule hforeign
  exact @request_stays ⟨answers, codec⟩ _ hr _ request next (fun _ _ h _ => h)
    (fun _ hg => spares_stable hg) i module hmodule hforeign

/-! ### A process that dies with its first load -/

deriving instance Encodable for EndpointRole, OwnedModule, OwnershipJournal

def asciiBytes (text : String) : List UInt8 := text.toList.map (fun c => c.toNat.toUInt8)

/-- Somebody else's sink. -/
def musicModules : Modules := (∅ : Modules).insert 3 ⟨"module-null-sink", "sink_name=music"⟩

/-- The microphone's module was loaded under the generation that is in the journal. -/
def orphanModules : Modules := musicModules.insert 5 (loadedModule (loadArgs .micOutSink "g-1"))

/-- The codec, as it writes the journals of the run and reads the endpoints of it. -/
def orphanCodec : GraphCodec where
  toVec := encodeKnown [
    (ownership "g-1" [],
      asciiBytes "\x7b\"schema_version\":1,\"generation\":\"g-1\",\"modules\":[]\x7d"),
    (ownership "g-1" [⟨.micOutSink, 5⟩],
      asciiBytes ("\x7b\"schema_version\":1,\"generation\":\"g-1\",\"modules\":"
        ++ "[\x7b\"role\":\"mic_out_sink\",\"module_id\":5\x7d]\x7d"))]
  fromSlice := decodeKnown [
    (ownership "g-1" [],
      asciiBytes "\x7b\"schema_version\":1,\"generation\":\"g-1\",\"modules\":[]\x7d"),
    (ownership "g-1" [⟨.micOutSink, 5⟩],
      asciiBytes ("\x7b\"schema_version\":1,\"generation\":\"g-1\",\"modules\":"
        ++ "[\x7b\"role\":\"mic_out_sink\",\"module_id\":5\x7d]\x7d"))]
  fromSlice_toVec := decodeKnown_encodeKnown (by decide +kernel)
  endpoints bytes :=
    if bytes = asciiBytes "[]" then some []
    else if bytes = asciiBytes "[\x7b\"index\":1,\"name\":\"translator_mic_out\",\"owner_module\":5\x7d]"
      then some [⟨1, "translator_mic_out", 5⟩]
    else none

/-- The load has its effect, and the process dies with it. -/
def diesAtLoad : Answers where
  run _ args modules :=
    if args.head? = some "load-module" then
      if modules.lookup 5 = none then (none, modules.insert 5 (loadedModule args))
      else (some (.ok ⟨false, []⟩), modules)
    else if args.head? = some "unload-module" ∨ args = listModules then
      (some (.ok ⟨false, []⟩), modules)
    else (some (.ok ⟨true, asciiBytes "[]"⟩), modules)
  opens _ := some (.ok ())
  writes _ := .done

def orphanListing : List UInt8 := asciiBytes ("3\tmodule-null-sink\tsink_name=music\t\n"
  ++ "5\tmodule-null-sink\tsink_name=translator_mic_out rate=48000 channels=1 channel_map=mono "
  ++ "sink_properties=device.description=Translator_Mic_Out translator.owner=true "
  ++ "translator.generation=g-1\t\n")

/-- The listing of the modules that are left, by a server that loads nothing more. -/
def listsOrphan : Answers where
  run _ args modules :=
    if args.head? = some "load-module" then (some (.ok ⟨false, []⟩), modules)
    else if args.head? = some "unload-module" then
      if args = unloadArgs 5 then (some (.ok ⟨true, []⟩), modules.erase 5)
      else (some (.ok ⟨false, []⟩), modules)
    else if args = listModules then
      if modules.entries = orphanModules.entries then (some (.ok ⟨true, orphanListing⟩), modules)
      else (some (.ok ⟨false, []⟩), modules)
    else if args = ["--format=json", "list", "sinks"] then
      (some (.ok ⟨true, asciiBytes
        "[\x7b\"index\":1,\"name\":\"translator_mic_out\",\"owner_module\":5\x7d]"⟩), modules)
    else (some (.ok ⟨true, asciiBytes "[]"⟩), modules)
  opens _ := some (.ok ())
  writes _ := .done

/-- A text of ASCII characters is its own bytes. -/
theorem asciiBytes_eq {text : String} (h : text.toList.all (·.utf8Size = 1) = true) :
    asciiBytes text = text.toByteArray.data.toList := by
  rw [← String.utf8Encode_toList]
  unfold asciiBytes List.utf8Encode
  rw [List.data_toByteArray, List.toList_toArray, List.map_eq_flatMap]
  refine List.flatMap_congr fun c hc => ?_
  have hsize : c.utf8Size = 1 := by simpa using List.all_eq_true.mp h c hc
  rw [String.utf8EncodeChar_eq_singleton hsize]
  rfl

theorem orphanListing_eq :
    orphanListing = listing [moduleLine 3 ⟨"module-null-sink", "sink_name=music"⟩ [""],
      moduleLine 5 (loadedModule (loadArgs .micOutSink "g-1")) [""]] := by
  unfold orphanListing
  rw [asciiBytes_eq]
  · refine congrArg (fun text : String => text.toByteArray.data.toList) (String.toList_inj.mp ?_)
    simp only [moduleLine, loadedModule, loadArgs, List.map_cons, List.map_nil, String.join_cons,
      String.join_nil, String.toList_append, String.toList_intercalate, List.drop_succ_cons,
      List.drop_zero]
    -- The characters of a literal, without decoding its bytes.
    repeat rw [String.toList_ofList]
    rfl
  · simp only [String.toList_append, List.all_append]
    repeat rw [String.toList_ofList]
    decide

/-- The listing is read as what it lists. -/
theorem orphanListing_parses :
    (parseModules orphanListing).map AList.entries = some orphanModules.entries := by
  have hvalid : validGeneration "g-1" = true := by decide +kernel
  have hempty : ∀ column ∈ [""], IsLine column := by decide +kernel
  have hlines : ∀ line ∈ [moduleLine 3 ⟨"module-null-sink", "sink_name=music"⟩ [""],
      moduleLine 5 (loadedModule (loadArgs .micOutSink "g-1")) [""]], IsLine line := by
    intro line hline
    simp only [List.mem_cons, List.not_mem_nil, or_false] at hline
    rcases hline with rfl | rfl
    · exact moduleLine_isLine (by decide +kernel) (by decide +kernel) hempty
    · exact loadedLine_isLine hvalid hempty
  rw [orphanListing_eq, parseModules_listing hlines,
    List.filterMap_cons_some (parseModule_moduleLine (by decide) (by decide) (by decide) _),
    List.filterMap_cons_some (parseModule_loadedLine hvalid (by decide) _), List.filterMap_nil]
  rfl

theorem listsOrphan_reflects : listsOrphan.Reflects := by
  constructor
  · intro n args modules hload hunload
    simp only [listsOrphan, if_neg hload, if_neg hunload]
    split
    · split <;> rfl
    · split <;> rfl
  · intro n modules result listed hresult hsuccess hparse i
    have hload : listModules.head? ≠ some "load-module" := by decide
    have hunload : listModules.head? ≠ some "unload-module" := by decide
    simp only [listsOrphan, if_neg hload, if_neg hunload, if_true] at hresult
    by_cases horphan : modules.entries = orphanModules.entries
    · rw [if_pos horphan] at hresult
      obtain rfl : (⟨true, orphanListing⟩ : CommandResult) = result := by simpa using hresult
      have hshown := orphanListing_parses
      dsimp only at hparse
      rw [hparse, Option.map_some, Option.some_inj, ← horphan] at hshown
      have hsame : listed = modules := AList.ext hshown
      rw [hsame]
    · rw [if_neg horphan] at hresult
      obtain rfl : (⟨false, []⟩ : CommandResult) = result := by simpa using hresult
      cases hsuccess
  · intro n args modules hload
    simp only [listsOrphan, if_pos hload]
    refine .inl ⟨trivial, fun result hresult => ?_⟩
    cases hresult
    rfl
  · intro n i modules
    have hargs : (unloadArgs i).head? ≠ some "load-module" ∧ (unloadArgs i).head? = some "unload-module" :=
      ⟨by simp [unloadArgs], rfl⟩
    simp only [listsOrphan, if_neg hargs.1, if_pos hargs.2]
    split
    · next h => exact .inr (by rw [unloadArgs_inj h])
    · refine .inl ⟨rfl, fun result hresult => ?_⟩
      cases hresult
      rfl

/-- The first process dies with its load, and nobody has recorded the module. -/
def orphaned : List Operation := [.call .ensureEndpoints "g-1" diesAtLoad]

/-- The next process unloads the orphan, and nobody else's module. -/
theorem music_stays :
    AtEach (Verified orphanCodec)
      (exec (Station.step orphanCodec) ⟨musicModules, none, [], 0⟩ orphaned).2.issued
    ∧ ((exec (Station.step orphanCodec) ⟨musicModules, none, [], 0⟩ orphaned).2.step orphanCodec
      (.call .cleanupOwned "g-2" listsOrphan)).2.modules.lookup 3
      = some ⟨"module-null-sink", "sink_name=music"⟩ := by
  refine ⟨(run_unloads orphanCodec musicModules none orphaned).1,
    (run_unloads orphanCodec musicModules none orphaned).2 .cleanupOwned "g-2" listsOrphan 3 _
      listsOrphan_reflects (by decide +kernel) fun role g _ howned => ?_⟩
  exact absurd howned.owner (by decide +kernel)

end Translator.Graph
