import Translator.Graph.Reconciled
import Translator.Schemes.Run

/-! What may be unloaded. Indices come from a journal that may be stale, so before every unload the
    modules are listed again: whatever the commands come to and whatever the listings show, the module
    named was shown just before as what its role expects, of the generation of the journal. -/

namespace Translator.Graph

open Schemes
open Routing (JournalFile)

/-! ### The commands before an unload -/

/-- The last command was a listing that showed these modules. -/
def JustListed (issued : List Issued) (modules : Modules) : Prop :=
  ∃ listing result, issued.getLast? = some listing ∧ listing.args = listModules
    ∧ listing.result = some (.ok result) ∧ result.success = true
    ∧ parseModules result.stdout = some modules

/-- The journal is one of this generation. -/
def Holds (codec : GraphCodec) (file : Option JournalFile) (generation : String) : Prop :=
  ∃ journal, decodeJournal codec file = .ok (some journal) ∧ journal.generation = generation

/-- An unload names a module that the listing right before it showed as what some role expects, of the
    generation of the journal there was. -/
def Verified (codec : GraphCodec) (before : List Issued) (command : Issued) : Prop :=
  command.args.head? = some "unload-module" →
    ∃ modules moduleId role module generation, JustListed before modules
      ∧ command.args = unloadArgs moduleId ∧ modules.lookup moduleId = some module
      ∧ Holds codec command.journal generation ∧ module.Owned role generation

/-- Every unload so far was verified, and the journal is one of this generation, if any is given. -/
def Journaled (codec : GraphCodec) (generation : Option String) (s : Station) : Prop :=
  AtEach (Verified codec) s.issued ∧ ∀ g, generation = some g → Holds codec s.journal g

variable {host : Host} {generation : Option String} {g : String} {s s' : Station}

theorem Journaled.checked {codec : GraphCodec} (h : Journaled codec generation s) :
    Journaled codec none s := ⟨h.1, nofun⟩

theorem Journaled.holds {codec : GraphCodec} (h : Journaled codec (some g) s) :
    Holds codec s.journal g := h.2 g rfl

theorem journaled_of_same {codec : GraphCodec} (h : Journaled codec generation s)
    (hissued : s'.issued = s.issued) (hjournal : s'.journal = s.journal) :
    Journaled codec generation s' :=
  ⟨hissued ▸ h.1, fun g hg => hjournal ▸ h.2 g hg⟩

/-- A journal that passed the check is read back. -/
theorem holds_saved {codec : GraphCodec} {journal : OwnershipJournal} (h : journal.validate = true) :
    decodeJournal codec (some (.saved (codec.toVec journal))) = .ok (some journal) := by
  simp [decodeJournal, JournalFile.saved, codec.fromSlice_toVec, h]

/-! ### Single effects -/

/-- What a command comes to, from what it came to on the host. -/
theorem runPactl_wp {args : List String} {code : AudioGraphErrorCode}
    {post : Call.Post Station AudioGraphError CommandResult}
    (hok : ∀ result, (host.run s.tick args s.modules).1 = some (.ok result) → result.success = true →
      post.ok result (s.commanded host args))
    (herr : ∀ e, post.err e (s.commanded host args)) (hcrash : post.crash (s.commanded host args)) :
    (runPactl host args code).wp post s := by
  unfold Call.wp runPactl
  split
  · exact hcrash
  · exact herr _
  · exact herr _
  · next result hresult =>
    split
    · next hsuccess => exact hok result hresult hsuccess
    · exact herr _

theorem openFile_keeps : Call.Keeps (fun s => (s.modules, s.journal, s.issued)) (openFile host) := by
  intro s
  unfold openFile
  split <;> rfl

/-- A save puts its journal in place or leaves the file, whatever it comes to. -/
theorem saveJournal_wp {journal : OwnershipJournal} {post : Call.Post Station AudioGraphError Unit}
    (hleft : ∀ e, post.err e s) (hcrash : post.crash s)
    (herr : ∀ e s', s'.modules = s.modules → s'.issued = s.issued →
      (s'.journal = s.journal
        ∨ journal.validate = true ∧ s'.journal = some (.saved (host.codec.toVec journal))) →
      post.err e s')
    (hok : ∀ s', journal.validate = true → s'.modules = s.modules → s'.issued = s.issued →
      s'.journal = some (.saved (host.codec.toVec journal)) → post.ok () s') :
    (saveJournal host journal).wp post s := by
  unfold Call.wp saveJournal
  split
  · exact hleft _
  · next hvalid =>
    have hvalid : journal.validate = true := by simpa using hvalid
    dsimp only
    split
    · exact hcrash
    · exact herr _ _ rfl rfl (.inl rfl)
    · exact herr _ _ rfl rfl (.inr ⟨hvalid, rfl⟩)
    · exact hok _ hvalid rfl rfl rfl
    · exact hok _ hvalid rfl rfl rfl

theorem removeJournal_wp {post : Call.Post Station AudioGraphError Unit} (hcrash : post.crash s)
    (herr : ∀ e s', s'.modules = s.modules → s'.issued = s.issued → s'.journal = s.journal →
      post.err e s')
    (hok : ∀ s', s'.modules = s.modules → s'.issued = s.issued → s'.journal = none →
      post.ok () s') :
    (removeJournal host).wp post s := by
  unfold Call.wp removeJournal
  split
  · exact hcrash
  · exact herr _ _ rfl rfl rfl
  · exact herr _ _ rfl rfl rfl
  · exact hok _ rfl rfl rfl
  · exact hok _ rfl rfl rfl

/-! ### What keeps the unloads verified -/

/-- Every unload stays verified and the generation stays, also where the process dies. -/
def Upright (host : Host) (generation : Option String) {α : Type} (c : GraphCall α) : Prop :=
  Call.Maintains (Journaled host.codec generation) (Journaled host.codec generation) c

/-- What an upright call comes to. -/
def uprightPost (host : Host) (generation : Option String) {α : Type} :
    Call.Post Station AudioGraphError α :=
  ⟨fun _ => Journaled host.codec generation, fun _ => Journaled host.codec generation,
    Journaled host.codec generation⟩

theorem journaled_commanded {args : List String} (h : Journaled host.codec generation s)
    (hverified : Verified host.codec s.issued ⟨args, (host.run s.tick args s.modules).1, s.journal⟩) :
    Journaled host.codec generation (s.commanded host args) :=
  ⟨atEach_concat h.1 hverified, h.2⟩

/-- A command that unloads nothing. -/
theorem upright_command {args : List String} (hargs : args.head? ≠ some "unload-module")
    (code : AudioGraphErrorCode) : Upright host generation (runPactl host args code) := by
  intro s hs
  have hafter : Journaled host.codec generation (s.commanded host args) :=
    journaled_commanded hs fun h => absurd h hargs
  exact runPactl_wp (fun _ _ _ => hafter) (fun _ => hafter) hafter

theorem upright_open : Upright host generation (openFile host) := by
  intro s hs
  have hsame : ∀ s' : Station, (s'.modules, s'.journal, s'.issued) = (s.modules, s.journal, s.issued) →
      Journaled host.codec generation s' := by
    intro s' h
    simp only [Prod.mk.injEq] at h
    exact journaled_of_same hs h.2.2 h.2.1
  exact Call.wp_of_keeps openFile_keeps (fun _ => hsame) (fun _ => hsame) hsame

/-- A journal of the same generation is saved. -/
theorem upright_save {journal : OwnershipJournal}
    (hgeneration : ∀ g, generation = some g → journal.generation = g) :
    Upright host generation (saveJournal host journal) := by
  intro s hs
  have hnew : ∀ s' : Station, journal.validate = true → s'.issued = s.issued →
      s'.journal = some (.saved (host.codec.toVec journal)) → Journaled host.codec generation s' := by
    intro s' hvalid hissued hjournal
    refine ⟨hissued ▸ hs.1, fun g hg => ⟨journal, ?_, hgeneration g hg⟩⟩
    rw [hjournal]
    exact holds_saved hvalid
  refine saveJournal_wp (fun _ => hs) hs (fun e s' _ hissued hjournal => ?_)
    fun s' hvalid _ hissued hjournal => hnew s' hvalid hissued hjournal
  rcases hjournal with hjournal | ⟨hvalid, hjournal⟩
  · exact journaled_of_same hs hissued hjournal
  · exact hnew s' hvalid hissued hjournal

theorem upright_remove : Upright host none (removeJournal host) := by
  intro s hs
  exact removeJournal_wp hs (fun _ _ _ hissued hjournal => journaled_of_same hs hissued hjournal)
    fun s' _ hissued _ => ⟨hissued ▸ hs.1, nofun⟩

theorem upright_inspectKind (kind : String) :
    Upright host generation (inspectEndpointKind host kind) := by
  refine Call.maintains_bind (upright_command (by simp) _) fun result => ?_
  cases host.codec.endpoints result.stdout with
  | some endpoints => exact Call.maintains_pure _
  | none => exact Call.maintains_fail _

theorem upright_inspectRaw : Upright host generation (inspectRaw host) :=
  Call.maintains_bind (upright_inspectKind _) fun _ =>
    Call.maintains_bind (upright_inspectKind _) fun _ => Call.maintains_pure _

theorem upright_load (role : EndpointRole) (next : String) :
    Upright host generation (loadEndpoint host role next) := by
  have hargs : (loadArgs role next).head? ≠ some "unload-module" := by cases role <;> simp [loadArgs]
  refine Call.maintains_bind (upright_command hargs _) fun result => ?_
  split
  · exact Call.maintains_pure _
  · exact Call.maintains_fail _

/-- What a listing shows is what it just showed. -/
theorem inspectModules_lists (hs : Journaled host.codec generation s) :
    (inspectModules host).wp ⟨fun modules s' =>
      Journaled host.codec generation s' ∧ JustListed s'.issued modules,
      fun _ => Journaled host.codec generation, Journaled host.codec generation⟩ s := by
  have hafter : Journaled host.codec generation (s.commanded host listModules) :=
    journaled_commanded hs fun h => absurd h (by simp [listModules])
  unfold inspectModules
  rw [Call.wp_bind]
  refine runPactl_wp (fun result hresult hsuccess => ?_) (fun _ => hafter) hafter
  dsimp only
  cases hparse : parseModules result.stdout with
  | none => exact hafter
  | some modules => exact ⟨hafter, _, result, List.getLast?_concat .., rfl, hresult, hsuccess, hparse⟩

theorem upright_inspectModules : Upright host generation (inspectModules host) := fun _ hs =>
  Call.wp_mono (inspectModules_lists hs) (fun _ _ h => h.1) (fun _ _ h => h) fun _ h => h

/-- A module is unloaded right after a listing showed it as what its role expects. -/
theorem unload_upright {moduleId : Nat} {modules : Modules} {module : PactlModule}
    {role : EndpointRole} (hs : Journaled host.codec (some g) s) (hlisted : JustListed s.issued modules)
    (hmodule : modules.lookup moduleId = some module)
    (hmatches : moduleMatches role module g = true) :
    (unloadModule host moduleId).wp (uprightPost host (some g)) s := by
  have hafter : Journaled host.codec (some g) (s.commanded host (unloadArgs moduleId)) :=
    journaled_commanded hs fun _ => ⟨modules, moduleId, role, module, g, hlisted, rfl, hmodule,
      hs.holds, moduleMatches_iff.mp hmatches⟩
  unfold unloadModule
  rw [Call.wp_bind]
  exact runPactl_wp (fun _ _ _ => hafter) (fun _ => hafter) hafter

/-! ### The loops -/

theorem upright_saveOwnership (newest : List OwnedModule) :
    Upright host (some g) (saveJournal host (ownership g newest)) :=
  upright_save fun _ hg => Option.some.inj hg

theorem upright_rollbackModule (module : OwnedModule) (rest : List OwnedModule) :
    Upright host (some g) (rollbackModule host g module rest) := by
  have hsave : Upright host (some g) (do
      saveJournal host (ownership g (module :: rest))
      failWith (α := Unit) .rollbackFailed) :=
    Call.maintains_bind (upright_saveOwnership _) fun _ => Call.maintains_fail _
  intro s hs
  unfold rollbackModule
  rw [Call.wp_bind, Call.wp_mapErr]
  refine Call.wp_mono (inspectModules_lists hs) ?_ (fun _ _ h => h) fun _ h => h
  rintro modules s₁ ⟨hs₁, hlisted⟩
  dsimp only
  cases hmodule : modules.lookup module.moduleId with
  | none => exact hs₁
  | some discovered =>
    dsimp only
    split
    · next hmatches =>
      rw [Call.wp_bind, Call.wp_attempt]
      refine Call.wp_mono (unload_upright hs₁ hlisted hmodule hmatches) (fun _ _ h => h)
        (fun _ s₂ hs₂ => hsave s₂ hs₂) fun _ h => h
    · exact hsave s₁ hs₁

theorem upright_rollback (newest : List OwnedModule) :
    Upright host (some g) (rollbackNewModules host g newest) := by
  induction newest with
  | nil => exact upright_saveOwnership _
  | cons module rest ih =>
    exact Call.maintains_bind (upright_rollbackModule module rest) fun _ =>
      Call.maintains_bind (upright_saveOwnership rest) fun _ => ih

theorem upright_rollBack {α : Type} (newest : List OwnedModule) (error : AudioGraphError) :
    Upright host (some g) (rollBack host g newest error : GraphCall α) :=
  Call.maintains_bind (Call.maintains_mapErr (upright_rollback newest)) fun _ => Call.maintains_fail _

theorem upright_createModules (newest : List OwnedModule) (roles : List EndpointRole) :
    Upright host (some g) (createModules host g newest roles) := by
  induction roles generalizing newest with
  | nil => exact Call.maintains_pure _
  | cons role roles ih =>
    refine Call.maintains_bind (Call.maintains_attempt (upright_load role g)) fun loaded => ?_
    cases loaded with
    | error loadError => exact upright_rollBack _ _
    | ok moduleId =>
      refine Call.maintains_bind (Call.maintains_attempt (upright_saveOwnership _)) fun saved => ?_
      cases saved with
      | error e => exact upright_rollBack _ _
      | ok u => exact ih _

theorem upright_createJournaled : Upright host (some g) (createJournaled host g) := by
  refine Call.maintains_bind (upright_createModules _ _) fun newest => ?_
  refine Call.maintains_bind (Call.maintains_attempt upright_inspectRaw) fun inspected => ?_
  cases inspected with
  | error inspectionError => exact upright_rollBack _ _
  | ok raw => exact Call.maintains_ite (upright_rollBack _ _) (Call.maintains_pure _)

/-- The generation of the journal is the one the new modules get, from the first save on. -/
theorem createEndpoints_upright (hs : Journaled host.codec none s) (next : String) :
    (createEndpoints host next).wp (uprightPost host none) s := by
  unfold createEndpoints
  rw [Call.wp_bind]
  refine saveJournal_wp (fun _ => hs) hs (fun _ s' _ hissued _ => ⟨hissued ▸ hs.1, nofun⟩)
    fun s' hvalid _ hissued hjournal => ?_
  have hs' : Journaled host.codec (some next) s' := by
    refine ⟨hissued ▸ hs.1, ?_⟩
    rintro _ ⟨⟩
    exact ⟨_, hjournal ▸ holds_saved hvalid, rfl⟩
  exact Call.wp_mono (upright_createJournaled s' hs') (fun _ _ h => h.checked) (fun _ _ h => h.checked)
    fun _ h => h.checked

theorem upright_cleanupModule (module : OwnedModule) :
    Upright host (some g) (cleanupModule host g module) := by
  intro s hs
  unfold cleanupModule
  rw [Call.wp_bind]
  refine Call.wp_mono (inspectModules_lists hs) ?_ (fun _ _ h => h) fun _ h => h
  rintro modules s₁ ⟨hs₁, hlisted⟩
  dsimp only
  cases hmodule : modules.lookup module.moduleId with
  | none => exact hs₁
  | some discovered =>
    dsimp only
    split
    · next hmatches =>
      rw [Call.wp_bind, Call.wp_mapErr]
      exact Call.wp_mono (unload_upright hs₁ hlisted hmodule hmatches) (fun _ _ h => h)
        (fun _ _ h => h) fun _ h => h
    · exact hs₁

/-- The journal goes only with its last module. -/
theorem cleanupModules_upright (unloaded : List Nat) (newest : List OwnedModule)
    (hs : Journaled host.codec (some g) s) :
    (cleanupModules host g unloaded newest).wp (uprightPost host none) s := by
  have hremove : ∀ unloaded, Upright host none (cleanupModules host g unloaded []) := fun unloaded =>
    Call.maintains_bind upright_remove fun _ => Call.maintains_pure _
  induction newest generalizing unloaded s with
  | nil => exact hremove unloaded s hs.checked
  | cons module rest ih =>
    unfold cleanupModules
    rw [Call.wp_bind]
    refine Call.wp_mono (upright_cleanupModule module s hs) (fun more s₁ hs₁ => ?_)
      (fun _ _ h => h.checked) fun _ h => h.checked
    dsimp only
    split
    · next hrest =>
      obtain rfl : rest = [] := by simpa using hrest
      exact Call.maintains_bind upright_remove (fun _ => hremove _) s₁ hs₁.checked
    · rw [Call.wp_bind]
      exact Call.wp_mono (upright_saveOwnership rest s₁ hs₁) (fun _ s₂ hs₂ => ih _ hs₂)
        (fun _ _ h => h.checked) fun _ h => h.checked

/-! ### The calls -/

/-- A journal that is loaded is the one there is. -/
theorem loadJournal_upright (hs : Journaled host.codec none s) :
    (loadJournal host).wp ⟨fun journal s' => Journaled host.codec none s'
        ∧ ∀ j, journal = some j → Journaled host.codec (some j.generation) s',
      fun _ => Journaled host.codec none, Journaled host.codec none⟩ s := by
  unfold loadJournal
  rw [Call.wp_bind]
  refine Call.wp_mono (upright_open s hs) (fun _ s₁ hs₁ => ?_) (fun _ _ h => h) fun _ h => h
  dsimp only
  simp only [Call.wp_bind, Call.wp_get]
  cases hdecode : decodeJournal host.codec s₁.journal with
  | error code => exact hs₁
  | ok journal =>
    refine ⟨hs₁, ?_⟩
    rintro j rfl
    refine ⟨hs₁.1, ?_⟩
    rintro _ ⟨⟩
    exact ⟨j, hdecode, rfl⟩

theorem reconcile_upright {raw : RawGraph} {journal : OwnershipJournal} {code : AudioGraphErrorCode}
    (hs : Journaled host.codec (some journal.generation) s) :
    (reconcile host raw journal code).wp ⟨fun reconciled s' =>
        reconciled.generation = journal.generation ∧ Journaled host.codec (some journal.generation) s',
      fun _ => Journaled host.codec none, Journaled host.codec none⟩ s := by
  unfold reconcile
  rw [Call.wp_bind]
  refine Call.wp_mono (upright_inspectModules s hs) (fun modules s₁ hs₁ => ?_)
    (fun _ _ h => h.checked) fun _ h => h.checked
  dsimp only
  cases hreconciled : reconcileOwnership raw journal modules code with
  | error code => exact hs₁.checked
  | ok reconciled => exact ⟨(reconcileOwnership_spec hreconciled).1, hs₁⟩

theorem upright_saveReconciled {journal reconciled : OwnershipJournal}
    (h : reconciled.generation = g) : Upright host (some g) (saveReconciled host journal reconciled) :=
  Call.maintains_ite (upright_save fun _ hg => h.trans (Option.some.inj hg)) (Call.maintains_pure _)

theorem cleanupReconciled_upright {journal : OwnershipJournal}
    (hs : Journaled host.codec (some journal.generation) s) :
    (cleanupReconciled host journal).wp (uprightPost host none) s :=
  cleanupModules_upright [] _ hs

theorem upright_ensureEndpoints (next : String) : Upright host none (ensureEndpoints host next) := by
  have hcreate : Upright host none (createEndpoints host next) := fun s hs =>
    createEndpoints_upright hs next
  intro s hs
  unfold ensureEndpoints
  rw [Call.wp_bind]
  refine Call.wp_mono (upright_open s hs) (fun _ s₁ hs₁ => ?_) (fun _ _ h => h) fun _ h => h
  rw [Call.wp_bind]
  refine Call.wp_mono (loadJournal_upright hs₁) ?_ (fun _ _ h => h) fun _ h => h
  rintro journal s₂ ⟨hs₂, hjournal⟩
  cases journal with
  | none =>
    refine Call.maintains_bind upright_inspectRaw (fun raw => ?_) s₂ hs₂
    exact Call.maintains_ite (Call.maintains_fail _) (Call.maintains_ite (Call.maintains_fail _) hcreate)
  | some journal =>
    dsimp only
    rw [Call.wp_bind]
    refine Call.wp_mono (upright_inspectRaw s₂ (hjournal journal rfl)) (fun raw s₃ hs₃ => ?_)
      (fun _ _ h => h.checked) fun _ h => h.checked
    dsimp only
    split
    · exact hs₃.checked
    · rw [Call.wp_bind]
      refine Call.wp_mono (reconcile_upright hs₃) ?_ (fun _ _ h => h) fun _ h => h
      rintro reconciled s₄ ⟨hgeneration, hs₄⟩
      dsimp only
      rw [Call.wp_bind]
      refine Call.wp_mono (upright_saveReconciled hgeneration s₄ hs₄) (fun _ s₅ hs₅ => ?_)
        (fun _ _ h => h.checked) fun _ h => h.checked
      dsimp only
      split
      · exact hs₅.checked
      · rw [Call.wp_bind]
        refine Call.wp_mono (cleanupReconciled_upright (hgeneration ▸ hs₅)) (fun _ s₆ hs₆ => ?_)
          (fun _ _ h => h) fun _ h => h
        exact Call.maintains_bind upright_inspectRaw (fun _ =>
          Call.maintains_ite (Call.maintains_fail _) hcreate) s₆ hs₆

theorem upright_inspect : Upright host none (inspect host) := by
  refine Call.maintains_bind upright_open fun _ => ?_
  refine Call.maintains_bind (Call.maintains_bind upright_open fun _ => Call.maintains_get fun s _ => ?_)
    fun journal => Call.maintains_bind upright_inspectRaw fun raw =>
      Call.maintains_ite (Call.maintains_fail _) ?_
  · split
    · exact Call.maintains_pure _
    · exact Call.maintains_fail _
  · cases journal with
    | none => exact Call.maintains_pure _
    | some journal =>
      refine Call.maintains_bind (Call.maintains_bind upright_inspectModules fun modules => ?_)
        fun _ => Call.maintains_pure _
      split
      · exact Call.maintains_pure _
      · exact Call.maintains_fail _

theorem upright_cleanupOwned : Upright host none (cleanupOwned host) := by
  intro s hs
  unfold cleanupOwned
  rw [Call.wp_bind]
  refine Call.wp_mono (upright_open s hs) (fun _ s₁ hs₁ => ?_) (fun _ _ h => h) fun _ h => h
  rw [Call.wp_bind]
  refine Call.wp_mono (loadJournal_upright hs₁) ?_ (fun _ _ h => h) fun _ h => h
  rintro journal s₂ ⟨hs₂, hjournal⟩
  cases journal with
  | none => exact hs₂
  | some journal =>
    dsimp only
    rw [Call.wp_bind]
    refine Call.wp_mono (upright_inspectRaw s₂ (hjournal journal rfl)) (fun raw s₃ hs₃ => ?_)
      (fun _ _ h => h.checked) fun _ h => h.checked
    dsimp only
    split
    · exact hs₃.checked
    · rw [Call.wp_bind]
      refine Call.wp_mono (reconcile_upright hs₃) ?_ (fun _ _ h => h) fun _ h => h
      rintro reconciled s₄ ⟨hgeneration, hs₄⟩
      dsimp only
      rw [Call.wp_bind]
      refine Call.wp_mono (upright_saveReconciled hgeneration s₄ hs₄) (fun _ s₅ hs₅ => ?_)
        (fun _ _ h => h.checked) fun _ h => h.checked
      exact cleanupReconciled_upright (hgeneration ▸ hs₅)

theorem upright_request (request : Request) (next : String) :
    Upright host none (request.run host next) := by
  cases request with
  | ensureEndpoints =>
    exact Call.maintains_bind (upright_ensureEndpoints next) fun _ => Call.maintains_pure _
  | inspect => exact Call.maintains_bind upright_inspect fun _ => Call.maintains_pure _
  | cleanupOwned => exact Call.maintains_bind upright_cleanupOwned fun _ => Call.maintains_pure _

theorem step_journaled {codec : GraphCodec} (op : Operation) (hs : Journaled codec none s) :
    Journaled codec none (s.step codec op).2 := by
  cases op with
  | change modules journal => exact ⟨hs.1, nofun⟩
  | call request next answers =>
    exact Call.end_of_maintains (@upright_request ⟨answers, codec⟩ request next) (fun _ h => h) ⟨hs.1, nofun⟩

end Translator.Graph
