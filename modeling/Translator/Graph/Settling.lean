import Translator.Graph.Orphans
import Translator.Graph.Listing

/-! What `ensure_endpoints` leaves: a journal that reconciles to itself, so that the next call finds
    everything as it is. -/

namespace Translator.Graph

open Schemes
open Routing (JournalFile)

/-! ### A journal in order -/

/-- The roles stand in their order, once each. -/
def InOrder (modules : List OwnedModule) : Prop :=
  modules.Pairwise (fun a b => roleIndex a.role < roleIndex b.role)

theorem validModules_inOrder {modules existing : List OwnedModule} {previous : Option Nat}
    (h : validModules previous existing modules = true) :
    (∀ i ∈ previous, ∀ o ∈ modules, i < roleIndex o.role) ∧ InOrder modules := by
  induction modules generalizing previous existing with
  | nil => exact ⟨fun _ _ o ho => absurd ho List.not_mem_nil, List.Pairwise.nil⟩
  | cons module rest ih =>
    simp only [validModules, Bool.and_eq_true, Bool.not_eq_true', Option.any_eq_false] at h
    obtain ⟨⟨hprevious, -⟩, hrest⟩ := h
    obtain ⟨hlater, horder⟩ := ih hrest
    have hnext : ∀ o ∈ rest, roleIndex module.role < roleIndex o.role := hlater _ rfl
    refine ⟨fun i hi o ho => ?_, List.pairwise_cons.mpr ⟨hnext, horder⟩⟩
    have hfirst : i < roleIndex module.role := by
      have := hprevious i hi
      simpa using this
    rcases List.mem_cons.mp ho with rfl | ho
    · exact hfirst
    · exact hfirst.trans (hnext o ho)

theorem inOrder_of_validate {journal : OwnershipJournal} (h : journal.validate = true) :
    InOrder journal.modules := by
  simp only [OwnershipJournal.validate, Bool.and_eq_true] at h
  exact (validModules_inOrder h.2).2

theorem InOrder.nodup {modules : List OwnedModule} (h : InOrder modules) :
    (modules.map OwnedModule.role).Nodup := by
  refine List.pairwise_map.mpr (h.imp fun {a b} hlt heq => ?_)
  rw [heq] at hlt
  exact Nat.lt_irrefl _ hlt

/-- A role has the module that the journal names for it. -/
theorem moduleFor_of_mem {journal : OwnershipJournal} (horder : InOrder journal.modules)
    {o : OwnedModule} (ho : o ∈ journal.modules) : journal.moduleFor o.role = some o.moduleId := by
  unfold OwnershipJournal.moduleFor
  cases hfound : journal.modules.find? (fun module => module.role = o.role) with
  | none =>
    have := List.find?_eq_none.mp hfound o ho
    simp at this
  | some found =>
    have hrole : found.role = o.role := by simpa using List.find?_some hfound
    have hmem := List.mem_of_find?_eq_some hfound
    rw [List.inj_on_of_nodup_map horder.nodup hmem ho hrole]
    rfl

theorem sortByRole_of_inOrder {modules : List OwnedModule} (h : InOrder modules) :
    sortByRole modules = modules :=
  List.Pairwise.insertionSort_eq (h.imp fun h => Nat.le_of_lt h)

/-! ### The journal names what bears its generation -/

/-- The module bears the generation in a role: it is what the role expects, or claims to be. -/
def Bears (module : PactlModule) (role : EndpointRole) (generation : String) : Prop :=
  module.Owned role generation ∨ moduleClaimedRole module generation = some role

/-- Every module that bears the generation is among these. -/
def Named (generation : String) (owned : List OwnedModule) (modules : Modules) : Prop :=
  ∀ i module role, modules.lookup i = some module → Bears module role generation →
    ⟨role, i⟩ ∈ owned

/-- These are the modules that bear the generation, and each is what its role expects. -/
structure Accounted (generation : String) (owned : List OwnedModule) (modules : Modules) : Prop where
  loaded : ∀ o ∈ owned, ∃ module, modules.lookup o.moduleId = some module
    ∧ module.Owned o.role generation
  named : Named generation owned modules

variable {generation : String} {modules listed : Modules} {raw : RawGraph}

theorem Accounted.congr {owned : List OwnedModule} (h : Accounted generation owned modules)
    (hlisted : ∀ i, listed.lookup i = modules.lookup i) : Accounted generation owned listed := by
  refine ⟨fun o ho => ?_, fun i module role hmodule => h.named i module role (hlisted i ▸ hmodule)⟩
  rw [hlisted]
  exact h.loaded o ho

theorem keepOwned_of_loaded {owned : List OwnedModule}
    (h : ∀ o ∈ owned, ∃ module, modules.lookup o.moduleId = some module
      ∧ module.Owned o.role generation) : keepOwned generation modules owned = some owned := by
  induction owned with
  | nil => rfl
  | cons o rest ih =>
    obtain ⟨module, hmodule, howned⟩ := h o List.mem_cons_self
    unfold keepOwned
    rw [hmodule]
    simp only [howned.moduleMatches, if_true]
    rw [ih fun o ho => h o (List.mem_cons_of_mem _ ho)]
    rfl

theorem imitated_iff : imitated generation modules = false ↔ ∀ i module role,
    modules.lookup i = some module → moduleClaimedRole module generation = some role →
    module.Owned role generation := by
  unfold imitated
  simp only [List.any_eq_false, Option.any_eq_true_iff_get]
  constructor
  · intro h i module role hmodule hclaims
    have := h ⟨i, module⟩ (AList.mem_lookup_iff.mp hmodule)
    simpa [hclaims, moduleMatches_iff] using this
  · rintro h ⟨i, module⟩ hmem
    cases hclaims : moduleClaimedRole module generation with
    | none => simp
    | some role =>
      have := h i module role (AList.mem_lookup_iff.mpr hmem) hclaims
      simp [this.moduleMatches]

theorem claimRole_of_mem {journal : OwnershipJournal} {role : EndpointRole} {i : Nat}
    (horder : InOrder journal.modules) (h : ⟨role, i⟩ ∈ journal.modules) :
    claimRole journal role i = some journal := by
  unfold claimRole
  rw [show journal.moduleFor role = some i from moduleFor_of_mem horder h]
  exact if_pos rfl

/-- The one module of a role that is found is the one the journal names. -/
theorem adoptMatching_of_named {journal : OwnershipJournal} (role : EndpointRole)
    (horder : InOrder journal.modules)
    (h : Named journal.generation journal.modules modules) :
    adoptMatching modules journal role = some journal := by
  have hmem : ∀ i ∈ matchingIds journal.generation modules role, ⟨role, i⟩ ∈ journal.modules := by
    intro i hi
    obtain ⟨module, hmodule, howned⟩ := mem_matchingIds.mp hi
    exact h i module role hmodule (.inl howned)
  have hone : ∀ i ∈ matchingIds journal.generation modules role, journal.moduleFor role = some i :=
    fun i hi => moduleFor_of_mem horder (hmem i hi)
  have hnodup : (matchingIds journal.generation modules role).Nodup :=
    (List.Sublist.map _ List.filter_sublist).nodup modules.nodupKeys
  unfold adoptMatching
  cases hids : matchingIds journal.generation modules role with
  | nil => rfl
  | cons i rest =>
    rw [hids] at hmem hone hnodup
    cases rest with
    | nil => exact claimRole_of_mem horder (hmem i List.mem_cons_self)
    | cons j rest =>
      have hsame : some i = some j :=
        (hone i List.mem_cons_self).symm.trans (hone j (List.mem_cons_of_mem _ List.mem_cons_self))
      obtain rfl := Option.some.inj hsame
      exact absurd List.mem_cons_self (List.nodup_cons.mp hnodup).1

/-- What the graph shows of a role. -/
theorem endpoint_of_matches {journal : OwnershipJournal}
    (h : journalMatchesGraph raw journal = true) (role : EndpointRole) :
    ∃ endpoint, raw.endpointsFor role = [endpoint]
      ∧ journal.moduleFor role = some endpoint.ownerModule := by
  unfold journalMatchesGraph at h
  rw [Bool.and_eq_true] at h
  have hrole := List.all_eq_true.mp h.2 role (EndpointRole.mem_order role)
  split at hrole
  · next endpoint hendpoint => exact ⟨endpoint, hendpoint, of_decide_eq_true hrole⟩
  · cases hrole

theorem adoptEndpoint_of_matches {journal : OwnershipJournal} (role : EndpointRole)
    (horder : InOrder journal.modules) (hmatches : journalMatchesGraph raw journal = true)
    (h : Accounted journal.generation journal.modules modules) :
    adoptEndpoint raw modules journal role = some journal := by
  obtain ⟨endpoint, hendpoint, hmodule⟩ := endpoint_of_matches hmatches role
  have hmem := mem_of_moduleFor hmodule
  obtain ⟨module, hlookup, howned⟩ := h.loaded _ hmem
  unfold adoptEndpoint
  rw [hendpoint]
  dsimp only at hlookup howned ⊢
  rw [hlookup]
  simp only [howned.moduleMatches, if_true]
  exact claimRole_of_mem horder hmem

theorem foldlM_same {α β : Type} {step : β → α → Option β} {b : β} (roles : List α)
    (h : ∀ role, step b role = some b) : roles.foldlM step b = some b := by
  induction roles with
  | nil => rfl
  | cons role rest ih =>
    rw [List.foldlM_cons, h role]
    exact ih

/-- A journal that accounts for what the graph shows reconciles to itself. -/
theorem reconcileOwnership_same {journal : OwnershipJournal} (hvalid : journal.validate = true)
    (hmatches : journalMatchesGraph raw journal = true)
    (h : Accounted journal.generation journal.modules modules) (code : AudioGraphErrorCode) :
    reconcileOwnership raw journal modules code = .ok journal := by
  have horder := inOrder_of_validate hvalid
  have hschema : journal.schemaVersion = journalSchemaVersion := by
    simp only [OwnershipJournal.validate, Bool.and_eq_true] at hvalid
    exact of_decide_eq_true hvalid.1.1.1
  have hstart : { OwnershipJournal.empty journal.generation with modules := journal.modules }
      = journal := by
    cases journal
    cases hschema
    rfl
  have himitated : imitated journal.generation modules = false := by
    refine imitated_iff.mpr fun i module role hmodule hclaims => ?_
    obtain ⟨module', hmodule', howned⟩ := h.loaded _ (h.named i module role hmodule (.inr hclaims))
    obtain rfl := Option.some.inj (hmodule.symm.trans hmodule')
    exact howned
  have hadopted : adoptAll raw journal modules = some journal := by
    unfold adoptAll
    rw [keepOwned_of_loaded h.loaded, himitated, Option.bind_eq_bind, Option.bind_some, hstart]
    simp only [Bool.false_eq_true, if_false]
    rw [foldlM_same _ fun role => adoptMatching_of_named role horder h.named]
    exact foldlM_same _ fun role => adoptEndpoint_of_matches role horder hmatches h
  unfold reconcileOwnership
  rw [hadopted]
  dsimp only
  rw [sortByRole_of_inOrder horder]
  exact if_pos hvalid

/-- A reconciled journal accounts for the modules that are listed. -/
theorem accounted_of_reconciled {journal reconciled : OwnershipJournal} {code : AudioGraphErrorCode}
    (h : reconcileOwnership raw journal modules code = .ok reconciled) :
    Accounted reconciled.generation reconciled.modules modules := by
  obtain ⟨hgeneration, -, hlisted, hsettled⟩ := reconcileOwnership_spec h
  have himitated : imitated journal.generation modules = false := by
    by_contra hne
    have htrue : imitated journal.generation modules = true := by simpa using hne
    unfold reconcileOwnership adoptAll at h
    cases hkept : keepOwned journal.generation modules journal.modules with
    | none => simp [hkept] at h
    | some kept => simp [hkept, htrue] at h
  refine ⟨hlisted, fun i module role hmodule hbears => (hsettled role).named i ?_⟩
  refine mem_matchingIds.mpr ⟨module, hmodule, ?_⟩
  rcases hbears with howned | hclaims
  · exact howned
  · rw [hgeneration] at hclaims ⊢
    exact imitated_iff.mp himitated i module role hmodule hclaims

/-- A graph that the journal matches is ready, and all of it is the daemon's. -/
theorem ready_of_matches {journal : OwnershipJournal}
    (h : journalMatchesGraph raw journal = true) :
    (stateFrom raw (some journal)).health = .ready
      ∧ (stateFrom raw (some journal)).endpoints.map AudioEndpointState.role = EndpointRole.order
      ∧ ∀ endpoint ∈ (stateFrom raw (some journal)).endpoints,
        endpoint.available = true ∧ endpoint.daemonOwned = true := by
  have hall : ∀ endpoint ∈ (stateFrom raw (some journal)).endpoints,
      endpoint.available = true ∧ endpoint.daemonOwned = true := by
    intro endpoint hmem
    obtain ⟨role, -, rfl⟩ := List.mem_map.mp hmem
    obtain ⟨found, hfound, hmodule⟩ := endpoint_of_matches h role
    simp [hfound, hmodule]
  refine ⟨if_pos ?_, rfl, hall⟩
  refine List.all_eq_true.mpr fun endpoint hmem => ?_
  have := hall endpoint hmem
  simp [this]

/-! ### What the endpoint listings show -/

def listEndpoints (kind : String) : List String := ["--format=json", "list", kind]

/-- The endpoints of a kind, as the last of these commands that listed them showed them. -/
def lastShown (codec : GraphCodec) (issued : List Issued) (kind : String) :
    Option (List PactlEndpoint) :=
  match (issued.reverse.find? (fun command => command.args = listEndpoints kind)).map Issued.result with
  | some (some (.ok result)) => codec.endpoints result.stdout
  | _ => none

/-- The graph, as it was shown last. -/
def Station.shown (codec : GraphCodec) (s : Station) :
    Option (List PactlEndpoint) × Option (List PactlEndpoint) :=
  (lastShown codec s.issued "sinks", lastShown codec s.issued "sources")

theorem lastShown_of_ne {codec : GraphCodec} {issued : List Issued} {command : Issued} {kind : String}
    (h : command.args ≠ listEndpoints kind) :
    lastShown codec (issued ++ [command]) kind = lastShown codec issued kind := by
  unfold lastShown
  rw [List.reverse_append, List.reverse_singleton, List.singleton_append,
    List.find?_cons_of_neg (by simpa using h)]

theorem lastShown_of_listed {codec : GraphCodec} {issued : List Issued} {kind : String}
    {result : CommandResult} {journal : Option JournalFile} :
    lastShown codec (issued ++ [⟨listEndpoints kind, some (.ok result), journal⟩]) kind
      = codec.endpoints result.stdout := by
  unfold lastShown
  rw [List.reverse_append, List.reverse_singleton, List.singleton_append,
    List.find?_cons_of_pos (by simp)]
  rfl

variable {host : Host} {s : Station} {g next : String}

/-- The listing that was read is the one that was shown last, and of the other kind nothing changes. -/
theorem inspectEndpointKind_wp {kind : String}
    {post : Call.Post Station AudioGraphError (List PactlEndpoint)}
    (hok : ∀ endpoints s', lastShown host.codec s'.issued kind = some endpoints →
      (∀ other, other ≠ kind →
        lastShown host.codec s'.issued other = lastShown host.codec s.issued other) →
      post.ok endpoints s')
    (herr : ∀ e s', post.err e s') (hcrash : ∀ s', post.crash s') :
    (inspectEndpointKind host kind).wp post s := by
  unfold inspectEndpointKind
  rw [Call.wp_bind]
  refine runPactl_wp (fun result hresult _ => ?_) (fun e => herr e _) (hcrash _)
  dsimp only
  cases hendpoints : host.codec.endpoints result.stdout with
  | none => exact herr _ _
  | some endpoints =>
    refine hok endpoints _ ?_ fun other hother => ?_
    · unfold Station.commanded
      rw [hresult]
      exact lastShown_of_listed.trans hendpoints
    · refine lastShown_of_ne fun heq => hother ?_
      have hsame : ["--format=json", "list", kind] = ["--format=json", "list", other] := heq
      simpa using hsame.symm

theorem inspectRaw_shown :
    (inspectRaw host).wp ⟨fun raw s' => s'.shown host.codec = (some raw.sinks, some raw.sources),
      fun _ _ => True, fun _ => True⟩ s := by
  unfold inspectRaw
  rw [Call.wp_bind]
  refine inspectEndpointKind_wp (fun sinks s₁ hsinks _ => ?_) (fun _ _ => trivial) fun _ => trivial
  dsimp only
  rw [Call.wp_bind]
  refine inspectEndpointKind_wp (fun sources s₂ hsources hother => ?_) (fun _ _ => trivial)
    fun _ => trivial
  exact Prod.ext ((hother "sinks" (by decide)).trans hsinks) hsources

/-- A command that lists no endpoints shows none. -/
theorem shown_runPactl {args : List String} (hargs : ∀ kind, args ≠ listEndpoints kind)
    (code : AudioGraphErrorCode) :
    Call.Keeps (Station.shown host.codec) (runPactl host args code) := by
  intro s
  have hsame : (s.commanded host args).shown host.codec = s.shown host.codec :=
    Prod.ext (lastShown_of_ne (hargs _)) (lastShown_of_ne (hargs _))
  unfold runPactl
  split
  · exact hsame
  · exact hsame
  · exact hsame
  · split <;> exact hsame

theorem shown_inspectModules : Call.Keeps (Station.shown host.codec) (inspectModules host) := by
  refine Call.keeps_bind (shown_runPactl (by simp [listModules, listEndpoints]) _) fun result => ?_
  cases parseModules result.stdout with
  | some modules => exact Call.keeps_pure _
  | none => exact Call.keeps_fail _

/-! ### What the first call leaves -/

/-- The journal accounts for all that bears its generation, and the graph that was shown last is the
    one it describes. -/
structure Stands (codec : GraphCodec) (raw : RawGraph) (journal : OwnershipJournal) (s : Station) :
    Prop where
  decoded : decodeJournal codec s.journal = .ok (some journal)
  accounted : Accounted journal.generation journal.modules s.modules
  shown : s.shown codec = (some raw.sinks, some raw.sources)

/-- The state is that of a journal that matches its graph, and given the condition these stand. -/
def Returns (codec : GraphCodec) (given : Prop) (state : AudioGraphState) (s : Station) : Prop :=
  ∃ raw journal, state = stateFrom raw (some journal) ∧ journalMatchesGraph raw journal = true
    ∧ (given → Stands codec raw journal s)

/-- The generation is that of the journal, or no module bears it yet. -/
def Unused (codec : GraphCodec) (next : String) (s : Station) : Prop :=
  (∃ journal, decodeJournal codec s.journal = .ok (some journal) ∧ journal.generation = next)
    ∨ Named next [] s.modules

/-- A loaded module bears its own generation in its own role only. -/
theorem loadedModule_bears {role role' : EndpointRole} (hvalid : validGeneration g = true)
    (h : Bears (loadedModule (loadArgs role g)) role' g) : role' = role := by
  rcases h with howned | hclaims
  · exact owned_role howned (loadedModule_owned hvalid)
  · exact Option.some.inj (hclaims.symm.trans (loadedModule_claimed hvalid))

theorem accounted_insert {owned : List OwnedModule} {i : Nat} {role : EndpointRole}
    (h : Accounted g owned modules) (hfresh : modules.lookup i = none)
    (hvalid : validGeneration g = true) :
    Accounted g (⟨role, i⟩ :: owned) (modules.insert i (loadedModule (loadArgs role g))) := by
  constructor
  · intro o ho
    rcases List.mem_cons.mp ho with rfl | ho
    · exact ⟨_, AList.lookup_insert _, loadedModule_owned hvalid⟩
    · obtain ⟨module, hmodule, howned⟩ := h.loaded o ho
      refine ⟨module, ?_, howned⟩
      rw [AList.lookup_insert_ne]
      · exact hmodule
      · rintro rfl
        rw [hfresh] at hmodule
        cases hmodule
  · intro j other role' hother hbears
    rw [Table.lookup_insert_if] at hother
    split at hother
    · next heq =>
      obtain rfl := Option.some.inj hother
      obtain rfl := loadedModule_bears hvalid hbears
      exact heq ▸ List.mem_cons_self
    · exact List.mem_cons_of_mem _ (h.named j other role' hother hbears)

section Reflected

variable (hr : host.Reflects)

include hr

/-- The graph that was read is the last one shown. -/
theorem inspectRaw_last :
    (inspectRaw host).wp ⟨fun raw s' => s'.shown host.codec = (some raw.sinks, some raw.sources)
      ∧ s'.still = s.still, fun _ _ => True, fun _ => True⟩ s := by
  have hstill : (inspectRaw host).wp ⟨fun _ s' => s'.still = s.still, fun _ _ => True,
      fun _ => True⟩ s :=
    Call.wp_of_keeps (inspectRaw_still hr) (fun _ _ h => h) (fun _ _ _ => trivial) fun _ _ => trivial
  exact Call.wp_mono (Call.wp_and inspectRaw_shown hstill) (fun _ _ h => h) (fun _ _ h => h.1)
    fun _ h => h.1

/-- The endpoints are made where nothing bears the generation. -/
theorem createEndpoints_returns {given : Prop} (hs : given → Named next [] s.modules) :
    (createEndpoints host next).wp ⟨Returns host.codec given, fun _ _ => True, fun _ => True⟩ s := by
  unfold createEndpoints
  rw [Call.wp_bind]
  refine saveJournal_wp (fun _ => trivial) trivial (fun _ _ _ _ _ => trivial)
    fun s₁ hvalid hmodules _ hjournal => ?_
  have hdecoded : decodeJournal host.codec s₁.journal = .ok (some (ownership next [])) :=
    hjournal ▸ holds_saved hvalid
  have hgeneration : validGeneration next = true := by
    simp only [OwnershipJournal.validate, Bool.and_eq_true] at hvalid
    exact hvalid.1.1.2
  dsimp only
  unfold createJournaled
  rw [Call.wp_bind]
  refine Call.wp_mono (createModules_wp hr (I := fun newest s =>
      decodeJournal host.codec s.journal = .ok (some (ownership next newest))
        ∧ (given → Accounted next newest s.modules)) ⟨hdecoded, fun h => ⟨?_, hmodules ▸ hs h⟩⟩ ?_)
    ?_ (fun _ _ h => h) fun _ h => h
  · intro o ho
    cases ho
  · rintro newest role i s s' ⟨-, haccounted⟩ hfresh hinsert hdecoded
    exact ⟨hdecoded, fun h => hinsert ▸ accounted_insert (haccounted h) hfresh hgeneration⟩
  · rintro newest s₂ ⟨⟨hdecoded₂, haccounted⟩, -⟩
    dsimp only
    rw [Call.wp_bind, Call.wp_attempt]
    refine Call.wp_mono (inspectRaw_last hr) ?_ (fun _ _ _ => rollBack_wp (fun _ _ => trivial) fun _ => trivial)
      fun _ _ => trivial
    rintro raw s₃ ⟨hshown, hstill⟩
    dsimp only
    split
    · exact rollBack_wp (fun _ _ => trivial) fun _ => trivial
    · next hmatches =>
      have hmatches : journalMatchesGraph raw (ownership next newest) = true := by
        simpa using hmatches
      refine ⟨raw, _, rfl, hmatches, fun h => ⟨?_, ?_, hshown⟩⟩
      · rw [Station.still_journal hstill]
        exact hdecoded₂
      · rw [Station.still_modules hstill]
        obtain ⟨hloaded, hnamed⟩ := haccounted h
        exact ⟨fun o ho => hloaded o (List.mem_reverse.mp ho),
          fun i module role hmodule hbears => List.mem_reverse.mpr (hnamed i module role hmodule hbears)⟩

/-- What is left after the cleanup was there before it, under an index that the journal does not
    name. -/
theorem cleanupModules_removes {newest : List OwnedModule} (unloaded : List Nat) :
    (cleanupModules host g unloaded newest).wp ⟨fun _ s' => ∀ i other, s'.modules.lookup i = some other →
      (∀ o ∈ newest, o.moduleId ≠ i) ∧ s.modules.lookup i = some other,
      fun _ _ => True, fun _ => True⟩ s := by
  have hremove : ∀ s : Station, (removeJournal host).wp
      ⟨fun _ s' => s'.modules = s.modules, fun _ _ => True, fun _ => True⟩ s := fun s =>
    Call.wp_of_keeps removeJournal_modules (fun _ _ h => h) (fun _ _ _ => trivial) fun _ _ => trivial
  induction newest generalizing unloaded s with
  | nil =>
    unfold cleanupModules
    rw [Call.wp_bind]
    refine Call.wp_mono (hremove s) (fun _ s₁ hs₁ i other hother => ?_) (fun _ _ h => h) fun _ h => h
    refine ⟨fun o ho => absurd ho List.not_mem_nil, ?_⟩
    rw [← hs₁]
    exact hother
  | cons module rest ih =>
    have hsame : ∀ s₁ s₂ : Station, s₂.modules = s₁.modules → (∀ i other,
        s₁.modules.lookup i = some other → i ≠ module.moduleId ∧ s.modules.lookup i = some other) →
        ∀ unloaded, (cleanupModules host g unloaded rest).wp ⟨fun _ s' => ∀ i other,
          s'.modules.lookup i = some other → (∀ o ∈ module :: rest, o.moduleId ≠ i)
            ∧ s.modules.lookup i = some other, fun _ _ => True, fun _ => True⟩ s₂ := by
      intro s₁ s₂ hs₂ hs₁ unloaded
      refine Call.wp_mono (ih unloaded) (fun _ s' hs' i other hother => ?_) (fun _ _ h => h) fun _ h => h
      obtain ⟨hrest, hother⟩ := hs' i other hother
      rw [hs₂] at hother
      obtain ⟨hne, hother⟩ := hs₁ i other hother
      refine ⟨fun o ho => ?_, hother⟩
      rcases List.mem_cons.mp ho with rfl | ho
      · exact hne.symm
      · exact hrest o ho
    unfold cleanupModules
    rw [Call.wp_bind]
    refine Call.wp_mono (cleanupModule_removes hr) (fun more s₁ hs₁ => ?_) (fun _ _ h => h) fun _ h => h
    dsimp only
    split
    · rw [Call.wp_bind]
      exact Call.wp_mono (hremove s₁) (fun _ s₂ hs₂ => hsame s₁ s₂ hs₂ hs₁ _) (fun _ _ h => h)
        fun _ h => h
    · rw [Call.wp_bind]
      exact Call.wp_of_keeps (saveJournal_modules _) (fun _ s₂ hs₂ => hsame s₁ s₂ hs₂ hs₁ _)
        (fun _ _ _ => trivial) fun _ _ => trivial

/-- The modules are as listed, and the graph that was shown is still the last. -/
theorem inspectModules_shown :
    (inspectModules host).wp ⟨fun listed s' => s'.still = s.still ∧ s'.shown host.codec = s.shown host.codec
      ∧ ∀ i, listed.lookup i = s.modules.lookup i, fun _ _ => True, fun _ => True⟩ s := by
  have hlisted : (inspectModules host).wp ⟨fun listed s' => s'.still = s.still
      ∧ ∀ i, listed.lookup i = s.modules.lookup i, fun _ _ => True, fun _ => True⟩ s :=
    inspectModules_wp hr (fun _ _ hs' h => ⟨hs', h⟩) (fun _ _ _ => trivial) fun _ _ => trivial
  have hshown : (inspectModules host).wp ⟨fun _ s' => s'.shown host.codec = s.shown host.codec,
      fun _ _ => True, fun _ => True⟩ s :=
    Call.wp_of_keeps shown_inspectModules (fun _ _ h => h) (fun _ _ _ => trivial) fun _ _ => trivial
  refine Call.wp_mono (Call.wp_and hlisted hshown) ?_ (fun _ _ h => h.1) fun _ h => h.1
  rintro listed s' ⟨⟨hstill, hsame⟩, hshown⟩
  exact ⟨hstill, hshown, hsame⟩

omit hr in
/-- The reconciled journal is the one in the file, be it saved or found there. -/
theorem saveReconciled_stands {journal reconciled : OwnershipJournal} {raw : RawGraph}
    (hdecoded : decodeJournal host.codec s.journal = .ok (some journal))
    (haccounted : Accounted reconciled.generation reconciled.modules s.modules)
    (hshown : s.shown host.codec = (some raw.sinks, some raw.sources)) :
    (saveReconciled host journal reconciled).wp ⟨fun _ s' => Stands host.codec raw reconciled s'
      ∧ s'.modules = s.modules, fun _ _ => True, fun _ => True⟩ s := by
  unfold saveReconciled
  split
  · refine saveJournal_wp (fun _ => trivial) trivial (fun _ _ _ _ _ => trivial)
      fun s' hvalid hmodules hissued hjournal => ?_
    refine ⟨⟨hjournal ▸ holds_saved hvalid, hmodules ▸ haccounted, ?_⟩, hmodules⟩
    unfold Station.shown
    rw [hissued]
    exact hshown
  · next hsame =>
    have hsame : reconciled = journal := by simpa using hsame
    subst hsame
    exact ⟨⟨hdecoded, haccounted, hshown⟩, rfl⟩

theorem ensureEndpoints_returns :
    (ensureEndpoints host next).wp ⟨Returns host.codec (Unused host.codec next s), fun _ _ => True,
      fun _ => True⟩ s := by
  unfold ensureEndpoints
  rw [Call.wp_bind]
  refine Call.wp_of_keeps openFile_still (fun _ s₁ hs₁ => ?_) (fun _ _ _ => trivial) fun _ _ => trivial
  dsimp only
  rw [Call.wp_bind]
  refine loadJournal_wp (fun journal s₂ hs₂ hdecoded => ?_) (fun _ _ _ => trivial) fun _ _ => trivial
  have hs₂ : s₂.still = s.still := hs₂.trans hs₁
  rw [Station.still_journal hs₁] at hdecoded
  dsimp only
  rw [Call.wp_bind]
  refine Call.wp_mono (inspectRaw_last hr) ?_ (fun _ _ h => h) fun _ h => h
  rintro raw s₃ ⟨hshown, hs₃⟩
  have hs₃ : s₃.still = s.still := hs₃.trans hs₂
  dsimp only
  split
  · trivial
  cases journal with
  | none =>
    dsimp only
    split
    · trivial
    refine createEndpoints_returns hr fun hunused => ?_
    rcases hunused with ⟨journal, hjournal, -⟩ | hnamed
    · rw [hdecoded] at hjournal
      cases hjournal
    · exact Station.still_modules hs₃ ▸ hnamed
  | some journal =>
    dsimp only
    unfold reconcile
    rw [Call.wp_bind, Call.wp_bind]
    refine Call.wp_mono (inspectModules_shown hr) ?_ (fun _ _ h => h) fun _ h => h
    rintro listed s₄ ⟨hs₄, hshown₄, hlisted⟩
    have hs₄ : s₄.still = s.still := hs₄.trans hs₃
    dsimp only
    cases hreconciled : reconcileOwnership raw journal listed .duplicateEndpoint with
    | error code => trivial
    | ok reconciled =>
      have haccounted : Accounted reconciled.generation reconciled.modules s.modules := by
        refine (accounted_of_reconciled hreconciled).congr fun i => ?_
        rw [hlisted, Station.still_modules hs₃]
      dsimp only
      rw [Call.wp_pure]
      dsimp only
      rw [Call.wp_bind]
      rw [← Station.still_journal hs₄] at hdecoded
      have haccounted₄ := Station.still_modules hs₄ ▸ haccounted
      refine Call.wp_mono (saveReconciled_stands hdecoded haccounted₄ (hshown₄.trans hshown)) ?_
        (fun _ _ h => h) fun _ h => h
      rintro _ s₅ ⟨hstands, hs₅⟩
      dsimp only
      split
      · next hmatches => exact ⟨raw, reconciled, rfl, hmatches, fun _ => hstands⟩
      rw [Call.wp_bind]
      unfold cleanupReconciled
      refine Call.wp_mono (cleanupModules_removes hr []) (fun _ s₆ hs₆ => ?_) (fun _ _ h => h)
        fun _ h => h
      dsimp only
      rw [Call.wp_bind]
      refine Call.wp_of_keeps (inspectRaw_still hr) (fun cleaned s₇ hs₇ => ?_) (fun _ _ _ => trivial)
        fun _ _ => trivial
      dsimp only
      split
      · trivial
      refine createEndpoints_returns hr fun hunused i module role hmodule hbears => ?_
      rw [Station.still_modules hs₇] at hmodule
      obtain ⟨hgone, hmodule⟩ := hs₆ i module hmodule
      rw [hs₅, Station.still_modules hs₄] at hmodule
      rcases hunused with ⟨journal', hjournal, rfl⟩ | hnamed
      · rw [← Station.still_journal hs₄, hdecoded] at hjournal
        obtain rfl := Option.some.inj (Except.ok.inj hjournal)
        rw [← (reconcileOwnership_spec hreconciled).1] at hbears
        have hmem := haccounted.named i module role hmodule hbears
        exact absurd rfl (hgone _ (List.mem_reverse.mpr hmem))
      · exact hnamed i module role hmodule hbears

end Reflected

/-! ### The call after it -/

/-- The server answers every listing, shows the endpoints it showed last, and lists the modules that
    are loaded. Nothing is said of what becomes of a change of the journal. -/
structure Answers.Follows (answers : Answers) (codec : GraphCodec) (s : Station) : Prop where
  opens : ∀ n, answers.opens n = some (.ok ())
  shows : ∀ n kind, kind = "sinks" ∨ kind = "sources" → ∃ result,
    answers.run n (listEndpoints kind) s.modules = (some (.ok result), s.modules)
      ∧ result.success = true ∧ codec.endpoints result.stdout = lastShown codec s.issued kind
  lists : ∀ n, ∃ result listed, answers.run n listModules s.modules = (some (.ok result), s.modules)
    ∧ result.success = true ∧ parseModules result.stdout = some listed
    ∧ ∀ i, listed.lookup i = s.modules.lookup i

/-- The command changes no module. -/
def Issued.Looks (command : Issued) : Prop :=
  command.args.head? ≠ some "load-module" ∧ command.args.head? ≠ some "unload-module"

/-- Of the server and the journal nothing has changed, and the commands issued since only looked. -/
def Looked (s s' : Station) : Prop :=
  s'.still = s.still ∧ ∃ looked, s'.issued = s.issued ++ looked ∧ ∀ command ∈ looked, command.Looks

theorem Looked.trans {a b c : Station} (h : Looked a b) (h' : Looked b c) : Looked a c := by
  obtain ⟨hstill, looked, hissued, hlooks⟩ := h
  obtain ⟨hstill', looked', hissued', hlooks'⟩ := h'
  refine ⟨hstill'.trans hstill, looked ++ looked', ?_, fun command hcommand => ?_⟩
  · rw [hissued', hissued, List.append_assoc]
  · rcases List.mem_append.mp hcommand with hcommand | hcommand
    · exact hlooks command hcommand
    · exact hlooks' command hcommand

/-- Where a call starts. -/
theorem Looked.start (s : Station) (tick : Nat) : Looked s { s with tick := tick } :=
  ⟨rfl, [], (List.append_nil _).symm, fun _ h => absurd h List.not_mem_nil⟩

/-- The call returns this, having looked only. -/
def Finds {α : Type} (a : α) (s₀ : Station) : Call.Post Station AudioGraphError α :=
  ⟨fun a' s => a' = a ∧ Looked s₀ s, fun _ _ => False, fun _ => False⟩

section Following

variable {s₀ : Station}

/-- One listing. -/
theorem runPactl_finds {args : List String} {result : CommandResult} (hs : Looked s₀ s)
    (hrun : host.run s.tick args s₀.modules = (some (.ok result), s₀.modules))
    (hsuccess : result.success = true) (hlooks : args.head? ≠ some "load-module"
      ∧ args.head? ≠ some "unload-module") (code : AudioGraphErrorCode) :
    (runPactl host args code).wp (Finds result s₀) s := by
  have hmodules : s.modules = s₀.modules := Station.still_modules hs.1
  have hlooked : Looked s (s.commanded host args) := by
    refine ⟨Prod.ext ?_ rfl, _, rfl, fun command hcommand => ?_⟩
    · exact (congrArg (fun m => (host.run s.tick args m).2) hmodules).trans
        ((congrArg Prod.snd hrun).trans hmodules.symm)
    · obtain rfl := List.mem_singleton.mp hcommand
      exact hlooks
  unfold Call.wp runPactl
  rw [hmodules, hrun]
  dsimp only
  rw [if_pos hsuccess]
  exact ⟨rfl, hs.trans hlooked⟩

variable (hf : host.Follows host.codec s₀)

include hf

theorem openFile_finds (hs : Looked s₀ s) : (openFile host).wp (Finds () s₀) s := by
  unfold Call.wp openFile
  rw [hf.opens]
  exact ⟨rfl, hs.trans ⟨rfl, [], (List.append_nil _).symm, fun _ h => absurd h List.not_mem_nil⟩⟩

theorem loadJournal_finds {journal : Option OwnershipJournal} (hs : Looked s₀ s)
    (hdecoded : decodeJournal host.codec s₀.journal = .ok journal) :
    (loadJournal host).wp (Finds journal s₀) s := by
  unfold loadJournal
  rw [Call.wp_bind]
  refine Call.wp_mono (openFile_finds hf hs) ?_ (fun _ _ h => h) fun _ h => h
  rintro _ s₁ ⟨-, hs₁⟩
  dsimp only
  simp only [Call.wp_bind, Call.wp_get]
  rw [Station.still_journal hs₁.1, hdecoded]
  exact ⟨rfl, hs₁⟩

theorem inspectEndpointKind_finds {kind : String} {endpoints : List PactlEndpoint} (hs : Looked s₀ s)
    (hkind : kind = "sinks" ∨ kind = "sources")
    (hshown : lastShown host.codec s₀.issued kind = some endpoints) :
    (inspectEndpointKind host kind).wp (Finds endpoints s₀) s := by
  obtain ⟨result, hrun, hsuccess, hendpoints⟩ := hf.shows s.tick kind hkind
  unfold inspectEndpointKind
  rw [Call.wp_bind]
  refine Call.wp_mono (runPactl_finds hs hrun hsuccess ⟨by simp [listEndpoints], by simp [listEndpoints]⟩ _)
    ?_ (fun _ _ h => h) fun _ h => h
  rintro _ s₁ ⟨rfl, hs₁⟩
  dsimp only
  rw [hendpoints, hshown]
  exact ⟨rfl, hs₁⟩

theorem inspectRaw_finds {raw : RawGraph} (hs : Looked s₀ s)
    (hshown : s₀.shown host.codec = (some raw.sinks, some raw.sources)) :
    (inspectRaw host).wp (Finds raw s₀) s := by
  unfold inspectRaw
  rw [Call.wp_bind]
  refine Call.wp_mono (inspectEndpointKind_finds hf hs (.inl rfl) (congrArg Prod.fst hshown)) ?_
    (fun _ _ h => h) fun _ h => h
  rintro _ s₁ ⟨rfl, hs₁⟩
  dsimp only
  rw [Call.wp_bind]
  refine Call.wp_mono (inspectEndpointKind_finds hf hs₁ (.inr rfl) (congrArg Prod.snd hshown)) ?_
    (fun _ _ h => h) fun _ h => h
  rintro _ s₂ ⟨rfl, hs₂⟩
  exact ⟨rfl, hs₂⟩

/-- The journal reconciles to itself. -/
theorem reconcile_finds {raw : RawGraph} {journal : OwnershipJournal} (hs : Looked s₀ s)
    (hvalid : journal.validate = true) (hmatches : journalMatchesGraph raw journal = true)
    (haccounted : Accounted journal.generation journal.modules s₀.modules) (code : AudioGraphErrorCode) :
    (reconcile host raw journal code).wp (Finds journal s₀) s := by
  obtain ⟨result, listed, hrun, hsuccess, hparse, hlisted⟩ := hf.lists s.tick
  unfold reconcile inspectModules
  rw [Call.wp_bind, Call.wp_bind]
  refine Call.wp_mono (runPactl_finds hs hrun hsuccess ⟨by decide, by decide⟩ _) ?_ (fun _ _ h => h)
    fun _ h => h
  rintro _ s₁ ⟨rfl, hs₁⟩
  dsimp only
  rw [hparse]
  dsimp only
  rw [Call.wp_pure]
  dsimp only
  rw [reconcileOwnership_same hvalid hmatches (haccounted.congr hlisted) code]
  exact ⟨rfl, hs₁⟩

end Following

theorem validate_of_decoded {codec : GraphCodec} {file : Option JournalFile}
    {journal : OwnershipJournal} (h : decodeJournal codec file = .ok (some journal)) :
    journal.validate = true := by
  unfold decodeJournal at h
  split at h
  · cases h
  split at h
  · cases h
  split at h
  · cases h
  split at h
  · next hvalid =>
    cases h
    exact hvalid
  · cases h

/-- Where a role has its one endpoint, none has two. -/
theorem not_duplicate_of_matches {journal : OwnershipJournal}
    (h : journalMatchesGraph raw journal = true) : raw.hasDuplicateRequiredEndpoint = false := by
  unfold RawGraph.hasDuplicateRequiredEndpoint
  refine List.any_eq_false.mpr fun role _ => ?_
  obtain ⟨endpoint, hendpoint, -⟩ := endpoint_of_matches h role
  simp [hendpoint]

/-- What `ensure_endpoints` and `inspect` begin with: the journal and the graph are read. -/
theorem opening_wp {α : Type} {journal : OwnershipJournal} {s₁ : Station}
    {post : Call.Post Station AudioGraphError α} {f : Option OwnershipJournal → RawGraph → GraphCall α}
    (hf : host.Follows host.codec s) (hs : Looked s s₁)
    (hdecoded : decodeJournal host.codec s.journal = .ok (some journal))
    (hshown : s.shown host.codec = (some raw.sinks, some raw.sources))
    (hlast : ∀ s₂, Looked s s₂ → (f (some journal) raw).wp post s₂) :
    (do
      openFile host
      let journal ← loadJournal host
      let raw ← inspectRaw host
      f journal raw : GraphCall α).wp post s₁ := by
  rw [Call.wp_bind]
  refine Call.wp_mono (openFile_finds hf hs) ?_ (fun _ _ h => h.elim) fun _ h => h.elim
  rintro _ s₂ ⟨-, hs₂⟩
  dsimp only
  rw [Call.wp_bind]
  refine Call.wp_mono (loadJournal_finds hf hs₂ hdecoded) ?_ (fun _ _ h => h.elim) fun _ h => h.elim
  rintro _ s₃ ⟨rfl, hs₃⟩
  dsimp only
  rw [Call.wp_bind]
  refine Call.wp_mono (inspectRaw_finds hf hs₃ hshown) ?_ (fun _ _ h => h.elim) fun _ h => h.elim
  rintro _ s₄ ⟨rfl, hs₄⟩
  exact hlast s₄ hs₄

section Again

variable {journal : OwnershipJournal} (hf : host.Follows host.codec s)
    (hstands : Stands host.codec raw journal s) (hmatches : journalMatchesGraph raw journal = true)

include hf hstands hmatches

/-- The journal is found to be in order: nothing is saved, and nothing is made. -/
theorem ensureEndpoints_finds {s₁ : Station} (hs : Looked s s₁) (next : String) :
    (ensureEndpoints host next).wp (Finds (stateFrom raw (some journal)) s) s₁ := by
  refine opening_wp hf hs hstands.decoded hstands.shown fun s₂ hs₂ => ?_
  rw [not_duplicate_of_matches hmatches]
  dsimp only
  rw [if_neg Bool.false_ne_true, Call.wp_bind]
  refine Call.wp_mono (reconcile_finds hf hs₂ (validate_of_decoded hstands.decoded) hmatches
    hstands.accounted _) ?_ (fun _ _ h => h) fun _ h => h
  rintro _ s₃ ⟨rfl, hs₃⟩
  unfold saveReconciled
  dsimp only
  rw [if_neg (by simp), Call.wp_bind, Call.wp_pure]
  dsimp only
  rw [if_pos hmatches]
  exact ⟨rfl, hs₃⟩

theorem inspect_finds {s₁ : Station} (hs : Looked s s₁) :
    (inspect host).wp (Finds (stateFrom raw (some journal)) s) s₁ := by
  refine opening_wp hf hs hstands.decoded hstands.shown fun s₂ hs₂ => ?_
  rw [not_duplicate_of_matches hmatches]
  dsimp only
  rw [if_neg Bool.false_ne_true, Call.wp_bind]
  refine Call.wp_mono (reconcile_finds hf hs₂ (validate_of_decoded hstands.decoded) hmatches
    hstands.accounted _) ?_ (fun _ _ h => h) fun _ h => h
  rintro _ s₃ ⟨rfl, hs₃⟩
  exact ⟨rfl, hs₃⟩

end Again

/-- A module that claims a role of the journal's generation without being what the role expects makes
    the call fail. -/
theorem ensureEndpoints_refuses {journal : OwnershipJournal} {s₁ : Station} {i : Nat}
    {module : PactlModule} {role : EndpointRole} (hf : host.Follows host.codec s) (hs : Looked s s₁)
    (hdecoded : decodeJournal host.codec s.journal = .ok (some journal))
    (hshown : s.shown host.codec = (some raw.sinks, some raw.sources))
    (hsingle : raw.hasDuplicateRequiredEndpoint = false) (hmodule : s.modules.lookup i = some module)
    (hclaims : moduleClaimedRole module journal.generation = some role)
    (hother : ¬ module.Owned role journal.generation) (next : String) :
    (ensureEndpoints host next).wp ⟨fun _ _ => False,
      fun e _ => e = AudioGraphError.new .duplicateEndpoint, fun _ => False⟩ s₁ := by
  refine opening_wp hf hs hdecoded hshown fun s₂ hs₂ => ?_
  obtain ⟨result, listed, hrun, hsuccess, hparse, hlisted⟩ := hf.lists s₂.tick
  rw [hsingle]
  dsimp only
  rw [if_neg Bool.false_ne_true, Call.wp_bind]
  unfold reconcile inspectModules
  rw [Call.wp_bind, Call.wp_bind]
  refine Call.wp_mono (runPactl_finds hs₂ hrun hsuccess ⟨by decide, by decide⟩ _) ?_
    (fun _ _ h => h.elim) fun _ h => h.elim
  rintro _ s₃ ⟨rfl, hs₃⟩
  dsimp only
  rw [hparse]
  dsimp only
  rw [Call.wp_pure]
  have himitated : imitated journal.generation listed = true := by
    by_contra hnot
    have hnone : imitated journal.generation listed = false := by simpa using hnot
    exact hother (imitated_iff.mp hnone i module role ((hlisted i).trans hmodule) hclaims)
  have hrefused : reconcileOwnership raw journal listed .duplicateEndpoint = .error .duplicateEndpoint := by
    unfold reconcileOwnership adoptAll
    cases hkept : keepOwned journal.generation listed journal.modules with
    | none => rfl
    | some kept => simp [himitated]
  dsimp only
  rw [hrefused]
  rfl

/-- What a call that only looked leaves behind it. -/
theorem step_of_finds {codec : GraphCodec} {answers : Answers} {request : Request} {next : String}
    {response : Response}
    (h : (request.run ⟨answers, codec⟩ next).wp (Finds response s) { s with tick := 0 }) :
    (s.step codec (.call request next answers)).1 = some (.ok response)
      ∧ Looked s (s.step codec (.call request next answers)).2 := by
  unfold Call.wp at h
  dsimp only [Station.step]
  revert h
  rcases request.run ⟨answers, codec⟩ next { s with tick := 0 } with ⟨_ | _ | _, s'⟩
  · rintro ⟨rfl, hlooked⟩
    exact ⟨rfl, hlooked⟩
  · exact False.elim
  · exact False.elim

/-- The state is ready and all the endpoints are there and the daemon's. Given a generation of the
    process's own, the next call, by whatever process, returns the same state: nothing is loaded or
    unloaded, and the journal is not written again, whatever would become of it. -/
theorem ensure_settles (codec : GraphCodec) {answers : Answers} (hr : answers.Reflects) {next : String}
    {s s₁ : Station} {state : AudioGraphState}
    (h : s.step codec (.call .ensureEndpoints next answers) = (some (.ok (.state state)), s₁)) :
    (state.health = .ready ∧ state.endpoints.map AudioEndpointState.role = EndpointRole.order
      ∧ ∀ endpoint ∈ state.endpoints, endpoint.available = true ∧ endpoint.daemonOwned = true)
    ∧ (Unused codec next s → ∀ request ∈ [Request.ensureEndpoints, Request.inspect],
      ∀ (next' : String) (answers' : Answers), answers'.Follows codec s₁ →
        (s₁.step codec (.call request next' answers')).1 = some (.ok (.state state))
          ∧ Looked s₁ (s₁.step codec (.call request next' answers')).2) := by
  have hreturns : Returns codec (Unused codec next s) state s₁ := by
    have hwp := @ensureEndpoints_returns ⟨answers, codec⟩ { s with tick := 0 } next hr
    unfold Call.wp at hwp
    dsimp only [Station.step, Request.run, bind, pure] at h
    revert h hwp
    rcases ensureEndpoints ⟨answers, codec⟩ next { s with tick := 0 } with ⟨_ | _ | _, s'⟩
    · rintro h hwp
      cases h
      exact hwp
    · rintro h
      cases h
    · rintro h
      cases h
  obtain ⟨raw, journal, rfl, hmatches, hstands⟩ := hreturns
  refine ⟨ready_of_matches hmatches, fun hunused request hrequest next' answers' hf => ?_⟩
  have hstands := hstands hunused
  have hstart := Looked.start s₁ 0
  refine step_of_finds ?_
  simp only [List.mem_cons, List.not_mem_nil, or_false] at hrequest
  rcases hrequest with rfl | rfl
  · unfold Request.run
    rw [Call.wp_bind]
    refine Call.wp_mono (@ensureEndpoints_finds raw ⟨answers', codec⟩ s₁ journal hf hstands hmatches _
      hstart next') ?_ (fun _ _ h => h) fun _ h => h
    rintro _ s₂ ⟨rfl, hs₂⟩
    exact ⟨rfl, hs₂⟩
  · unfold Request.run
    rw [Call.wp_bind]
    refine Call.wp_mono (@inspect_finds raw ⟨answers', codec⟩ s₁ journal hf hstands hmatches _ hstart)
      ?_ (fun _ _ h => h) fun _ h => h
    rintro _ s₂ ⟨rfl, hs₂⟩
    exact ⟨rfl, hs₂⟩

/-! ### A server that loads the endpoints -/

/-- One module of others, and the endpoints' modules after it. -/
def servedModules (module : PactlModule) : Modules :=
  ((((∅ : Modules).insert 3 module).insert 4 (loadedModule (loadArgs .micOutSink "g-1"))).insert 5
    (loadedModule (loadArgs .virtualMicSource "g-1"))).insert 6 (loadedModule (loadArgs .remoteInSink "g-1"))

/-- The lines the server lists them in. -/
def servedLines (module : PactlModule) : List String :=
  [moduleLine 3 module [""], moduleLine 4 (loadedModule (loadArgs .micOutSink "g-1")) [""],
    moduleLine 5 (loadedModule (loadArgs .virtualMicSource "g-1")) [""],
    moduleLine 6 (loadedModule (loadArgs .remoteInSink "g-1")) [""]]

def servedListing (module : PactlModule) : List UInt8 := listing (servedLines module)

/-- They are read as what they list. -/
theorem servedListing_parses {module : PactlModule} (hname : IsLine module.name ∧ '\t' ∉ module.name.toList)
    (hargument : IsLine module.argument ∧ '\t' ∉ module.argument.toList) :
    (parseModules (servedListing module)).map AList.entries = some (servedModules module).entries := by
  have hvalid : validGeneration "g-1" = true := by decide
  have hempty : ∀ column ∈ [""], IsLine column := by decide
  have hlines : ∀ line ∈ servedLines module, IsLine line := by
    intro line hline
    simp only [servedLines, List.mem_cons, List.not_mem_nil, or_false] at hline
    rcases hline with rfl | rfl | rfl | rfl
    · exact moduleLine_isLine hname.1 hargument.1 hempty
    · exact loadedLine_isLine hvalid hempty
    · exact loadedLine_isLine hvalid hempty
    · exact loadedLine_isLine hvalid hempty
  have hparse : (servedLines module).filterMap parseModule = [(3, module),
      (4, loadedModule (loadArgs .micOutSink "g-1")), (5, loadedModule (loadArgs .virtualMicSource "g-1")),
      (6, loadedModule (loadArgs .remoteInSink "g-1"))] := by
    unfold servedLines
    rw [List.filterMap_cons_some (parseModule_moduleLine (by decide) hname.2 hargument.2 _),
      List.filterMap_cons_some (parseModule_loadedLine hvalid (by decide) _),
      List.filterMap_cons_some (parseModule_loadedLine hvalid (by decide) _),
      List.filterMap_cons_some (parseModule_loadedLine hvalid (by decide) _), List.filterMap_nil]
  unfold servedListing
  rw [parseModules_listing hlines, hparse]
  rfl

def servedSinks : List UInt8 := asciiBytes
  ("[\x7b\"index\":1,\"name\":\"translator_mic_out\",\"owner_module\":4\x7d,"
    ++ "\x7b\"index\":2,\"name\":\"translator_remote_in\",\"owner_module\":6\x7d]")

def servedSources : List UInt8 := asciiBytes
  "[\x7b\"index\":1,\"name\":\"translator_virtual_mic\",\"owner_module\":5\x7d]"

/-- The journals of the run, and what they are written as. -/
def servedJournals : List (OwnershipJournal × List UInt8) :=
  let mic := "\x7b\"role\":\"mic_out_sink\",\"module_id\":4\x7d"
  let virtual := ",\x7b\"role\":\"virtual_mic_source\",\"module_id\":5\x7d"
  let remote := ",\x7b\"role\":\"remote_in_sink\",\"module_id\":6\x7d"
  let written (modules : String) := asciiBytes
    ("\x7b\"schema_version\":1,\"generation\":\"g-1\",\"modules\":[" ++ modules ++ "]\x7d")
  [(ownership "g-1" [], written ""), (ownership "g-1" [⟨.micOutSink, 4⟩], written mic),
    (ownership "g-1" [⟨.virtualMicSource, 5⟩, ⟨.micOutSink, 4⟩], written (mic ++ virtual)),
    (ownership "g-1" [⟨.remoteInSink, 6⟩, ⟨.virtualMicSource, 5⟩, ⟨.micOutSink, 4⟩],
      written (mic ++ virtual ++ remote))]

theorem servedJournals_nodup : (servedJournals.map Prod.snd).Nodup := by
  refine List.Nodup.of_map List.length ?_
  simp only [servedJournals, asciiBytes, List.map_cons, List.map_nil, List.length_map,
    String.toList_append, List.length_append]
  repeat rw [String.toList_ofList]
  decide

def servedCodec : GraphCodec where
  toVec := encodeKnown servedJournals
  fromSlice := decodeKnown servedJournals
  fromSlice_toVec := decodeKnown_encodeKnown servedJournals_nodup
  endpoints bytes :=
    if bytes = asciiBytes "[]" then some []
    else if bytes = servedSinks then some [⟨1, "translator_mic_out", 4⟩, ⟨2, "translator_remote_in", 6⟩]
    else if bytes = servedSources then some [⟨1, "translator_virtual_mic", 5⟩]
    else none

/-- Each load adds a module under the next index. The endpoints are there once all three are. -/
def serves (module : PactlModule) : Answers where
  run _ args modules :=
    if args.head? = some "load-module" then
      if modules.entries.length < 4 ∧ modules.lookup (modules.entries.length + 3) = none then
        (some (.ok ⟨true, asciiBytes (toString (modules.entries.length + 3))⟩),
          modules.insert (modules.entries.length + 3) (loadedModule args))
      else (some (.ok ⟨false, []⟩), modules)
    else if args.head? = some "unload-module" then (some (.ok ⟨false, []⟩), modules)
    else if args = listModules then
      if modules.entries = (servedModules module).entries then
        (some (.ok ⟨true, servedListing module⟩), modules)
      else (some (.ok ⟨false, []⟩), modules)
    else if (modules.lookup 6).isNone then (some (.ok ⟨true, asciiBytes "[]"⟩), modules)
    else if args = listEndpoints "sinks" then (some (.ok ⟨true, servedSinks⟩), modules)
    else (some (.ok ⟨true, servedSources⟩), modules)
  opens _ := some (.ok ())
  writes _ := .done

/-- The server, where it lists the module of others as it is. -/
theorem serves_reflects {module : PactlModule} (hlisting : (parseModules (servedListing module)).map
    AList.entries = some (servedModules module).entries) : (serves module).Reflects := by
  constructor
  · intro n args modules hload hunload
    simp only [serves, if_neg hload, if_neg hunload]
    split
    · split <;> rfl
    · split
      · rfl
      · split <;> rfl
  · intro n modules result listed hresult hsuccess hparse i
    have hload : listModules.head? ≠ some "load-module" := by decide
    have hunload : listModules.head? ≠ some "unload-module" := by decide
    simp only [serves, if_neg hload, if_neg hunload, if_true] at hresult
    by_cases hserved : modules.entries = (servedModules module).entries
    · rw [if_pos hserved] at hresult
      obtain rfl : (⟨true, servedListing module⟩ : CommandResult) = result := by simpa using hresult
      dsimp only at hparse
      rw [hparse, Option.map_some, Option.some_inj, ← hserved] at hlisting
      have hsame : listed = modules := AList.ext hlisting
      rw [hsame]
    · rw [if_neg hserved] at hresult
      obtain rfl : (⟨false, []⟩ : CommandResult) = result := by simpa using hresult
      cases hsuccess
  · intro n args modules hload
    simp only [serves, if_pos hload]
    split
    · next hfresh =>
      refine .inr ⟨_, hfresh.2, rfl, ?_⟩
      intro result printed hresult hprinted
      cases hresult
      have hdigits : ∀ count < 4, printedId (asciiBytes (toString (count + 3))) = some (count + 3) := by
        decide +kernel
      have hprints : printedId (asciiBytes (toString (modules.entries.length + 3))) = some printed :=
        hprinted
      rw [hdigits _ hfresh.1] at hprints
      exact (Option.some.inj hprints).symm
    · refine .inl ⟨rfl, fun result hresult => ?_⟩
      cases hresult
      rfl
  · intro n i modules
    have hload : (unloadArgs i).head? ≠ some "load-module" := by simp [unloadArgs]
    have hunload : (unloadArgs i).head? = some "unload-module" := rfl
    simp only [serves, if_neg hload, if_pos hunload]
    refine .inl ⟨trivial, fun result hresult => ?_⟩
    cases hresult
    rfl

/-- The server before the first call. -/
def unserved (module : PactlModule) : Station := ⟨(∅ : Modules).insert 3 module, none, [], 0⟩

/-- The server after it. -/
def served (module : PactlModule) : Station :=
  ((unserved module).step servedCodec (.call .ensureEndpoints "g-1" (serves module))).2

/-- The journal of the run. -/
def servedJournal : OwnershipJournal :=
  ownership "g-1" [⟨.remoteInSink, 6⟩, ⟨.virtualMicSource, 5⟩, ⟨.micOutSink, 4⟩]

/-- The graph the server shows at last. -/
def servedGraph : RawGraph :=
  ⟨[⟨1, "translator_mic_out", 4⟩, ⟨2, "translator_remote_in", 6⟩], [⟨1, "translator_virtual_mic", 5⟩]⟩

def servedState : AudioGraphState := stateFrom servedGraph (some servedJournal)

/-- What the first call comes to, whatever the module of others is. -/
def Served (module : PactlModule) : Prop :=
  ((unserved module).step servedCodec (.call .ensureEndpoints "g-1" (serves module))).1
      = some (.ok (.state servedState))
    ∧ (served module).modules.entries = (servedModules module).entries
    ∧ lastShown servedCodec (served module).issued "sinks" = servedCodec.endpoints servedSinks
    ∧ lastShown servedCodec (served module).issued "sources" = servedCodec.endpoints servedSources
    ∧ (served module).journal = some (.saved (servedCodec.toVec servedJournal))

instance decidableServed (module : PactlModule) : Decidable (Served module) :=
  inferInstanceAs (Decidable (_ ∧ _))

theorem serves_follows {module : PactlModule} (hlisting : (parseModules (servedListing module)).map
    AList.entries = some (servedModules module).entries) (hserved : Served module) :
    (serves module).Follows servedCodec (served module) := by
  obtain ⟨-, hmodules, hsinks, hsources, -⟩ := hserved
  have hsame : (served module).modules = servedModules module := AList.ext hmodules
  have hthere : (servedModules module).lookup 6 ≠ none := by
    unfold servedModules
    rw [AList.lookup_insert]
    simp
  refine ⟨fun _ => rfl, fun n kind hkind => ?_, fun n => ?_⟩
  · rw [hsame]
    rcases hkind with rfl | rfl
    · refine ⟨⟨true, servedSinks⟩, ?_, rfl, by rw [hsinks]⟩
      simp only [serves]
      rw [if_neg (by decide), if_neg (by decide), if_neg (by decide), if_neg (by simpa using hthere),
        if_pos trivial]
    · refine ⟨⟨true, servedSources⟩, ?_, rfl, by rw [hsources]⟩
      simp only [serves]
      rw [if_neg (by decide), if_neg (by decide), if_neg (by decide), if_neg (by simpa using hthere),
        if_neg (by decide)]
  · obtain ⟨listed, hparse, hentries⟩ := Option.map_eq_some_iff.mp hlisting
    refine ⟨⟨true, servedListing module⟩, listed, ?_, rfl, hparse, fun i => ?_⟩
    · rw [hsame]
      simp [serves, listModules]
    · have hlisted : listed = (served module).modules := AList.ext (hentries.trans hmodules.symm)
      rw [hlisted]

def musicModule : PactlModule := ⟨"module-null-sink", "sink_name=music"⟩

/-- Not the translator's, but marked with the generation that the process takes next. -/
def borrowing : PactlModule :=
  ⟨"module-loopback", "sink_name=translator_mic_out translator.owner=true translator.generation=g-1"⟩

theorem step_of_fst {codec : GraphCodec} {op : Operation} {outcome : Option (Outcome AudioGraphError Response)}
    (h : (s.step codec op).1 = outcome) : s.step codec op = (outcome, (s.step codec op).2) := by
  rw [← h]

theorem unserved_unused {module : PactlModule} (h : module.arguments.lookup "translator.generation" = none) :
    Unused servedCodec "g-1" (unserved module) := by
  refine .inr fun i other role hother hbears => ?_
  unfold unserved at hother
  dsimp only at hother
  rw [Table.lookup_insert_if] at hother
  split at hother
  · obtain rfl := Option.some.inj hother
    rcases hbears with howned | hclaims
    · rw [howned.generation] at h
      cases h
    · simp [moduleClaimedRole, h] at hclaims
  · cases hother

theorem servedListing_music : (parseModules (servedListing musicModule)).map AList.entries
      = some (servedModules musicModule).entries := servedListing_parses (by decide) (by decide)

theorem served_music : Served musicModule := by decide +kernel

theorem ensure_settles_music :
    ((served musicModule).step servedCodec (.call .ensureEndpoints "g-2" (serves musicModule))).1
      = some (.ok (.state servedState))
    ∧ Looked (served musicModule)
      ((served musicModule).step servedCodec (.call .ensureEndpoints "g-2" (serves musicModule))).2 := by
  have hfirst : (unserved musicModule).step servedCodec (.call .ensureEndpoints "g-1" (serves musicModule))
      = (some (.ok (.state servedState)), served musicModule) := by
    unfold served
    exact step_of_fst served_music.1
  have hunused : Unused servedCodec "g-1" (unserved musicModule) := unserved_unused (by decide)
  have hsettles := (ensure_settles servedCodec (serves_reflects servedListing_music) hfirst).2 hunused
  exact hsettles .ensureEndpoints List.mem_cons_self "g-2" (serves musicModule)
    (serves_follows servedListing_music served_music)

/-- What a call that fails comes to. -/
theorem step_of_refuses {codec : GraphCodec} {answers : Answers} {next : String} {error : AudioGraphError}
    (h : (ensureEndpoints ⟨answers, codec⟩ next).wp ⟨fun _ _ => False, fun e _ => e = error,
      fun _ => False⟩ { s with tick := 0 }) :
    (s.step codec (.call .ensureEndpoints next answers)).1 = some (.err error) := by
  unfold Call.wp at h
  dsimp only [Station.step, Request.run, bind, pure]
  revert h
  rcases ensureEndpoints ⟨answers, codec⟩ next { s with tick := 0 } with ⟨_ | _ | _, s'⟩
  · exact False.elim
  · rintro rfl
    rfl
  · exact False.elim

theorem servedListing_borrowing : (parseModules (servedListing borrowing)).map AList.entries
      = some (servedModules borrowing).entries := servedListing_parses (by decide) (by decide)

theorem served_borrowing : Served borrowing := by decide +kernel

/-- The module is taken for an imitation. -/
theorem borrowing_refused {s : Station} (hfollows : (serves borrowing).Follows servedCodec s)
    (hdecoded : decodeJournal servedCodec s.journal = .ok (some servedJournal))
    (hshown : s.shown servedCodec = (some servedGraph.sinks, some servedGraph.sources))
    (hmodule : s.modules.lookup 3 = some borrowing) (next : String) :
    (s.step servedCodec (.call .ensureEndpoints next (serves borrowing))).1
      = some (.err (AudioGraphError.new .duplicateEndpoint)) := by
  have hclaims : moduleClaimedRole borrowing servedJournal.generation = some .micOutSink := by
    decide +kernel
  have hother : ¬ borrowing.Owned .micOutSink servedJournal.generation := by
    intro howned
    exact absurd howned.name (by decide)
  exact step_of_refuses (ensureEndpoints_refuses hfollows (Looked.start s 0) hdecoded hshown
    (by decide) hmodule hclaims hother next)

/-- The first call does not look for its generation among the modules, and the second does. -/
theorem borrowed_not_settled :
    (serves borrowing).Reflects
    ∧ ((unserved borrowing).step servedCodec (.call .ensureEndpoints "g-1" (serves borrowing))).1
      = some (.ok (.state servedState))
    ∧ (serves borrowing).Follows servedCodec (served borrowing)
    ∧ ((served borrowing).step servedCodec (.call .ensureEndpoints "g-1" (serves borrowing))).1
      = some (.err (AudioGraphError.new .duplicateEndpoint)) := by
  obtain ⟨hfirst, hmodules, hsinks, hsources, hjournal⟩ := served_borrowing
  have hfollows := serves_follows servedListing_borrowing served_borrowing
  have hdecoded : decodeJournal servedCodec (served borrowing).journal = .ok (some servedJournal) := by
    rw [hjournal]
    exact holds_saved (by decide)
  have hshown : (served borrowing).shown servedCodec = (some servedGraph.sinks, some servedGraph.sources) := by
    unfold Station.shown
    rw [hsinks, hsources]
    decide +kernel
  have hmodule : (served borrowing).modules.lookup 3 = some borrowing := by
    have hsame : (served borrowing).modules = servedModules borrowing := AList.ext hmodules
    rw [hsame]
    decide +kernel
  exact ⟨serves_reflects servedListing_borrowing, hfirst, hfollows,
    borrowing_refused hfollows hdecoded hshown hmodule "g-1"⟩

end Translator.Graph
