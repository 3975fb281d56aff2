import Mathlib.Data.Finset.Insert
import Translator.Schemes.KeyedMap
import Translator.Schemes.Run

/-! The local providers of `ProviderGrpcServer`: a stream leases the one that is current, and a provider that
    was replaced is shut down with its last lease.

    Each call runs to the start of a shutdown without giving way: nothing is awaited under the lock, so it
    is always free. The shutdown itself is awaited outside of it, and nothing depends on its end. -/

namespace Translator.Serving
open Schemes

/-- A provider is the object it is; `id` tells two of them apart. -/
structure LocalProvider where
  identity : Nat
  deriving DecidableEq, Repr

/-- `RuntimeError`, by its text. -/
inductive RuntimeError where | localProviderUnavailable
  deriving DecidableEq, Repr

def RuntimeError.message : RuntimeError → String
  | .localProviderUnavailable => "local provider is unavailable"

structure ProviderGrpcServer where
  localProvider : Option LocalProvider
  providerReady : Bool
  providerLeases : Table Nat Nat
  providerInstances : Table Nat LocalProvider
  retiredProviders : Finset Nat
  /-- The providers whose `shutdown` was started, in that order. -/
  shutdowns : List LocalProvider

namespace ProviderGrpcServer

def new (localProvider : Option LocalProvider) (providerReady : Bool) : ProviderGrpcServer where
  localProvider := localProvider
  providerReady := providerReady
  providerLeases := match localProvider with
    | some provider => (∅ : Table Nat Nat).insert provider.identity 0
    | none => ∅
  providerInstances := match localProvider with
    | some provider => (∅ : Table Nat LocalProvider).insert provider.identity provider
    | none => ∅
  retiredProviders := ∅
  shutdowns := []

variable (server : ProviderGrpcServer)

/-- `dict.setdefault`. -/
def setDefault {V : Type} (table : Table Nat V) (key : Nat) (value : V) : Table Nat V :=
  if key ∈ table then table else table.insert key value

def acquireLocalProvider : Except RuntimeError LocalProvider × ProviderGrpcServer :=
  match server.localProvider with
  | none => (.error .localProviderUnavailable, server)
  | some provider =>
    let identity := provider.identity
    (.ok provider,
      { server with
        providerInstances := setDefault server.providerInstances identity provider
        providerLeases :=
          server.providerLeases.insert identity ((server.providerLeases.lookup identity).getD 0 + 1) })

/-- A retired provider without leases is forgotten, and its shutdown starts. -/
def retire (identity : Nat) : ProviderGrpcServer :=
  { server with
    retiredProviders := server.retiredProviders.erase identity
    providerLeases := server.providerLeases.erase identity
    providerInstances := server.providerInstances.erase identity
    shutdowns := server.shutdowns ++ (server.providerInstances.lookup identity).toList }

def releaseLocalProvider (provider : Option LocalProvider) : ProviderGrpcServer :=
  match provider with
  | none => server
  | some provider =>
    let identity := provider.identity
    match server.providerLeases.lookup identity with
    | none => server
    | some 0 => server
    | some (leases + 1) =>
      let server := { server with providerLeases := server.providerLeases.insert identity leases }
      if leases = 0 ∧ identity ∈ server.retiredProviders then server.retire identity else server

def replaceLocalProvider (provider : LocalProvider) : ProviderGrpcServer :=
  if server.localProvider = some provider then server
  else
    let previous := server.localProvider
    let identity := provider.identity
    let server :=
      { server with
        providerInstances := server.providerInstances.insert identity provider
        providerLeases := setDefault server.providerLeases identity 0
        localProvider := some provider
        providerReady := true }
    match previous with
    | none => server
    | some previous =>
      let server := { server with retiredProviders := insert previous.identity server.retiredProviders }
      if (server.providerLeases.lookup previous.identity).getD 0 = 0 then server.retire previous.identity
      else server

end ProviderGrpcServer

/-- A call on the server. -/
inductive Op where
  | acquireLocalProvider
  | releaseLocalProvider (provider : Option LocalProvider)
  | replaceLocalProvider (provider : LocalProvider)
  deriving DecidableEq

/-- What a call answers: the provider that was leased, if any. -/
abbrev Reply := Except RuntimeError (Option LocalProvider)

def ProviderGrpcServer.apply (server : ProviderGrpcServer) : Op → Reply × ProviderGrpcServer
  | .acquireLocalProvider =>
    let (result, server) := server.acquireLocalProvider
    (result.map some, server)
  | .releaseLocalProvider provider => (.ok none, server.releaseLocalProvider provider)
  | .replaceLocalProvider provider => (.ok none, server.replaceLocalProvider provider)

/-- The leases on a provider after one more call: a release where none is out takes none back. -/
def leasesAfter (provider : LocalProvider) (leases : Nat) : Op × Reply → Nat
  | (.acquireLocalProvider, .ok (some leased)) => if leased = provider then leases + 1 else leases
  | (.releaseLocalProvider (some released), _) => if released = provider then leases - 1 else leases
  | _ => leases

/-- The leases on a provider that are out. -/
def outstanding (log : List (Op × Reply)) (provider : LocalProvider) : Nat :=
  log.foldl (leasesAfter provider) 0

/-- The providers the server was ever given: at first, and to replace the one it had. -/
def given (initial : Option LocalProvider) (ops : List Op) : List LocalProvider :=
  initial.toList ++ ops.filterMap fun op => match op with
    | .replaceLocalProvider provider => some provider
    | _ => none

/-! ### The invariant -/

/-- The tables agree with the providers the server was given and with the leases that are out. -/
structure Tracked (server : ProviderGrpcServer) (given : List LocalProvider) (out : LocalProvider → Nat) :
    Prop where
  instances : ∀ p : LocalProvider, p.identity ∈ server.providerLeases →
    server.providerInstances.lookup p.identity = some p
  known : ∀ p : LocalProvider, p.identity ∈ server.providerLeases → p ∈ given
  leased : ∀ p : LocalProvider, (server.providerLeases.lookup p.identity).getD 0 = out p
  current : ∀ p, server.localProvider = some p → p.identity ∈ server.providerLeases
  retired : ∀ p : LocalProvider, p.identity ∈ server.retiredProviders ↔
    p.identity ∈ server.providerLeases ∧ server.localProvider ≠ some p
  gone : ∀ p, p ∈ server.shutdowns ↔ p ∈ given ∧ p.identity ∉ server.providerLeases
  once : server.shutdowns.Nodup

/-- Between two calls, a retired provider has a lease out. -/
structure Kept (server : ProviderGrpcServer) (given : List LocalProvider) (out : LocalProvider → Nat) : Prop
    extends Tracked server given out where
  busy : ∀ p : LocalProvider, p.identity ∈ server.retiredProviders → 0 < out p

section Serving

variable {server : ProviderGrpcServer} {providers : List LocalProvider} {out : LocalProvider → Nat}

theorem identity_inj {p q : LocalProvider} (h : p.identity = q.identity) : p = q := by
  cases p
  cases q
  exact congrArg _ h

theorem Tracked.of_none (h : Tracked server providers out) {p : LocalProvider}
    (hp : p.identity ∉ server.providerLeases) : out p = 0 := by
  rw [← h.leased, AList.lookup_eq_none.mpr hp]
  rfl

/-- A retired provider without leases goes, and its shutdown starts. -/
theorem Tracked.retire (h : Tracked server providers out) {q : LocalProvider}
    (hretired : q.identity ∈ server.retiredProviders) (hout : out q = 0) :
    Tracked (server.retire q.identity) providers out := by
  obtain ⟨hq, hother⟩ := (h.retired q).mp hretired
  have hkeys : ∀ p : LocalProvider, p.identity ∈ (server.retire q.identity).providerLeases
      ↔ p ≠ q ∧ p.identity ∈ server.providerLeases := by
    intro p
    have hne : p ≠ q ↔ p.identity ≠ q.identity := not_congr ⟨congrArg _, identity_inj⟩
    rw [hne]
    exact AList.mem_erase
  have hstarted : (server.retire q.identity).shutdowns = server.shutdowns ++ [q] := by
    rw [ProviderGrpcServer.retire, h.instances q hq]
    rfl
  constructor
  · intro p hp
    obtain ⟨hne, hp⟩ := (hkeys p).mp hp
    rw [ProviderGrpcServer.retire, Table.lookup_erase_if, if_neg fun heq => hne (identity_inj heq)]
    exact h.instances p hp
  · exact fun p hp => h.known p ((hkeys p).mp hp).2
  · intro p
    rw [ProviderGrpcServer.retire, Table.lookup_erase_if]
    split
    next heq =>
      rw [identity_inj heq, hout]
      rfl
    next => exact h.leased p
  · intro p hp
    refine (hkeys p).mpr ⟨?_, h.current p hp⟩
    rintro rfl
    exact hother hp
  · intro p
    rw [hkeys, ProviderGrpcServer.retire, Finset.mem_erase, h.retired]
    constructor
    · rintro ⟨hne, hp, hcurrent⟩
      exact ⟨⟨fun heq => hne (congrArg _ heq), hp⟩, hcurrent⟩
    · rintro ⟨⟨hne, hp⟩, hcurrent⟩
      exact ⟨fun heq => hne (identity_inj heq), hp, hcurrent⟩
  · intro p
    rw [hstarted, List.mem_append, List.mem_singleton, h.gone, hkeys]
    constructor
    · rintro (⟨hgiven, hp⟩ | rfl)
      · exact ⟨hgiven, fun hp' => hp hp'.2⟩
      · exact ⟨h.known _ hq, fun hp' => hp'.1 rfl⟩
    · rintro ⟨hgiven, hp⟩
      by_cases heq : p = q
      · exact .inr heq
      · exact .inl ⟨hgiven, fun hp' => hp ⟨heq, hp'⟩⟩
  · rw [hstarted]
    refine h.once.append (List.nodup_singleton q) ?_
    intro p hp hq'
    obtain rfl := List.mem_singleton.mp hq'
    exact ((h.gone p).mp hp).2 hq

theorem Kept.retire (h : Tracked server providers out) {q : LocalProvider}
    (hretired : q.identity ∈ server.retiredProviders) (hout : out q = 0)
    (hbusy : ∀ p : LocalProvider, p ≠ q → p.identity ∈ server.retiredProviders → 0 < out p) :
    Kept (server.retire q.identity) providers out where
  toTracked := h.retire hretired hout
  busy p hp := by
    obtain ⟨hne, hp⟩ := Finset.mem_erase.mp hp
    exact hbusy p (fun heq => hne (congrArg _ heq)) hp

/-- The leases of one tracked provider change. -/
theorem Tracked.relet (h : Tracked server providers out) {q : LocalProvider}
    (hq : q.identity ∈ server.providerLeases) (leases : Nat) :
    Tracked { server with providerLeases := server.providerLeases.insert q.identity leases } providers
      (Function.update out q leases) := by
  have hkeys : ∀ p : LocalProvider, p.identity ∈ server.providerLeases.insert q.identity leases
      ↔ p.identity ∈ server.providerLeases := by
    intro p
    rw [AList.mem_insert]
    exact ⟨fun hp => hp.elim (fun heq => heq ▸ hq) id, .inr⟩
  constructor
  · exact fun p hp => h.instances p ((hkeys p).mp hp)
  · exact fun p hp => h.known p ((hkeys p).mp hp)
  · intro p
    rw [Table.lookup_insert_if]
    split
    next heq =>
      rw [identity_inj heq, Function.update_self]
      rfl
    next hne =>
      rw [Function.update_of_ne fun heq => hne (congrArg _ heq)]
      exact h.leased p
  · exact fun p hp => (hkeys p).mpr (h.current p hp)
  · intro p
    rw [hkeys]
    exact h.retired p
  · intro p
    rw [hkeys]
    exact h.gone p
  · exact h.once

theorem Kept.acquire (h : Kept server providers out) {q : LocalProvider}
    (hcurrent : server.localProvider = some q) :
    Kept server.acquireLocalProvider.2 providers (Function.update out q (out q + 1)) := by
  have hq := h.current q hcurrent
  have hinstance : server.providerInstances.lookup q.identity = some q := h.instances q hq
  have hmem : q.identity ∈ server.providerInstances := Table.mem_iff_isSome.mpr (by rw [hinstance]; rfl)
  have hstate : server.acquireLocalProvider.2
      = { server with providerLeases := server.providerLeases.insert q.identity (out q + 1) } := by
    rw [ProviderGrpcServer.acquireLocalProvider, hcurrent]
    dsimp only
    rw [h.leased, ProviderGrpcServer.setDefault, if_pos hmem]
  rw [hstate]
  refine ⟨h.relet hq _, fun p hp => ?_⟩
  have hne : p ≠ q := fun heq => ((h.retired p).mp hp).2 (heq ▸ hcurrent)
  rw [Function.update_of_ne hne]
  exact h.busy p hp

theorem Kept.release (h : Kept server providers out) (q : LocalProvider) :
    Kept (server.releaseLocalProvider (some q)) providers (Function.update out q (out q - 1)) := by
  have hleased := h.leased q
  rw [ProviderGrpcServer.releaseLocalProvider]
  dsimp only
  split
  next hnone =>
    rw [hnone] at hleased
    rw [← hleased, show (none : Option Nat).getD 0 - 1 = out q from hleased ▸ rfl, Function.update_eq_self]
    exact h
  next hzero =>
    rw [hzero] at hleased
    rw [← hleased, show (some 0).getD 0 - 1 = out q from hleased ▸ rfl, Function.update_eq_self]
    exact h
  next leases hsome =>
    have hout : out q = leases + 1 := by
      rw [← hleased, hsome]
      rfl
    have hq : q.identity ∈ server.providerLeases := Table.mem_iff_isSome.mpr (by rw [hsome]; rfl)
    rw [hout, Nat.add_sub_cancel]
    have hrelet := h.relet hq leases
    split
    next hlast =>
      obtain ⟨rfl, hretired⟩ := hlast
      refine Kept.retire hrelet hretired (Function.update_self ..) fun p hne hp => ?_
      rw [Function.update_of_ne hne]
      exact h.busy p hp
    next hmore =>
      refine ⟨hrelet, fun p hp => ?_⟩
      by_cases heq : p = q
      · subst heq
        rw [Function.update_self]
        exact Nat.pos_of_ne_zero fun hzero => hmore ⟨hzero, hp⟩
      · rw [Function.update_of_ne heq]
        exact h.busy p hp

theorem Kept.replace (h : Kept server providers out) {q : LocalProvider} (hfresh : q ∉ providers) :
    Kept (server.replaceLocalProvider q) (providers ++ [q]) out := by
  have hq : q.identity ∉ server.providerLeases := fun hmem => hfresh (h.known q hmem)
  have hcurrent : server.localProvider ≠ some q := fun heq => hq (h.current q heq)
  have hout : out q = 0 := h.of_none hq
  have hkeys : ∀ p : LocalProvider, p.identity ∈ server.providerLeases.insert q.identity 0
      ↔ p = q ∨ p.identity ∈ server.providerLeases := by
    intro p
    rw [AList.mem_insert]
    exact or_congr_left ⟨identity_inj, congrArg _⟩
  have hretired : ∀ p : LocalProvider, p.identity ∈ server.retiredProviders → p ≠ q := by
    rintro p hp rfl
    exact hq ((h.retired p).mp hp).1
  rw [ProviderGrpcServer.replaceLocalProvider, if_neg hcurrent]
  dsimp only
  rw [ProviderGrpcServer.setDefault, if_neg hq]
  have hinstances : ∀ p : LocalProvider, p.identity ∈ server.providerLeases.insert q.identity 0 →
      (server.providerInstances.insert q.identity q).lookup p.identity = some p := by
    intro p hp
    rw [Table.lookup_insert_if]
    split
    next heq => rw [identity_inj heq]
    next hne => exact h.instances p (((hkeys p).mp hp).resolve_left fun heq => hne (congrArg _ heq))
  have hknown : ∀ p : LocalProvider, p.identity ∈ server.providerLeases.insert q.identity 0 →
      p ∈ providers ++ [q] := by
    intro p hp
    rcases (hkeys p).mp hp with rfl | hp
    · exact List.mem_append_right _ (List.mem_singleton_self p)
    · exact List.mem_append_left _ (h.known p hp)
  have hleased : ∀ p : LocalProvider,
      ((server.providerLeases.insert q.identity 0).lookup p.identity).getD 0 = out p := by
    intro p
    rw [Table.lookup_insert_if]
    split
    next heq =>
      rw [identity_inj heq, hout]
      rfl
    next => exact h.leased p
  have hgone : ∀ p : LocalProvider, p ∈ server.shutdowns ↔
      p ∈ providers ++ [q] ∧ p.identity ∉ server.providerLeases.insert q.identity 0 := by
    intro p
    rw [h.gone, List.mem_append, List.mem_singleton, hkeys, not_or]
    constructor
    · rintro ⟨hgiven, hp⟩
      refine ⟨.inl hgiven, ?_, hp⟩
      rintro rfl
      exact hfresh hgiven
    · rintro ⟨hgiven, hne, hp⟩
      exact ⟨hgiven.resolve_right hne, hp⟩
  split
  next hnone =>
    refine ⟨⟨hinstances, hknown, hleased, ?_, ?_, hgone, h.once⟩, h.busy⟩
    · rintro p hp
      exact (hkeys p).mpr (.inl (Option.some.inj hp).symm)
    · intro p
      rw [hkeys]
      constructor
      · intro hp
        exact ⟨.inr ((h.retired p).mp hp).1, fun heq => hretired p hp (Option.some.inj heq).symm⟩
      · rintro ⟨rfl | hp, hne⟩
        · exact absurd rfl hne
        · exact (h.retired p).mpr ⟨hp, by rw [hnone]; nofun⟩
  next previous hprevious =>
    have hpreviousKey := h.current previous hprevious
    have hpreviousNe : previous ≠ q := by
      rintro rfl
      exact hq hpreviousKey
    have htracked : Tracked
        { server with
          providerInstances := server.providerInstances.insert q.identity q
          providerLeases := server.providerLeases.insert q.identity 0
          localProvider := some q
          providerReady := true
          retiredProviders := insert previous.identity server.retiredProviders }
        (providers ++ [q]) out := by
      refine ⟨hinstances, hknown, hleased, ?_, ?_, hgone, h.once⟩
      · rintro p hp
        exact (hkeys p).mpr (.inl (Option.some.inj hp).symm)
      · intro p
        rw [hkeys, Finset.mem_insert]
        constructor
        · rintro (heq | hp)
          · obtain rfl := identity_inj heq
            exact ⟨.inr hpreviousKey, fun heq => hpreviousNe (Option.some.inj heq).symm⟩
          · exact ⟨.inr ((h.retired p).mp hp).1, fun heq => hretired p hp (Option.some.inj heq).symm⟩
        · rintro ⟨rfl | hp, hne⟩
          · exact absurd rfl hne
          · by_cases heq : server.localProvider = some p
            · exact .inl (congrArg _ (Option.some.inj (heq.symm.trans hprevious)))
            · exact .inr ((h.retired p).mpr ⟨hp, heq⟩)
    have hbusy : ∀ p : LocalProvider, p ≠ previous →
        p.identity ∈ insert previous.identity server.retiredProviders → 0 < out p := by
      intro p hne hp
      exact h.busy p ((Finset.mem_insert.mp hp).resolve_left fun heq => hne (identity_inj heq))
    split
    next hzero => exact Kept.retire htracked (Finset.mem_insert_self ..) ((hleased previous).symm.trans hzero) hbusy
    next hleases =>
      refine ⟨htracked, fun p hp => ?_⟩
      by_cases heq : p = previous
      · subst heq
        exact Nat.pos_of_ne_zero fun hzero => hleases ((hleased p).trans hzero)
      · exact hbusy p heq hp

end Serving

/-! ### Runs -/

/-- What a run has done with the providers the server was given. -/
structure Shutdowns (server : ProviderGrpcServer) (given : List LocalProvider) (log : List (Op × Reply)) :
    Prop where
  /-- No provider is shut down twice. -/
  once : server.shutdowns.Nodup
  /-- No provider is shut down that is current or leased. -/
  idle : ∀ p ∈ server.shutdowns, outstanding log p = 0 ∧ server.localProvider ≠ some p
  /-- Every provider that was replaced and is not leased has been shut down. -/
  done : ∀ p ∈ given, server.localProvider ≠ some p → outstanding log p = 0 → p ∈ server.shutdowns

theorem outstanding_concat (log : List (Op × Reply)) (entry : Op × Reply) :
    outstanding (log ++ [entry]) = fun p => leasesAfter p (outstanding log p) entry := by
  funext p
  rw [outstanding, List.foldl_append]
  rfl

theorem given_concat (initial : Option LocalProvider) (ops : List Op) (op : Op) :
    given initial (ops ++ [op]) = given initial ops ++ given none [op] := by
  rw [given, given, given, List.filterMap_append, List.append_assoc]
  rfl

theorem kept_new (initial : Option LocalProvider) (providerReady : Bool) :
    Kept (.new initial providerReady) (given initial []) (outstanding []) := by
  cases initial with
  | none =>
    refine ⟨⟨fun p hp => ?_, fun p hp => ?_, fun p => rfl, nofun, fun p => ?_, fun p => ?_, List.nodup_nil⟩,
      fun p hp => ?_⟩
    · exact absurd hp (AList.notMem_empty _)
    · exact absurd hp (AList.notMem_empty _)
    · exact ⟨fun hp => absurd hp (Finset.notMem_empty _), fun hp => absurd hp.1 (AList.notMem_empty _)⟩
    · exact ⟨nofun, nofun⟩
    · exact absurd hp (Finset.notMem_empty _)
  | some initial =>
    have hkeys : ∀ p : LocalProvider,
        p.identity ∈ (ProviderGrpcServer.new (some initial) providerReady).providerLeases ↔ p = initial := by
      intro p
      rw [ProviderGrpcServer.new, AList.mem_insert]
      exact ⟨fun hp => hp.elim identity_inj fun hp => absurd hp (AList.notMem_empty _), fun hp => .inl (hp ▸ rfl)⟩
    refine ⟨⟨fun p hp => ?_, fun p hp => ?_, fun p => ?_, fun p hp => ?_, fun p => ?_, fun p => ?_,
      List.nodup_nil⟩, fun p hp => ?_⟩
    · rw [(hkeys p).mp hp]
      exact AList.lookup_insert _
    · rw [(hkeys p).mp hp]
      exact List.mem_singleton_self _
    · rw [ProviderGrpcServer.new, Table.lookup_insert_if]
      split <;> rfl
    · exact (hkeys p).mpr (Option.some.inj hp).symm
    · rw [hkeys]
      refine ⟨fun hp => absurd hp (Finset.notMem_empty _), ?_⟩
      rintro ⟨rfl, hne⟩
      exact absurd rfl hne
    · rw [hkeys]
      exact ⟨nofun, fun hp => absurd (List.mem_singleton.mp hp.1) hp.2⟩
    · exact absurd hp (Finset.notMem_empty _)

theorem kept_apply {server : ProviderGrpcServer} {providers : List LocalProvider} {log : List (Op × Reply)}
    (h : Kept server providers (outstanding log)) (op : Op) (hfresh : (providers ++ given none [op]).Nodup) :
    Kept (server.apply op).2 (providers ++ given none [op])
      (outstanding (log ++ [(op, (server.apply op).1)])) := by
  rw [outstanding_concat]
  cases op with
  | acquireLocalProvider =>
    rw [show given none [Op.acquireLocalProvider] = [] from rfl, List.append_nil]
    cases hcurrent : server.localProvider with
    | none =>
      rw [ProviderGrpcServer.apply, ProviderGrpcServer.acquireLocalProvider, hcurrent]
      exact h
    | some q =>
      have hkept := h.acquire hcurrent
      have hreply : (server.apply .acquireLocalProvider).1 = .ok (some q) := by
        rw [ProviderGrpcServer.apply, ProviderGrpcServer.acquireLocalProvider, hcurrent]
        rfl
      rw [hreply, show (server.apply .acquireLocalProvider).2 = server.acquireLocalProvider.2 from rfl]
      convert hkept using 1
      funext p
      by_cases heq : p = q
      · subst heq
        simp [leasesAfter]
      · simp [leasesAfter, heq, Ne.symm heq]
  | releaseLocalProvider provider =>
    rw [show given none [Op.releaseLocalProvider provider] = [] from rfl, List.append_nil]
    cases provider with
    | none => exact h
    | some q =>
      have hkept := h.release q
      rw [show (server.apply (.releaseLocalProvider (some q))).2 = server.releaseLocalProvider (some q) from rfl]
      convert hkept using 1
      funext p
      by_cases heq : p = q
      · subst heq
        simp [leasesAfter]
      · simp [leasesAfter, heq, Ne.symm heq]
  | replaceLocalProvider q =>
    have hgiven : given none [Op.replaceLocalProvider q] = [q] := rfl
    rw [hgiven] at hfresh ⊢
    refine h.replace fun hmem => ?_
    exact (List.nodup_append.mp hfresh).2.2 q hmem q (List.mem_singleton_self q) rfl

theorem run_kept (initial : Option LocalProvider) (providerReady : Bool) (ops : List Op)
    (hfresh : (given initial ops).Nodup) :
    Kept (exec ProviderGrpcServer.apply (.new initial providerReady) ops).2 (given initial ops)
      (outstanding (exec ProviderGrpcServer.apply (.new initial providerReady) ops).1) := by
  induction ops using List.reverseRecOn with
  | nil => exact kept_new initial providerReady
  | append_singleton ops op ih =>
    rw [given_concat] at hfresh ⊢
    rw [exec_concat]
    exact kept_apply (ih (List.nodup_append.mp hfresh).1) op hfresh

/-- A provider is shut down once, when it is neither current nor leased, and every replaced one is, once its
    leases are back. -/
theorem run_shutdowns (initial : Option LocalProvider) (providerReady : Bool) (ops : List Op)
    (hfresh : (given initial ops).Nodup) :
    Shutdowns (exec ProviderGrpcServer.apply (.new initial providerReady) ops).2 (given initial ops)
      (exec ProviderGrpcServer.apply (.new initial providerReady) ops).1 := by
  have h := run_kept initial providerReady ops hfresh
  refine ⟨h.once, fun p hp => ?_, fun p hgiven hcurrent hout => ?_⟩
  · have hgone := ((h.gone p).mp hp).2
    exact ⟨h.of_none hgone, fun heq => hgone (h.current p heq)⟩
  · refine (h.gone p).mpr ⟨hgiven, fun hp => ?_⟩
    have hbusy := h.busy p ((h.retired p).mpr ⟨hp, hcurrent⟩)
    omega

/-- A provider that is replaced while it is leased goes with its last lease; one more release changes
    nothing. -/
def replacedWhileLeased : List Op :=
  [.acquireLocalProvider, .acquireLocalProvider, .replaceLocalProvider ⟨2⟩, .releaseLocalProvider (some ⟨1⟩),
    .acquireLocalProvider, .releaseLocalProvider (some ⟨1⟩), .releaseLocalProvider (some ⟨1⟩),
    .replaceLocalProvider ⟨3⟩, .releaseLocalProvider (some ⟨2⟩)]

theorem replacedWhileLeased_shutdowns :
    Shutdowns (exec ProviderGrpcServer.apply (.new (some ⟨1⟩) false) replacedWhileLeased).2
      (given (some ⟨1⟩) replacedWhileLeased)
      (exec ProviderGrpcServer.apply (.new (some ⟨1⟩) false) replacedWhileLeased).1 :=
  run_shutdowns (some ⟨1⟩) false replacedWhileLeased (by decide)

end Translator.Serving
