import Translator.Control.AudioGate

/-! The leases of one `AudioOperationGate`, with any number of holders calling in any order. A lease is
    fenced by its generation: the gate takes a release only from the lease it granted last. `release`
    marks the lease before it locks the gate, so it is two steps here and other calls may come between
    them; a lease that is dropped is released. -/

namespace Translator.Control
open Schemes
open Wire (Uuid)

/-- A production or a round trip runs. -/
def AudioOperationState.Operating (state : AudioOperationState) : Prop :=
  state = .production ∨ ∃ sessionId, state = .humanRoundTrip sessionId

theorem AudioOperationState.operating_iff (state : AudioOperationState) :
    state.Operating ↔ state ≠ .idle ∧ state ≠ .stopping := by
  unfold Operating
  cases state <;> simp

namespace AudioOperationGate

/-- The locked section of `release`. -/
def giveBack (gate : AudioOperationGate) (lease : AudioOperationLease) : Bool × AudioOperationGate :=
  if gate.generation = lease.generation ∧ gate.state = lease.expectedState then
    (true, { gate with state := .idle })
  else (false, gate)

/-- A release whose two steps nothing comes between. -/
theorem release_eq_giveBack (gate : AudioOperationGate) (lease : AudioOperationLease) :
    gate.release lease = if lease.active then (gate.giveBack lease).2 else gate := by
  unfold release giveBack
  cases lease.active <;> simp only [Bool.false_eq_true, false_and, true_and, if_false, if_true]
  split <;> rfl

end AudioOperationGate

/-- A lease that was granted, and whether a release has marked it and not locked the gate yet. -/
structure HeldLease where
  lease : AudioOperationLease
  releasing : Bool
  deriving DecidableEq, Repr

/-- Its release has not come to the gate. -/
def HeldLease.Unreleased (held : HeldLease) : Prop :=
  held.lease.active = true ∨ held.releasing = true

/-- The gate with every lease it has granted, the oldest first. -/
structure LeasedGate where
  gate : AudioOperationGate
  leases : List HeldLease
  deriving DecidableEq, Repr

namespace LeasedGate

def new : LeasedGate := ⟨.new, []⟩

inductive Op where
  | acquireProduction
  | acquireHumanRoundTrip (sessionId : Uuid)
  | acquireManual
  | beginStopping
  /-- `release` is called on a lease, or the lease is dropped. -/
  | release (holder : Nat)
  | drop (holder : Nat)
  /-- A release that was called locks the gate. -/
  | locked (holder : Nat)
  deriving DecidableEq, Repr

inductive Answer where
  | granted (lease : Except AudioOperationAdmissionError AudioOperationLease)
  | released (taken : Bool)
  /-- Nothing is returned, or not yet. -/
  | nothing

variable (s : LeasedGate)

def acquire (requestedState : AudioOperationState) : Answer × LeasedGate :=
  match s.gate.acquire requestedState with
  | (.ok lease, gate) => (.granted (.ok lease), ⟨gate, s.leases ++ [⟨lease, false⟩]⟩)
  | (.error error, gate) => (.granted (.error error), { s with gate := gate })

/-- The first step of `release`: a lease that is not active is not released again. -/
def mark (holder : Nat) : Answer × LeasedGate :=
  match s.leases[holder]? with
  | none => (.nothing, s)
  | some held =>
    if held.lease.active then
      (.nothing, { s with leases := s.leases.set holder ⟨{ held.lease with active := false }, true⟩ })
    else (.released false, s)

/-- The second step. -/
def lock (holder : Nat) : Answer × LeasedGate :=
  match s.leases[holder]? with
  | none => (.nothing, s)
  | some held =>
    if held.releasing then
      (.released (s.gate.giveBack held.lease).1,
        ⟨(s.gate.giveBack held.lease).2, s.leases.set holder ⟨held.lease, false⟩⟩)
    else (.nothing, s)

def apply : Op → Answer × LeasedGate
  | .acquireProduction => s.acquire .production
  | .acquireHumanRoundTrip sessionId => s.acquire (.humanRoundTrip sessionId)
  | .acquireManual => s.acquire .production
  | .beginStopping => (.nothing, { s with gate := s.gate.beginStopping })
  | .release holder => s.mark holder
  | .drop holder => s.mark holder
  | .locked holder => s.lock holder

def Op.isAcquire : Op → Bool
  | .acquireProduction | .acquireHumanRoundTrip _ | .acquireManual => true
  | _ => false

/-- The call is made on this lease. -/
def Op.On (op : Op) (holder : Nat) : Prop :=
  op = .release holder ∨ op = .drop holder ∨ op = .locked holder

/-- The lease has the gate's generation, and no shutdown has superseded it. -/
def Current (holder : Nat) : Prop :=
  s.gate.state ≠ .stopping
    ∧ ∃ held, s.leases[holder]? = some held ∧ held.lease.generation = s.gate.generation

def Unreleased (holder : Nat) : Prop :=
  ∃ held, s.leases[holder]? = some held ∧ held.Unreleased

/-! ### The fence -/

/-- Leases are numbered as they are granted, and a release marks its lease. -/
structure Granted (leases : List HeldLease) : Prop where
  numbered : ∀ (i : Nat) (held : HeldLease), leases[i]? = some held →
    held.lease.generation = i + 1
  operates : ∀ (i : Nat) (held : HeldLease), leases[i]? = some held →
    held.lease.expectedState.Operating
  marked : ∀ (i : Nat) (held : HeldLease), leases[i]? = some held → held.releasing = true →
    held.lease.active = false

/-- The gate belongs to the last lease, until that one comes back. -/
structure Fenced : Prop where
  granted : Granted s.leases
  latest : s.gate.state ≠ .stopping → s.gate.generation = s.leases.length
  free : s.gate.state = .idle → ∀ (i : Nat) (held : HeldLease), s.leases[i]? = some held →
    i + 1 = s.leases.length → ¬ held.Unreleased
  owned : s.gate.state.Operating → ∃ (i : Nat) (held : HeldLease), s.leases[i]? = some held
    ∧ i + 1 = s.leases.length ∧ held.Unreleased ∧ s.gate.state = held.lease.expectedState

variable {s} {leases : List HeldLease} {i j : Nat} {held held' other : HeldLease}
  {state : AudioOperationState}

theorem fenced_new : Fenced new where
  granted := ⟨by simp [new], by simp [new], by simp [new]⟩
  latest := fun _ => rfl
  free := by simp [new]
  owned := by
    intro h
    rw [AudioOperationState.operating_iff] at h
    exact absurd rfl h.1

theorem getElem?_concat_cases (hj : (leases ++ [held])[j]? = some other) :
    leases[j]? = some other ∨ j = leases.length ∧ other = held := by
  rw [List.getElem?_append] at hj
  split at hj
  · exact .inl hj
  · obtain ⟨hlt, heq⟩ := List.getElem?_eq_some_iff.mp hj
    simp only [List.length_singleton, Nat.lt_one_iff] at hlt
    exact .inr ⟨by omega, by simpa [hlt] using heq.symm⟩

theorem getElem?_set_cases (hj : (leases.set i held)[j]? = some other) :
    i ≠ j ∧ leases[j]? = some other ∨ i = j ∧ other = held := by
  rw [List.getElem?_set] at hj
  split at hj
  · next heq =>
    split at hj
    · exact .inr ⟨heq, (Option.some.inj hj).symm⟩
    · cases hj
  · next hne => exact .inl ⟨hne, hj⟩

theorem granted_concat (h : Granted leases) (hgen : held.lease.generation = leases.length + 1)
    (hop : held.lease.expectedState.Operating) (hmark : held.releasing = false) :
    Granted (leases ++ [held]) where
  numbered j other hj := by
    rcases getElem?_concat_cases hj with hold | ⟨rfl, rfl⟩
    · exact h.numbered j other hold
    · exact hgen
  operates j other hj := by
    rcases getElem?_concat_cases hj with hold | ⟨rfl, rfl⟩
    · exact h.operates j other hold
    · exact hop
  marked j other hj hr := by
    rcases getElem?_concat_cases hj with hold | ⟨rfl, rfl⟩
    · exact h.marked j other hold hr
    · rw [hmark] at hr
      cases hr

/-- A release keeps what its lease was granted for. -/
theorem granted_set (h : Granted leases) (hheld : leases[i]? = some held) (releasing : Bool) :
    Granted (leases.set i ⟨{ held.lease with active := false }, releasing⟩) where
  numbered j other hj := by
    rcases getElem?_set_cases hj with ⟨-, hold⟩ | ⟨rfl, rfl⟩
    · exact h.numbered j other hold
    · exact h.numbered i held hheld
  operates j other hj := by
    rcases getElem?_set_cases hj with ⟨-, hold⟩ | ⟨rfl, rfl⟩
    · exact h.operates j other hold
    · exact h.operates i held hheld
  marked j other hj hr := by
    rcases getElem?_set_cases hj with ⟨-, hold⟩ | ⟨rfl, rfl⟩
    · exact h.marked j other hold hr
    · rfl

theorem fenced_acquire (h : Fenced s) (hstate : state.Operating) : Fenced (s.acquire state).2 := by
  unfold acquire
  rcases hacq : s.gate.acquire state with ⟨answer, gate⟩
  cases answer with
  | error error =>
    rw [AudioOperationGate.acquire_error hacq]
    exact h
  | ok lease =>
    have hidle := (AudioOperationGate.acquire_ok hacq).1
    have hlatest := h.latest (by rw [hidle]; simp)
    unfold AudioOperationGate.acquire at hacq
    rw [hidle] at hacq
    dsimp only at hacq
    split at hacq
    · cases hacq
      refine ⟨granted_concat h.granted (by rw [hlatest]) hstate rfl, fun _ => ?_, fun hfree => ?_,
        fun _ => ?_⟩
      · simp [hlatest]
      · rw [AudioOperationState.operating_iff] at hstate
        exact absurd hfree hstate.1
      · exact ⟨s.leases.length, _, List.getElem?_concat_length, by simp, .inl rfl, rfl⟩
    · cases hacq

theorem fenced_beginStopping (h : Fenced s) : Fenced { s with gate := s.gate.beginStopping } := by
  unfold AudioOperationGate.beginStopping
  split
  · refine ⟨h.granted, fun hne => absurd rfl hne, nofun, fun hop => ?_⟩
    rw [AudioOperationState.operating_iff] at hop
    exact absurd rfl hop.2
  · exact h

theorem fenced_mark (h : Fenced s) (i : Nat) : Fenced (s.mark i).2 := by
  unfold mark
  cases hheld : s.leases[i]? with
  | none => exact h
  | some held =>
    dsimp only
    split
    · next hactive =>
      refine ⟨granted_set h.granted hheld true, fun hne => ?_, fun hidle j other hj hlast => ?_,
        fun hop => ?_⟩
      · rw [List.length_set]
        exact h.latest hne
      · rw [List.length_set] at hlast
        rcases getElem?_set_cases hj with ⟨-, hold⟩ | ⟨rfl, -⟩
        · exact h.free hidle j other hold hlast
        · exact absurd (.inl hactive) (h.free hidle i held hheld hlast)
      · obtain ⟨j, other, hj, hlast, hun, hst⟩ := h.owned hop
        rw [← List.length_set (i := i) (a := ⟨{ held.lease with active := false }, true⟩)] at hlast
        by_cases hij : i = j
        · subst hij
          rw [hheld] at hj
          cases hj
          have hlt := (List.getElem?_eq_some_iff.mp hheld).1
          exact ⟨i, _, List.getElem?_set_self hlt, hlast, .inr rfl, hst⟩
        · exact ⟨j, other, (List.getElem?_set_ne hij).trans hj, hlast, hun, hst⟩
    · exact h

/-- Whoever owns the gate has it: its release is taken. -/
theorem giveBack_cases (h : Fenced s) (hheld : s.leases[i]? = some held) :
    (s.gate.state.Operating ∧ i + 1 = s.leases.length
        ∧ s.gate.giveBack held.lease = (true, { s.gate with state := .idle }))
      ∨ (¬ (s.gate.state.Operating ∧ i + 1 = s.leases.length)
        ∧ s.gate.giveBack held.lease = (false, s.gate)) := by
  have hnumber := h.granted.numbered i held hheld
  have hop := h.granted.operates i held hheld
  unfold AudioOperationGate.giveBack
  split
  · next htaken =>
    rw [← htaken.2] at hop
    have hlatest := h.latest ((AudioOperationState.operating_iff _).mp hop).2
    exact .inl ⟨hop, by omega, rfl⟩
  · next hnot =>
    refine .inr ⟨fun ⟨hgate, hlast⟩ => hnot ?_, rfl⟩
    have hlatest := h.latest ((AudioOperationState.operating_iff _).mp hgate).2
    obtain ⟨j, other, hj, hjlast, -, hst⟩ := h.owned hgate
    obtain rfl : j = i := by omega
    rw [hheld] at hj
    cases hj
    exact ⟨by omega, hst⟩

theorem fenced_lock (h : Fenced s) (i : Nat) : Fenced (s.lock i).2 := by
  unfold lock
  cases hheld : s.leases[i]? with
  | none => exact h
  | some held =>
    dsimp only
    split
    · next hreleasing =>
      have hactive := h.granted.marked i held hheld hreleasing
      have hlease : held.lease = { held.lease with active := false } := by rw [← hactive]
      have hgranted := granted_set h.granted hheld false
      rw [← hlease] at hgranted
      have hreleased : ¬ HeldLease.Unreleased ⟨held.lease, false⟩ := by
        simp [HeldLease.Unreleased, hactive]
      rcases giveBack_cases h hheld with ⟨hop, hlast, hback⟩ | ⟨hnot, hback⟩
      · rw [hback]
        refine ⟨hgranted, fun _ => ?_, fun _ j other hj hjlast => ?_, fun hidle => ?_⟩
        · rw [List.length_set]
          exact h.latest ((AudioOperationState.operating_iff _).mp hop).2
        · rw [List.length_set] at hjlast
          obtain rfl : i = j := by omega
          rcases getElem?_set_cases hj with ⟨hne, -⟩ | ⟨-, rfl⟩
          · exact absurd rfl hne
          · exact hreleased
        · rw [AudioOperationState.operating_iff] at hidle
          exact absurd rfl hidle.1
      · rw [hback]
        refine ⟨hgranted, fun hne => ?_, fun hidle j other hj hjlast => ?_, fun hop => ?_⟩
        · rw [List.length_set]
          exact h.latest hne
        · rw [List.length_set] at hjlast
          rcases getElem?_set_cases hj with ⟨-, hold⟩ | ⟨-, rfl⟩
          · exact h.free hidle j other hold hjlast
          · exact hreleased
        · obtain ⟨j, other, hj, hjlast, hun, hst⟩ := h.owned hop
          have hij : i ≠ j := by
            rintro rfl
            exact hnot ⟨hop, hjlast⟩
          exact ⟨j, other, (List.getElem?_set_ne hij).trans hj, by
            rw [List.length_set]; exact hjlast, hun, hst⟩
    · exact h

theorem fenced_apply (h : Fenced s) (op : Op) : Fenced (s.apply op).2 := by
  cases op with
  | acquireProduction => exact fenced_acquire h (.inl rfl)
  | acquireHumanRoundTrip sessionId => exact fenced_acquire h (.inr ⟨sessionId, rfl⟩)
  | acquireManual => exact fenced_acquire h (.inl rfl)
  | beginStopping => exact fenced_beginStopping h
  | release holder => exact fenced_mark h holder
  | drop holder => exact fenced_mark h holder
  | locked holder => exact fenced_lock h holder

/-! ### Shutdown -/

theorem giveBack_stopping (h : Fenced s) (hstop : s.gate.state = .stopping)
    (hheld : s.leases[i]? = some held) : s.gate.giveBack held.lease = (false, s.gate) := by
  rcases giveBack_cases h hheld with ⟨hop, -, -⟩ | ⟨-, hback⟩
  · rw [AudioOperationState.operating_iff] at hop
    exact absurd hstop hop.2
  · exact hback

/-- Once the gate is stopping it stays as it is, and nothing is admitted. -/
theorem stopping_apply (h : Fenced s) (hstop : s.gate.state = .stopping) (op : Op) :
    (s.apply op).2.gate = s.gate
      ∧ (op.isAcquire = true → (s.apply op).1 = .granted (.error .stopping)) := by
  have hacquire : ∀ state, s.acquire state = (.granted (.error .stopping), s) := by
    intro state
    simp only [acquire, AudioOperationGate.acquire, hstop]
  have hmark : ∀ i, (s.mark i).2.gate = s.gate := by
    intro i
    unfold mark
    split
    · rfl
    · split <;> rfl
  cases op with
  | acquireProduction => simp [apply, hacquire]
  | acquireHumanRoundTrip sessionId => simp [apply, hacquire]
  | acquireManual => simp [apply, hacquire]
  | beginStopping => exact ⟨if_neg (not_not.mpr hstop), nofun⟩
  | release holder => exact ⟨hmark holder, nofun⟩
  | drop holder => exact ⟨hmark holder, nofun⟩
  | locked holder =>
    refine ⟨?_, nofun⟩
    simp only [apply, lock]
    split
    · rfl
    · next held hheld =>
      rw [giveBack_stopping h hstop hheld]
      split <;> rfl

theorem stopping_run (h : Fenced s) (hstop : s.gate.state = .stopping) (ops : List Op) :
    (exec apply s ops).2.gate = s.gate ∧ ∀ entry ∈ (exec apply s ops).1,
      entry.1.isAcquire = true → entry.2 = .granted (.error .stopping) := by
  have hinv := exec_invariant (I := fun log (s' : LeasedGate) => Fenced s' ∧ s'.gate = s.gate
      ∧ ∀ entry ∈ log, entry.1.isAcquire = true → entry.2 = Answer.granted (.error .stopping))
    ⟨h, rfl, by simp⟩ ?_ ops (adm_true apply s ops)
  · exact hinv.2
  rintro log s' op ⟨hf, hgate, hlog⟩ -
  obtain ⟨hstays, hrefused⟩ := stopping_apply hf (by rw [hgate]; exact hstop) op
  refine ⟨fenced_apply hf op, hstays.trans hgate, fun entry hentry => ?_⟩
  rcases List.mem_append.mp hentry with hold | hnew
  · exact hlog entry hold
  · rw [List.mem_singleton.mp hnew]
    exact hrefused

/-! ### Every run -/

theorem current_iff (h : Fenced s) :
    s.Current i ↔ s.gate.state ≠ .stopping ∧ i + 1 = s.leases.length := by
  refine and_congr_right fun hne => ?_
  have hlatest := h.latest hne
  constructor
  · rintro ⟨held, hheld, hgen⟩
    have hnumber := h.granted.numbered i held hheld
    omega
  · intro hlast
    have hheld := List.getElem?_eq_getElem (show i < s.leases.length by omega)
    have hnumber := h.granted.numbered i _ hheld
    exact ⟨_, hheld, by omega⟩

/-- A call on a lease that has not got the gate does not change the gate. -/
theorem not_owner_apply (h : Fenced s) (hnot : ¬ (s.Current i ∧ s.Unreleased i)) {op : Op}
    (hop : op.On i) : (s.apply op).2.gate = s.gate := by
  have hmark : (s.mark i).2.gate = s.gate := by
    unfold mark
    split
    · rfl
    · split <;> rfl
  rcases hop with rfl | rfl | rfl
  · exact hmark
  · exact hmark
  · simp only [apply, lock]
    split
    · rfl
    · next held hheld =>
      split
      · next hreleasing =>
        rcases giveBack_cases h hheld with ⟨hgate, hlast, -⟩ | ⟨-, hback⟩
        · have hne := ((AudioOperationState.operating_iff _).mp hgate).2
          exact absurd ⟨(current_iff h).mpr ⟨hne, hlast⟩, held, hheld, .inr hreleasing⟩ hnot
        · rw [hback]
      · rfl

/-- In every run at most one lease is current; while it is out the gate has its state, and it alone can
    free the gate. A shutdown is final. -/
theorem run_fenced (ops : List Op) :
    let s := (exec apply new ops).2
    (∀ i j, s.Current i → s.Current j → i = j)
      ∧ (s.gate.state.Operating ↔ ∃ i, s.Current i ∧ s.Unreleased i)
      ∧ (∀ (i : Nat) (held : HeldLease), s.leases[i]? = some held → s.Current i → s.Unreleased i →
        s.gate.state = held.lease.expectedState)
      ∧ (∀ i, ¬ (s.Current i ∧ s.Unreleased i) → ∀ op : Op, op.On i →
        (s.apply op).2.gate = s.gate)
      ∧ (s.gate.state = .stopping → ∀ more, (exec apply s more).2.gate = s.gate
        ∧ ∀ entry ∈ (exec apply s more).1, entry.1.isAcquire = true →
          entry.2 = .granted (.error .stopping)) := by
  intro s
  have h : Fenced s := exec_state_invariant fenced_new (fun s op h => fenced_apply h op) ops
  -- the lease that is current and out is the one that owns the gate
  have howner : ∀ i, s.Current i → s.Unreleased i → s.gate.state.Operating := by
    rintro i hcurrent ⟨held, hheld, hun⟩
    obtain ⟨hne, hlast⟩ := (current_iff h).mp hcurrent
    rw [AudioOperationState.operating_iff]
    exact ⟨fun hidle => h.free hidle i held hheld hlast hun, hne⟩
  refine ⟨fun i j hi hj => ?_, ⟨fun hop => ?_, ?_⟩, fun i held hheld hcurrent hun => ?_,
    fun i hnot op hop => not_owner_apply h hnot hop, fun hstop more => stopping_run h hstop more⟩
  · have hi := ((current_iff h).mp hi).2
    have hj := ((current_iff h).mp hj).2
    omega
  · obtain ⟨i, held, hheld, hlast, hun, -⟩ := h.owned hop
    have hne := ((AudioOperationState.operating_iff _).mp hop).2
    exact ⟨i, (current_iff h).mpr ⟨hne, hlast⟩, held, hheld, hun⟩
  · rintro ⟨i, hcurrent, hun⟩
    exact howner i hcurrent hun
  · obtain ⟨j, other, hj, hjlast, -, hst⟩ := h.owned (howner i hcurrent hun)
    have hlast := ((current_iff h).mp hcurrent).2
    obtain rfl : j = i := by omega
    rw [hheld] at hj
    cases hj
    exact hst

/-- The first lease is released once more when the second one has the gate. -/
example :
    (exec apply new [.acquireProduction, .release 0, .locked 0, .acquireHumanRoundTrip 7,
      .release 0, .locked 0]).2.gate = ⟨.humanRoundTrip 7, 2⟩ := by decide

end LeasedGate

end Translator.Control
