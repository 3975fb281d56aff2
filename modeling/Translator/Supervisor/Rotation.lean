import Translator.Supervisor.Readiness

/-! Which credentials a sidecar process is started with. A launch is passed to the runtime once as long
    as every `start` of the owner finds one that has not been passed yet, and no longer: `start` takes
    the launch it finds. -/

namespace Translator.Supervisor
open Schemes

/-! ### Launches that were made and launches that were used -/

/-- The two share neither their generation nor their token. -/
def SidecarLaunch.Apart (a b : SidecarLaunch) : Prop :=
  a.generationId ≠ b.generationId ∧ a.token ≠ b.token

instance decidableApart (a b : SidecarLaunch) : Decidable (a.Apart b) :=
  inferInstanceAs (Decidable (_ ∧ _))

def Happening.newLaunch : Happening → Option SidecarLaunch
  | .launched launch => launch
  | _ => none

def Happening.startedLaunch : Happening → Option SidecarLaunch
  | .started launch _ => some launch
  | _ => none

/-- What `new_launch` returned, oldest first. -/
def newLaunches (history : List Happening) : List SidecarLaunch := history.filterMap Happening.newLaunch

/-- What was passed to `runtime.start`, oldest first. -/
def startedLaunches (history : List Happening) : List SidecarLaunch :=
  history.filterMap Happening.startedLaunch

/-- `new_launch` returns no generation and no token again. -/
def SidecarRuntime.NeverRepeats (rt : SidecarRuntime) : Prop :=
  ∀ history launch, rt.newLaunch history = some launch →
    ∀ earlier ∈ newLaunches history, earlier.Apart launch

@[simp] theorem newLaunches_concat (history : List Happening) (h : Happening) :
    newLaunches (history ++ [h]) = newLaunches history ++ h.newLaunch.toList := by
  cases hlaunch : h.newLaunch <;> simp [newLaunches, hlaunch]

@[simp] theorem startedLaunches_concat (history : List Happening) (h : Happening) :
    startedLaunches (history ++ [h]) = startedLaunches history ++ h.startedLaunch.toList := by
  cases hlaunch : h.startedLaunch <;> simp [startedLaunches, hlaunch]

/-- The launch the supervisor has, the ones it was given and the ones it used. -/
def SidecarSupervisor.credentials (s : SidecarSupervisor) :
    Option SidecarLaunch × List SidecarLaunch × List SidecarLaunch :=
  (s.launch, newLaunches s.history, startedLaunches s.history)

/-- The happening concerns no launch. -/
def Happening.Quiet (h : Happening) : Prop := h.newLaunch = none ∧ h.startedLaunch = none

theorem credentials_note {s : SidecarSupervisor} {h : Happening} (hquiet : h.Quiet) :
    (s.note h).credentials = s.credentials := by
  simp [SidecarSupervisor.credentials, SidecarSupervisor.note, hquiet.1, hquiet.2]

/-- Every launch used is one that was given, in the same order, and the last one given is the one the
    supervisor has. -/
structure Rotated (s : SidecarSupervisor) : Prop where
  newest : s.launch = (newLaunches s.history).getLast?
  apart : (newLaunches s.history).Pairwise SidecarLaunch.Apart
  once : (startedLaunches s.history).Sublist (newLaunches s.history)

/-- The launch the supervisor has is not among those used. -/
def Unspent (s : SidecarSupervisor) : Prop :=
  (startedLaunches s.history).Sublist (newLaunches s.history).dropLast

theorem Rotated.congr {s s' : SidecarSupervisor} (h : Rotated s) (hsame : s'.credentials = s.credentials) :
    Rotated s' := by
  simp only [SidecarSupervisor.credentials, Prod.mk.injEq] at hsame
  obtain ⟨hlaunch, hnew, hstarted⟩ := hsame
  refine ⟨?_, ?_, ?_⟩
  · rw [hlaunch, hnew]
    exact h.newest
  · rw [hnew]
    exact h.apart
  · rw [hnew, hstarted]
    exact h.once

theorem Unspent.congr {s s' : SidecarSupervisor} (h : Unspent s) (hsame : s'.credentials = s.credentials) :
    Unspent s' := by
  simp only [SidecarSupervisor.credentials, Prod.mk.injEq] at hsame
  unfold Unspent
  rw [hsame.2.1, hsame.2.2]
  exact h

/-- The launch that has not been used is the last of those given. -/
theorem Rotated.unspent {s : SidecarSupervisor} (h : Rotated s)
    (hlaunch : ∀ launch, s.launch = some launch → launch ∉ startedLaunches s.history) : Unspent s := by
  rcases List.eq_nil_or_concat (newLaunches s.history) with hnone | ⟨init, last, hlast⟩
  · have hstarted : startedLaunches s.history = [] := by
      have := h.once
      rw [hnone] at this
      exact List.sublist_nil.mp this
    unfold Unspent
    rw [hstarted]
    exact List.nil_sublist _
  · rw [List.concat_eq_append] at hlast
    have hnewest : s.launch = some last := by
      rw [h.newest, hlast]
      simp
    have honce := h.once
    unfold Unspent
    rw [hlast] at honce ⊢
    rw [List.dropLast_concat]
    rcases List.sublist_append_iff.mp honce with ⟨l₁, l₂, heq, h₁, h₂⟩
    rcases List.sublist_singleton.mp h₂ with rfl | rfl
    · rw [heq, List.append_nil]
      exact h₁
    · refine absurd ?_ (hlaunch last hnewest)
      rw [heq]
      exact List.mem_append_right _ (List.mem_singleton_self last)

/-- It is used. -/
theorem Rotated.started {s : SidecarSupervisor} {launch : SidecarLaunch}
    {result : Except SupervisorError Unit} (h : Rotated s) (hunspent : Unspent s)
    (hlaunch : s.launch = some launch) : Rotated (s.note (.started launch result)) := by
  have hlast : (newLaunches s.history).getLast? = some launch := h.newest.symm.trans hlaunch
  refine ⟨?_, ?_, ?_⟩
  · simpa [SidecarSupervisor.note, Happening.newLaunch] using h.newest
  · simpa [SidecarSupervisor.note, Happening.newLaunch] using h.apart
  · simp only [SidecarSupervisor.note, newLaunches_concat, startedLaunches_concat, Happening.newLaunch,
      Happening.startedLaunch, Option.toList_none, Option.toList_some, List.append_nil]
    rw [← List.dropLast_append_getLast? launch hlast]
    exact hunspent.append (List.Sublist.refl _)

/-- Another is given. -/
theorem Rotated.launched {s : SidecarSupervisor} {launch : SidecarLaunch} (h : Rotated s)
    (hapart : ∀ earlier ∈ newLaunches s.history, earlier.Apart launch) :
    Rotated { s.note (.launched (some launch)) with launch := some launch }
      ∧ Unspent { s.note (.launched (some launch)) with launch := some launch } := by
  have hnew : newLaunches (s.history ++ [.launched (some launch)]) = newLaunches s.history ++ [launch] := by
    simp [Happening.newLaunch]
  have hstarted : startedLaunches (s.history ++ [.launched (some launch)]) = startedLaunches s.history := by
    simp [Happening.startedLaunch]
  refine ⟨⟨?_, ?_, ?_⟩, ?_⟩
  · simp only [SidecarSupervisor.note, hnew, List.getLast?_concat]
  · simp only [SidecarSupervisor.note, hnew]
    refine List.pairwise_append.mpr ⟨h.apart, List.pairwise_singleton _ _, fun earlier hearlier last hlast => ?_⟩
    obtain rfl := List.mem_singleton.mp hlast
    exact hapart earlier hearlier
  · simp only [SidecarSupervisor.note, hnew, hstarted]
    exact h.once.trans (List.sublist_append_left _ _)
  · unfold Unspent
    simp only [SidecarSupervisor.note, hnew, hstarted, List.dropLast_concat]
    exact h.once

/-! ### Calls that concern no launch -/

theorem keeps_ask {R : Type} {answer : List Happening → R} {happened : R → Happening}
    (hquiet : ∀ r, (happened r).Quiet) :
    Call.Keeps SidecarSupervisor.credentials (ask answer happened) :=
  fun _ => credentials_note (hquiet _)

section Calls

variable (rt : SidecarRuntime)

theorem keeps_cleanupReaped (childState : ChildState) :
    Call.Keeps SidecarSupervisor.credentials (cleanupReaped rt childState) := by
  refine Call.keeps_ite (Call.keeps_fail _) (Call.keeps_bind (keeps_ask fun _ => ⟨rfl, rfl⟩) fun result => ?_)
  cases result with
  | ok _ => exact Call.keeps_pure _
  | error _ => exact Call.keeps_fail _

theorem keeps_reapAndCleanup : Call.Keeps SidecarSupervisor.credentials (reapAndCleanup rt) := by
  refine Call.keeps_bind (keeps_ask fun _ => ⟨rfl, rfl⟩) fun result => ?_
  cases result with
  | ok childState => exact keeps_cleanupReaped rt childState
  | error _ => exact Call.keeps_fail _

theorem keeps_modify {f : SidecarSupervisor → SidecarSupervisor}
    (hf : ∀ s, (f s).credentials = s.credentials) :
    Call.Keeps SidecarSupervisor.credentials (Call.modify f : SupervisorCall Unit) := hf

theorem keeps_isReady : Call.Keeps SidecarSupervisor.credentials (isReady rt) := by
  have hrefresh : Call.Keeps SidecarSupervisor.credentials (refreshLiveness rt) := by
    refine Call.keeps_bind Call.keeps_get fun s => ?_
    split
    · refine Call.keeps_bind (keeps_ask fun _ => ⟨rfl, rfl⟩) fun result => ?_
      split
      · exact Call.keeps_pure _
      · exact keeps_modify fun _ => rfl
    · exact Call.keeps_pure _
  exact Call.keeps_bind hrefresh fun _ => Call.keeps_bind Call.keeps_get fun s => Call.keeps_pure _

theorem keeps_registerSession (session : Wire.Uuid) :
    Call.Keeps SidecarSupervisor.credentials (registerSession rt session) := by
  refine Call.keeps_bind (keeps_isReady rt) fun ready => ?_
  refine Call.keeps_ite (Call.keeps_fail _) (keeps_modify fun s => ?_)
  unfold addSession
  split
  · rfl
  · exact credentials_note ⟨rfl, rfl⟩

theorem keeps_shutdown : Call.Keeps SidecarSupervisor.credentials (shutdown rt) := by
  refine Call.keeps_bind (keeps_modify fun _ => rfl) fun _ => ?_
  refine Call.keeps_bind (keeps_ask fun _ => ⟨rfl, rfl⟩) fun result => ?_
  cases result with
  | ok childState => exact keeps_cleanupReaped rt childState
  | error _ => exact Call.keeps_fail _

/-! ### Calls that give and use launches -/

/-- Whatever becomes of a quiet call, the launches stay in order. -/
theorem rotated_of_keeps {α : Type} {c : SupervisorCall α}
    (hc : Call.Keeps SidecarSupervisor.credentials c) : Call.Maintains Rotated Rotated c := fun _ hs =>
  Call.wp_of_keeps hc (fun _ _ h => hs.congr h) (fun _ _ h => hs.congr h) fun _ h => hs.congr h

variable {rt} (hrt : rt.NeverRepeats)

include hrt

/-- There is a launch to use afterwards, or the call has failed. -/
theorem renewLaunch_rotates {s : SidecarSupervisor} (hs : Rotated s) :
    Call.wp (renewLaunch rt) ⟨fun _ s' => Rotated s' ∧ Unspent s', fun _ => Rotated, Rotated⟩ s := by
  rw [renewLaunch, Call.wp_bind, wp_ask_eq]
  dsimp only
  cases hnew : rt.newLaunch s.history with
  | none => exact hs.congr (credentials_note ⟨rfl, rfl⟩)
  | some launch => exact hs.launched (hrt s.history launch hnew)

theorem prepareRetry_rotates (attempt : Nat) {s : SidecarSupervisor} (hs : Rotated s) :
    Call.wp (prepareRetry rt attempt) ⟨fun _ s' => Rotated s' ∧ Unspent s', fun _ => Rotated, Rotated⟩ s := by
  rw [prepareRetry, Call.wp_bind]
  refine Call.wp_mono (renewLaunch_rotates hrt hs) ?_ (fun _ _ h => h) fun _ h => h
  rintro _ s₁ ⟨hs₁, hunspent⟩
  dsimp only
  rw [Call.wp_bind, wp_ask_eq]
  have hsame := @credentials_note s₁ (.waited attempt (rt.waitBeforeRetry s₁.history attempt)) ⟨rfl, rfl⟩
  dsimp only
  cases hwaited : rt.waitBeforeRetry s₁.history attempt with
  | ok _ => exact ⟨hs₁.congr (hwaited ▸ hsame), hunspent.congr (hwaited ▸ hsame)⟩
  | error _ => exact hs₁.congr (hwaited ▸ hsame)

omit hrt in
/-- An attempt uses the launch, and nothing it does after that concerns a launch. -/
theorem tryStart_rotates {launch : SidecarLaunch} {s : SidecarSupervisor} (hs : Rotated s)
    (hunspent : Unspent s) (hlaunch : s.launch = some launch) :
    Call.wp (tryStart rt launch) ⟨fun _ => Rotated, fun _ => Rotated, Rotated⟩ s := by
  rw [tryStart, Call.wp_bind, wp_ask_eq]
  dsimp only
  have hs₁ := @Rotated.started s launch (rt.start s.history launch) hs hunspent hlaunch
  cases hstart : rt.start s.history launch with
  | error _ =>
    rw [hstart] at hs₁
    exact hs₁
  | ok _ =>
    rw [hstart] at hs₁
    refine rotated_of_keeps (Call.keeps_bind (keeps_ask fun _ => ⟨rfl, rfl⟩) fun probe => ?_) _ hs₁
    cases probe.fault launch with
    | none => exact Call.keeps_bind (keeps_modify fun _ => credentials_note ⟨rfl, rfl⟩) fun _ => Call.keeps_pure _
    | some error => exact Call.keeps_bind (keeps_reapAndCleanup rt) fun _ => Call.keeps_pure _

/-- Each attempt that is left finds a launch that has not been used. -/
theorem startAttempts_rotates (left : Nat) (lastError : SupervisorError) {s : SidecarSupervisor}
    (hs : Rotated s) (hunspent : 0 < left → Unspent s) :
    Call.wp (startAttempts rt left lastError) ⟨fun _ => Rotated, fun _ => Rotated, Rotated⟩ s := by
  induction left generalizing lastError s with
  | zero => exact hs
  | succ left ih =>
    have hexpect : Call.wp expectLaunch ⟨fun launch s' => s.launch = some launch ∧ s' = s,
        fun _ _ => False, Rotated⟩ s := by
      unfold Call.wp expectLaunch
      cases hlaunch : s.launch with
      | none => exact hs
      | some launch => exact ⟨rfl, rfl⟩
    rw [startAttempts, Call.wp_bind]
    refine Call.wp_mono hexpect ?_ (fun _ _ h => h.elim) fun _ h => h
    rintro launch s₁ ⟨hlaunch, rfl⟩
    dsimp only
    rw [Call.wp_bind]
    refine Call.wp_mono (tryStart_rotates hs (hunspent (Nat.succ_pos left)) hlaunch) ?_ (fun _ _ h => h)
      fun _ h => h
    rintro (_ | error) s₂ hs₂
    · exact hs₂
    · dsimp only
      split
      · rw [Call.wp_bind]
        refine Call.wp_mono (prepareRetry_rotates hrt _ hs₂) ?_ (fun _ _ h => h) fun _ h => h
        rintro _ s₃ ⟨hs₃, hunspent₃⟩
        exact ih error hs₃ fun _ => hunspent₃
      · next hnone => exact ih error hs₂ fun hleft => absurd hleft hnone

/-- `start` takes the launch it finds. -/
theorem start_rotates {s : SidecarSupervisor} (hs : Rotated s) (hunspent : Unspent s) :
    Call.wp (start rt) ⟨fun _ => Rotated, fun _ => Rotated, Rotated⟩ s := by
  simp only [start, Call.wp_bind, Call.wp_modify, Call.wp_get]
  have hunready : Rotated s.setUnready := hs.congr rfl
  split
  · rw [Call.wp_bind]
    refine Call.wp_mono (renewLaunch_rotates hrt hunready) ?_ (fun _ _ h => h) fun _ h => h
    rintro _ s₁ ⟨hs₁, hunspent₁⟩
    exact startAttempts_rotates hrt _ _ hs₁ fun _ => hunspent₁
  · exact startAttempts_rotates hrt _ _ hunready fun _ => hunspent

omit hrt in
/-- The owner calls `start` only where the supervisor has no launch that it has used. -/
def Startable (s : SidecarSupervisor) (op : Operation) : Prop :=
  op = .start → ∀ launch, s.launch = some launch → launch ∉ startedLaunches s.history

theorem closeSession_rotates (session : Wire.Uuid) (acknowledged : Bool) :
    Call.Maintains Rotated Rotated (closeSession rt session acknowledged) := by
  intro s hs
  rw [closeSession, Call.wp_bind]
  refine Call.wp_mono (rotated_of_keeps (keeps_isReady rt) s hs) ?_ (fun _ _ h => h) fun _ h => h
  intro ready s₁ hs₁
  dsimp only
  split
  · exact hs₁
  simp only [Call.wp_bind, Call.wp_get]
  split
  · exact hs₁
  simp only [Call.wp_bind, Call.wp_modify]
  split
  · exact hs₁.congr rfl
  simp only [Call.wp_bind, Call.wp_modify]
  refine Call.wp_mono (rotated_of_keeps (keeps_reapAndCleanup rt) _ (hs₁.congr rfl)) ?_ (fun _ _ h => h)
    fun _ h => h
  intro _ s₂ hs₂
  refine Call.wp_mono (renewLaunch_rotates hrt hs₂) ?_ (fun _ _ h => h) fun _ h => h
  rintro _ s₃ ⟨hs₃, hunspent⟩
  exact Call.wp_mono (start_rotates hrt hs₃ hunspent) (fun _ _ h => h) (fun _ _ h => h) fun _ h => h

theorem call_rotates {s : SidecarSupervisor} (op : Operation) (hs : Rotated s) (hop : Startable s op) :
    Call.wp (op.call rt) ⟨fun _ => Rotated, fun _ => Rotated, Rotated⟩ s := by
  cases op with
  | start =>
    rw [Operation.call, Call.wp_bind]
    exact Call.wp_mono (start_rotates hrt hs (hs.unspent (hop rfl))) (fun _ _ h => h) (fun _ _ h => h) fun _ h => h
  | isReady =>
    exact rotated_of_keeps (Call.keeps_bind (keeps_isReady rt) fun _ => Call.keeps_pure _) s hs
  | registerSession session =>
    exact rotated_of_keeps (Call.keeps_bind (keeps_registerSession rt session) fun _ => Call.keeps_pure _)
      s hs
  | closeSession session acknowledged =>
    exact Call.maintains_bind (closeSession_rotates hrt session acknowledged) (fun _ => Call.maintains_pure _)
      s hs
  | shutdown =>
    exact rotated_of_keeps (Call.keeps_bind (keeps_shutdown rt) fun _ => Call.keeps_pure _) s hs

omit hrt

/-! ### A launch that is used again -/

variable {used : List SidecarLaunch}

/-- What was used stays used. -/
def Used (used : List SidecarLaunch) (s : SidecarSupervisor) : Prop :=
  used <+: startedLaunches s.history

theorem used_ask {R : Type} {answer : List Happening → R} {happened : R → Happening} :
    Call.Maintains (Used used) (Used used) (ask answer happened) := by
  intro s hs
  have hnote : ∀ h, Used used (s.note h) := by
    intro h
    unfold Used SidecarSupervisor.note
    rw [startedLaunches_concat]
    exact hs.trans (List.prefix_append _ _)
  exact hnote _

theorem used_of_keeps {α : Type} {c : SupervisorCall α} (hc : Call.Keeps SidecarSupervisor.credentials c) :
    Call.Maintains (Used used) (Used used) c := by
  have hused : ∀ s s' : SidecarSupervisor, Used used s → s'.credentials = s.credentials → Used used s' := by
    intro s s' hs hsame
    simp only [SidecarSupervisor.credentials, Prod.mk.injEq] at hsame
    unfold Used
    rw [hsame.2.2]
    exact hs
  intro s hs
  exact Call.wp_of_keeps hc (fun _ _ h => hused _ _ hs h) (fun _ _ h => hused _ _ hs h) fun _ h =>
    hused _ _ hs h

theorem used_renewLaunch : Call.Maintains (Used used) (Used used) (renewLaunch rt) := by
  refine Call.maintains_bind used_ask fun new => ?_
  cases new with
  | none => exact Call.maintains_fail _
  | some launch => exact Call.maintains_modify fun _ h => h

theorem used_probe (launch : SidecarLaunch) :
    Call.Maintains (Used used) (Used used) (do
      let probe ← ask (rt.probe · launch) (.probed launch)
      match probe.fault launch with
      | none => do
        setReady launch
        pure none
      | some error => do
        reapAndCleanup rt
        pure (some error) : SupervisorCall (Option SupervisorError)) := by
  refine Call.maintains_bind used_ask fun probe => ?_
  cases probe.fault launch with
  | none =>
    have hready : Call.Keeps SidecarSupervisor.credentials (setReady launch) :=
      keeps_modify fun _ => credentials_note ⟨rfl, rfl⟩
    exact Call.maintains_bind (used_of_keeps hready) fun _ => Call.maintains_pure _
  | some error =>
    exact Call.maintains_bind (used_of_keeps (keeps_reapAndCleanup rt)) fun _ => Call.maintains_pure _

theorem used_tryStart (launch : SidecarLaunch) :
    Call.Maintains (Used used) (Used used) (tryStart rt launch) := by
  refine Call.maintains_bind used_ask fun result => ?_
  cases result with
  | error _ => exact Call.maintains_pure _
  | ok _ => exact used_probe launch

/-- The launch of an attempt is used, whatever comes of it. -/
theorem tryStart_uses {s : SidecarSupervisor} (launch : SidecarLaunch) :
    Call.wp (tryStart rt launch) ⟨fun _ => Used (startedLaunches s.history ++ [launch]),
      fun _ => Used (startedLaunches s.history ++ [launch]),
      Used (startedLaunches s.history ++ [launch])⟩ s := by
  rw [tryStart, Call.wp_bind, wp_ask_eq]
  have hused : Used (startedLaunches s.history ++ [launch])
      (s.note (.started launch (rt.start s.history launch))) := by
    unfold Used SidecarSupervisor.note
    rw [startedLaunches_concat]
    exact List.prefix_refl _
  revert hused
  dsimp only
  cases rt.start s.history launch with
  | error _ => exact id
  | ok _ => exact used_probe launch _

theorem used_prepareRetry (attempt : Nat) :
    Call.Maintains (Used used) (Used used) (prepareRetry rt attempt) := by
  refine Call.maintains_bind used_renewLaunch fun _ => Call.maintains_bind used_ask fun result => ?_
  cases result with
  | ok _ => exact Call.maintains_pure _
  | error _ => exact Call.maintains_fail _

theorem used_expectLaunch : Call.Maintains (Used used) (Used used) expectLaunch := by
  refine used_of_keeps fun s => ?_
  unfold expectLaunch
  cases s.launch <;> rfl

theorem used_startAttempts (left : Nat) (lastError : SupervisorError) :
    Call.Maintains (Used used) (Used used) (startAttempts rt left lastError) := by
  induction left generalizing lastError with
  | zero => exact Call.maintains_fail _
  | succ left ih =>
    refine Call.maintains_bind used_expectLaunch fun launch =>
      Call.maintains_bind (used_tryStart launch) fun result => ?_
    rcases result with _ | error
    · exact Call.maintains_pure _
    · dsimp only
      split
      · exact Call.maintains_bind (used_prepareRetry _) fun _ => ih error
      · exact ih error

theorem used_start : Call.Maintains (Used used) (Used used) (start rt) := by
  refine Call.maintains_bind (Call.maintains_modify fun _ h => h) fun _ => Call.maintains_get fun s _ => ?_
  split
  · exact Call.maintains_bind used_renewLaunch fun _ => used_startAttempts _ _
  · exact used_startAttempts _ _

theorem used_closeSession (session : Wire.Uuid) (acknowledged : Bool) :
    Call.Maintains (Used used) (Used used) (closeSession rt session acknowledged) := by
  refine Call.maintains_bind (used_of_keeps (keeps_isReady rt)) fun ready => ?_
  split
  · exact Call.maintains_fail _
  refine Call.maintains_get fun s _ => ?_
  split
  · exact Call.maintains_fail _
  have hkept : ∀ f : SidecarSupervisor → SidecarSupervisor, (∀ s, (f s).credentials = s.credentials) →
      Call.Maintains (Used used) (Used used) (Call.modify f : SupervisorCall Unit) := fun f hf =>
    used_of_keeps (keeps_modify hf)
  refine Call.maintains_bind (hkept _ fun _ => rfl) fun _ => Call.maintains_bind (hkept _ fun _ => rfl)
    fun _ => ?_
  split
  · exact Call.maintains_bind (hkept _ fun _ => rfl) fun _ => Call.maintains_pure _
  · exact Call.maintains_bind (hkept _ fun _ => rfl) fun _ =>
      Call.maintains_bind (used_of_keeps (keeps_reapAndCleanup rt)) fun _ =>
      Call.maintains_bind used_renewLaunch fun _ =>
      Call.maintains_bind used_start fun _ => Call.maintains_pure _

/-- No call takes back what was used. -/
theorem used_call (op : Operation) : Call.Maintains (Used used) (Used used) (op.call rt) := by
  cases op with
  | start => exact Call.maintains_bind used_start fun _ => Call.maintains_pure _
  | isReady =>
    exact Call.maintains_bind (used_of_keeps (keeps_isReady rt)) fun _ => Call.maintains_pure _
  | registerSession session =>
    exact Call.maintains_bind (used_of_keeps (keeps_registerSession rt session)) fun _ =>
      Call.maintains_pure _
  | closeSession session acknowledged =>
    exact Call.maintains_bind (used_closeSession session acknowledged) fun _ => Call.maintains_pure _
  | shutdown =>
    exact Call.maintains_bind (used_of_keeps (keeps_shutdown rt)) fun _ => Call.maintains_pure _

/-- The launch that `start` finds is used first of all. -/
theorem start_uses {s : SidecarSupervisor} {launch : SidecarLaunch} (hlaunch : s.launch = some launch) :
    Call.wp (start rt) ⟨fun _ => Used (startedLaunches s.history ++ [launch]),
      fun _ => Used (startedLaunches s.history ++ [launch]),
      Used (startedLaunches s.history ++ [launch])⟩ s := by
  have hunready : s.setUnready.launch = some launch := hlaunch
  have hexpect : Call.wp expectLaunch ⟨fun l s' => l = launch ∧ s' = s.setUnready,
      fun _ _ => False, fun _ => False⟩ s.setUnready := by
    simp [Call.wp, expectLaunch, hunready, Call.Post.Met]
  simp only [start, Call.wp_bind, Call.wp_modify, Call.wp_get]
  rw [if_neg (by simp [hunready]), maxStartAttempts, startAttempts, Call.wp_bind]
  refine Call.wp_mono hexpect ?_ (fun _ _ h => h.elim) fun _ h => h.elim
  rintro _ _ ⟨rfl, rfl⟩
  dsimp only
  rw [Call.wp_bind]
  refine Call.wp_mono (tryStart_uses _) ?_ (fun _ _ h => h) fun _ h => h
  rintro (_ | error) s₁ hs₁
  · exact hs₁
  · dsimp only
    split
    · exact Call.maintains_bind (used_prepareRetry _) (fun _ => used_startAttempts _ error) s₁ hs₁
    · exact used_startAttempts _ error s₁ hs₁

theorem used_step (op : Operation) (s : SidecarSupervisor) :
    startedLaunches s.history <+: startedLaunches (SidecarSupervisor.step rt s op).2.history :=
  Call.end_of_maintains (used_call op) (fun _ h => h) (List.prefix_refl _)

/-- A run that uses no launch twice was started each time with a launch not used before. -/
theorem startable_of_apart {s : SidecarSupervisor} {op : Operation}
    (h : (startedLaunches (SidecarSupervisor.step rt s op).2.history).Pairwise SidecarLaunch.Apart) :
    Startable s op := by
  rintro rfl launch hlaunch hmem
  have hwp : Call.wp (Operation.call rt .start) ⟨fun _ => Used (startedLaunches s.history ++ [launch]),
      fun _ => Used (startedLaunches s.history ++ [launch]),
      Used (startedLaunches s.history ++ [launch])⟩ s := by
    rw [Operation.call, Call.wp_bind]
    exact Call.wp_mono (start_uses hlaunch) (fun _ _ h => h) (fun _ _ h => h) fun _ h => h
  have hused : startedLaunches s.history ++ [launch]
      <+: startedLaunches (SidecarSupervisor.step rt s .start).2.history := by
    unfold Call.wp at hwp
    unfold SidecarSupervisor.step
    revert hwp
    rcases Operation.call rt .start s with ⟨_ | _ | _, _⟩ <;> exact id
  have hapart := List.pairwise_append.mp (h.sublist hused.sublist)
  exact (hapart.2.2 launch hmem launch (List.mem_singleton_self launch)).1 rfl

/-- No launch is passed to the runtime twice, if and only if `start` is called only where the
    supervisor's launch has not been used. -/
theorem launches_apart_iff (hrt : rt.NeverRepeats) (ops : List Operation) :
    (startedLaunches (exec (SidecarSupervisor.step rt) .new ops).2.history).Pairwise SidecarLaunch.Apart
      ↔ Adm (SidecarSupervisor.step rt) Startable .new ops := by
  constructor
  · intro hapart
    induction ops using List.reverseRecOn with
    | nil => exact adm_nil _ _ _
    | append_singleton ops op ih =>
      rw [exec_concat] at hapart
      have hbefore := hapart.sublist (used_step op (exec (SidecarSupervisor.step rt) .new ops).2).sublist
      exact adm_snoc (ih hbefore) (startable_of_apart hapart)
  · intro hadm
    have hrotated : Rotated (exec (SidecarSupervisor.step rt) .new ops).2 := by
      refine exec_invariant (I := fun _ s => Rotated s) ⟨rfl, List.Pairwise.nil, List.Sublist.refl _⟩
        (fun _ s op hs hop => ?_) ops hadm
      have hwp := call_rotates hrt op hs hop
      unfold Call.wp at hwp
      unfold SidecarSupervisor.step
      revert hwp
      rcases op.call rt s with ⟨_ | _ | _, _⟩ <;> exact id
    exact hrotated.apart.sublist hrotated.once

end Calls

/-! ### A sidecar that is started again -/

def supply : List SidecarLaunch := [⟨0x11, "3f9a"⟩, ⟨0x22, "c07d"⟩, ⟨0x33, "51be"⟩]

/-- Everything succeeds. -/
def steady : SidecarRuntime where
  start _ _ := .ok ()
  probe _ launch := .observed launch.generationId
  killAndReap _ := .ok .reaped
  shutdownAndReap _ := .ok .reaped
  removeStaleSocket _ _ := .ok ()
  waitBeforeRetry _ _ := .ok ()
  pollChildState _ := .ok .running
  newLaunch history :=
    supply.find? (fun launch => (newLaunches history).all (fun earlier => earlier.Apart launch))

theorem steady_neverRepeats : steady.NeverRepeats := by
  intro history launch hlaunch earlier hearlier
  have hall := List.find?_some hlaunch
  simpa using List.all_eq_true.mp hall earlier hearlier

/-- A run that closes late, and is started by its owner once. -/
theorem launches_apart_restarted :
    (startedLaunches (exec (SidecarSupervisor.step steady) .new
        [.start, .registerSession 7, .closeSession 7 false, .shutdown]).2.history).Pairwise
        SidecarLaunch.Apart
      ↔ Adm (SidecarSupervisor.step steady) Startable .new
        [.start, .registerSession 7, .closeSession 7 false, .shutdown] :=
  launches_apart_iff steady_neverRepeats _

/-- The sidecar that is started after a shutdown has the credentials of the one before it. -/
theorem credentials_reused :
    steady.NeverRepeats
    ∧ startedLaunches (exec (SidecarSupervisor.step steady) .new [.start, .shutdown, .start]).2.history
      = [⟨0x11, "3f9a"⟩, ⟨0x11, "3f9a"⟩] :=
  ⟨steady_neverRepeats, by decide +kernel⟩

end Translator.Supervisor
