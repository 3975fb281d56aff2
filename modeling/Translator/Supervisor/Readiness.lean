import Translator.Supervisor.SidecarSupervisor

/-! What a supervisor publishes is what it knows. It is ready only for the generation that answered the
    last probe, its sessions are the ones registered since it last became ready, the published count is
    theirs, and a socket is removed only behind a child that has just been reaped. A call that fails
    part of the way leaves all of this behind: up to its last step `start` works on an idle
    supervisor, which has neither readiness nor sessions to be wrong about. -/

namespace Translator.Supervisor
open Schemes
open Wire (Uuid)

/-- The answer of the last probe. -/
def lastProbe (history : List Happening) : Option Probe :=
  history.foldl (fun last h => match h with | .probed _ result => some result | _ => last) none

/-- The generation that became ready last. -/
def lastReady (history : List Happening) : Option Uuid :=
  history.foldl (fun last h => match h with | .becameReady generation => some generation | _ => last)
    none

/-- The sessions registered since a generation last became ready. -/
def registeredSinceReady (history : List Happening) : List Uuid :=
  history.foldl (fun sessions h => match h with
    | .becameReady _ => []
    | .registered session => sessions ++ [session]
    | _ => sessions) []

/-- The child has just been reported reaped. -/
def JustReaped (history : List Happening) : Prop :=
  ∃ older, history = older ++ [.killed (.ok .reaped)] ∨ history = older ++ [.shutDown (.ok .reaped)]

/-- A socket is removed right after the child was reported reaped. -/
def RemovedWhenReaped (history : List Happening) : Happening → Prop
  | .socketRemoved _ _ => JustReaped history
  | _ => True

structure Sound (s : SidecarSupervisor) : Prop where
  probed : s.ready = true → ∃ launch, s.launch = some launch
    ∧ lastProbe s.history = some (.observed launch.generationId)
    ∧ lastReady s.history = some launch.generationId
  idle : s.ready = false → s.activeSessions = []
  nodup : s.activeSessions.Nodup
  count : s.activeSessionCount = s.activeSessions.length
  current : ∀ session ∈ s.activeSessions, session ∈ registeredSinceReady s.history
  reaped : AtEach RemovedWhenReaped s.history

/-- Not ready, with nothing registered. -/
structure Idle (s : SidecarSupervisor) : Prop where
  unready : s.ready = false
  noSessions : s.activeSessions = []
  noCount : s.activeSessionCount = 0
  reaped : AtEach RemovedWhenReaped s.history

theorem Idle.sound {s : SidecarSupervisor} (h : Idle s) : Sound s where
  probed hready := by simp [h.unready] at hready
  idle _ := h.noSessions
  nodup := by simp [h.noSessions]
  count := by simp [h.noSessions, h.noCount]
  current := by simp [h.noSessions]
  reaped := h.reaped

theorem setUnready_idle {s : SidecarSupervisor} (h : AtEach RemovedWhenReaped s.history) :
    Idle s.setUnready := ⟨rfl, rfl, rfl, h⟩

theorem sound_new : Sound .new := Idle.sound ⟨rfl, rfl, rfl, atEach_nil _⟩

/-! ### One more happening -/

theorem lastProbe_concat (history : List Happening) (h : Happening) :
    lastProbe (history ++ [h])
      = match h with | .probed _ result => some result | _ => lastProbe history := by
  simp [lastProbe, List.foldl_append]

theorem lastReady_concat (history : List Happening) (h : Happening) :
    lastReady (history ++ [h])
      = match h with | .becameReady generation => some generation | _ => lastReady history := by
  simp [lastReady, List.foldl_append]

theorem registeredSinceReady_concat (history : List Happening) (h : Happening) :
    registeredSinceReady (history ++ [h])
      = match h with
        | .becameReady _ => []
        | .registered session => registeredSinceReady history ++ [session]
        | _ => registeredSinceReady history := by
  simp [registeredSinceReady, List.foldl_append]

theorem Idle.note {s : SidecarSupervisor} {happening : Happening} (h : Idle s)
    (hremoved : RemovedWhenReaped s.history happening) : Idle (s.note happening) :=
  ⟨h.unready, h.noSessions, h.noCount, atEach_concat h.reaped hremoved⟩

theorem wp_ask_eq {R : Type} (answer : List Happening → R) (happened : R → Happening)
    (post : Call.Post SidecarSupervisor SupervisorError R) (s : SidecarSupervisor) :
    Call.wp (ask answer happened) post s
      = post.ok (answer s.history) (s.note (happened (answer s.history))) := rfl

/-- A question of an idle supervisor: whatever the answer, it is idle afterwards, with the launch it
    had and the answer at the end of its history. -/
theorem wp_ask {R : Type} {answer : List Happening → R} {happened : R → Happening}
    {post : Call.Post SidecarSupervisor SupervisorError R} {s : SidecarSupervisor} (h : Idle s)
    (hremoved : ∀ r, RemovedWhenReaped s.history (happened r))
    (hpost : ∀ r s', Idle s' → s'.launch = s.launch → s'.history = s.history ++ [happened r] →
      post.ok r s') :
    Call.wp (ask answer happened) post s :=
  hpost _ _ (h.note (hremoved _)) rfl rfl

/-- What a call of an idle supervisor comes to that leaves it idle, with its launch. -/
def stayIdle {α : Type} (launch : Option SidecarLaunch) :
    Call.Post SidecarSupervisor SupervisorError α where
  ok _ s := Idle s ∧ s.launch = launch
  err _ s := Idle s
  crash _ := False

section Calls

variable (rt : SidecarRuntime)

/-! ### Killing the child -/

theorem cleanupReaped_idle {childState : ChildState} {s : SidecarSupervisor} (h : Idle s)
    (hreaped : childState = .reaped → JustReaped s.history) :
    Call.wp (cleanupReaped rt childState) (stayIdle s.launch) s := by
  unfold cleanupReaped
  split
  · exact h
  next hne =>
    rw [Call.wp_bind]
    refine wp_ask h (fun _ => hreaped (not_not.mp hne)) fun result s' hs' hlaunch _ => ?_
    cases result with
    | ok _ => exact ⟨hs', hlaunch⟩
    | error _ => exact hs'

theorem reapAndCleanup_idle {s : SidecarSupervisor} (h : Idle s) :
    Call.wp (reapAndCleanup rt) (stayIdle s.launch) s := by
  rw [reapAndCleanup, Call.wp_bind]
  refine wp_ask h (fun _ => trivial) fun result s' hs' hlaunch hhistory => ?_
  cases result with
  | ok childState =>
    rw [← hlaunch]
    exact cleanupReaped_idle rt hs' fun hreaped => ⟨s.history, .inl (hreaped ▸ hhistory)⟩
  | error _ => exact hs'

/-! ### Starting it -/

theorem renewLaunch_idle {s : SidecarSupervisor} (h : Idle s) :
    Call.wp (renewLaunch rt) ⟨fun _ s => Idle s ∧ s.launch.isSome, fun _ => Idle, fun _ => False⟩ s := by
  rw [renewLaunch, Call.wp_bind]
  refine wp_ask h (fun _ => trivial) fun launch s' hs' _ _ => ?_
  cases launch with
  | some launch => exact ⟨⟨hs'.unready, hs'.noSessions, hs'.noCount, hs'.reaped⟩, rfl⟩
  | none => exact hs'

theorem prepareRetry_idle (attempt : Nat) {s : SidecarSupervisor} (h : Idle s) :
    Call.wp (prepareRetry rt attempt)
      ⟨fun _ s => Idle s ∧ s.launch.isSome, fun _ => Idle, fun _ => False⟩ s := by
  rw [prepareRetry, Call.wp_bind]
  refine Call.wp_mono (renewLaunch_idle rt h) ?_ (fun _ _ h => h) fun _ h => h
  rintro _ s' ⟨hs', hlaunch⟩
  dsimp only
  rw [Call.wp_bind]
  refine wp_ask hs' (fun _ => trivial) fun result s'' hs'' hkept _ => ?_
  cases result with
  | ok _ => exact ⟨hs'', hkept ▸ hlaunch⟩
  | error _ => exact hs''

/-- A generation that has just answered its probe becomes ready, with no session registered. -/
theorem sound_ready {s : SidecarSupervisor} {launch : SidecarLaunch} (h : Idle s)
    (hlaunch : s.launch = some launch)
    (hprobe : lastProbe s.history = some (.observed launch.generationId)) :
    Sound ({ s with ready := true }.note (.becameReady launch.generationId)) where
  probed _ := ⟨launch, hlaunch, by rw [SidecarSupervisor.note, lastProbe_concat]; exact hprobe,
    by rw [SidecarSupervisor.note, lastReady_concat]⟩
  idle hready := by simp [SidecarSupervisor.note] at hready
  nodup := by simp [SidecarSupervisor.note, h.noSessions]
  count := by simp [SidecarSupervisor.note, h.noSessions, h.noCount]
  current := by simp [SidecarSupervisor.note, h.noSessions]
  reaped := atEach_concat h.reaped trivial

theorem Probe.fault_eq_none {launch : SidecarLaunch} {probe : Probe} (h : probe.fault launch = none) :
    probe = .observed launch.generationId := by
  cases probe with
  | timedOut => simp [Probe.fault] at h
  | failed _ => simp [Probe.fault] at h
  | observed generationId =>
    by_cases heq : generationId = launch.generationId
    · rw [heq]
    · simp [Probe.fault, heq] at h

theorem tryStart_sound {launch : SidecarLaunch} {s : SidecarSupervisor} (h : Idle s)
    (hlaunch : s.launch = some launch) :
    Call.wp (tryStart rt launch)
      ⟨fun failure s' => match failure with
          | none => Sound s'
          | some _ => Idle s' ∧ s'.launch = some launch,
        fun _ => Idle, fun _ => False⟩ s := by
  rw [tryStart, Call.wp_bind]
  refine wp_ask h (fun _ => trivial) fun result s₁ hs₁ hlaunch₁ _ => ?_
  cases result with
  | error _ => exact ⟨hs₁, hlaunch₁.trans hlaunch⟩
  | ok _ =>
    dsimp only
    rw [Call.wp_bind]
    refine wp_ask hs₁ (fun _ => trivial) fun probe s₂ hs₂ hlaunch₂ hhistory₂ => ?_
    have hlaunch' : s₂.launch = some launch := hlaunch₂.trans (hlaunch₁.trans hlaunch)
    dsimp only
    cases hfault : probe.fault launch with
    | none =>
      refine sound_ready hs₂ hlaunch' ?_
      rw [hhistory₂, lastProbe_concat, Probe.fault_eq_none hfault]
    | some error =>
      dsimp only
      rw [Call.wp_bind]
      refine Call.wp_mono (reapAndCleanup_idle rt hs₂) ?_ (fun _ _ h => h) fun _ h => h
      rintro _ s₃ ⟨hs₃, hlaunch₃⟩
      exact ⟨hs₃, hlaunch₃.trans hlaunch'⟩

/-- The loop of `start` begins every attempt on an idle supervisor that has a launch. -/
theorem startAttempts_sound (left : Nat) (lastError : SupervisorError) {s : SidecarSupervisor}
    (h : Idle s) (hlaunch : s.launch.isSome) :
    Call.wp (startAttempts rt left lastError) ⟨fun _ => Sound, fun _ => Idle, fun _ => False⟩ s := by
  induction left generalizing lastError s with
  | zero => exact h
  | succ left ih =>
    obtain ⟨launch, hlaunch⟩ := Option.isSome_iff_exists.mp hlaunch
    have hexpect : Call.wp expectLaunch
        ⟨fun l s' => l = launch ∧ s' = s, fun _ _ => False, fun _ => False⟩ s := by
      simp [Call.wp, expectLaunch, hlaunch, Call.Post.Met]
    rw [startAttempts, Call.wp_bind]
    refine Call.wp_mono hexpect ?_ (fun _ _ h => h.elim) fun _ h => h
    rintro _ _ ⟨rfl, rfl⟩
    dsimp only
    rw [Call.wp_bind]
    refine Call.wp_mono (tryStart_sound rt h hlaunch) ?_ (fun _ _ h => h) fun _ h => h
    rintro (_ | error) s₁ hs₁
    · exact hs₁
    · obtain ⟨hs₁, hlaunch₁⟩ := hs₁
      dsimp only
      split
      · rw [Call.wp_bind]
        refine Call.wp_mono (prepareRetry_idle rt _ hs₁) ?_ (fun _ _ h => h) fun _ h => h
        rintro _ s₂ ⟨hs₂, hlaunch₂⟩
        exact ih error hs₂ hlaunch₂
      · exact ih error hs₁ (by rw [hlaunch₁]; rfl)

theorem start_sound {s : SidecarSupervisor} (h : AtEach RemovedWhenReaped s.history) :
    Call.wp (start rt) ⟨fun _ => Sound, fun _ => Idle, fun _ => False⟩ s := by
  simp only [start, Call.wp_bind, Call.wp_modify, Call.wp_get]
  have hidle := setUnready_idle h
  split
  · rw [Call.wp_bind]
    refine Call.wp_mono (renewLaunch_idle rt hidle) ?_ (fun _ _ h => h) fun _ h => h
    rintro _ s₁ ⟨hs₁, hlaunch₁⟩
    exact startAttempts_sound rt _ _ hs₁ hlaunch₁
  next hsome =>
    exact startAttempts_sound rt _ _ hidle (by simpa [Option.isSome_iff_ne_none] using hsome)

/-! ### The calls of an owner -/

/-- The supervisor is sound whatever becomes of the call, and the call does not panic. -/
abbrev KeepsSound {α : Type} (call : SupervisorCall α) : Prop :=
  Call.Maintains Sound (fun _ => False) call

theorem Sound.note {s : SidecarSupervisor} {result : Except SupervisorError ChildState}
    (h : Sound s) : Sound (s.note (.polled result)) where
  probed hready := by
    obtain ⟨launch, hlaunch, hprobe, hgeneration⟩ := h.probed hready
    exact ⟨launch, hlaunch, by rw [SidecarSupervisor.note, lastProbe_concat]; exact hprobe,
      by rw [SidecarSupervisor.note, lastReady_concat]; exact hgeneration⟩
  idle := h.idle
  nodup := h.nodup
  count := h.count
  current session hmem := by
    rw [SidecarSupervisor.note, registeredSinceReady_concat]
    exact h.current session hmem
  reaped := atEach_concat h.reaped trivial

theorem refreshLiveness_sound : KeepsSound (refreshLiveness rt) := by
  intro s hs
  simp only [refreshLiveness, Call.wp_bind, Call.wp_get]
  split
  · rw [Call.wp_bind, wp_ask_eq]
    dsimp only
    split
    · exact hs.note
    · exact (setUnready_idle hs.note.reaped).sound
  · exact hs

theorem isReady_sound {s : SidecarSupervisor} (hs : Sound s) :
    Call.wp (isReady rt)
      ⟨fun ready s' => Sound s' ∧ s'.ready = ready, fun _ => Sound, fun _ => False⟩ s := by
  rw [isReady, Call.wp_bind]
  exact Call.wp_mono (refreshLiveness_sound rt s hs) (fun _ _ h => ⟨h, rfl⟩) (fun _ _ h => h) fun _ h => h

theorem addSession_sound {s : SidecarSupervisor} {session : Uuid} (hs : Sound s)
    (hready : s.ready = true) : Sound (addSession session s) := by
  unfold addSession
  split
  · exact hs
  next hnew =>
    refine ⟨?_, ?_, ?_, ?_, ?_, atEach_concat hs.reaped trivial⟩
    · intro _
      obtain ⟨launch, hlaunch, hprobe, hgeneration⟩ := hs.probed hready
      exact ⟨launch, hlaunch,
        by rw [SidecarSupervisor.note, lastProbe_concat]; exact hprobe,
        by rw [SidecarSupervisor.note, lastReady_concat]; exact hgeneration⟩
    · intro hidle
      rw [SidecarSupervisor.note, SidecarSupervisor.syncActiveCount, hready] at hidle
      cases hidle
    · exact List.nodup_append.mpr ⟨hs.nodup, by simp, by
        intro other hother _ hlast heq
        rw [List.mem_singleton] at hlast
        exact hnew (hlast ▸ heq ▸ hother)⟩
    · rfl
    · intro other hother
      rw [SidecarSupervisor.note, registeredSinceReady_concat]
      rcases List.mem_append.mp hother with hold | hlast
      · exact List.mem_append_left _ (hs.current other hold)
      · exact List.mem_append_right _ hlast

theorem registerSession_sound (session : Uuid) : KeepsSound (registerSession rt session) := by
  intro s hs
  rw [registerSession, Call.wp_bind]
  refine Call.wp_mono (isReady_sound rt hs) ?_ (fun _ _ h => h) fun _ h => h
  rintro ready s' ⟨hs', rfl⟩
  dsimp only
  split
  · exact hs'
  next hready => exact addSession_sound hs' (by simpa using hready)

theorem removeSession_sound {s : SidecarSupervisor} {session : Uuid} (hs : Sound s) :
    Sound (removeSession session s) where
  probed := hs.probed
  idle hidle := by
    show s.activeSessions.filter _ = []
    rw [hs.idle hidle, List.filter_nil]
  nodup := hs.nodup.filter _
  count := rfl
  current other hother := hs.current other (List.mem_of_mem_filter hother)
  reaped := hs.reaped

theorem closeSession_sound (session : Uuid) (acknowledged : Bool) :
    KeepsSound (closeSession rt session acknowledged) := by
  intro s hs
  rw [closeSession, Call.wp_bind]
  refine Call.wp_mono (isReady_sound rt hs) ?_ (fun _ _ h => h) fun _ h => h
  rintro ready s' ⟨hs', rfl⟩
  dsimp only
  split
  · exact hs'
  rw [Call.wp_bind, Call.wp_get]
  dsimp only
  split
  · exact hs'
  simp only [Call.wp_bind, Call.wp_modify]
  have hwaited : Sound { { s' with closeWaitArmed := true } with closeWaitArmed := false } :=
    ⟨hs'.probed, hs'.idle, hs'.nodup, hs'.count, hs'.current, hs'.reaped⟩
  generalize SidecarSupervisor.mk _ _ _ _ _ _ = waited at hwaited
  split
  · exact removeSession_sound hwaited
  · simp only [Call.wp_bind, Call.wp_modify]
    refine Call.wp_mono (reapAndCleanup_idle rt (setUnready_idle hwaited.reaped)) ?_
      (fun _ _ h => h.sound) fun _ h => h
    rintro _ s₁ ⟨hs₁, -⟩
    refine Call.wp_mono (renewLaunch_idle rt hs₁) ?_ (fun _ _ h => h.sound) fun _ h => h
    rintro _ s₂ ⟨hs₂, -⟩
    exact Call.wp_mono (start_sound rt hs₂.reaped) (fun _ _ h => h) (fun _ _ h => h.sound) fun _ h => h

theorem shutdown_sound : KeepsSound (shutdown rt) := by
  intro s hs
  simp only [shutdown, Call.wp_bind, Call.wp_modify]
  have hidle : Idle { s.setUnready with closeWaitArmed := false } := ⟨rfl, rfl, rfl, hs.reaped⟩
  refine wp_ask hidle (fun _ => trivial) fun result s' hs' hlaunch hhistory => ?_
  cases result with
  | ok childState =>
    refine Call.wp_mono (cleanupReaped_idle rt hs' fun hreaped => ⟨s.history, .inr (hreaped ▸ hhistory)⟩)
      (fun _ _ h => h.1.sound) (fun _ _ h => h.sound) fun _ h => h
  | error _ => exact hs'.sound

theorem call_sound (op : Operation) : KeepsSound (op.call rt) := by
  cases op with
  | start =>
    refine Call.maintains_bind ?_ fun _ => Call.maintains_pure _
    exact fun s hs => Call.wp_mono (start_sound rt hs.reaped) (fun _ _ h => h) (fun _ _ h => h.sound)
      fun _ h => h
  | isReady =>
    refine Call.maintains_bind ?_ fun _ => Call.maintains_pure _
    exact fun s hs => Call.wp_mono (isReady_sound rt hs) (fun _ _ h => h.1) (fun _ _ h => h) fun _ h => h
  | registerSession session =>
    exact Call.maintains_bind (registerSession_sound rt session) fun _ => Call.maintains_pure _
  | closeSession session acknowledged =>
    exact Call.maintains_bind (closeSession_sound rt session acknowledged) fun _ =>
      Call.maintains_pure _
  | shutdown => exact Call.maintains_bind (shutdown_sound rt) fun _ => Call.maintains_pure _

/-- After every call of every sequence of calls, whatever the runtime answers. -/
theorem run_sound (ops : List Operation) :
    Sound (exec (SidecarSupervisor.step rt) .new ops).2 :=
  exec_state_invariant sound_new
    (fun _ op hs => Call.end_of_maintains (call_sound rt op) (fun _ h => h.elim) hs) ops

end Calls

end Translator.Supervisor
