import Translator.Duplex.ProcessDuplex

/-! Does every fault lead to a new generation? The restart goes through `close_session`, which wants a
    supervisor that is ready, and a supervisor whose child is dead is not: the one fault that needs a new
    sidecar most is the one after which it is not started. While the child is alive whenever it is
    polled, each pass opens its sessions and each fault within the budget brings up the next
    generation. -/

namespace Translator.Duplex
open Schemes Core
open Control (DuplexRuntimeError)
open Supervisor (SidecarRuntime SidecarSupervisor SupervisorCall)
open Wire (Uuid)

/-! ### The supervisor of a sidecar that does as it is told -/

/-- Every start of a sidecar and every probe of it succeeds. -/
structure Starts (rt : SidecarRuntime) : Prop where
  starts : ∀ history launch, rt.start history launch = .ok ()
  probes : ∀ history launch, rt.probe history launch = .observed launch.generationId
  launches : ∀ history, (rt.newLaunch history).isSome

/-- The child is running whenever it is polled, and is reaped and cleaned up after when it is killed. -/
structure Alive (rt : SidecarRuntime) : Prop where
  runs : ∀ history, rt.pollChildState history = .ok .running
  reaps : ∀ history, rt.killAndReap history = .ok .reaped
  cleans : ∀ history childState, rt.removeStaleSocket history childState = .ok ()

/-- Ready for the `n`th generation, with these sessions. -/
structure Serving (n : Nat) (sessions : List Uuid) (s : SidecarSupervisor) : Prop where
  ready : s.ready = true
  launch : s.launch.isSome
  sessions : s.activeSessions = sessions
  count : readyCount s.history = n

/-- The call returns what is wanted of it. -/
abbrev returns {α : Type} (ok : α → SidecarSupervisor → Prop) :
    Call.Post SidecarSupervisor Supervisor.SupervisorError α :=
  ⟨ok, fun _ _ => False, fun _ => False⟩

theorem readyCount_concat (history : List Supervisor.Happening) (h : Supervisor.Happening) :
    readyCount (history ++ [h])
      = readyCount history + match h with | .becameReady _ => 1 | _ => 0 := by
  cases h <;> simp [readyCount, List.countP_append]

variable {rt : SidecarRuntime} {n : Nat} {sessions : List Uuid} {s : SidecarSupervisor}

theorem isReady_serving (hrt : Alive rt) (hs : Serving n sessions s) :
    Call.wp (Supervisor.isReady rt) (returns fun ready s' => ready = true ∧ Serving n sessions s') s := by
  simp only [Supervisor.isReady, Supervisor.refreshLiveness, Call.wp_bind, Call.wp_get, hs.ready,
    if_true, Supervisor.wp_ask_eq, hrt.runs, Call.wp_pure]
  exact ⟨hs.ready, hs.ready, hs.launch, hs.sessions,
    (readyCount_concat _ _).trans hs.count⟩

theorem registerSession_serving (hrt : Alive rt) (hs : Serving n sessions s) {session : Uuid}
    (hnew : session ∉ sessions) :
    Call.wp (Supervisor.registerSession rt session)
      (returns fun _ => Serving n (sessions ++ [session])) s := by
  rw [Supervisor.registerSession, Call.wp_bind]
  refine Call.wp_mono (isReady_serving hrt hs) ?_ (fun _ _ h => h) fun _ h => h
  rintro _ s' ⟨rfl, hs'⟩
  simp only [Bool.not_true, Bool.false_eq_true, if_false, Call.wp_modify, Supervisor.addSession,
    hs'.sessions, hnew]
  refine ⟨hs'.ready, hs'.launch, ?_, ?_⟩
  · rw [← hs'.sessions]; rfl
  · rw [← hs'.count]
    exact readyCount_concat _ _

theorem closeSession_serving (hrt : Alive rt) (hs : Serving n sessions s) {session : Uuid}
    (hmem : session ∈ sessions) :
    Call.wp (Supervisor.closeSession rt session true)
      (returns fun _ => Serving n (sessions.filter (· ≠ session))) s := by
  rw [Supervisor.closeSession, Call.wp_bind]
  refine Call.wp_mono (isReady_serving hrt hs) ?_ (fun _ _ h => h) fun _ h => h
  rintro _ s' ⟨rfl, hs'⟩
  have hmem' : ¬ session ∉ s'.activeSessions := by rw [hs'.sessions]; simpa using hmem
  simp only [Bool.not_true, Bool.false_eq_true, if_false, if_true, Call.wp_bind, Call.wp_get, hmem',
    Call.wp_modify, Call.wp_pure]
  exact ⟨hs'.ready, hs'.launch, by rw [← hs'.sessions]; rfl, hs'.count⟩

/-- A start that succeeds at the first attempt. -/
theorem start_serving (hrt : Starts rt) (s : SidecarSupervisor) :
    Call.wp (Supervisor.start rt) (returns fun _ => Serving (readyCount s.history + 1) []) s := by
  have htry : ∀ s : SidecarSupervisor, s.activeSessions = [] → s.launch.isSome →
      Call.wp (Supervisor.startAttempts rt Supervisor.maxStartAttempts .startFailed)
        (returns fun _ => Serving (readyCount s.history + 1) []) s := by
    intro s hsessions hlaunch
    obtain ⟨launch, hlaunch⟩ := Option.isSome_iff_exists.mp hlaunch
    have hexpect : Supervisor.expectLaunch s = (.ok launch, s) := by
      rw [Supervisor.expectLaunch, hlaunch]
    simp only [Supervisor.maxStartAttempts, Supervisor.startAttempts, Call.wp_bind]
    rw [Call.wp, hexpect]
    simp only [Call.Post.Met, Supervisor.tryStart, Call.wp_bind, Supervisor.wp_ask_eq, hrt.starts,
      hrt.probes, Supervisor.Probe.fault, ne_eq, not_true, if_false, Supervisor.setReady,
      Call.wp_modify, Call.wp_pure]
    refine ⟨rfl, by simp [SidecarSupervisor.note, hlaunch], hsessions, ?_⟩
    simp only [SidecarSupervisor.note, readyCount_concat, Nat.add_zero]
  simp only [Supervisor.start, Call.wp_bind, Call.wp_modify, Call.wp_get]
  split
  · simp only [Supervisor.renewLaunch, Call.wp_bind, Supervisor.wp_ask_eq]
    obtain ⟨launch, hlaunch⟩ := Option.isSome_iff_exists.mp (hrt.launches s.setUnready.history)
    rw [hlaunch]
    simp only [Call.wp_modify]
    have hcount : readyCount (s.history ++ [.launched (some launch)]) = readyCount s.history :=
      readyCount_concat _ _
    rw [← hcount]
    exact htry _ rfl rfl
  next hsome =>
    exact htry _ rfl (by simpa [Option.isSome_iff_ne_none] using hsome)

/-- A session whose close is not acknowledged costs the sidecar its life, and the next one is ready
    with no session. -/
theorem restart_serving (hrt : Starts rt) (halive : Alive rt) (hs : Serving n sessions s)
    {session : Uuid} (hmem : session ∈ sessions) :
    Call.wp (Supervisor.closeSession rt session false) (returns fun _ => Serving (n + 1) []) s := by
  rw [Supervisor.closeSession, Call.wp_bind]
  refine Call.wp_mono (isReady_serving halive hs) ?_ (fun _ _ h => h) fun _ h => h
  rintro _ s' ⟨rfl, hs'⟩
  have hmem' : ¬ session ∉ s'.activeSessions := by rw [hs'.sessions]; simpa using hmem
  obtain ⟨launch, hlaunch⟩ := Option.isSome_iff_exists.mp (hrt.launches
    ((s'.history ++ [.killed (.ok .reaped)]) ++ [.socketRemoved .reaped (.ok ())]))
  simp only [Bool.not_true, Bool.false_eq_true, if_false, Call.wp_bind, Call.wp_get, hmem',
    Call.wp_modify, Supervisor.reapAndCleanup, Supervisor.wp_ask_eq, halive.reaps,
    Supervisor.cleanupReaped, ne_eq, not_true, halive.cleans, Call.wp_pure, Supervisor.renewLaunch,
    SidecarSupervisor.note, SidecarSupervisor.setUnready, SidecarSupervisor.syncActiveCount, hlaunch]
  refine Call.wp_mono (start_serving hrt _) (fun _ s'' hs'' => ?_) (fun _ _ h => h) fun _ h => h
  dsimp only at hs''
  simp only [readyCount_concat, Nat.add_zero, hs'.count] at hs''
  exact hs''

/-! ### A pass -/

/-- No stop comes, and both directions can be prepared, for sessions of their own. -/
structure Pass.Succeeds (p : Pass) : Prop where
  runtime : Starts p.rt
  noStop : p.stopBefore = false ∧ p.stopAfter = false ∧ p.generation ≠ .stop
  prepares : ∀ direction, ∃ session, p.prepare direction = .ok session
  distinct : p.prepare .microphone ≠ p.prepare .speaker
  providerReady : p.providerReady = true

namespace Pass

variable (p : Pass) (launched : AudioDirection → Bool)

/-- The session of a direction, where it is launched and can be prepared. -/
def session (direction : AudioDirection) : Option Uuid :=
  if launched direction then (p.prepare direction).toOption else none

/-- The sessions the pass opens. -/
def opens : List Uuid := sessionsOf (p.session launched .microphone) (p.session launched .speaker)

/-- The generation of the pass ends in a fault. -/
def isFault : Bool :=
  match p.restart (p.session launched .microphone) (p.session launched .speaker) with
  | some (.fault, _) => true
  | _ => false

end Pass

/-- Between two passes, after `n` faults: the loop goes on, and the supervisor is ready for the next
    generation with no session left over. -/
structure Steady (launched : AudioDirection → Bool) (n : Nat) (w : ProcessDuplex) : Prop where
  running : w.ended = none
  launched : w.launched = launched
  restarts : w.restartCount = n
  serving : Serving (n + 1) [] w.supervisor

theorem wp_supervised {α : Type} {call : SupervisorCall α} {w : ProcessDuplex}
    {post : Call.Post ProcessDuplex Ending (Except Supervisor.SupervisorError α)}
    {ok : α → SidecarSupervisor → Prop} (h : Call.wp call (returns ok) w.supervisor)
    (hpost : ∀ a s, ok a s → post.ok (.ok a) { w with supervisor := s }) :
    Call.wp (supervised call) post w := by
  unfold Call.wp at h ⊢
  unfold supervised
  rcases hrun : call w.supervisor with ⟨a | e | _, s⟩ <;> rw [hrun] at h
  · exact hpost a s h
  · exact h.elim
  · exact h.elim

/-- What a step of the loop must come to that goes on. -/
abbrev goesOn {α : Type} (ok : ProcessDuplex → Prop) : Call.Post ProcessDuplex Ending α :=
  ⟨fun _ => ok, fun _ _ => False, fun _ => False⟩

section Steps

variable {p : Pass} {w : ProcessDuplex}

theorem registerSessions_serving (hrt : Alive p.rt) : ∀ (new sessions : List Uuid) (w : ProcessDuplex),
    Serving n sessions w.supervisor → (sessions ++ new).Nodup →
    Call.wp (p.registerSessions new)
      (goesOn fun w' => ∃ s, w' = { w with supervisor := s } ∧ Serving n (sessions ++ new) s) w
  | [], sessions, w, hs, _ => ⟨w.supervisor, rfl, by rwa [List.append_nil]⟩
  | session :: rest, sessions, w, hs, hnodup => by
    have hnew : session ∉ sessions := fun hmem =>
      (List.nodup_append.mp hnodup).2.2 session hmem session (List.mem_cons_self ..) rfl
    rw [Pass.registerSessions, Call.wp_bind]
    refine wp_supervised (registerSession_serving hrt hs hnew) fun _ s hs' => ?_
    simp only [orStartFailed, Call.wp_bind, Call.wp_pure]
    rw [List.append_cons] at hnodup ⊢
    exact registerSessions_serving hrt rest _ { w with supervisor := s } hs' hnodup

theorem closeSessions_serving (hrt : Alive p.rt) : ∀ (sessions : List Uuid) (w : ProcessDuplex),
    Serving n sessions w.supervisor → sessions.Nodup →
    Call.wp (p.closeSessions sessions)
      (goesOn fun w' => ∃ s, w' = { w with supervisor := s } ∧ Serving n [] s) w
  | [], w, hs, _ => ⟨w.supervisor, rfl, hs⟩
  | session :: rest, w, hs, hnodup => by
    rw [Pass.closeSessions, Call.wp_bind]
    refine wp_supervised (closeSession_serving hrt hs (List.mem_cons_self ..)) fun _ s hs' => ?_
    simp only [orStartFailed, Call.wp_bind, Call.wp_pure]
    have hrest : (session :: rest).filter (· ≠ session) = rest := by
      obtain ⟨hnot, -⟩ := List.nodup_cons.mp hnodup
      rw [List.filter_cons_of_neg (by simp), List.filter_eq_self]
      intro other hother
      simpa using fun h : other = session => hnot (h ▸ hother)
    rw [hrest] at hs'
    exact closeSessions_serving hrt rest { w with supervisor := s } hs' (List.nodup_cons.mp hnodup).2

theorem restartSidecar_serving (hrt : Starts p.rt) (halive : Alive p.rt)
    (hready : p.providerReady = true) {session : Uuid} {sessions : List Uuid}
    (hs : Serving n sessions w.supervisor) (hmem : session ∈ sessions) :
    Call.wp (p.restartSidecar session)
      (goesOn fun w' => ∃ s, w' = { w with supervisor := s } ∧ Serving (n + 1) [] s) w := by
  rw [Pass.restartSidecar, Call.wp_bind]
  refine wp_supervised (restart_serving hrt halive hs hmem) fun _ s hs' => ?_
  have hlaunch : s.launch.isNone = false := by simpa [Option.isSome_iff_ne_none] using hs'.launch
  simp only [orStartFailed, Call.wp_bind, Call.wp_pure, Call.wp_get, hlaunch, hready,
    Bool.false_eq_true, if_false, Bool.not_true]
  exact ⟨s, rfl, hs'⟩

/-- The session a fault is answered with is one of those that were registered. -/
theorem Pass.restart_session {microphone speaker : Option Uuid} {restart : GenerationRestart}
    {session : Uuid} (h : p.restart microphone speaker = some (restart, session)) :
    session ∈ Pass.sessionsOf microphone speaker := by
  unfold Pass.restart at h
  unfold Pass.sessionsOf
  split at h
  · cases h
  next first result peerResult _ =>
    split at h
    · cases h
    rcases microphone with _ | microphone <;> rcases speaker with _ | speaker <;>
      simp only [Option.map, Option.or, Option.some.injEq, Prod.mk.injEq, reduceCtorEq] at h
    · simp [h.2]
    · simp [h.2]
    · obtain ⟨-, rfl⟩ := h
      cases first <;> simp

/-- A generation that is waited for and not stopped goes on in one of the two ways. -/
theorem Pass.restart_isSome {microphone speaker : Option Uuid} (hp : p.Succeeds)
    (hsome : Pass.sessionsOf microphone speaker ≠ []) :
    ∃ restart session, p.restart microphone speaker = some (restart, session) := by
  obtain ⟨-, hafter, hstop⟩ := hp.noStop
  unfold Pass.restart
  cases hgeneration : p.generation with
  | stop => exact absurd hgeneration hstop
  | ended first result peerResult =>
    rcases microphone with _ | microphone <;> rcases speaker with _ | speaker
    · exact absurd rfl hsome
    all_goals simp [hafter]

/-- Once its sessions are registered, a pass ends with none of them and the next generation at hand. -/
theorem reopen_steady (launched : AudioDirection → Bool) {microphone speaker : Option Uuid}
    (hp : p.Succeeds) (halive : Alive p.rt) (hrunning : w.ended = none) (hlaunched : w.launched = launched)
    (hcount : w.restartCount = n)
    (hs : Serving (n + 1) (Pass.sessionsOf microphone speaker) w.supervisor)
    (hsome : Pass.sessionsOf microphone speaker ≠ [])
    (hnodup : (Pass.sessionsOf microphone speaker).Nodup)
    {fault : Bool} (hfault : fault = match p.restart microphone speaker with
      | some (.fault, _) => true | _ => false)
    (hbudget : n + fault.toNat ≤ maxRuntimeRestarts) :
    Call.wp (p.reopen microphone speaker)
      (goesOn fun w' => Steady launched (n + fault.toNat) w' ∧ w'.opened = w.opened) w := by
  obtain ⟨restart, session, hrestart⟩ := Pass.restart_isSome hp hsome
  rw [hrestart] at hfault
  simp only [Pass.reopen, hrestart, hp.noStop.2.1, Bool.false_eq_true, if_false, Call.wp_bind]
  cases restart with
  | policy =>
    obtain rfl : fault = false := hfault
    simp only [Pass.registerGenerationRestart, reduceCtorEq, if_false, Call.wp_pure]
    refine Call.wp_mono (closeSessions_serving halive _ w hs hnodup) ?_ (fun _ _ h => h) fun _ h => h
    rintro _ _ ⟨s, rfl, hs'⟩
    exact ⟨⟨hrunning, hlaunched, hcount, hs'⟩, rfl⟩
  | fault =>
    obtain rfl : fault = true := hfault
    have hn : saturatingAdd n 1 = n + 1 := by
      have : n + 1 ≤ 3 := hbudget
      unfold saturatingAdd u64Max
      omega
    have hle : ¬ maxRuntimeRestarts < n + 1 := Nat.not_lt.mpr hbudget
    simp only [Pass.registerGenerationRestart, if_true, Call.wp_bind, Call.wp_modify, Call.wp_get,
      hcount, hn, hle, if_false]
    refine Call.wp_mono (restartSidecar_serving hp.runtime halive hp.providerReady hs
      (Pass.restart_session hrestart)) ?_ (fun _ _ h => h) fun _ h => h
    rintro _ _ ⟨s, rfl, hs'⟩
    exact ⟨⟨hrunning, hlaunched, rfl, hs'⟩, rfl⟩

theorem Pass.opens_nodup (launched : AudioDirection → Bool) (hp : p.Succeeds) :
    (p.opens launched).Nodup := by
  obtain ⟨microphone, hmicrophone⟩ := hp.prepares .microphone
  obtain ⟨speaker, hspeaker⟩ := hp.prepares .speaker
  have hne : microphone ≠ speaker := fun h => hp.distinct (by rw [hmicrophone, hspeaker, h])
  unfold Pass.opens Pass.session Pass.sessionsOf
  rw [hmicrophone, hspeaker]
  cases launched .microphone <;> cases launched .speaker <;> simp [Except.toOption, hne]

theorem Pass.opens_ne_nil {launched : AudioDirection → Bool} (hp : p.Succeeds)
    (hlaunched : launched .microphone || launched .speaker) : p.opens launched ≠ [] := by
  obtain ⟨microphone, hmicrophone⟩ := hp.prepares .microphone
  obtain ⟨speaker, hspeaker⟩ := hp.prepares .speaker
  unfold Pass.opens Pass.session Pass.sessionsOf
  rw [hmicrophone, hspeaker]
  revert hlaunched
  cases launched .microphone <;> cases launched .speaker <;> simp [Except.toOption]

theorem Pass.prepareOptional_eq (launched : AudioDirection → Bool) (hp : p.Succeeds)
    (direction : AudioDirection) :
    p.prepareOptional launched direction = .ok (p.session launched direction) := by
  obtain ⟨session, hsession⟩ := hp.prepares direction
  unfold Pass.prepareOptional Pass.session
  rw [hsession]
  cases launched direction <;> rfl

theorem pass_steady {launched : AudioDirection → Bool}
    (hlaunched : launched .microphone || launched .speaker) (hp : p.Succeeds) (halive : Alive p.rt)
    (hw : Steady launched n w) (hbudget : n + (p.isFault launched).toNat ≤ maxRuntimeRestarts) :
    Steady launched (n + (p.isFault launched).toNat) (w.step p).2
      ∧ (w.step p).2.opened = w.opened ++ [⟨n + 1, p.opens launched⟩] := by
  have hne := Pass.opens_ne_nil hp hlaunched
  have hlaunch : w.supervisor.launch.isNone = false := by
    simpa [Option.isSome_iff_ne_none] using hw.serving.launch
  have hrun : Call.wp p.run (goesOn fun w' => Steady launched (n + (p.isFault launched).toNat) w'
      ∧ w'.opened = w.opened ++ [⟨n + 1, p.opens launched⟩]) w := by
    simp only [Pass.run, hp.noStop.1, Bool.false_eq_true, if_false, Call.wp_bind, Call.wp_get, hlaunch,
      hw.launched, Pass.prepareOptional_eq launched hp]
    rw [if_neg (by simpa [Pass.opens] using hne)]
    simp only [Call.wp_bind, Call.wp_modify]
    refine Call.wp_mono (registerSessions_serving halive _ [] w hw.serving
      (by simpa [Pass.opens] using Pass.opens_nodup launched hp)) ?_ (fun _ _ h => h) fun _ h => h
    rintro _ _ ⟨s, rfl, hs⟩
    rw [List.nil_append] at hs
    refine Call.wp_mono (reopen_steady launched hp halive ?_ ?_ ?_ hs hne (Pass.opens_nodup launched hp)
      (Pass.isFault.eq_1 p launched) hbudget) ?_ (fun _ _ h => h) fun _ h => h
    · exact hw.running
    · exact hw.launched
    · exact hw.restarts
    rintro _ w' ⟨hw', hopened⟩
    refine ⟨hw', hopened.trans ?_⟩
    rw [hs.count]
    rfl
  unfold ProcessDuplex.step
  rw [hw.running]
  unfold Call.wp at hrun
  dsimp only
  rcases hres : p.run w with ⟨_ | ending | _, w'⟩ <;> rw [hres] at hrun
  · exact hrun
  · exact hrun.elim
  · exact hrun.elim

end Steps

/-! ### A run -/

theorem boot_steady {rt : SidecarRuntime} (hrt : Starts rt) (launched : AudioDirection → Bool) :
    Steady launched 0 (.boot rt launched true) ∧ (ProcessDuplex.boot rt launched true).opened = [] := by
  have h := start_serving hrt .new
  unfold ProcessDuplex.boot
  unfold Call.wp at h
  rcases hres : Supervisor.start rt .new with ⟨_ | e | _, s⟩ <;> rw [hres] at h
  · exact ⟨⟨rfl, rfl, rfl, h⟩, rfl⟩
  · exact h.elim
  · exact h.elim

/-- While the child is running whenever it is polled and can be killed, the loop goes on through every
    fault of its budget: each pass opens sessions of its own, and after each fault with the next
    generation. -/
theorem run_recovers {rt : SidecarRuntime} {launched : AudioDirection → Bool} (hboot : Starts rt)
    (hlaunched : launched .microphone || launched .speaker) (passes : List Pass)
    (hsucceeds : ∀ p ∈ passes, p.Succeeds) (halive : ∀ p ∈ passes, Alive p.rt)
    (hbudget : passes.countP (·.isFault launched) ≤ maxRuntimeRestarts) :
    let w := (exec ProcessDuplex.step (.boot rt launched true) passes).2
    w.ended = none ∧ w.opened.length = passes.length
      ∧ ∀ i (h : i < passes.length), w.opened[i]?
          = some ⟨(passes.take i).countP (·.isFault launched) + 1, passes[i].opens launched⟩ := by
  suffices h : Steady launched (passes.countP (·.isFault launched))
        (exec ProcessDuplex.step (.boot rt launched true) passes).2
      ∧ (exec ProcessDuplex.step (.boot rt launched true) passes).2.opened.length = passes.length
      ∧ ∀ i (h : i < passes.length),
        (exec ProcessDuplex.step (.boot rt launched true) passes).2.opened[i]?
          = some ⟨(passes.take i).countP (·.isFault launched) + 1, passes[i].opens launched⟩ from
    ⟨h.1.running, h.2⟩
  induction passes using List.reverseRecOn with
  | nil => exact ⟨(boot_steady hboot launched).1, by simp [exec_nil, (boot_steady hboot launched).2]⟩
  | append_singleton passes p ih =>
    have hfault : (passes ++ [p]).countP (·.isFault launched)
        = passes.countP (·.isFault launched) + (p.isFault launched).toNat := by
      rw [List.countP_append]
      cases hp : p.isFault launched <;> simp [hp]
    rw [hfault] at hbudget ⊢
    obtain ⟨hsteady, hlength, hopened⟩ := ih (fun q hq => hsucceeds q (List.mem_append_left _ hq))
      (fun q hq => halive q (List.mem_append_left _ hq)) (by omega)
    have hmem : p ∈ passes ++ [p] := List.mem_append_right _ (List.mem_singleton_self p)
    obtain ⟨hnext, hmore⟩ := pass_steady hlaunched (hsucceeds p hmem) (halive p hmem) hsteady hbudget
    rw [exec_concat, logStep]
    refine ⟨hnext, by simp [hmore, hlength], fun i hi => ?_⟩
    rw [hmore]
    rcases Nat.lt_or_ge i passes.length with hlt | hge
    · rw [List.getElem?_append_left (hlength ▸ hlt), hopened i hlt, List.getElem_append_left hlt,
        List.take_append_of_le_length hlt.le]
    · obtain rfl : i = passes.length := by
        rw [List.length_append, List.length_singleton] at hi
        omega
      rw [List.getElem?_append_right hlength.le, hlength]
      simp

/-- A sidecar that does as it is told, and is gone once it has been polled so often. -/
def mortal (polls : Nat) : SidecarRuntime where
  start _ _ := .ok ()
  probe _ launch := .observed launch.generationId
  killAndReap _ := .ok .reaped
  shutdownAndReap _ := .ok .reaped
  removeStaleSocket _ _ := .ok ()
  waitBeforeRetry _ _ := .ok ()
  pollChildState history :=
    if (history.filter fun h => match h with | .polled _ => true | _ => false).length < polls then
      .ok .running
    else .ok .reaped
  newLaunch history := some ⟨BitVec.ofNat 128 history.length, "token"⟩

theorem mortal_starts (polls : Nat) : Starts (mortal polls) := ⟨fun _ _ => rfl, fun _ _ => rfl, fun _ => rfl⟩

/-- The same sidecar, which lives. -/
def immortal : SidecarRuntime := { mortal 0 with pollChildState := fun _ => .ok .running }

/-- Both directions lose their provider. -/
def losesProvider (rt : SidecarRuntime) : Pass where
  rt := rt
  stopBefore := false
  stopAfter := false
  prepare := fun | .microphone => .ok 1 | .speaker => .ok 2
  generation := .ended .microphone (.error .startFailed) (.error .startFailed)
  providerReady := true

theorem losesProvider_succeeds {rt : SidecarRuntime} (h : Starts rt) : (losesProvider rt).Succeeds where
  runtime := h
  noStop := ⟨rfl, rfl, fun h => by cases h⟩
  prepares := fun | .microphone => ⟨1, rfl⟩ | .speaker => ⟨2, rfl⟩
  distinct := fun h => absurd (Except.ok.inj h) (by decide)
  providerReady := rfl

theorem run_recovers_twice :
    let passes := [losesProvider immortal, losesProvider immortal]
    let w := (exec ProcessDuplex.step (.boot (mortal 0) (fun _ => true) true) passes).2
    w.ended = none ∧ w.opened.length = passes.length
      ∧ ∀ i (h : i < passes.length), w.opened[i]?
          = some ⟨(passes.take i).countP (·.isFault fun _ => true) + 1,
              passes[i].opens fun _ => true⟩ := by
  have hrt : Starts immortal := ⟨fun _ _ => rfl, fun _ _ => rfl, fun _ => rfl⟩
  have hmem : ∀ p ∈ [losesProvider immortal, losesProvider immortal], p = losesProvider immortal := by
    simp
  exact run_recovers (mortal_starts 0) rfl _ (fun p hp => hmem p hp ▸ losesProvider_succeeds hrt)
    (fun p hp => hmem p hp ▸ ⟨fun _ => rfl, fun _ => rfl, fun _ _ => rfl⟩) (by decide)

/-- The child dies once both sessions are registered. The fault that follows is the first one, nothing
    else fails, and the loop returns with an error. -/
theorem dead_child_unrecovered :
    Starts (mortal 2) ∧ (losesProvider (mortal 2)).Succeeds
      ∧ [losesProvider (mortal 2)].countP (·.isFault fun _ => true) = 1
      ∧ (exec ProcessDuplex.step (.boot (mortal 2) (fun _ => true) true) [losesProvider (mortal 2)]).2.ended
        = some (.failed .startFailed) :=
  ⟨mortal_starts 2, losesProvider_succeeds (mortal_starts 2), by decide, by decide +kernel⟩

end Translator.Duplex
