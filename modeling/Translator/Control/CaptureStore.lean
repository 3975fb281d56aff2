import Translator.Control.DebugCapture
import Translator.Schemes.Run
import Mathlib.Logic.Function.Basic

/-! `DebugCaptureStore` and the sessions it hands out. Whoever holds a session drops it when they like;
    the flag that keeps captures apart is one for the store, and a session that is dropped clears it
    whether or not it is the one the flag stands for. -/

namespace Translator.Control
open Schemes

/-- `valid_capture_name`. -/
def validCaptureName (name : String) : Bool :=
  !name.isEmpty && decide (name.utf8ByteSize ≤ 64)
    && name.toList.all fun c => c.isAlphanum || c == '-' || c == '_'

/-- The store, and the sessions that are alive, by the number they were started under. -/
structure CaptureSessions where
  store : DebugCaptureStore
  sessions : Nat → Option DebugCaptureSession
  started : Nat

inductive CaptureOp where
  | start (captureName : String) (startedAtMs : Nat) (file : CaptureOpen)
  | append (session writeLen atMs : Nat) (write : CaptureWrite)
  | expire (session atMs : Nat)
  | drop (session : Nat)
  deriving DecidableEq, Repr

namespace CaptureSessions

def init (limits : DebugCaptureLimits) : CaptureSessions := ⟨⟨limits, false⟩, fun _ => none, 0⟩

variable (s : CaptureSessions)

/-- What a call of a session leaves: one that has it stop clears the flag. -/
def settle (n : Nat) (session : DebugCaptureSession)
    (result : Except DebugCaptureStopReason Unit × DebugCaptureSession) : Bool × CaptureSessions :=
  (result.1.isOk,
    { s with
      store := { s.store with
        active := s.store.active && (session.stopReason.isSome || result.2.stopReason.isNone) }
      sessions := Function.update s.sessions n (some result.2) })

/-- One call, and whether it succeeded. A session that was dropped takes no calls. -/
def step (s : CaptureSessions) : CaptureOp → Bool × CaptureSessions
  | .start captureName startedAtMs file =>
    if validCaptureName captureName then
      match s.store.start startedAtMs file with
      | none => (false, s)
      | some session =>
        (true,
          { store := { s.store with active := true }
            sessions := Function.update s.sessions s.started (some session)
            started := s.started + 1 })
    else (false, s)
  | .append n writeLen atMs write =>
    match s.sessions n with
    | none => (false, s)
    | some session => s.settle n session (session.append writeLen atMs write)
  | .expire n atMs =>
    match s.sessions n with
    | none => (false, s)
    | some session => s.settle n session (session.expire atMs)
  | .drop n =>
    match s.sessions n with
    | none => (false, s)
    | some _ =>
      (true,
        { s with
          store := { s.store with active := false }
          sessions := Function.update s.sessions n none })

/-- A session is alive that has not stopped. -/
def Recording (n : Nat) : Prop := ∃ session, s.sessions n = some session ∧ session.stopReason = none

/-- The bytes that a session took. -/
def appended (n : Nat) (log : List (CaptureOp × Bool)) : Nat :=
  (log.map fun entry => match entry with
    | (.append m writeLen _ _, true) => if m = n then writeLen else 0
    | _ => 0).sum

/-- What is to hold wherever the calls have led. -/
structure Exclusive (log : List (CaptureOp × Bool)) (s : CaptureSessions) : Prop where
  single : ∀ n m, s.Recording n → s.Recording m → n = m
  flag : s.store.active = true ↔ ∃ n, s.Recording n
  bounded : ∀ n session, s.sessions n = some session →
    session.bytesWritten ≤ session.limits.maxBytes
  counted : ∀ n session, s.sessions n = some session → session.bytesWritten = appended n log
  /-- What is taken is taken by a session that has not stopped, before its deadline. -/
  timely : ∀ n writeLen atMs write, (s.step (.append n writeLen atMs write)).1 = true →
    ∃ session, s.sessions n = some session ∧ session.stopReason = none ∧ atMs < session.deadlineMs

/-- A session that has stopped is dropped only while no other records, and no file grows past what a
    count of bytes can hold. -/
def Careful (s : CaptureSessions) : CaptureOp → Prop
  | .drop n => s.Recording n ∨ ∀ m, ¬ s.Recording m
  | .append n writeLen _ _ => ∀ session, s.sessions n = some session →
    session.bytesWritten + writeLen ≤ u64Max
  | _ => True

/-! ### Calls of a session -/

/-- A call that fails leaves a session stopped, for the reason it gave if it had stopped before. -/
def Fails (session : DebugCaptureSession)
    (result : Except DebugCaptureStopReason Unit × DebugCaptureSession) : Prop :=
  ∃ reason, result = (.error reason, { session with stopReason := some reason })
    ∧ (session.stopReason = none ∨ session.stopReason = some reason)

variable {session : DebugCaptureSession}

theorem expire_cases (session : DebugCaptureSession) (atMs : Nat) :
    (session.expire atMs = (.ok (), session) ∧ session.stopReason = none
        ∧ atMs < session.deadlineMs) ∨ Fails session (session.expire atMs) := by
  unfold DebugCaptureSession.expire
  cases hreason : session.stopReason with
  | some reason =>
    refine .inr ⟨reason, ?_, .inr hreason⟩
    cases session
    cases hreason
    rfl
  | none =>
    dsimp only
    split
    · exact .inr ⟨.timeLimit, rfl, .inl hreason⟩
    · next hlate => exact .inl ⟨rfl, rfl, Nat.not_le.mp hlate⟩

theorem append_cases (session : DebugCaptureSession) (writeLen atMs : Nat)
    (write : CaptureWrite) :
    (session.append writeLen atMs write
        = (.ok (), { session with bytesWritten := session.bytesWritten + writeLen })
      ∧ session.stopReason = none ∧ atMs < session.deadlineMs
      ∧ saturatingAdd session.bytesWritten writeLen ≤ session.limits.maxBytes)
    ∨ Fails session (session.append writeLen atMs write) := by
  unfold DebugCaptureSession.append
  rcases expire_cases session atMs with ⟨hexpire, hlive, htime⟩ | ⟨reason, hexpire, hwas⟩
  · rw [hexpire]
    dsimp only
    split
    · exact .inr ⟨.byteLimit, rfl, .inl hlive⟩
    · next hroom =>
      split
      · exact .inr ⟨.io, rfl, .inl hlive⟩
      · split
        · exact .inr ⟨.lowFreeSpace, rfl, .inl hlive⟩
        · split
          · exact .inr ⟨.io, rfl, .inl hlive⟩
          · exact .inl ⟨rfl, hlive, htime, Nat.not_lt.mp hroom⟩
  · rw [hexpire]
    exact .inr ⟨reason, rfl, hwas⟩

/-! ### What a call keeps -/

/-- What a call relies on: numbers that were not given out are no session's. -/
structure Inv (log : List (CaptureOp × Bool)) (s : CaptureSessions) : Prop where
  single : ∀ n m, s.Recording n → s.Recording m → n = m
  flag : s.store.active = true ↔ ∃ n, s.Recording n
  bounded : ∀ n session, s.sessions n = some session →
    session.bytesWritten ≤ session.limits.maxBytes
  counted : ∀ n session, s.sessions n = some session → session.bytesWritten = appended n log
  fresh : ∀ n, s.started ≤ n → s.sessions n = none ∧ appended n log = 0

theorem appended_concat (n : Nat) (log : List (CaptureOp × Bool)) (entry : CaptureOp × Bool) :
    appended n (log ++ [entry]) = appended n log + appended n [entry] := by
  rw [appended, List.map_append, List.sum_append]
  rfl

variable {s : CaptureSessions} {log : List (CaptureOp × Bool)}

/-- A call that changes nothing and adds no bytes. -/
theorem inv_same (h : Inv log s) {entry : CaptureOp × Bool} (hentry : ∀ n, appended n [entry] = 0) :
    Inv (log ++ [entry]) s := by
  refine ⟨h.single, h.flag, h.bounded, ?_, ?_⟩
  · intro n session hsession
    rw [appended_concat, hentry, Nat.add_zero]
    exact h.counted n session hsession
  · intro n hn
    rw [appended_concat, hentry, Nat.add_zero]
    exact h.fresh n hn

theorem recording_update {n m : Nat} {session : Option DebugCaptureSession} {store : DebugCaptureStore}
    {started : Nat} : CaptureSessions.Recording ⟨store, Function.update s.sessions n session, started⟩ m
      ↔ if m = n then ∃ live, session = some live ∧ live.stopReason = none else s.Recording m := by
  unfold Recording
  split
  · next hm =>
    subst hm
    simp only [Function.update_self]
  · next hm => simp only [Function.update_of_ne hm]

/-- A call that fails stops its session, and with it the recording there was. -/
theorem inv_fails (h : Inv log s) {n : Nat} (hsession : s.sessions n = some session)
    {result : Except DebugCaptureStopReason Unit × DebugCaptureSession} (hfails : Fails session result)
    {entry : CaptureOp × Bool} (hentry : ∀ n, appended n [entry] = 0) :
    Inv (log ++ [entry]) (s.settle n session result).2 := by
  obtain ⟨reason, rfl, hwas⟩ := hfails
  have hother : ∀ m, CaptureSessions.Recording (s.settle n session
      (.error reason, { session with stopReason := some reason })).2 m ↔ m ≠ n ∧ s.Recording m := by
    intro m
    simp only [settle, recording_update]
    split
    · next hm => simp [hm]
    · next hm => simp [hm]
  refine ⟨?_, ?_, ?_, ?_, ?_⟩
  · intro m m' hm hm'
    exact h.single m m' ((hother m).mp hm).2 ((hother m').mp hm').2
  · rcases hwas with hlive | hstopped
    · -- it was the one that recorded, so none does now
      have hnone : ¬ ∃ m, CaptureSessions.Recording (s.settle n session
          (.error reason, { session with stopReason := some reason })).2 m := by
        rintro ⟨m, hm⟩
        obtain ⟨hne, hm⟩ := (hother m).mp hm
        exact hne (h.single m n hm ⟨session, hsession, hlive⟩)
      refine ⟨fun hactive => ?_, fun hsome => absurd hsome hnone⟩
      simp [settle, hlive] at hactive
    · have hsame : ∀ m, CaptureSessions.Recording (s.settle n session
          (.error reason, { session with stopReason := some reason })).2 m ↔ s.Recording m := by
        intro m
        refine (hother m).trans (and_iff_right_of_imp ?_)
        rintro ⟨live, hlive, hnone⟩ rfl
        rw [hsession] at hlive
        cases hlive
        rw [hstopped] at hnone
        cases hnone
      rw [exists_congr hsame, ← h.flag]
      simp [settle, hstopped]
  · intro m live hlive
    by_cases hm : m = n
    · subst hm
      simp only [settle, Function.update_self, Option.some.injEq] at hlive
      subst hlive
      exact h.bounded m session hsession
    · simp only [settle, Function.update_of_ne hm] at hlive
      exact h.bounded m live hlive
  · intro m live hlive
    rw [appended_concat, hentry, Nat.add_zero]
    by_cases hm : m = n
    · subst hm
      simp only [settle, Function.update_self, Option.some.injEq] at hlive
      subst hlive
      exact h.counted m session hsession
    · simp only [settle, Function.update_of_ne hm] at hlive
      exact h.counted m live hlive
  · intro m hm
    obtain ⟨hnone, hzero⟩ := h.fresh m hm
    have hne : m ≠ n := by
      rintro rfl
      rw [hsession] at hnone
      cases hnone
    rw [appended_concat, hentry, Nat.add_zero]
    simp only [settle, Function.update_of_ne hne]
    exact ⟨hnone, hzero⟩

/-- A call that succeeds leaves its session recording, with what it took. -/
theorem inv_ok (h : Inv log s) {n writeLen : Nat} (hsession : s.sessions n = some session)
    (hlive : session.stopReason = none)
    (hroom : session.bytesWritten + writeLen ≤ session.limits.maxBytes)
    {entry : CaptureOp × Bool}
    (hentry : ∀ m, appended m [entry] = if n = m then writeLen else 0) :
    Inv (log ++ [entry]) (s.settle n session
      (.ok (), { session with bytesWritten := session.bytesWritten + writeLen })).2 := by
  have hsame : ∀ m, CaptureSessions.Recording (s.settle n session
      (.ok (), { session with bytesWritten := session.bytesWritten + writeLen })).2 m
        ↔ s.Recording m := by
    intro m
    simp only [settle, recording_update]
    split
    · next hm =>
      subst hm
      exact ⟨fun _ => ⟨session, hsession, hlive⟩, fun _ => ⟨_, rfl, hlive⟩⟩
    · exact Iff.rfl
  refine ⟨?_, ?_, ?_, ?_, ?_⟩
  · intro m m' hm hm'
    exact h.single m m' ((hsame m).mp hm) ((hsame m').mp hm')
  · rw [exists_congr hsame, ← h.flag]
    simp [settle, hlive]
  · intro m live hm
    by_cases hmn : m = n
    · subst hmn
      simp only [settle, Function.update_self, Option.some.injEq] at hm
      subst hm
      exact hroom
    · simp only [settle, Function.update_of_ne hmn] at hm
      exact h.bounded m live hm
  · intro m live hm
    rw [appended_concat, hentry]
    by_cases hmn : m = n
    · subst hmn
      simp only [settle, Function.update_self, Option.some.injEq] at hm
      subst hm
      rw [if_pos rfl, ← h.counted m session hsession]
    · simp only [settle, Function.update_of_ne hmn] at hm
      rw [if_neg (Ne.symm hmn), Nat.add_zero]
      exact h.counted m live hm
  · intro m hm
    obtain ⟨hnone, hzero⟩ := h.fresh m hm
    have hne : m ≠ n := by
      rintro rfl
      rw [hsession] at hnone
      cases hnone
    rw [appended_concat, hentry, if_neg (Ne.symm hne), Nat.add_zero]
    simp only [settle, Function.update_of_ne hne]
    exact ⟨hnone, hzero⟩

/-- A store starts a session only while its flag is down, and the session has nothing yet. -/
theorem start_some {store : DebugCaptureStore} {startedAtMs : Nat} {file : CaptureOpen}
    (h : store.start startedAtMs file = some session) :
    store.active = false ∧ session.bytesWritten = 0 ∧ session.stopReason = none := by
  unfold DebugCaptureStore.start at h
  split at h
  · cases h
  · next hidle =>
    split at h
    · cases h
    · split at h
      · cases h
      · split at h
        · cases h
        · cases h
          exact ⟨by simpa using hidle, rfl, rfl⟩

/-- A session that is started is the one that records. -/
theorem inv_start (h : Inv log s) {captureName : String} {startedAtMs : Nat} {file : CaptureOpen}
    (hstart : s.store.start startedAtMs file = some session) :
    Inv (log ++ [(.start captureName startedAtMs file, true)])
      { store := { s.store with active := true }
        sessions := Function.update s.sessions s.started (some session)
        started := s.started + 1 } := by
  obtain ⟨hfree, hnew⟩ := start_some hstart
  have hidle : ∀ n, ¬ s.Recording n := by
    intro n hn
    have hactive := h.flag.mpr ⟨n, hn⟩
    rw [hfree] at hactive
    cases hactive
  have honly : ∀ n, CaptureSessions.Recording
      { store := { s.store with active := true }
        sessions := Function.update s.sessions s.started (some session)
        started := s.started + 1 } n ↔ n = s.started := by
    intro n
    rw [recording_update]
    split
    · next hn => exact ⟨fun _ => hn, fun _ => ⟨session, rfl, hnew.2⟩⟩
    · next hn => exact ⟨fun hn' => absurd hn' (hidle n), fun hn' => absurd hn' hn⟩
  have hnothing : ∀ n, appended n [(CaptureOp.start captureName startedAtMs file, true)] = 0 :=
    fun n => rfl
  refine ⟨?_, ?_, ?_, ?_, ?_⟩
  · intro n m hn hm
    rw [(honly n).mp hn, (honly m).mp hm]
  · exact ⟨fun _ => ⟨s.started, (honly _).mpr rfl⟩, fun _ => rfl⟩
  · intro n live hn
    by_cases hns : n = s.started
    · subst hns
      simp only [Function.update_self, Option.some.injEq] at hn
      subst hn
      rw [hnew.1]
      exact Nat.zero_le _
    · simp only [Function.update_of_ne hns] at hn
      exact h.bounded n live hn
  · intro n live hn
    rw [appended_concat, hnothing, Nat.add_zero]
    by_cases hns : n = s.started
    · subst hns
      simp only [Function.update_self, Option.some.injEq] at hn
      subst hn
      rw [hnew.1, (h.fresh _ (Nat.le_refl _)).2]
    · simp only [Function.update_of_ne hns] at hn
      exact h.counted n live hn
  · intro n hn
    have hne : n ≠ s.started := by
      rintro rfl
      exact absurd hn (Nat.not_succ_le_self _)
    rw [appended_concat, hnothing, Nat.add_zero]
    simp only [Function.update_of_ne hne]
    exact h.fresh n (Nat.le_of_succ_le hn)

/-- A session that is dropped takes the flag with it; with care it is the one the flag stands for, or
    the flag is down already. -/
theorem inv_drop (h : Inv log s) {n : Nat} (hcareful : s.Careful (.drop n)) :
    Inv (log ++ [(.drop n, true)])
      { s with
        store := { s.store with active := false }
        sessions := Function.update s.sessions n none } := by
  have hidle : ∀ m, ¬ CaptureSessions.Recording { s with
      store := { s.store with active := false }
      sessions := Function.update s.sessions n none } m := by
    intro m hm
    rw [recording_update] at hm
    split at hm
    · obtain ⟨live, hlive, -⟩ := hm
      cases hlive
    · next hne =>
      rcases hcareful with hn | hnone
      · exact hne (h.single m n hm hn)
      · exact hnone m hm
  have hnothing : ∀ m, appended m [(CaptureOp.drop n, true)] = 0 := fun m => rfl
  refine ⟨fun m m' hm => absurd hm (hidle m), ?_, ?_, ?_, ?_⟩
  · constructor
    · intro hactive
      cases hactive
    · rintro ⟨m, hm⟩
      exact absurd hm (hidle m)
  · intro m live hm
    by_cases hmn : m = n
    · subst hmn
      simp only [Function.update_self] at hm
      cases hm
    · simp only [Function.update_of_ne hmn] at hm
      exact h.bounded m live hm
  · intro m live hm
    rw [appended_concat, hnothing, Nat.add_zero]
    by_cases hmn : m = n
    · subst hmn
      simp only [Function.update_self] at hm
      cases hm
    · simp only [Function.update_of_ne hmn] at hm
      exact h.counted m live hm
  · intro m hm
    obtain ⟨hnone, hzero⟩ := h.fresh m hm
    rw [appended_concat, hnothing, Nat.add_zero]
    refine ⟨?_, hzero⟩
    by_cases hmn : m = n
    · subst hmn
      exact Function.update_self ..
    · simp only [Function.update_of_ne hmn]
      exact hnone

theorem step_inv (h : Inv log s) {op : CaptureOp} (hcareful : s.Careful op) :
    Inv (log ++ [(op, (s.step op).1)]) (s.step op).2 := by
  cases op with
  | start captureName startedAtMs file =>
    unfold step
    dsimp only
    split
    · split
      · exact inv_same h fun n => rfl
      · next session hstart => exact inv_start h hstart
    · exact inv_same h fun n => rfl
  | append n writeLen atMs write =>
    cases hsession : s.sessions n with
    | none =>
      simp only [step, hsession]
      exact inv_same h fun m => rfl
    | some session =>
      simp only [step, hsession]
      rcases append_cases session writeLen atMs write with
        ⟨hok, hlive, -, hroom⟩ | hfails
      · have hfit := hcareful session hsession
        rw [saturatingAdd, Nat.min_eq_left hfit] at hroom
        rw [hok]
        refine inv_ok h hsession hlive hroom ?_
        intro m
        simp [appended, settle]
        rfl
      · refine inv_fails h hsession hfails ?_
        obtain ⟨reason, hresult, -⟩ := hfails
        intro m
        rw [hresult]
        rfl
  | expire n atMs =>
    cases hsession : s.sessions n with
    | none =>
      simp only [step, hsession]
      exact inv_same h fun m => rfl
    | some session =>
      simp only [step, hsession]
      rcases expire_cases session atMs with ⟨hok, hlive, -⟩ | hfails
      · rw [hok]
        have hroom : session.bytesWritten + 0 ≤ session.limits.maxBytes := h.bounded n session hsession
        refine inv_ok h hsession hlive hroom ?_
        intro m
        split <;> rfl
      · exact inv_fails h hsession hfails fun m => rfl
  | drop n =>
    cases hsession : s.sessions n with
    | none =>
      simp only [step, hsession]
      exact inv_same h fun m => rfl
    | some session =>
      simp only [step, hsession]
      exact inv_drop h hcareful

/-- Only a session that has not stopped takes bytes, and only before its deadline. -/
theorem taken_timely (s : CaptureSessions) {n writeLen atMs : Nat} {write : CaptureWrite}
    (h : (s.step (.append n writeLen atMs write)).1 = true) :
    ∃ session, s.sessions n = some session ∧ session.stopReason = none
      ∧ atMs < session.deadlineMs := by
  cases hsession : s.sessions n with
  | none =>
    simp only [step, hsession] at h
    cases h
  | some session =>
    simp only [step, hsession] at h
    rcases append_cases session writeLen atMs write with
      ⟨-, hlive, htime, -⟩ | ⟨reason, hfails, -⟩
    · exact ⟨session, rfl, hlive, htime⟩
    · rw [hfails] at h
      cases h

/-- Where no stopped session is dropped while another records, captures exclude each other. -/
theorem exclusive_of_careful (limits : DebugCaptureLimits) (ops : List CaptureOp)
    (h : Adm step Careful (init limits) ops) :
    Exclusive (exec step (init limits) ops).1 (exec step (init limits) ops).2 := by
  have hidle : ∀ n, ¬ (init limits).Recording n := by
    rintro n ⟨session, hsession, -⟩
    cases hsession
  have hinit : Inv [] (init limits) := by
    refine ⟨fun n m hn => absurd hn (hidle n), ?_, ?_, ?_, fun n _ => ⟨rfl, rfl⟩⟩
    · constructor
      · intro hactive
        cases hactive
      · rintro ⟨n, hn⟩
        exact absurd hn (hidle n)
    · intro n session hsession
      cases hsession
    · intro n session hsession
      cases hsession
  have hinv := exec_invariant (I := Inv) hinit (fun log s op hs hop => step_inv hs hop) ops h
  exact ⟨hinv.single, hinv.flag, hinv.bounded, hinv.counted,
    fun n writeLen atMs write htaken => taken_timely _ htaken⟩

/-- A capture with room for one byte, which stops at the second and is dropped after the next began. -/
def lateDrop : List CaptureOp :=
  [.start "a" 0 ⟨some 0, true⟩, .append 0 2 0 ⟨some 9, true⟩, .start "b" 0 ⟨some 0, true⟩, .drop 0,
    .start "c" 0 ⟨some 0, true⟩]

/-- The late drop clears the flag of the capture that runs, and a third one starts beside it. -/
theorem lateDrop_not_exclusive :
    ¬ Exclusive (exec step (init ⟨1000, 1, 0⟩) lateDrop).1 (exec step (init ⟨1000, 1, 0⟩) lateDrop).2 := by
  intro h
  have hsecond : (exec step (init ⟨1000, 1, 0⟩) lateDrop).2.Recording 1 := by
    refine ⟨⟨⟨1000, 1, 0⟩, 0, 0, none⟩, ?_, rfl⟩
    decide
  have hthird : (exec step (init ⟨1000, 1, 0⟩) lateDrop).2.Recording 2 := by
    refine ⟨⟨⟨1000, 1, 0⟩, 0, 0, none⟩, ?_, rfl⟩
    decide
  cases h.single 1 2 hsecond hthird

theorem exclusive_of_careful_twice :
    Exclusive
      (exec step (init ⟨1000, 1, 0⟩)
        [.start "a" 0 ⟨some 0, true⟩, .append 0 2 0 ⟨some 9, true⟩, .drop 0,
          .start "b" 0 ⟨some 0, true⟩]).1
      (exec step (init ⟨1000, 1, 0⟩)
        [.start "a" 0 ⟨some 0, true⟩, .append 0 2 0 ⟨some 9, true⟩, .drop 0,
          .start "b" 0 ⟨some 0, true⟩]).2 := by
  refine exclusive_of_careful _ _ ?_
  refine adm_cons trivial (adm_cons ?_ (adm_cons ?_ (adm_cons trivial (adm_nil _ _ _))))
  · intro session hsession
    cases hsession
    decide
  · refine .inr ?_
    rintro n ⟨session, hsession, hlive⟩
    cases n with
    | zero =>
      cases hsession
      cases hlive
    | succ n => cases hsession

end CaptureSessions
end Translator.Control
