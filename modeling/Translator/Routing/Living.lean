import Translator.Routing.Branches

/-! A host that never lets the process die. No call of the watcher dies of itself: it ends, returned or
    failed, when every effect of it does. -/

namespace Translator.Routing

open Schemes

variable {host : Host}

theorem allDone_spares (codec : JournalCodec) : Host.Spares ⟨codec, allDone⟩ :=
  fun _ _ => by simp [allDone]

section Living

variable (hspares : host.Spares)

include hspares

theorem perform_lives (effect : Effect) (code : RoutingErrorCode) :
    Call.Lives (perform host effect code) := by
  intro s
  unfold perform
  split
  case h_1 h => exact absurd h (hspares _ _)
  case h_2 => simp
  case h_3 => simp
  case h_4 => split <;> simp
  case h_5 => split <;> simp

theorem discover_lives : Call.Lives (discover host) := by
  unfold discover
  refine Call.lives_bind (perform_lives hspares _ _) fun _ => ?_
  refine Call.lives_bind (perform_lives hspares _ _) fun _ => ?_
  refine Call.lives_bind (perform_lives hspares _ _) fun _ => ?_
  refine Call.lives_bind (perform_lives hspares _ _) fun _ => ?_
  exact Call.lives_bind Call.lives_get fun _ => Call.lives_pure _

omit hspares in
theorem state_lives (snapshot : RoutingSnapshot) (resolution : RouteResolution) :
    Call.Lives (state snapshot resolution) :=
  Call.lives_bind Call.lives_get fun _ => Call.lives_pure _

theorem persist_lives (r : IncomingRoute) (code : RoutingErrorCode) :
    Call.Lives (persistActiveRoute host r code) := by
  unfold persistActiveRoute
  refine Call.lives_bind Call.lives_get fun s => Call.lives_ite ?_ (Call.lives_pure _)
  refine Call.lives_mapErr ?_
  unfold saveActiveRoute
  exact Call.lives_ite (Call.lives_fail _) (perform_lives hspares _ _)

theorem clear_lives (code : RoutingErrorCode) : Call.Lives (clearRouteJournal host code) := by
  unfold clearRouteJournal
  exact Call.lives_bind Call.lives_get fun s =>
    Call.lives_ite (perform_lives hspares _ _) (Call.lives_pure _)

theorem takeBackOutputs_lives : ∀ moved : List (Nat × String),
    Call.Lives (takeBackOutputs host moved)
  | [] => Call.lives_pure _
  | (_, _) :: rest => Call.lives_bind (Call.lives_attempt (perform_lives hspares _ _))
      fun _ => takeBackOutputs_lives rest

theorem routeOutputs_lives : ∀ (moved : List (Nat × String))
    (outputs : List SourceOutputRouteCandidate), Call.Lives (routeOutputs host moved outputs)
  | _, [] => Call.lives_pure _
  | moved, output :: rest => by
    refine Call.lives_bind (Call.lives_attempt (perform_lives hspares _ _)) fun x => ?_
    rcases x with e | ⟨⟩
    · exact Call.lives_bind (takeBackOutputs_lives hspares _) fun _ => Call.lives_fail _
    · exact routeOutputs_lives _ rest

theorem restoreOutputs_lives (source : String) : ∀ outputs : List SourceOutputRouteCandidate,
    Call.Lives (restoreOutputs host source outputs)
  | [] => Call.lives_pure _
  | _ :: rest => Call.lives_bind (perform_lives hspares _ _)
      fun _ => restoreOutputs_lives source rest

theorem restoreMatching_lives (r : IncomingRoute) (outputs : List SourceOutputRouteCandidate)
    (fallback : Option String) :
    Call.Lives (restoreMatchingSourceOutputs host r outputs fallback) := by
  unfold restoreMatchingSourceOutputs
  refine Call.lives_ite (Call.lives_pure _) ?_
  cases fallback with
  | none => exact Call.lives_fail _
  | some name => exact restoreOutputs_lives hspares name _

theorem routeZoom_lives (c : RouteCandidate) : Call.Lives (routeZoomWithPipewireLinks host c) := by
  have hlink : ∀ {output input : String} {code : RoutingErrorCode},
      Call.Lives (connectPipewireLink host output input code) := perform_lives hspares _ _
  have hunlink : ∀ {output input : String} {code : RoutingErrorCode},
      Call.Lives (disconnectPipewireLink host output input code) := perform_lives hspares _ _
  unfold routeZoomWithPipewireLinks
  refine Call.lives_ite (Call.lives_fail _) ?_
  split
  case h_2 => exact Call.lives_fail _
  case h_1 =>
    refine Call.lives_bind hlink fun _ => ?_
    refine Call.lives_bind (Call.lives_attempt hlink) fun x => ?_
    rcases x with e | ⟨⟩
    · exact Call.lives_bind (Call.lives_attempt hunlink) fun _ => Call.lives_fail _
    refine Call.lives_bind (Call.lives_attempt hunlink) fun x => ?_
    rcases x with e | ⟨⟩
    · refine Call.lives_bind (Call.lives_attempt hunlink) fun _ => ?_
      exact Call.lives_bind (Call.lives_attempt hunlink) fun _ => Call.lives_fail _
    refine Call.lives_bind (Call.lives_attempt hunlink) fun x => ?_
    rcases x with e | ⟨⟩
    · refine Call.lives_bind (Call.lives_attempt hlink) fun _ => ?_
      refine Call.lives_bind (Call.lives_attempt hunlink) fun _ => ?_
      exact Call.lives_bind (Call.lives_attempt hunlink) fun _ => Call.lives_fail _
    · exact Call.lives_pure _

theorem restoreRoute_lives (r : IncomingRoute) : Call.Lives (restoreRoute host r) := by
  unfold restoreRoute
  cases r.routeMethod with
  | pulseMove => exact perform_lives hspares _ _
  | pipeWireLinks =>
    have hlink : ∀ {output input : String} {code : RoutingErrorCode},
        Call.Lives (connectPipewireLink host output input code) := perform_lives hspares _ _
    have hunlink : ∀ {output input : String} {code : RoutingErrorCode},
        Call.Lives (disconnectPipewireLink host output input code) := perform_lives hspares _ _
    show Call.Lives (restoreZoomPipewireLinks host r)
    unfold restoreZoomPipewireLinks
    refine Call.lives_ite (Call.lives_fail _) ?_
    split
    case h_2 => exact Call.lives_fail _
    case h_1 =>
      refine Call.lives_bind hlink fun _ => ?_
      refine Call.lives_bind (Call.lives_attempt hlink) fun x => ?_
      rcases x with e | ⟨⟩
      · exact Call.lives_bind (Call.lives_attempt hunlink) fun _ => Call.lives_fail _
      · exact Call.lives_bind hunlink fun _ => hunlink

theorem releaseRoute_lives (r : IncomingRoute) (outputs : List SourceOutputRouteCandidate)
    (fallback : Option String) (code : RoutingErrorCode) :
    Call.Lives (releaseRoute host r outputs fallback code) := by
  unfold releaseRoute
  refine Call.lives_bind (restoreMatching_lives hspares _ _ _) fun _ => ?_
  refine Call.lives_bind (Call.lives_modify _) fun _ => ?_
  exact Call.lives_bind (clear_lives hspares _) fun _ => Call.lives_modify _

theorem enterRoute_lives (c : RouteCandidate) (outputs : List SourceOutputRouteCandidate) :
    Call.Lives (enterRoute host c outputs) := by
  unfold enterRoute takeStream
  refine Call.lives_bind ?_ fun method => ?_
  · refine Call.lives_bind (Call.lives_attempt (perform_lives hspares _ _)) fun x => ?_
    rcases x with e | ⟨⟩
    · refine Call.lives_bind (Call.lives_attempt (routeZoom_lives hspares c)) fun x => ?_
      rcases x with e | ⟨⟩
      · exact Call.lives_bind (Call.lives_modify _) fun _ => Call.lives_fail _
      · exact Call.lives_pure _
    · exact Call.lives_pure _
  · unfold settleRoute
    refine Call.lives_bind (Call.lives_modify _) fun _ => ?_
    refine Call.lives_bind (Call.lives_attempt (persist_lives hspares _ _)) fun x => ?_
    rcases x with e | ⟨⟩
    · refine Call.lives_bind (Call.lives_attempt (restoreRoute_lives hspares _)) fun _ => ?_
      exact Call.lives_bind (Call.lives_modify _) fun _ => Call.lives_fail _
    refine Call.lives_bind (Call.lives_attempt (routeOutputs_lives hspares _ _)) fun x => ?_
    rcases x with e | ⟨⟩
    · refine Call.lives_bind (Call.lives_attempt (restoreRoute_lives hspares _)) fun _ => ?_
      refine Call.lives_bind (Call.lives_modify _) fun _ => ?_
      exact Call.lives_bind (clear_lives hspares _) fun _ => Call.lives_fail _
    · exact Call.lives_modify _

theorem routeAndReport_lives (snapshot : RoutingSnapshot) (c : RouteCandidate) :
    Call.Lives (routeAndReport host snapshot c) := by
  unfold routeAndReport routeCandidateStream
  refine Call.lives_bind (Call.lives_bind Call.lives_get fun s => ?_) fun _ => state_lives _ _
  cases s.watcher.activeRoute with
  | none => exact enterRoute_lives hspares _ _
  | some r =>
    refine Call.lives_ite ?_ (Call.lives_bind ?_ fun _ => enterRoute_lives hspares _ _)
    · refine Call.lives_bind (persist_lives hspares _ _) fun _ => ?_
      exact Call.lives_bind (routeOutputs_lives hspares _ _) fun _ => Call.lives_modify _
    · unfold leaveRoute
      refine Call.lives_ite (releaseRoute_lives hspares _ _ _ _) ?_
      exact Call.lives_bind (Call.lives_mapErr (restoreRoute_lives hspares _))
        fun _ => releaseRoute_lives hspares _ _ _ _

theorem restoreActive_lives : Call.Lives (restoreActive host) := by
  unfold restoreActive
  refine Call.lives_bind (discover_lives hspares) fun snapshot => ?_
  refine Call.lives_bind Call.lives_get fun s => ?_
  refine Call.lives_bind ?_ fun _ => Call.lives_bind (Call.lives_modify _) fun _ =>
    Call.lives_bind (clear_lives hspares _) fun _ => state_lives _ _
  cases s.watcher.activeRoute with
  | none => exact Call.lives_pure _
  | some r =>
    refine Call.lives_bind ?_ fun _ => restoreMatching_lives hspares _ _ _
    unfold undoStream
    split
    case h_2 => exact Call.lives_pure _
    case h_1 =>
      split
      · exact Call.lives_ite (restoreRoute_lives hspares _) (Call.lives_pure _)
      · exact restoreRoute_lives hspares _

theorem restoreStaleStream_lives (c : RouteCandidate) (sink : String) :
    Call.Lives (restoreStaleStream host c sink) := by
  unfold restoreStaleStream
  refine Call.lives_bind (perform_lives hspares _ _) fun _ => ?_
  refine Call.lives_bind (Call.lives_modify _) fun _ => ?_
  refine Call.lives_bind (clear_lives hspares _) fun _ => ?_
  exact Call.lives_bind (discover_lives hspares) fun _ => state_lives _ _

/-- `reconcile` ends where no effect kills the process. -/
theorem reconcile_lives (manualStreamId : Option Nat) :
    Call.Lives (reconcile host manualStreamId) := by
  intro s
  have hnot : ∀ {α : Type} {c : RoutingCall α}, Call.Lives c → ∀ s,
      c.wp ⟨fun _ _ => True, fun _ _ => True, fun _ => False⟩ s := by
    intro α c hc s
    refine Call.wp_of_lives hc ?_
    unfold Call.wp
    rcases c s with ⟨_ | _ | _, _⟩ <;> trivial
  have hroute := fun snapshot c s => hnot (routeAndReport_lives hspares snapshot c) s
  have hpost : (reconcile host manualStreamId).wp
      ⟨fun _ _ => True, fun _ _ => True, fun _ => False⟩ s := by
    refine reconcile_wp ⟨fun _ _ hnot => hnot hspares, fun _ _ _ => trivial, fun _ _ _ _ => trivial,
      fun _ _ => hnot (restoreActive_lives hspares) s,
      fun s' c sink _ _ _ _ _ _ _ => hnot (restoreStaleStream_lives hspares c sink) s',
      fun s' c _ _ _ _ _ _ => hroute _ c s', fun s' r c _ _ _ _ _ _ => ?_, fun s' r _ _ _ _ _ => ?_⟩
    · refine hnot ?_ s'
      unfold refreshRoute takeAgain
      refine Call.lives_bind (Call.lives_ite (persist_lives hspares _ _) (Call.lives_ite ?_
        (Call.lives_pure _))) fun _ => Call.lives_bind (routeOutputs_lives hspares _ _)
          fun _ => state_lives _ _
      exact Call.lives_bind (perform_lives hspares _ _) fun _ => persist_lives hspares _ _
    · have hforget : Call.Lives (forgetRoute host (s.watcher.snapshot s.server) r) := by
        unfold forgetRoute
        refine Call.lives_bind (Call.lives_modify _) fun _ => ?_
        refine Call.lives_bind (restoreMatching_lives hspares _ _ _) fun _ => ?_
        exact Call.lives_bind (clear_lives hspares _) fun _ => Call.lives_modify _
      exact Call.wp_mono (hnot hforget s')
        (fun _ s₁ _ => ⟨fun _ _ => trivial, fun _ _ => trivial, fun c _ => hroute _ c s₁⟩)
        (fun _ _ h => h) (fun _ h => h)
  unfold Call.wp at hpost
  intro hdies
  rcases hrun : reconcile host manualStreamId s with ⟨o, s'⟩
  rw [hrun] at hpost hdies
  obtain rfl : o = .panic := hdies
  exact hpost

end Living

end Translator.Routing
