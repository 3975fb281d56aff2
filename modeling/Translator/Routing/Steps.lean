import Translator.Routing.Accounts

/-! Every step of the watcher keeps its book. What a step does on the sink side is followed effect by
    effect, through its errors and to every point at which the process may die. -/

namespace Translator.Routing

open Schemes

variable {host : Host} {s : Scene} {code : RoutingErrorCode} {t : Terms}

/-- The book is kept, whatever becomes of the call. -/
def accountPost (codec : JournalCodec) (t : Terms) {α : Type} :
    Call.Post Scene RoutingError α :=
  ⟨fun _ s => Accounted codec t s.sinkSide, fun _ s => Accounted codec t s.sinkSide,
    fun s => Crashed codec t s.sinkSide⟩

theorem accountPost_of_keeps {α : Type} {call : RoutingCall α}
    (hc : Call.Keeps Scene.sinkSide call) (h : Accounted host.codec t s.sinkSide) :
    call.wp (accountPost host.codec t) s :=
  Call.wp_of_keeps hc (fun _ _ hs' => (hs' ▸ h :)) (fun _ _ hs' => (hs' ▸ h :))
    (fun _ hs' => (hs' ▸ h.crashed :))

theorem sinkSide_selected (s : Scene) (key : Option String) :
    (s.remember ({ · with selectedAppKey := key })).sinkSide = s.sinkSide := rfl

theorem sinkSide_pending (s : Scene) (pending : Bool) :
    (s.remember ({ · with routeRecoveryPending := pending })).sinkSide = s.sinkSide := rfl

theorem sinkSide_active (s : Scene) (active : Option IncomingRoute) :
    (s.remember ({ · with activeRoute := active })).sinkSide
      = { s.sinkSide with active := active } := rfl

theorem pipewireRouteNodeName_self {c : RouteCandidate} {node : String} (h : pipewireRouteNodeName c = some node) :
    pipewireNodeName node = some node := by
  unfold pipewireRouteNodeName at h
  split at h
  case isFalse => cases h
  case isTrue =>
    rcases Option.or_eq_some_iff.mp h with h | ⟨-, h⟩
    · obtain ⟨name, -, h⟩ := Option.bind_eq_some_iff.mp h
      exact pipewireNodeName_self h
    · exact pipewireNodeName_self h

/-- A stream is only linked where its links can be taken back. -/
theorem routeZoom_restorable (c : RouteCandidate) (s : Scene) :
    (routeZoomWithPipewireLinks host c).wp
      ⟨fun _ _ => Restorable (c.route .pipeWireLinks), fun _ _ => True, fun _ => True⟩ s := by
  unfold routeZoomWithPipewireLinks
  split
  case isTrue => trivial
  case isFalse hzoom =>
    split
    case h_2 => trivial
    case h_1 node sink hnode hsink =>
      have hrest : Restorable (c.route .pipeWireLinks) := by
        intro _
        refine ⟨not_not.mp hzoom, ?_, ?_⟩
        · simp [RouteCandidate.route, hnode, pipewireRouteNodeName_self hnode]
        · simp [RouteCandidate.route, hsink]
      have hkeeps : ∀ call : RoutingCall Unit, Call.Keeps (fun _ => ()) call := fun _ _ => rfl
      exact Call.wp_of_keeps (hkeeps _) (fun _ _ _ => hrest) (fun _ _ _ => trivial)
        (fun _ _ => trivial)

/-- Taking a stream moves it, or only links it, or does nothing. -/
theorem takeStream_sink {c : RouteCandidate} {post : Call.Post Scene RoutingError RouteMethod}
    (hpulse : ∀ s', s'.sinkSide = s.sinkSide.move c.streamId remoteInSink →
      post.ok .pulseMove s')
    (hlinks : ∀ s', s'.sinkSide = s.sinkSide → Restorable (c.route .pipeWireLinks) →
      post.ok .pipeWireLinks s')
    (herr : ∀ e s', s'.sinkSide = s.sinkSide → post.err e s')
    (hcrash : ∀ s', s'.sinkSide = s.sinkSide → post.crash s') :
    (takeStream host c).wp post s := by
  unfold takeStream
  simp only [Call.wp_bind, Call.wp_attempt]
  refine moveStream_sink hpulse (fun _ s' hs' _ => ?_) hcrash
  have hkeeps : (routeZoomWithPipewireLinks host c).wp
      ⟨fun _ s₁ => s₁.sinkSide = s'.sinkSide, fun _ s₁ => s₁.sinkSide = s'.sinkSide,
        fun s₁ => s₁.sinkSide = s'.sinkSide⟩ s' :=
    Call.wp_of_keeps (routeZoom_keeps (fun _ => rfl) (fun _ _ => rfl) c) (fun _ _ h => h)
      (fun _ _ h => h) (fun _ h => h)
  refine Call.wp_mono (Call.wp_and hkeeps (routeZoom_restorable c s'))
    (fun _ s₁ h₁ => hlinks s₁ (h₁.1.trans hs') h₁.2) (fun _ s₁ h₁ => ?_)
    (fun s₁ h₁ => hcrash s₁ (h₁.1.trans hs'))
  exact herr _ _ (h₁.1.trans hs')

theorem write_move (d : SinkSide) (i : Nat) (sink : String) (journal : Option JournalFile) :
    (d.move i sink).write journal = (d.write journal).move i sink := by
  unfold SinkSide.write SinkSide.move
  dsimp only
  split <;> rfl

@[simp] theorem write_write (d : SinkSide) (journal journal' : Option JournalFile) :
    (d.write journal).write journal' = d.write journal' := by
  unfold SinkSide.write
  split <;> simp_all

@[simp] theorem write_active (d : SinkSide) (journal : Option JournalFile) :
    (d.write journal).active = d.active := by
  unfold SinkSide.write
  split <;> rfl

@[simp] theorem write_hasJournal (d : SinkSide) (journal : Option JournalFile) :
    (d.write journal).hasJournal = d.hasJournal := by
  unfold SinkSide.write
  split <;> rfl

theorem write_journal (d : SinkSide) (journal : Option JournalFile) (h : d.hasJournal = true) :
    (d.write journal).journal = journal := by
  simp [SinkSide.write, h]

theorem Free.write {d : SinkSide} {c : RouteCandidate} (h : Free d c)
    (journal : Option JournalFile) : Free (d.write journal) c := by
  unfold SinkSide.write
  split
  · exact ⟨h.key, h.sink, h.named, h.off⟩
  · exact h

@[simp] theorem write_self (d : SinkSide) : d.write d.journal = d := by
  unfold SinkSide.write
  split <;> rfl

/-- The journal is free to hold anything while there is no route and the terms do not ask for it. -/
theorem Accounted.write_any {codec : JournalCodec} {d : SinkSide} (h : Accounted codec t d)
    (hnone : d.active = none) (journal : Option JournalFile) :
    Accounted codec { t with mirrored := False } (d.write journal) := by
  unfold SinkSide.write
  split
  case isFalse => exact h.weaken
  case isTrue =>
    refine ⟨h.original, ?_, nofun, h.held, h.home, h.off, h.own, h.living,
      h.journaled, h.named, h.restorable⟩
    intro _ r hr
    have hr : d.active = some r := hr
    simp [hnone] at hr

/-- Where streams cannot be moved back nothing is promised about them. -/
theorem Accounted.anywhere {codec : JournalCodec} {d : SinkSide} (h : Accounted codec t d)
    (hnot : ¬ t.takesBack) (i : Nat) (sink : String) : Accounted codec t (d.move i sink) where
  original := h.original
  recorded := h.recorded
  blank := h.blank
  held hback := absurd hback hnot
  home hund := absurd (t.undisturbed_takesBack hund) hnot
  off hund := absurd (t.undisturbed_takesBack hund) hnot
  own hund := absurd (t.undisturbed_takesBack hund) hnot
  journaled := h.journaled
  named := h.named
  restorable := h.restorable
  living hund := absurd (t.undisturbed_takesBack hund) hnot

theorem crashed_of_held_nil {codec : JournalCodec} {d : SinkSide}
    (h : t.takesBack → d.ledger.held = []) : Crashed codec t d := by
  intro hback _ _ i hi
  simp [h hback] at hi

/-- A stream that was taken by a move or by links. -/
def SinkSide.taken (d : SinkSide) (c : RouteCandidate) : RouteMethod → SinkSide
  | .pulseMove => d.move c.streamId remoteInSink
  | .pipeWireLinks => d

theorem taken_write (d : SinkSide) (c : RouteCandidate) (method : RouteMethod)
    (journal : Option JournalFile) :
    (d.taken c method).write journal = (d.write journal).taken c method := by
  cases method
  · exact write_move d _ _ journal
  · rfl

/-- A stream that was just taken is known, and the journal has its route or nothing. -/
theorem Accounted.crashed_taken {codec : JournalCodec} {d : SinkSide} {c : RouteCandidate}
    (h : Accounted codec t d) (hnone : d.active = none) (hfree : Free d c) (method : RouteMethod)
    (journal : Option JournalFile)
    (hload : t.mirrored → d.hasJournal = true → loadActiveRoute codec journal = none
      ∨ loadActiveRoute codec journal = some (c.route .pulseMove)) :
    Crashed codec t ((d.write journal).taken c method) := by
  cases method with
  | pipeWireLinks =>
    exact crashed_of_held_nil fun hback =>
      (h.write_any hnone journal).held_nil hback (by rw [write_active, hnone])
  | pulseMove =>
    intro hback hmir hj i hi
    have hj : d.hasJournal = true := h.journaled hj
    obtain rfl : i = c.streamId := by
      rcases SinkLedger.mem_held_move.mp hi with ⟨-, hi⟩ | ⟨hi, -⟩
      · exact hi
      · rw [(h.write_any hnone journal).held_nil hback (by rw [write_active, hnone])] at hi
        simp at hi
    refine ⟨by simp [SinkSide.taken, SinkSide.move], c.stableAppKey, (hfree.write journal).key, ?_⟩
    have hjournal : ((d.write journal).taken c .pulseMove).journal = journal :=
      write_journal d journal hj
    rw [hjournal]
    rcases hload hmir hj with hload | hload
    · exact .inl hload
    · exact .inr ⟨_, hload, rfl, rfl, rfl, hfree.off, (hfree.write journal).named⟩

/-- The taken stream's route is remembered while the journal has it. -/
theorem Accounted.settle {codec : JournalCodec} {d : SinkSide} {c : RouteCandidate}
    (h : Accounted codec t d) (hnone : d.active = none) (hfree : Free d c) (method : RouteMethod)
    (hrest : Restorable (c.route method))
    (hvalid : d.hasJournal = true → validRoute (c.route method) = true) :
    Accounted codec t { (d.write (savedRoute codec (c.route method))).taken c method with
      active := some (c.route method) } := by
  have hload : d.hasJournal = true → loadActiveRoute codec
      (d.write (savedRoute codec (c.route method))).journal = some (c.route method) := by
    intro hj
    rw [write_journal d _ hj]
    exact loadActiveRoute_saved (hvalid hj)
  have hside : ∀ r : IncomingRoute, { (d.write (savedRoute codec r)).taken c method with
        active := some (c.route method) }
      = { d.taken c method with
        active := some (c.route method), journal := (d.write (savedRoute codec r)).journal } := by
    intro r
    cases method <;> unfold SinkSide.write <;> split <;> rfl
  rw [hside]
  cases method with
  | pulseMove => exact h.enter hnone hfree hload
  | pipeWireLinks => exact h.enter_links hnone hfree hrest hload

section Enter

variable {c : RouteCandidate} {outputs : List SourceOutputRouteCandidate}

/-- All is as it was before the stream was taken, as far as the terms go. -/
structure GivenBack (codec : JournalCodec) (t : Terms) (d d' : SinkSide) : Prop where
  accounted : Accounted codec { t with mirrored := False } d'
  active : d'.active = none
  journal : d'.journal = d.journal
  hasJournal : d'.hasJournal = d.hasJournal

theorem GivenBack.crashed {codec : JournalCodec} {d d' : SinkSide} (h : GivenBack codec t d d') :
    Crashed codec t d' :=
  crashed_of_held_nil fun ht => h.accounted.held_nil ht h.active

/-- Giving back a stream that was just taken, while there is no route. -/
theorem giveBack_sink {codec : JournalCodec} {d : SinkSide} {method : RouteMethod}
    {post : Call.Post Scene RoutingError Unit}
    (hs : s.sinkSide = d.taken c method) (hacc : Accounted codec { t with mirrored := False } d)
    (hnone : d.active = none) (hfree : Free d c)
    (hback : t.takesBack → host.Moves c.streamId c.currentSinkName)
    (hok : ∀ s', GivenBack codec t d s'.sinkSide → post.ok () s')
    (herr : ∀ e s', GivenBack codec t d s'.sinkSide → post.err e s')
    (hcrash : ∀ s', s'.sinkSide = s.sinkSide → post.crash s') :
    (restoreRoute host (c.route method)).wp post s := by
  cases method with
  | pulseMove =>
    refine restoreRoute_sink (fun s' _ hs' => hok s' ?_)
      (fun s' hm _ => by simp [RouteCandidate.route] at hm)
      (fun e s' hs' hnot => herr e s' ?_) hcrash
    · rw [hs] at hs'
      have hside : s'.sinkSide
          = (d.move c.streamId remoteInSink).move c.streamId c.currentSinkName := hs'
      rw [hside]
      exact ⟨hacc.return_taken hnone hfree, hnone, rfl, rfl⟩
    · -- a stream that was moved can be moved back, unless the terms do not promise it
      have ht : ¬ t.takesBack := by
        intro ht
        refine hnot ⟨rfl, hback ht, ?_, ?_⟩
        · simp [hs, SinkSide.taken, SinkSide.move, RouteCandidate.route]
        · rw [hs]
          exact hfree.named
      have hside : s'.sinkSide = d.move c.streamId remoteInSink := hs'.trans hs
      rw [hside]
      exact ⟨hacc.anywhere ht _ _, hnone, rfl, rfl⟩
  | pipeWireLinks =>
    have hgiven : ∀ s' : Scene, s'.sinkSide = s.sinkSide → GivenBack codec t d s'.sinkSide := by
      intro s' hs'
      rw [hs'.trans hs]
      exact ⟨hacc, hnone, rfl, rfl⟩
    exact restoreRoute_sink (fun s' hm _ => by simp [RouteCandidate.route] at hm)
      (fun s' _ hs' => hok s' (hgiven s' hs')) (fun e s' hs' _ => herr e s' (hgiven s' hs')) hcrash

/-- A stream's route is on record and remembered, or there is no route. -/
def enterPost (codec : JournalCodec) (t : Terms) (d : SinkSide) (c : RouteCandidate) :
    Call.Post Scene RoutingError Unit where
  ok _ s := Accounted codec t s.sinkSide ∧ ∃ method, s.sinkSide =
    { (d.write (savedRoute codec (c.route method))).taken c method with
      active := some (c.route method) }
  err _ s := Accounted codec t s.sinkSide ∧ s.sinkSide.active = none
  crash s := Crashed codec t s.sinkSide

variable {d : SinkSide} (hacc : Accounted host.codec t d) (hnone : d.active = none)
  (hfree : Free d c) (hback : t.takesBack → host.Moves c.streamId c.currentSinkName)
  (hmir : t.mirrored → host.Confirms ∧ host.Clears)

include hacc hnone hfree hback hmir

/-- A taken stream's route is settled, or the stream goes back. -/
theorem settleRoute_sink {method : RouteMethod} (hrest : Restorable (c.route method))
    (hs : s.sinkSide = d.taken c method) :
    (settleRoute host c method outputs).wp (enterPost host.codec t d c) s := by
  have hcrash : ∀ s' : Scene, s'.sinkSide = d.taken c method →
      Crashed host.codec t s'.sinkSide := by
    intro s' hs'
    rw [hs', ← write_self d]
    exact hacc.crashed_taken hnone hfree method _ fun hm hj => .inl (hacc.blank hm hj hnone)
  have hsaved : ∀ s' : Scene, (d.hasJournal = true → validRoute (c.route method) = true) →
      s'.sinkSide = (d.write (savedRoute host.codec (c.route method))).taken c method →
      Crashed host.codec t s'.sinkSide := by
    intro s' hvalid hs'
    rw [hs']
    cases method with
    | pulseMove =>
      exact hacc.crashed_taken hnone hfree _ _ fun _ hj => .inr (loadActiveRoute_saved (hvalid hj))
    | pipeWireLinks =>
      exact crashed_of_held_nil fun ht =>
        (hacc.write_any hnone _).held_nil ht (by rw [write_active, hnone])
  have hsavedAcc : Accounted host.codec { t with mirrored := False }
      (d.write (savedRoute host.codec (c.route method))) := hacc.write_any hnone _
  have hnone' : (d.write (savedRoute host.codec (c.route method))).active = none := by
    rw [write_active, hnone]
  unfold settleRoute
  simp only [Call.wp_bind, Call.wp_attempt, wp_remember]
  refine persist_sink (fun s₂ hs₂ hvalid => ?_) (fun e s₂ hs₂ => ?_) (fun e s₂ hs₂ hnot hvalid => ?_)
    (fun s₂ hs₂ => hcrash s₂ (hs₂.trans hs))
  · -- recorded: the captures come along, or all is undone
    have hs₂ : s₂.sinkSide
        = (d.write (savedRoute host.codec (c.route method))).taken c method := by
      rw [hs₂, sinkSide_selected, hs, taken_write]
    have hvalid : d.hasJournal = true → validRoute (c.route method) = true := by
      intro hj
      refine hvalid ?_
      rw [sinkSide_selected, hs]
      cases method <;> exact hj
    refine Call.wp_of_keeps (routeMatching_keeps_sinkSide _ _) (fun _ s₃ hs₃ => ?_)
      (fun e s₃ hs₃ => ?_) (fun s₃ hs₃ => hsaved s₃ hvalid (hs₃.trans hs₂))
    · have hs₄ : (s₃.remember ({ · with
            activeRoute := some (c.route method), routeRecoveryPending := false })).sinkSide
          = { (d.write (savedRoute host.codec (c.route method))).taken c method with
            active := some (c.route method) } := by
        rw [← hs₂, ← hs₃]
        rfl
      refine ⟨?_, method, hs₄⟩
      rw [hs₄]
      exact hacc.settle hnone hfree method hrest hvalid
    · have hs₃ := hs₃.trans hs₂
      -- with the stream given back, the journal is cleared
      have hclear : ∀ s₄ : Scene, GivenBack host.codec t
          (d.write (savedRoute host.codec (c.route method))) s₄.sinkSide →
          (clearRouteJournal host .restoreFailed).wp ⟨fun _ s => Accounted host.codec t s.sinkSide
            ∧ s.sinkSide.active = none, fun _ s => Accounted host.codec t s.sinkSide
            ∧ s.sinkSide.active = none, fun s => Crashed host.codec t s.sinkSide⟩
            (s₄.remember ({ · with selectedAppKey := none })) := by
        intro s₄ h₄
        refine clear_sink (fun s₅ hs₅ => ?_) (fun e s₅ hs₅ hnot => ?_) (fun s₅ hs₅ => ?_)
        · dsimp only
          rw [hs₅, sinkSide_selected, write_active]
          refine ⟨Accounted.strengthen (t := t) (h₄.accounted.write_any h₄.active none)
            fun _ hj _ => ?_, h₄.active⟩
          rw [write_journal _ _ (by rwa [write_hasJournal] at hj)]
          rfl
        · dsimp only
          rw [hs₅, sinkSide_selected]
          exact ⟨h₄.accounted.strengthen fun hm => absurd (hmir hm).2 hnot, h₄.active⟩
        · dsimp only
          rw [hs₅, sinkSide_selected]
          exact h₄.crashed
      exact giveBack_sink hs₃ hsavedAcc hnone' (hfree.write _) hback (fun s₄ h₄ => hclear s₄ h₄)
        (fun _ s₄ h₄ => hclear s₄ h₄) (fun s₄ hs₄ => hsaved s₄ hvalid (hs₄.trans hs₃))
  · -- not recorded: the stream goes back
    have hs₂ : s₂.sinkSide = d.taken c method := hs₂.trans hs
    have hblank : ∀ s₃ : Scene, GivenBack host.codec t d s₃.sinkSide →
        Accounted host.codec t s₃.sinkSide ∧ s₃.sinkSide.active = none := by
      intro s₃ h₃
      refine ⟨h₃.accounted.strengthen fun hm hj _ => ?_, h₃.active⟩
      rw [h₃.journal]
      exact hacc.blank hm (h₃.hasJournal ▸ hj) hnone
    exact giveBack_sink hs₂ hacc.weaken hnone hfree hback (fun s₃ h₃ => hblank s₃ h₃)
      (fun _ s₃ h₃ => hblank s₃ h₃) (fun s₃ hs₃ => hcrash s₃ (hs₃.trans hs₂))
  · -- the record is in place but not confirmed: the stream goes back
    have hs₂ : s₂.sinkSide
        = (d.write (savedRoute host.codec (c.route method))).taken c method := by
      rw [hs₂, sinkSide_selected, hs, taken_write]
    have hunbound : ¬ t.mirrored := fun hm => hnot (hmir hm).1
    have hany : ∀ s₃ : Scene, GivenBack host.codec t
        (d.write (savedRoute host.codec (c.route method))) s₃.sinkSide →
        Accounted host.codec t s₃.sinkSide ∧ s₃.sinkSide.active = none :=
      fun s₃ h₃ => ⟨h₃.accounted.strengthen fun hm => absurd hm hunbound, h₃.active⟩
    exact giveBack_sink hs₂ hsavedAcc hnone' (hfree.write _) hback (fun s₃ h₃ => hany s₃ h₃)
      (fun _ s₃ h₃ => hany s₃ h₃) (fun s₃ hs₃ => hsaved s₃ (fun _ => hvalid) (hs₃.trans hs₂))

/-- A free stream is routed, or everything is as it was. -/
theorem enterRoute_sink (hs : s.sinkSide = d) :
    (enterRoute host c outputs).wp (enterPost host.codec t d c) s := by
  unfold enterRoute
  rw [Call.wp_bind]
  refine takeStream_sink (fun s' hs' => ?_) (fun s' hs' hrest => ?_) (fun e s' hs' => ?_)
    (fun s' hs' => ?_) <;> rw [hs] at hs'
  · exact settleRoute_sink hacc hnone hfree hback hmir nofun hs'
  · exact settleRoute_sink hacc hnone hfree hback hmir hrest hs'
  · exact ⟨hs' ▸ hacc, hs' ▸ hnone⟩
  · exact (hs' ▸ hacc.crashed :)

end Enter

section Leave

variable {c : RouteCandidate} {r : IncomingRoute} {outputs : List SourceOutputRouteCandidate}
  {fallback : Option String} {d : SinkSide}

/-- The route is forgotten and the journal cleared, with nothing held. -/
theorem clearForgotten_sink {post : Call.Post Scene RoutingError Unit}
    (hs : s.sinkSide = d) (hacc : Accounted host.codec { t with mirrored := False } d)
    (hnone : d.active = none) (hmir : t.mirrored → host.Clears)
    (hok : ∀ s', Accounted host.codec t s'.sinkSide → s'.sinkSide = d.write none → post.ok () s')
    (herr : ∀ e s', Accounted host.codec t s'.sinkSide → post.err e s')
    (hcrash : ∀ s', Crashed host.codec t s'.sinkSide → post.crash s') :
    (clearRouteJournal host code).wp post s := by
  subst hs
  refine clear_sink (fun s' hs' => hok s' ?_ hs') (fun e s' hs' hnot => herr e s' ?_)
    (fun s' hs' => hcrash s' ?_)
  · rw [hs']
    refine Accounted.strengthen (t := t) (hacc.write_any hnone none) fun _ hj _ => ?_
    rw [write_journal _ _ (by rwa [write_hasJournal] at hj)]
    rfl
  · rw [hs']
    exact hacc.strengthen fun hm => absurd (hmir hm) hnot
  · rw [hs']
    exact crashed_of_held_nil fun ht => hacc.held_nil ht hnone

theorem Free.active_write {c : RouteCandidate} (h : Free d c) (active : Option IncomingRoute)
    (journal : Option JournalFile) : Free ({ d with active := active }.write journal) c := by
  have : Free { d with active := active } c := ⟨h.key, h.sink, h.named, h.off⟩
  exact this.write journal

/-- A route whose stream is not held is let go. -/
theorem releaseRoute_sink (hs : s.sinkSide = d) (hacc : Accounted host.codec t d)
    (hheld : t.takesBack → d.ledger.held = []) (hmir : t.mirrored → host.Clears) :
    (releaseRoute host r outputs fallback code).wp
      ⟨fun _ s' => Accounted host.codec t s'.sinkSide
          ∧ s'.sinkSide = { d with active := none }.write none,
        fun _ s' => Accounted host.codec t s'.sinkSide,
        fun s' => Crashed host.codec t s'.sinkSide⟩ s := by
  unfold releaseRoute
  simp only [Call.wp_bind, wp_remember]
  refine Call.wp_of_keeps (restoreMatching_keeps_sinkSide _ _ _) (fun _ s₁ hs₁ => ?_)
    (fun _ s₁ hs₁ => ?_) (fun s₁ hs₁ => ?_) <;> rw [hs] at hs₁
  · have hs₂ : (s₁.remember ({ · with activeRoute := none })).sinkSide
        = { d with active := none } := by rw [sinkSide_active, hs₁]
    exact clearForgotten_sink hs₂ (hacc.weaken.forget hheld) rfl hmir
      (fun s₃ h₃ hs₃ => ⟨h₃, hs₃⟩) (fun _ s₃ h₃ => h₃) (fun s₃ h₃ => h₃)
  · exact (hs₁ ▸ hacc :)
  · exact (hs₁ ▸ hacc.crashed :)

/-- A route is left for a stream that is not its own: its stream goes back first. -/
theorem leaveRoute_sink (hs : s.sinkSide = d) (hacc : Accounted host.codec t d)
    (hr : d.active = some r) (hother : sameRouteIdentity r c = false) (hfree : Free d c)
    (hmir : t.mirrored → host.Clears) :
    (leaveRoute host r c outputs fallback).wp
      ⟨fun _ s' => Accounted host.codec t s'.sinkSide ∧ s'.sinkSide.active = none
        ∧ Free s'.sinkSide c,
        fun _ s' => Accounted host.codec t s'.sinkSide,
        fun s' => Crashed host.codec t s'.sinkSide⟩ s := by
  have hrelease : ∀ (code : RoutingErrorCode) (s₁ : Scene) (d₁ : SinkSide), s₁.sinkSide = d₁ →
      Accounted host.codec t d₁ → (t.takesBack → d₁.ledger.held = []) → Free d₁ c →
      (releaseRoute host r outputs fallback code).wp
        ⟨fun _ s' => Accounted host.codec t s'.sinkSide ∧ s'.sinkSide.active = none
          ∧ Free s'.sinkSide c,
          fun _ s' => Accounted host.codec t s'.sinkSide,
          fun s' => Crashed host.codec t s'.sinkSide⟩ s₁ := by
    intro code s₁ d₁ hs₁ hacc₁ hheld₁ hfree₁
    refine Call.wp_mono (releaseRoute_sink hs₁ hacc₁ hheld₁ hmir) ?_ (fun _ _ h => h)
      (fun _ h => h)
    rintro _ s₂ ⟨hacc₂, hs₂⟩
    refine ⟨hacc₂, ?_, ?_⟩ <;> rw [hs₂]
    · rw [write_active]
    · exact hfree₁.active_write none none
  unfold leaveRoute
  split
  case isTrue hid =>
    -- the index is the candidate's now, so the route's own stream is not held
    refine hrelease _ s d hs hacc (fun ht => ?_) hfree
    rw [List.eq_nil_iff_forall_not_mem]
    intro i hi
    obtain ⟨-, -, hkey, -⟩ := hacc.eq_of_held ht hr hi
    have hkey' : c.stableAppKey = r.stableAppKey := by
      rw [hid, hfree.key] at hkey
      exact Option.some.inj hkey
    rw [PulseRoutingWatcher.sameRouteIdentity_iff.mpr ⟨hid.symm, hkey'⟩] at hother
    cases hother
  case isFalse hid =>
    rw [Call.wp_bind, Call.wp_mapErr]
    refine restoreRoute_sink (fun s₁ hm hs₁ => ?_) (fun s₁ hm hs₁ => ?_) (fun _ s₁ hs₁ _ => ?_)
      (fun s₁ hs₁ => ?_) <;> rw [hs] at hs₁
    · refine hrelease _ s₁ _ hs₁ (hacc.move_home hr hm)
        (fun ht => hacc.held_move_home ht hr) ⟨hfree.key, ?_, hfree.named, hfree.off⟩
      have hne : c.streamId ≠ r.streamId := fun h => hid h.symm
      simp [SinkSide.move, hne, hfree.sink]
    · refine hrelease _ s₁ _ hs₁ hacc (fun ht => ?_) hfree
      rw [List.eq_nil_iff_forall_not_mem]
      intro i hi
      have := (hacc.eq_of_held ht hr hi).2.1
      rw [hm] at this
      cases this
    · exact (hs₁ ▸ hacc :)
    · exact (hs₁ ▸ hacc.crashed :)

end Leave

/-! ### The calls -/

section Calls

variable {r : IncomingRoute} {c : RouteCandidate} {d : SinkSide}
  {outputs : List SourceOutputRouteCandidate} {fallback : Option String}

/-- A listed stream, as the sink side shows it. -/
structure Offered (d : SinkSide) (c : RouteCandidate) : Prop where
  key : d.keyOf c.streamId = some c.stableAppKey
  sink : d.sinkOf c.streamId = some c.currentSinkName
  named : d.hasSink c.currentSinkName = true
  off : (∀ r, d.active = some r → sameRouteIdentity r c = false) →
    c.currentSinkName ≠ remoteInSink

theorem offered_of_mem (h : c ∈ (s.watcher.snapshot s.server).candidates) :
    Offered s.sinkSide c := by
  obtain ⟨hcand, hlisted⟩ := PulseRoutingWatcher.mem_candidates.mp h
  obtain ⟨-, hkey, hsink⟩ := PulseRoutingWatcher.candidateOf_spec hcand
  exact ⟨hkey, hsink, Server.nodeNamed_of_sinkOf hsink, PulseRoutingWatcher.listed_off_remote hlisted⟩

variable (hacc : Accounted host.codec t d) (hmir : t.mirrored → host.Confirms ∧ host.Clears)

include hacc hmir

omit hmir in
/-- Writing the route down again changes nothing but the journal. -/
theorem persist_again {post : Call.Post Scene RoutingError Unit} (hs : s.sinkSide = d)
    (hr : d.active = some r) (hok : ∀ s', Accounted host.codec t s'.sinkSide → post.ok () s')
    (herr : ∀ e s', Accounted host.codec t s'.sinkSide → post.err e s')
    (hcrash : ∀ s', Crashed host.codec t s'.sinkSide → post.crash s') :
    (persistActiveRoute host r code).wp post s := by
  subst hs
  refine persist_sink (fun s' hs' hvalid => hok s' ?_) (fun e s' hs' => herr e s' ?_)
    (fun e s' hs' _ hvalid => herr e s' ?_) (fun s' hs' => hcrash s' ?_) <;> rw [hs']
  · exact hacc.write_saved hr hvalid
  · exact hacc
  · exact hacc.write_saved hr fun _ => hvalid
  · exact hacc.crashed

theorem routeCandidateStream_sink (hs : s.sinkSide = d) (hoffer : Offered d c)
    (hback : t.takesBack → c.currentSinkName ≠ remoteInSink →
      host.Moves c.streamId c.currentSinkName) :
    (routeCandidateStream host c outputs fallback).wp (accountPost host.codec t) s := by
  unfold routeCandidateStream
  simp only [Call.wp_bind, Call.wp_get]
  have hactive : s.watcher.activeRoute = d.active := by rw [← hs]; rfl
  rw [hactive]
  cases hr : d.active with
  | none =>
    have hfree : Free d c := ⟨hoffer.key, hoffer.sink, hoffer.named,
      hoffer.off fun r hr' => by simp [hr] at hr'⟩
    exact Call.wp_mono (enterRoute_sink hacc hr hfree (fun ht => hback ht hfree.off) hmir hs)
      (fun _ _ h => h.1) (fun _ _ h => h.1) (fun _ h => h)
  | some r =>
    dsimp only
    split
    case isTrue hsame =>
      simp only [Call.wp_bind]
      refine persist_again hacc hs hr (fun s₁ h₁ => ?_) (fun _ _ h => h) (fun _ h => h)
      exact Call.wp_of_keeps (routeMatching_keeps_sinkSide _ _)
        (fun _ s₂ hs₂ => (hs₂ ▸ h₁ :)) (fun _ s₂ hs₂ => (hs₂ ▸ h₁ :))
        (fun s₂ hs₂ => (hs₂ ▸ h₁.crashed :))
    case isFalse hother =>
      have hother : sameRouteIdentity r c = false := by simpa using hother
      have hfree : Free d c := by
        refine ⟨hoffer.key, hoffer.sink, hoffer.named, hoffer.off fun r' hr' => ?_⟩
        obtain rfl := Option.some.inj (hr.symm.trans hr')
        exact hother
      rw [Call.wp_bind]
      refine Call.wp_mono (leaveRoute_sink hs hacc hr hother hfree fun hm => (hmir hm).2) ?_
        (fun _ _ h => h) (fun _ h => h)
      rintro _ s₁ ⟨hacc₁, hnone₁, hfree₁⟩
      exact Call.wp_mono (enterRoute_sink hacc₁ hnone₁ hfree₁ (fun ht => hback ht hfree.off) hmir
        rfl) (fun _ _ h => h.1) (fun _ _ h => h.1) (fun _ h => h)

theorem routeAndReport_sink {snapshot : RoutingSnapshot} (hs : s.sinkSide = d)
    (hoffer : Offered d c) (hback : t.takesBack → c.currentSinkName ≠ remoteInSink →
      host.Moves c.streamId c.currentSinkName) :
    (routeAndReport host snapshot c).wp (accountPost host.codec t) s := by
  unfold routeAndReport
  rw [Call.wp_bind]
  refine Call.wp_mono (routeCandidateStream_sink hacc hmir hs hoffer hback) (fun _ s₁ h₁ => ?_)
    (fun _ _ h => h) (fun _ h => h)
  exact h₁

omit hmir in
theorem takeAgain_sink (hs : s.sinkSide = d) (hr : d.active = some r)
    (hid : c.streamId = r.streamId) (hkey : d.keyOf r.streamId = some r.stableAppKey) :
    (takeAgain host r c).wp (accountPost host.codec t) s := by
  unfold takeAgain
  split
  case isTrue =>
    exact persist_again hacc hs hr (fun _ h => h) (fun _ _ h => h) (fun _ h => h)
  case isFalse hm =>
    have hm : r.routeMethod = .pulseMove := by
      cases h : r.routeMethod with
      | pulseMove => rfl
      | pipeWireLinks => exact absurd h hm
    split
    case isTrue =>
      rw [Call.wp_bind]
      refine moveStream_sink (fun s₁ hs₁ => ?_) (fun _ s₁ hs₁ _ => ?_) (fun s₁ hs₁ => ?_) <;>
        rw [hs] at hs₁
      · rw [hid] at hs₁
        exact persist_again (hacc.move_again hr hm hkey) hs₁ hr (fun _ h => h)
          (fun _ _ h => h) (fun _ h => h)
      · exact (hs₁ ▸ hacc :)
      · exact (hs₁ ▸ hacc.crashed :)
    case isFalse => exact (hs ▸ hacc :)

omit hmir in
theorem refreshRoute_sink {snapshot : RoutingSnapshot} (hs : s.sinkSide = d)
    (hr : d.active = some r) (hid : c.streamId = r.streamId)
    (hkey : d.keyOf r.streamId = some r.stableAppKey) :
    (refreshRoute host snapshot r c).wp (accountPost host.codec t) s := by
  unfold refreshRoute
  simp only [Call.wp_bind]
  refine Call.wp_mono (takeAgain_sink hacc hs hr hid hkey) (fun _ s₁ h₁ => ?_)
    (fun _ _ h => h) (fun _ h => h)
  have h₁ : Accounted host.codec t s₁.sinkSide := h₁
  refine Call.wp_of_keeps (routeMatching_keeps_sinkSide _ _) (fun _ s₂ hs₂ => ?_)
    (fun _ s₂ hs₂ => (hs₂ ▸ h₁ :)) (fun s₂ hs₂ => (hs₂ ▸ h₁.crashed :))
  exact (hs₂ ▸ h₁ :)

/-- The route of a stream that is gone is forgotten. While its captures cannot go back, the journal
    still has it. -/
theorem forgetRoute_sink {snapshot : RoutingSnapshot} (hs : s.sinkSide = d)
    (hheld : t.takesBack → d.ledger.held = [])
    (hreturn : t.mirrored → ∀ s', s'.still = (s.remember ({ · with activeRoute := none })).still →
      (restoreMatchingSourceOutputs host r snapshot.sourceOutputRoutes
        snapshot.fallbackRestoreSourceName).wp
        ⟨fun _ _ => True, fun _ _ => False, fun _ => True⟩ s') :
    (forgetRoute host snapshot r).wp
      ⟨fun _ s' => Accounted host.codec t s'.sinkSide
          ∧ s'.sinkSide = { d with active := none }.write none,
        fun _ s' => Accounted host.codec t s'.sinkSide,
        fun s' => Crashed host.codec t s'.sinkSide⟩ s := by
  have hforgot := hacc.weaken.forget hheld
  have hs₁ : (s.remember ({ · with activeRoute := none })).sinkSide
      = { d with active := none } := by rw [sinkSide_active, hs]
  unfold forgetRoute
  simp only [Call.wp_bind, wp_remember]
  have hkeep : (restoreMatchingSourceOutputs host r snapshot.sourceOutputRoutes
      snapshot.fallbackRestoreSourceName).wp
      ⟨fun _ s' => s'.sinkSide = { d with active := none },
        fun _ s' => s'.sinkSide = { d with active := none },
        fun s' => s'.sinkSide = { d with active := none }⟩
      (s.remember ({ · with activeRoute := none })) :=
    Call.wp_of_keeps (restoreMatching_keeps_sinkSide _ _ _)
      (fun _ _ h => h.trans hs₁) (fun _ _ h => h.trans hs₁) (fun _ h => h.trans hs₁)
  by_cases hm : t.mirrored
  · refine Call.wp_mono (Call.wp_and hkeep (hreturn hm _ rfl)) (fun _ s₂ h₂ => ?_)
      (fun _ s₂ h₂ => h₂.2.elim) (fun s₂ h₂ => ?_)
    · exact clearForgotten_sink h₂.1 hforgot rfl (fun hm => (hmir hm).2)
        (fun s₃ h₃ hs₃ => ⟨h₃, hs₃⟩) (fun _ _ h => h) (fun _ h => h)
    · dsimp only
      rw [h₂.1]
      exact crashed_of_held_nil hheld
  · refine Call.wp_mono hkeep (fun _ s₂ h₂ => ?_) (fun _ s₂ h₂ => ?_) (fun s₂ h₂ => ?_)
    · exact clearForgotten_sink h₂ hforgot rfl (fun hm => (hmir hm).2)
        (fun s₃ h₃ hs₃ => ⟨h₃, hs₃⟩) (fun _ _ h => h) (fun _ h => h)
    · dsimp only
      rw [h₂]
      exact hforgot.strengthen fun h => absurd h hm
    · dsimp only
      rw [h₂]
      exact crashed_of_held_nil hheld

/-- A stream left on the translator's sink is cleaned away while there is no route. -/
theorem restoreStaleStream_sink {sink : String} (hs : s.sinkSide = d) (hnone : d.active = none)
    (hon : d.sinkOf c.streamId = some remoteInSink) (hsink : sink ≠ remoteInSink) :
    (restoreStaleStream host c sink).wp (accountPost host.codec t) s := by
  have hmoved : Accounted host.codec t (d.move c.streamId sink) := by
    refine hacc.move_off (fun _ => hsink) ?_ ?_
    · intro ht j hj
      simp [hacc.held_nil ht hnone] at hj
    · intro hund home hlook
      -- a stream with a past is where it came from, not on the translator's sink
      have hheld := hacc.held_nil (t.undisturbed_takesBack hund) hnone
      obtain ⟨hoff, hat⟩ := hacc.home hund _ _ hlook
      rw [hat (by simp [hheld])] at hon
      exact absurd (Option.some.inj hon) hoff
  unfold restoreStaleStream
  simp only [Call.wp_bind, wp_remember]
  refine moveStream_sink (fun s₁ hs₁ => ?_) (fun _ s₁ hs₁ _ => ?_) (fun s₁ hs₁ => ?_) <;>
    rw [hs] at hs₁
  · refine clearForgotten_sink hs₁ hmoved.weaken hnone (fun hm => (hmir hm).2) (fun s₂ h₂ _ => ?_)
      (fun _ _ h => h) (fun _ h => h)
    have hkeeps : Call.Keeps Scene.sinkSide (discover host) := discover_keeps fun _ => rfl
    refine Call.wp_of_keeps hkeeps (fun _ s₃ hs₃ => ?_) (fun _ s₃ hs₃ => (hs₃ ▸ h₂ :))
      (fun s₃ hs₃ => (hs₃ ▸ h₂.crashed :))
    exact (hs₃ ▸ h₂ :)
  · exact (hs₁ ▸ hacc :)
  · exact (hs₁ ▸ hacc.crashed :)

omit hacc hmir in
/-- Where a snapshot does not list the route's stream, nothing is held. -/
theorem held_nil_of_unlisted (hacc : Accounted host.codec t s.sinkSide)
    (hr : s.watcher.activeRoute = some r)
    (hgone : (s.watcher.snapshot s.server).candidates.find? (sameRouteIdentity r) = none)
    (ht : t.takesBack) : s.sinkSide.ledger.held = [] := by
  rw [List.eq_nil_iff_forall_not_mem]
  intro i hi
  obtain ⟨-, -, hkey, hsink⟩ := hacc.eq_of_held ht hr hi
  obtain ⟨c, hc, -⟩ := PulseRoutingWatcher.find_route hr hkey hsink
  rw [hgone] at hc
  cases hc

omit hacc hmir in
theorem undoStream_sink (hacc : Accounted host.codec t s.sinkSide)
    (hr : s.watcher.activeRoute = some r) :
    (undoStream host (s.watcher.snapshot s.server) r).wp
      ⟨fun _ s' => Accounted host.codec t s'.sinkSide
          ∧ (t.takesBack → s'.sinkSide.ledger.held = []
            ∧ ∀ i ∈ s.sinkSide.ledger.held, s'.sinkSide.sinkOf i ≠ some remoteInSink),
        fun _ s' => Accounted host.codec t s'.sinkSide,
        fun s' => Crashed host.codec t s'.sinkSide⟩ s := by
  have hkeep : ∀ s' : Scene, s'.sinkSide = s.sinkSide →
      (t.takesBack → s.sinkSide.ledger.held = []) →
      Accounted host.codec t s'.sinkSide ∧ (t.takesBack → s'.sinkSide.ledger.held = []
        ∧ ∀ i ∈ s.sinkSide.ledger.held, s'.sinkSide.sinkOf i ≠ some remoteInSink) := by
    intro s' hs' hheld
    rw [hs']
    refine ⟨hacc, fun ht => ⟨hheld ht, fun i hi => ?_⟩⟩
    rw [hheld ht] at hi
    cases hi
  unfold undoStream
  cases hfind : (s.watcher.snapshot s.server).candidates.find? (sameRouteIdentity r) with
  | none => exact hkeep s rfl fun ht => held_nil_of_unlisted hacc hr hfind ht
  | some c =>
    have hlinks : r.routeMethod = .pipeWireLinks → t.takesBack → s.sinkSide.ledger.held = [] := by
      intro hm ht
      rw [List.eq_nil_iff_forall_not_mem]
      intro i hi
      have hpulse := (hacc.eq_of_held ht hr hi).2.1
      rw [hm] at hpulse
      cases hpulse
    have hrestore : (restoreRoute host r).wp
        ⟨fun _ s' => Accounted host.codec t s'.sinkSide
          ∧ (t.takesBack → s'.sinkSide.ledger.held = []
            ∧ ∀ i ∈ s.sinkSide.ledger.held, s'.sinkSide.sinkOf i ≠ some remoteInSink),
        fun _ s' => Accounted host.codec t s'.sinkSide,
        fun s' => Crashed host.codec t s'.sinkSide⟩ s := by
      refine restoreRoute_sink (fun s' hm hs' => ?_) (fun s' hm hs' => hkeep s' hs' (hlinks hm))
        (fun _ s' hs' _ => (hs' ▸ hacc :)) (fun s' hs' => (hs' ▸ hacc.crashed :))
      dsimp only
      rw [hs']
      refine ⟨hacc.move_home hr hm, fun ht => ⟨hacc.held_move_home ht hr, fun i hi => ?_⟩⟩
      rw [(hacc.eq_of_held ht hr hi).1]
      simp [SinkSide.move, hacc.original ht r hr]
    dsimp only
    cases hm : r.routeMethod with
    | pipeWireLinks => exact hrestore
    | pulseMove =>
      dsimp only
      split
      case isTrue => exact hrestore
      case isFalse hoff =>
        refine hkeep s rfl fun ht => ?_
        rw [List.eq_nil_iff_forall_not_mem]
        intro i hi
        -- a held stream is on the translator's sink, where this one is not
        obtain ⟨-, -, hkey, hsink⟩ := hacc.eq_of_held ht hr hi
        obtain ⟨c', hc', hname⟩ := PulseRoutingWatcher.find_route hr hkey hsink
        obtain rfl := Option.some.inj (hfind.symm.trans hc')
        exact hoff hname

omit hacc hmir in
theorem restoreActive_sink (hmir : t.mirrored → host.Clears)
    (hacc : Accounted host.codec t s.sinkSide) :
    (restoreActive host).wp
      ⟨fun _ s' => Accounted host.codec t s'.sinkSide ∧ s'.sinkSide.active = none,
        fun _ s' => Accounted host.codec t s'.sinkSide,
        fun s' => Crashed host.codec t s'.sinkSide⟩ s := by
  have hstill : ∀ s' : Scene, s'.still = s.still → Accounted host.codec t s'.sinkSide :=
    fun s' hs' => sinkSide_of_still hs' ▸ hacc
  unfold restoreActive
  simp only [Call.wp_bind, wp_remember]
  refine discover_wp (fun s' hs' _ => (hstill s' hs').crashed) (fun s' hs' _ => hstill s' hs')
    fun s₁ hs₁ => ?_
  simp only [Call.wp_get]
  have hacc₁ := hstill s₁ hs₁
  -- what is left to do once nothing is held
  have htail : ∀ s₂ s₃ : Scene, Accounted host.codec t s₂.sinkSide →
      (t.takesBack → s₂.sinkSide.ledger.held = []) →
      s₃.sinkSide = { s₂.sinkSide with active := none } →
      (clearRouteJournal host .restoreFailed).wp
        ⟨fun _ => (state (s.watcher.snapshot s.server) (s.watcher.snapshot s.server).unrouted).wp
            ⟨fun _ s' => Accounted host.codec t s'.sinkSide ∧ s'.sinkSide.active = none,
              fun _ s' => Accounted host.codec t s'.sinkSide,
              fun s' => Crashed host.codec t s'.sinkSide⟩,
          fun _ s' => Accounted host.codec t s'.sinkSide,
          fun s' => Crashed host.codec t s'.sinkSide⟩ s₃ := by
    intro s₂ s₃ h₂ hheld hs₃
    refine clearForgotten_sink hs₃ (h₂.weaken.forget hheld) rfl hmir (fun s₄ h₄ hs₄ => ⟨h₄, ?_⟩)
      (fun _ _ h => h) (fun _ h => h)
    rw [hs₄, write_active]
  have hsnap : s.watcher.snapshot s.server = s₁.watcher.snapshot s₁.server := by
    rw [still_watcher hs₁, still_server hs₁]
  cases hr : s₁.watcher.activeRoute with
  | none => exact htail s₁ _ hacc₁ (fun ht => hacc₁.held_nil ht hr) rfl
  | some r =>
    unfold undoRoute
    simp only [Call.wp_bind]
    rw [hsnap]
    refine Call.wp_mono (undoStream_sink hacc₁ hr) ?_ (fun _ _ h => h) (fun _ h => h)
    rintro _ s₂ ⟨h₂, hheld⟩
    refine Call.wp_of_keeps (restoreMatching_keeps_sinkSide _ _ _) (fun _ s₃ hs₃ => ?_)
      (fun _ s₃ hs₃ => (hs₃ ▸ h₂ :)) (fun s₃ hs₃ => (hs₃ ▸ h₂.crashed :))
    rw [hsnap] at htail
    exact htail s₃ _ (hs₃ ▸ h₂) (fun ht => hs₃ ▸ (hheld ht).1) rfl

end Calls

end Translator.Routing
